import BeanKit.Proofs.Container.BeanSet
import BeanKit.Proofs.Container.Injected
/-! # The order of registration

What a start comes to depends on which definitions a catalog has, and hardly on their order. The
searches go by names; the components are numbered differently, which hooks that go by the kind of a
bean cannot see; and there is one choice that is made by order, that of the component that lends its
bean to an interface. Where there is never more than one to choose from, the order does not count. -/

namespace BeanKit

variable {c c' : Catalog} {d servant : Definition} {n : Nat} {name : String}

/-! ## What a catalog finds in any order -/

section Permuted

variable (hperm : c.definitions.Perm c'.definitions)

include hperm

theorem get?_permuted (name : String) : c.get? name = c'.get? name := by
  have hfind {c c' : Catalog} (hperm : c.definitions.Perm c'.definitions) {d : Definition}
      (h : c.get? name = some d) : c'.get? name = some d := by
    obtain rfl := Catalog.name_of_get? h
    exact (c'.mem_definitions_iff d).1 (hperm.mem_iff.1 ((c.mem_definitions_iff d).2 h))
  exact Option.ext fun d => ⟨hfind hperm, hfind hperm.symm⟩

theorem components_permuted : c.components.Perm c'.components := hperm.filter _

theorem interfaces_permuted : c.interfaces.Perm c'.interfaces := hperm.filter _

theorem injectionPoints_permuted : c.injectionPoints.Perm c'.injectionPoints :=
  (components_permuted hperm).flatMap_right _

theorem mem_dependencies_permuted : name ∈ c.dependencies ↔ name ∈ c'.dependencies :=
  ((injectionPoints_permuted hperm).flatMap_right _).mem_iff

theorem keys_permuted : c.keys.Perm c'.keys := by
  have hkeys (c : Catalog) : c.keys = c.definitions.map Definition.name := by
    rw [Catalog.definitions, OrderedMap.values, List.map_map]
    exact List.map_congr_left fun e he => c.named e he
  rw [hkeys, hkeys]
  exact hperm.map _

theorem parents_permuted (d : Definition) : c.parents d = c'.parents d :=
  List.filterMap_congr fun t _ => get?_permuted hperm t.name

/-- A search for a root asks only which names it has not visited. -/
theorem rootFrom_permuted {unvisited unvisited' : List String} (hu : unvisited.Perm unvisited')
    (stack : List Definition) : c.rootFrom unvisited stack = c'.rootFrom unvisited' stack := by
  fun_induction c.rootFrom unvisited stack generalizing unvisited' with
  | case1 => rw [Catalog.rootFrom]
  | case2 unvisited d rest hd htag => rw [Catalog.rootFrom, dif_pos (hu.mem_iff.1 hd), if_pos htag]
  | case3 unvisited d rest hd htag ih =>
    rw [ih (hu.erase _), parents_permuted hperm]
    conv => rhs; rw [Catalog.rootFrom, dif_pos (hu.mem_iff.1 hd), if_neg htag]
  | case4 unvisited d rest hd ih =>
    rw [ih hu]
    conv => rhs; rw [Catalog.rootFrom, dif_neg fun h => hd (hu.mem_iff.2 h)]

theorem repositoryRoot?_permuted (d : Definition) : c.repositoryRoot? d = c'.repositoryRoot? d :=
  rootFrom_permuted hperm (((keys_permuted hperm).erase _).cons _) [d]

theorem implementations_permuted (interface : String) :
    (c.implementations interface).Perm (c'.implementations interface) := by
  have himpl : (c.implements · interface) = (c'.implements · interface) := by
    refine funext fun d => Catalog.implements_congr (fun _ => .rfl) fun name e => ?_
    rw [Catalog.Extends, Catalog.Extends, get?_permuted hperm]
  rw [Catalog.implementations, Catalog.implementations, himpl]
  exact (hperm.filter _).filter _

theorem servant?_permuted (d : Definition) : c.servant? d = c'.servant? d := by
  refine Option.ext fun servant => ?_
  rw [Catalog.servant?_eq_some_iff, Catalog.servant?_eq_some_iff, repositoryRoot?_permuted hperm]
  refine exists_congr fun root => and_congr_right fun _ => ?_
  have himpl := implementations_permuted hperm root.name
  exact ⟨fun h => (List.singleton_perm.1 (h ▸ himpl)).symm, fun h => List.perm_singleton.1 (h ▸ himpl)⟩

theorem bound?_permuted (name : String) : c.bound? name = c'.bound? name := by
  simp only [Catalog.bound?, get?_permuted hperm, servant?_permuted hperm]

theorem binding?_permuted (d : Definition) : c.binding? d = c'.binding? d := by
  rw [Catalog.binding?, Catalog.binding?, servant?_permuted hperm]

theorem proxyOver_permuted (k : Nat) (d servant : Definition) :
    c.proxyOver k d servant = c'.proxyOver k d servant := by
  simp only [Catalog.proxyOver, Catalog.entityOf, get?_permuted hperm]

end Permuted

/-! ## What hooks tell apart -/

/-- The hooks of a definition go by the kind of the beans that they are shown: whatever they decide,
they decide the same for another object of the kind. -/
structure Definition.GoesByKind (d : Definition) : Prop where
  casts : ∀ interface b b', b.facet = b'.facet →
    (d.castTo interface b).map Bean.facet = (d.castTo interface b').map Bean.facet
  setters : ∀ method injector, d.injector? method = some injector →
    ∀ target target' value value', target.facet = target'.facet → value.facet = value'.facet →
      injector.accept target value = .ok () → injector.accept target' value' = .ok ()
  repositories : d.TakesAlike

/-- Where every hook goes by the kind of the beans that it is shown, the definition does. -/
theorem goesByKind_of_hooks
    (hcasts : ∀ cast ∈ d.casts, ∀ b b', b.facet = b'.facet →
      (cast.2 b).map Bean.facet = (cast.2 b').map Bean.facet)
    (hsetters : ∀ setter ∈ d.injectors, ∀ target target' value value',
      target.facet = target'.facet → value.facet = value'.facet →
        setter.2.accept target value = .ok () → setter.2.accept target' value' = .ok ())
    (hrepositories : d.TakesAlike) : d.GoesByKind where
  casts interface b b' hsame := by
    unfold Definition.castTo
    cases hfind : d.casts.find? (·.1 = interface) with
    | none => rfl
    | some cast => exact hcasts cast (List.mem_of_find?_eq_some hfind) b b' hsame
  setters method injector hinjector := by
    obtain ⟨setter, hfind, rfl⟩ := Option.map_eq_some_iff.1 hinjector
    exact hsetters setter (List.mem_of_find?_eq_some hfind)
  repositories := hrepositories

/-- Two catalogs of the same definitions, in which there is no choice to be made by their order. -/
structure Catalog.Reorders (c c' : Catalog) : Prop where
  perm : c.definitions.Perm c'.definitions
  /-- Not more than one component declares a cast to an interface without a root. -/
  lender : ∀ j ∈ c.interfaces, c.repositoryRoot? j = none →
    ∀ d ∈ c.components, ∀ e ∈ c.components, d.canCastTo j.name → e.canCastTo j.name → d = e
  kinds : ∀ d ∈ c.definitions, d.GoesByKind

theorem Catalog.Reorders.symm (h : c.Reorders c') : c'.Reorders c where
  perm := h.perm.symm
  lender j hj hroot d hd e he := h.lender j ((interfaces_permuted h.perm).mem_iff.2 hj)
    (repositoryRoot?_permuted h.perm j ▸ hroot) d ((components_permuted h.perm).mem_iff.2 hd) e
    ((components_permuted h.perm).mem_iff.2 he)
  kinds d hd := h.kinds d (h.perm.mem_iff.2 hd)

theorem facet_madeAs (d : Definition) (k k' : Nat) :
    (d.madeAs k).toOption.map Bean.facet = (d.madeAs k').toOption.map Bean.facet := by
  unfold Definition.madeAs
  cases d.blueprint <;> rfl

theorem map_facet_bind {o o' : Option Bean} {f : Bean → Option Bean}
    (h : o.map Bean.facet = o'.map Bean.facet)
    (hf : ∀ b b', b.facet = b'.facet → (f b).map Bean.facet = (f b').map Bean.facet) :
    (o.bind f).map Bean.facet = (o'.bind f).map Bean.facet := by
  rcases o with _ | b <;> rcases o' with _ | b'
  · rfl
  · cases h
  · cases h
  · exact hf b b' (Option.some.inj h)

/-- A proxy is of the kind that its factory says, whatever the numbers are. -/
theorem facet_proxyOver (hs : servant.TakesAlike) (k k' : Nat) :
    (c.proxyOver k d servant).toOption.map Bean.facet =
      (c.proxyOver k' d servant).toOption.map Bean.facet := by
  have hfault := fault?_proxyOver (c := c) (d := d) hs k k'
  rcases hk : c.proxyOver k d servant with e | b <;>
    rcases hk' : c.proxyOver k' d servant with e' | b' <;> rw [hk, hk'] at hfault
  · rfl
  · cases hfault
  · cases hfault
  · obtain ⟨-, -, -, -, shownAs, -, -, -, -, hfactory, rfl⟩ := Catalog.proxyOver_eq_ok_iff.1 hk
    obtain ⟨-, -, -, -, shownAs', -, -, -, -, hfactory', rfl⟩ := Catalog.proxyOver_eq_ok_iff.1 hk'
    cases hfactory.symm.trans hfactory'
    rfl

/-- A name that is not bound is resolved to the bean that is ready for it. -/
theorem toOption_resolved {component : String} (hb : c.bound? name = none) :
    (c.resolved n component name).toOption = c.readyBean? n name := by
  rw [Catalog.resolved, hb]
  cases c.readyBean? n name <;> rfl

/-! ## The beans of both catalogs are of one kind -/

section Reordered

variable (h : c.Reorders c')

include h

theorem provider?_reordered {j : Definition} (hj : j ∈ c.interfaces)
    (hroot : c.repositoryRoot? j = none) : provider? c j.name = provider? c' j.name :=
  find?_eq_of_perm (components_permuted h.perm) (h.lender j hj hroot)

theorem facet_ownBean? (n n' : Nat) (name : String) :
    (c.ownBean? n name).map Bean.facet = (c'.ownBean? n' name).map Bean.facet := by
  rw [Catalog.ownBean?, Catalog.ownBean?, get?_permuted h.perm]
  cases c'.get? name with
  | none => rfl
  | some d =>
    simp only [Option.bind_some]
    split
    · exact facet_madeAs d _ _
    · rfl

theorem facet_lentBean? (n n' : Nat) (name : String) :
    (c.lentBean? n name).map Bean.facet = (c'.lentBean? n' name).map Bean.facet := by
  cases hg : c.get? name with
  | none =>
    rw [Catalog.lentBean?, Catalog.lentBean?, ← get?_permuted h.perm, hg]
    rfl
  | some j =>
    obtain rfl := Catalog.name_of_get? hg
    by_cases hj : j.descriptor.isInterface ∧ c.repositoryRoot? j = none
    · have hmem : j ∈ c.interfaces := (c.mem_interfaces_iff j).2 ⟨hg, hj.1⟩
      have hmem' := (interfaces_permuted h.perm).mem_iff.1 hmem
      have hroot' := repositoryRoot?_permuted h.perm j ▸ hj.2
      rw [Catalog.lentBean?_of_no_root hmem hj.2, Catalog.lentBean?_of_no_root hmem' hroot',
        ← provider?_reordered h hmem hj.2]
      cases hd : provider? c j.name with
      | none => rfl
      | some d =>
        have hdm : d ∈ c.components := List.mem_of_find?_eq_some hd
        exact map_facet_bind (facet_ownBean? h n n' d.name)
          ((h.kinds d (List.mem_of_mem_filter hdm)).casts j.name)
    · rw [Catalog.lentBean?, Catalog.lentBean?, ← get?_permuted h.perm, hg, Option.bind_some,
        Option.bind_some, if_neg hj, if_neg (repositoryRoot?_permuted h.perm j ▸ hj)]

theorem facet_readyBean? (n n' : Nat) (name : String) :
    (c.readyBean? n name).map Bean.facet = (c'.readyBean? n' name).map Bean.facet := by
  rw [Catalog.readyBean?, Catalog.readyBean?, Option.map_or, Option.map_or,
    facet_ownBean? h n n' name, facet_lentBean? h n n' name]

theorem facet_proxy (n n' : Nat) (hbound : c.bound? d.name = some (d, servant)) :
    (c.proxy n d servant).toOption.map Bean.facet =
      (c'.proxy n' d servant).toOption.map Bean.facet := by
  obtain ⟨-, -, hservant⟩ := Catalog.bound?_eq_some_iff.1 hbound
  have hmem := (c.mem_definitions_iff servant).2 (Catalog.get?_of_servant? hservant)
  rw [Catalog.proxy, Catalog.proxy, ← proxyOver_permuted h.perm]
  exact facet_proxyOver (h.kinds servant hmem).repositories _ _

theorem facet_proxyBean? (n n' : Nat) (name : String) :
    (c.proxyBean? n name).map Bean.facet = (c'.proxyBean? n' name).map Bean.facet := by
  rw [Catalog.proxyBean?, Catalog.proxyBean?, ← bound?_permuted h.perm]
  cases hb : c.bound? name with
  | none => rw [Option.bind_none, Option.bind_none]
  | some b =>
    obtain ⟨d, servant⟩ := b
    obtain ⟨-, rfl, -⟩ := Catalog.bound?_eq_some_iff.1 hb
    rw [Option.bind_some, Option.bind_some]
    exact facet_proxy h n n' hb

/-- A dependency is resolved in both catalogs to beans of one kind, or in none of them. -/
theorem facet_resolved (n n' : Nat) (component name : String) :
    (c.resolved n component name).toOption.map Bean.facet =
      (c'.resolved n' component name).toOption.map Bean.facet := by
  cases hb : c.bound? name with
  | some b =>
    obtain ⟨d, servant⟩ := b
    obtain ⟨-, rfl, -⟩ := Catalog.bound?_eq_some_iff.1 hb
    rw [Catalog.resolved, Catalog.resolved, ← bound?_permuted h.perm, hb]
    exact facet_proxy h n n' hb
  | none =>
    rw [toOption_resolved hb, toOption_resolved (bound?_permuted h.perm name ▸ hb)]
    exact facet_readyBean? h n n' name

theorem Catalog.Supplies.reordered {b : Bean} (hb : c.Supplies n name b) (n' : Nat) :
    ∃ b', c'.Supplies n' name b' ∧ b.facet = b'.facet := by
  have hfacet := facet_resolved h n n' name name
  rw [Catalog.resolved_eq_ok_iff.2 hb] at hfacet
  obtain ⟨b', hb', hsame⟩ := Option.map_eq_some_iff.1 hfacet.symm
  exact ⟨b', Catalog.resolved_eq_ok_iff.1 (toOption_eq_some_iff.1 hb'), hsame.symm⟩

/-! ## Both start, or none of them -/

theorem Startable.reordered (hs : Startable c n) (n' : Nat) : Startable c' n' where
  made d hd := hs.made d ((components_permuted h.perm).mem_iff.2 hd)
  bound j hj root hroot := by
    rw [← repositoryRoot?_permuted h.perm] at hroot
    obtain ⟨d, hd⟩ := hs.bound j ((interfaces_permuted h.perm).mem_iff.2 hj) root hroot
    exact ⟨d, (List.singleton_perm.1 (hd ▸ implementations_permuted h.perm root.name)).symm⟩
  served d hd m hm := by
    have hd' := (components_permuted h.perm).mem_iff.2 hd
    obtain ⟨t, injector, target, value, ht, hinjector, htarget, hvalue, haccept⟩ :=
      hs.served d hd' m hm
    obtain ⟨target', htarget', hsame⟩ := htarget.reordered h n'
    obtain ⟨value', hvalue', hsame'⟩ := hvalue.reordered h n'
    refine ⟨t, injector, target', value', ht, hinjector, htarget', hvalue', ?_⟩
    exact (h.kinds d (List.mem_of_mem_filter hd')).setters m.name injector hinjector
      target target' value value' hsame hsame' haccept

end Reordered

/-! ## Both come to the same -/

theorem Registry.names_eq_of_isSome {r r' : Registry}
    (h : ∀ name, (r.get? name).isSome = (r'.get? name).isSome) : r.names = r'.names := by
  have hfilled : r.filled.Perm r'.filled := by
    refine (List.perm_ext_iff_of_nodup r.nodup_filled r'.nodup_filled).2 fun name => ?_
    rw [mem_filled_iff, mem_filled_iff, h]
  refine List.Perm.eq_of_sortedLE List.sortedLE_mergeSort List.sortedLE_mergeSort ?_
  exact (List.mergeSort_perm _ _).trans (hfilled.trans (List.mergeSort_perm _ _).symm)

/-- An entry of the record tells that an injection point's setter was given, on the bean of its
component, the bean that is registered under the name of its parameter. -/
def Stage.Injects (s : Stage) (p : InjectionPoint) (entry : Injection) : Prop :=
  ∃ t injector target value, p.method.parameters = [t] ∧
    p.component.injector? p.method.name = some injector ∧
    s.registry.get? p.component.name = some target ∧ s.registry.get? t.name = some value ∧
    entry = ⟨target.object, injector.slot, value⟩

/-- Two containers, started over the objects `i` and `i'`, that cannot be told apart by names. -/
structure SameStart (i i' : Instances) (x x' : Context) (s s' : Stage) : Prop where
  names : s.registry.names = s'.registry.names
  kinds : ∀ name, (s.registry.get? name).map Bean.facet = (s'.registry.get? name).map Bean.facet
  bindings : x.bindings.entries.Perm x'.bindings.entries
  points : x.catalog.injectionPoints.Perm x'.catalog.injectionPoints
  /-- Every injection point has received, in the one as in the other, the bean of its parameter's
  name. -/
  injected : ∃ log log', s.instances.injections = i.injections ++ log ∧
    s'.instances.injections = i'.injections ++ log' ∧
    List.Forall₂ s.Injects x.catalog.injectionPoints log ∧
    List.Forall₂ s'.Injects x'.catalog.injectionPoints log'

section Started

variable {i i' : Instances} {x x' : Context} {s s' : Stage} {log log' : List Injection}

theorem Started.injects (h : Started c i x log s) :
    List.Forall₂ s.Injects c.injectionPoints log := by
  refine h.served.imp ?_
  rintro p entry ⟨t, injector, target, value, ht, hinjector, -, rfl, hlater⟩
  obtain ⟨htarget, hvalue⟩ := hlater s .refl
  refine ⟨t, injector, target, value, ht, hinjector, htarget, ?_, rfl⟩
  obtain rfl := h.catalog
  exact Context.get?_of_bean (bindingsOf_of_entries h.bindings) h.wired.stocked.stands.cache hvalue

theorem Started.kinds (h : c.Reorders c') (hx : Started c i x log s) (hx' : Started c' i' x' log' s')
    (hs : Startable c i.objects.length) (name : String) :
    (s.registry.get? name).map Bean.facet = (s'.registry.get? name).map Bean.facet := by
  have hrequests : name ∈ c.requests c.injectionPoints ↔ name ∈ c'.requests c'.injectionPoints := by
    rw [mem_requests_iff hs, mem_requests_iff (hs.reordered h i'.objects.length),
      bound?_permuted h.perm, mem_dependencies_permuted h.perm]
  rw [hx.wired.stocked.stands.registry, hx'.wired.stocked.stands.registry, Catalog.stock,
    Catalog.stock, Option.map_or, Option.map_or, facet_readyBean? h i.objects.length i'.objects.length]
  by_cases hname : name ∈ c.requests c.injectionPoints
  · rw [if_pos hname, if_pos (hrequests.1 hname), facet_proxyBean? h i.objects.length i'.objects.length]
  · rw [if_neg hname, if_neg fun hm => hname (hrequests.2 hm)]

end Started

/-- A start does not depend on the order in which definitions have been registered. -/
theorem bootstrap_reordered (c c' : Catalog) (i i' : Instances) (h : c.Reorders c') :
    ((∃ x s, (bootstrap c).exec { instances := i } = (.ok x, s)) ↔
      ∃ x s, (bootstrap c').exec { instances := i' } = (.ok x, s)) ∧
    ∀ x s x' s', (bootstrap c).exec { instances := i } = (.ok x, s) →
      (bootstrap c').exec { instances := i' } = (.ok x', s') → SameStart i i' x x' s s' := by
  constructor
  · rw [(bootstrap_yields c i).exists_ok_iff, (bootstrap_yields c' i').exists_ok_iff,
      c.firstFault?_eq_none_iff, c'.firstFault?_eq_none_iff]
    exact ⟨fun hs => hs.reordered h _, fun hs => hs.reordered h.symm _⟩
  · intro x s x' s' hx hx'
    obtain ⟨log, hstarted⟩ := (bootstrap_yields c i).post_of_exec hx
    obtain ⟨log', hstarted'⟩ := (bootstrap_yields c' i').post_of_exec hx'
    obtain rfl := hstarted.catalog
    obtain rfl := hstarted'.catalog
    have hkinds := hstarted.kinds h hstarted' (startable_of_bootstrap hx)
    exact
      { names := Registry.names_eq_of_isSome fun name => by
          rw [← Option.isSome_map (f := Bean.facet), hkinds, Option.isSome_map]
        kinds := hkinds
        bindings := by
          rw [hstarted.bindings, hstarted'.bindings,
            List.filterMap_congr fun d _ => binding?_permuted h.perm d]
          exact (interfaces_permuted h.perm).filterMap _
        points := injectionPoints_permuted h.perm
        injected := ⟨log, log', hstarted.wired.stocked.stands.injections,
          hstarted'.wired.stocked.stands.injections, hstarted.injects, hstarted'.injects⟩ }

/-- Two components that depend on one repository interface, and one of them on an interface that the
other one lends its bean to. -/
def clockDefinitions : List Definition :=
  [{ descriptor := { type := ⟨"Root", "Root"⟩, kind := .interface, tags := [.repository] } },
   { descriptor :=
      { type := ⟨"Store", "Store"⟩, kind := .concrete, interfaces := [⟨"Root", "Root"⟩] }
     constructor := some (.ok .repository)
     repositoryTarget := some fun b => some b.object },
   { descriptor :=
      { type := ⟨"Note", "Note"⟩
        kind := .concrete
        tags := [.table "notes"]
        fields := [⟨"id", [.id, .column "id"]⟩] } },
   { descriptor :=
      { type := ⟨"Notes", "Notes"⟩
        kind := .interface
        interfaces := [⟨"Root", "Root"⟩]
        typeArguments := [⟨"i32", "i32"⟩, ⟨"Note", "Note"⟩] }
     proxyFactory := some "Notes" },
   { descriptor := { type := ⟨"Clock", "Clock"⟩, kind := .interface } },
   { descriptor :=
      { type := ⟨"A", "A"⟩
        kind := .concrete
        tags := [.component]
        methods := [⟨"notes", [⟨"Notes", "Notes"⟩], [.autowire]⟩] }
     constructor := some (.ok (.service "A"))
     casts := [("Clock", fun b => some ⟨.interface "Clock", b.object⟩)]
     injectors := [("notes", ⟨0, fun _ _ => .ok ()⟩)] },
   { descriptor :=
      { type := ⟨"B", "B"⟩
        kind := .concrete
        tags := [.component]
        methods :=
          [⟨"clock", [⟨"Clock", "Clock"⟩], [.autowire]⟩, ⟨"notes", [⟨"Notes", "Notes"⟩], [.autowire]⟩] }
     constructor := some (.ok (.service "B"))
     injectors := [("clock", ⟨0, fun _ _ => .ok ()⟩), ("notes", ⟨1, fun _ _ => .ok ()⟩)] }]

/-- The definitions as they stand. -/
def clockCatalog : Catalog := .addAll .empty clockDefinitions

/-- The same definitions, the last of them first. -/
def reversedClockCatalog : Catalog := .addAll .empty clockDefinitions.reverse

theorem goesByKind_clockDefinitions : ∀ d ∈ clockDefinitions, d.GoesByKind := by
  intro d hd
  simp only [clockDefinitions, List.mem_cons, List.not_mem_nil, or_false] at hd
  rcases hd with rfl | rfl | rfl | rfl | rfl | rfl | rfl <;>
    refine goesByKind_of_hooks ?_ ?_ ?_ <;> simp +contextual [Definition.TakesAlike]

theorem definitions_clockCatalog : clockCatalog.definitions = clockDefinitions := by cbv

theorem reorders_clockCatalog : clockCatalog.Reorders reversedClockCatalog where
  perm := by
    have hreversed : reversedClockCatalog.definitions = clockDefinitions.reverse := by cbv
    rw [definitions_clockCatalog, hreversed]
    exact (List.reverse_perm _).symm
  lender j _ _ d hd e he hcast hcast' := by
    have hname : ∀ d ∈ clockDefinitions, d.canCastTo j.name → d.name = "A" := by
      simp [clockDefinitions, Definition.canCastTo, Definition.name, Descriptor.name]
    have hmem {d : Definition} (hd : d ∈ clockCatalog.components) : d ∈ clockDefinitions :=
      definitions_clockCatalog ▸ List.mem_of_mem_filter hd
    exact List.inj_on_of_nodup_map clockCatalog.nodup_component_names hd he
      ((hname d (hmem hd) hcast).trans (hname e (hmem he) hcast').symm)
  kinds := definitions_clockCatalog ▸ goesByKind_clockDefinitions

theorem bootstrap_reordered_clock :
    clockCatalog.Reorders reversedClockCatalog ∧
    ((∃ x s, (bootstrap clockCatalog).exec { instances := {} } = (.ok x, s)) ↔
      ∃ x s, (bootstrap reversedClockCatalog).exec { instances := {} } = (.ok x, s)) ∧
    ∃ x s x' s', (bootstrap clockCatalog).exec { instances := {} } = (.ok x, s) ∧
      (bootstrap reversedClockCatalog).exec { instances := {} } = (.ok x', s') ∧
      SameStart {} {} x x' s s' := by
  obtain ⟨hstart, hsame⟩ := bootstrap_reordered clockCatalog reversedClockCatalog {} {}
    reorders_clockCatalog
  have hfault : clockCatalog.firstFault? 0 = none := by cbv
  obtain ⟨x, s, hx⟩ := (bootstrap_yields clockCatalog {}).exists_ok_iff.2 hfault
  obtain ⟨x', s', hx'⟩ := hstart.1 ⟨x, s, hx⟩
  exact ⟨reorders_clockCatalog, hstart, x, s, x', s', hx, hx', hsame x s x' s' hx hx'⟩

end BeanKit
