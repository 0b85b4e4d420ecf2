import BeanKit.Proofs.Container.Forecast
/-! # The components and the bindings come to their forecast

Each phase of a start-up walks along a list of the catalog, and what holds before a step is told by
the part that is already done: which names have a bean, how many objects there are, and which
injections are on record. The fault of a walk is the first of its items. -/

namespace BeanKit

variable {c : Catalog} {i : Instances} {s : Stage}

/-! ## Where a start-up stands -/

/-- The beans of some definitions under their names, and no other bean. -/
def among (ds : List Definition) (beans : String → Option Bean) (name : String) : Option Bean :=
  if name ∈ ds.map Definition.name then beans name else none

theorem among_eq_self {ds : List Definition} {beans : String → Option Bean} {name : String}
    (h : ∀ b, beans name = some b → name ∈ ds.map Definition.name) :
    among ds beans name = beans name := by
  unfold among
  split
  · rfl
  · rename_i hn
    cases hb : beans name with
    | none => rfl
    | some b => exact absurd (h b hb) hn

theorem among_append (ds : List Definition) (d : Definition) (beans : String → Option Bean)
    (name : String) :
    among (ds ++ [d]) beans name =
      (among ds beans name).or (if name = d.name then beans name else none) := by
  rw [among, among, ite_or_ite]
  simp only [List.map_append, List.map_singleton, List.mem_append, List.mem_singleton]

/-- Where a start-up stands: the bean of each name, and how many objects and which injections have
come on top of those from before the start. -/
structure Stands (c : Catalog) (i : Instances) (beans : String → Option Bean) (made : Nat)
    (log : List Injection) (s : Stage) : Prop where
  registry : ∀ name, s.registry.get? name = beans name
  objects : s.instances.objects.length = i.objects.length + made
  injections : s.instances.injections = i.injections ++ log
  cache : CacheOf c s.cache

theorem stands_start (c : Catalog) (i : Instances) :
    Stands c i (fun _ => none) 0 [] { instances := i } where
  registry _ := rfl
  objects := rfl
  injections := (List.append_nil _).symm
  cache := cacheOf_empty c

section Stands

variable {beans more : String → Option Bean} {made : Nat} {log : List Injection}

theorem Stands.congr {beans' : String → Option Bean} (h : Stands c i beans made log s)
    (hb : ∀ name, beans name = beans' name) : Stands c i beans' made log s :=
  { h with registry := fun name => (h.registry name).trans (hb name) }

theorem Stands.grow {k : Nat} {t : Stage} (h : Stands c i beans made log s) (hg : s.Grows k t)
    (hc : CacheOf c t.cache) : Stands c i beans (made + k) log t where
  registry name := by rw [hg.registry, h.registry]
  objects := by rw [hg.objects, h.objects, Nat.add_assoc]
  injections := hg.injections.trans h.injections
  cache := hc

/-- A name is given its bean where it has none. -/
theorem Stands.write (h : Stands c i beans made log s) {name : String} {b : Bean}
    (hb : more name = some b) :
    Stands c i (fun name' => (beans name').or (if name' = name then more name' else none)) made log
      (s.fill name b) where
  registry name' := by
    rw [Stage.fill, Registry.get?_fill, h.registry]
    by_cases hn : name' = name
    · rw [if_pos hn, if_pos hn, hn, hb]
    · rw [if_neg hn, if_neg hn]
  objects := h.objects
  injections := h.injections
  cache := h.cache

/-- A name that there is no bean for is left alone. -/
theorem Stands.skip (h : Stands c i beans made log s) {name : String} (hb : more name = none) :
    Stands c i (fun name' => (beans name').or (if name' = name then more name' else none)) made log
      s := by
  refine h.congr fun name' => ?_
  by_cases hn : name' = name
  · rw [if_pos hn, hn, hb, Option.or_none]
  · rw [if_neg hn, Option.or_none]

end Stands

/-! ## The components are made -/

/-- Making one more component. Its object is the next one, which is what its place says. -/
theorem makeComponent_yields {done rest : List Definition} {d : Definition}
    (h : done ++ d :: rest = c.components)
    (hs : Stands c i (among done (c.ownBean? i.objects.length)) done.length [] s) :
    (Build.getOrCreate d.name d.instantiate).Yields s (Catalog.creationFault? d) fun _ t =>
      Stands c i (among (done ++ [d]) (c.ownBean? i.objects.length)) (done ++ [d]).length [] t := by
  have hmem : d ∈ c.components := h ▸ List.mem_append_right _ List.mem_cons_self
  have hnew := Catalog.name_not_mem_of_append c.nodup_component_names h
  have hfree : s.registry.get? d.name = none := by rw [hs.registry, among, if_neg hnew]
  -- The name is free, so the factory runs, and the fault is that of the constructor.
  rw [← Catalog.fault?_madeAs d s.instances.objects.length]
  refine (Build.yields_getOrCreate_absent hfree (d.instantiate_answers (s.reserve d.name))).mono ?_
  rintro b t ⟨u, ⟨hb, hu, hcache⟩, rfl⟩
  change d.madeAs s.instances.objects.length = .ok b at hb
  have hbean : c.ownBean? i.objects.length d.name = some b := by
    rw [Catalog.ownBean?_of_mem hmem, Catalog.componentBean, Catalog.place_of_append h,
      ← hs.objects, hb]
    rfl
  rw [List.length_append, List.length_singleton]
  exact ((hs.grow hu.of_reserve (hcache ▸ hs.cache)).write hbean).congr fun _ => (among_append ..).symm

theorem makeComponents_yields {done rest : List Definition} (h : done ++ rest = c.components)
    (hs : Stands c i (among done (c.ownBean? i.objects.length)) done.length [] s) :
    (makeComponents rest).Yields s (rest.findSome? Catalog.creationFault?) fun _ t =>
      Stands c i (c.ownBean? i.objects.length) c.components.length [] t := by
  induction rest generalizing done s with
  | nil =>
    rw [List.append_nil] at h
    subst h
    refine Build.yields_of_exec (Build.exec_pure _ _) (hs.congr fun name => among_eq_self ?_)
    intro b hb
    obtain ⟨d, hd, rfl, -⟩ := Catalog.ownBean?_eq_some_iff.1 hb
    exact List.mem_map_of_mem hd
  | cons d rest ih =>
    rw [findSome?_cons_or]
    exact (makeComponent_yields h hs).bind fun _ _ t ht => ih (by simpa using h) ht

/-! ## The interfaces are bound -/

/-- Beans by name while interfaces are bound: those of the components, and those of the interfaces
that are done. -/
def bindingBeans (c : Catalog) (n : Nat) (done : List Definition) (name : String) : Option Bean :=
  (c.ownBean? n name).or (among done (c.lentBean? n) name)

theorem bindingBeans_append (n : Nat) (done : List Definition) (d : Definition) (name : String) :
    bindingBeans c n (done ++ [d]) name =
      (bindingBeans c n done name).or (if name = d.name then c.lentBean? n name else none) := by
  rw [bindingBeans, among_append, ← Option.or_assoc, ← bindingBeans]

/-- Registration by capability never fails: a bean that the provider lends is written where the name
has none. -/
theorem exec_registerByCapability (c : Catalog) (interface : String) (s : Stage) :
    (registerByCapability c interface).exec s =
      (.ok (), match (provider? c interface).bind fun d =>
          (s.registry.get? d.name).bind (d.castTo interface) with
        | none => s
        | some b => (s.reserve interface).fill interface b) := by
  unfold registerByCapability
  cases provider? c interface with
  | none => rfl
  | some d =>
    simp only [Build.exec_bind, Build.exec_get, Option.bind_some]
    cases (s.registry.get? d.name).bind (d.castTo interface) with
    | none => rfl
    | some b => simp only [Build.exec_bind, Build.exec_putIfAbsent, Build.exec_pure]

/-- Registering one more interface. Its provider is a component, so its bean is there already. -/
theorem registerByCapability_yields {done : List Definition} {d : Definition}
    (hd : d ∈ c.interfaces) (hr : c.repositoryRoot? d = none)
    (hs : Stands c i (bindingBeans c i.objects.length done) c.components.length [] s) :
    (registerByCapability c d.name).Yields s none fun _ t =>
      Stands c i (bindingBeans c i.objects.length (done ++ [d])) c.components.length [] t := by
  have hlent : (provider? c d.name).bind (fun p =>
      (s.registry.get? p.name).bind (p.castTo d.name)) = c.lentBean? i.objects.length d.name := by
    rw [Catalog.lentBean?_of_no_root hd hr]
    cases hp : provider? c d.name with
    | none => rfl
    | some p =>
      have hpm : p ∈ c.components := List.mem_of_find?_eq_some hp
      rw [Option.bind_some, Option.bind_some, hs.registry, bindingBeans, among,
        Catalog.lentBean?_of_component hpm, ite_self, Option.or_none]
  refine Build.yields_of_exec (exec_registerByCapability ..) ?_
  rw [hlent]
  cases hb : c.lentBean? i.objects.length d.name with
  | none => exact (hs.skip hb).congr fun _ => (bindingBeans_append ..).symm
  | some b =>
    have hreserve := hs.grow (s.grows_reserve d.name) hs.cache
    exact (hreserve.write hb).congr fun _ => (bindingBeans_append ..).symm

/-- The interfaces that are done have other names, so the next binding goes to the end. -/
theorem not_mem_keys_of_done {done rest : List Definition} {d : Definition} {bindings : Bindings}
    (h : done ++ d :: rest = c.interfaces) (hb : bindings.entries = done.filterMap c.binding?) :
    d.name ∉ bindings.keys := by
  intro hk
  obtain ⟨e, he, hname⟩ := List.mem_map.1 hk
  rw [hb] at he
  obtain ⟨d', hd', hbind⟩ := List.mem_filterMap.1 he
  obtain ⟨_, -, rfl⟩ := Option.map_eq_some_iff.1 hbind
  exact Catalog.name_not_mem_of_append c.nodup_interface_names h
    (hname ▸ List.mem_map_of_mem hd')

theorem bindInterfaces_yields {done rest : List Definition} (h : done ++ rest = c.interfaces)
    {bindings : Bindings} (hb : bindings.entries = done.filterMap c.binding?)
    (hs : Stands c i (bindingBeans c i.objects.length done) c.components.length [] s) :
    (bindInterfaces c bindings rest).Yields s (rest.findSome? c.bindingFault?) fun bindings' t =>
      bindings'.entries = c.interfaces.filterMap c.binding? ∧
        Stands c i (c.readyBean? i.objects.length) c.components.length [] t := by
  induction rest generalizing done bindings s with
  | nil =>
    rw [List.append_nil] at h
    subst h
    refine Build.yields_of_exec (Build.exec_pure ..) ⟨hb, hs.congr fun name => ?_⟩
    rw [bindingBeans, Catalog.readyBean?, among_eq_self fun b hb => ?_]
    obtain ⟨d, hd, rfl, -⟩ := Catalog.lentBean?_eq_some_iff.1 hb
    exact List.mem_map_of_mem hd
  | cons d rest ih =>
    have hmem : d ∈ c.interfaces := h ▸ List.mem_append_right _ List.mem_cons_self
    have hnext : (done ++ [d]) ++ rest = c.interfaces := by simpa using h
    rw [findSome?_cons_or, bindInterfaces]
    cases hr : c.repositoryRoot? d with
    | none =>
      have hfault : c.bindingFault? d = none := by rw [Catalog.bindingFault?, hr]; rfl
      have hbind : c.binding? d = none := by rw [Catalog.binding?, Catalog.servant?, hr]; rfl
      rw [hfault]
      refine (registerByCapability_yields hmem hr hs).bind fun _ _ t ht => ih hnext ?_ ht
      simp [hb, hbind]
    | some root =>
      rw [← Catalog.fault?_findImplementation hr]
      refine Build.Yields.bind (Build.answers_lift _ s) fun _ name t ht => ?_
      obtain ⟨hfound, rfl⟩ := ht
      obtain ⟨servant, hservant, rfl⟩ := (Catalog.findImplementation_eq_ok_iff hr).1 hfound
      have hbind : c.binding? d = some (d.name, servant.name) := by
        rw [Catalog.binding?, hservant, Option.map_some]
      refine ih hnext ?_ ?_
      · rw [OrderedMap.entries_insert_of_not_mem _ (not_mem_keys_of_done h hb)]
        simp [hb, hbind]
      · exact (hs.skip (Catalog.lentBean?_of_root hmem hr)).congr
          fun _ => (bindingBeans_append ..).symm

end BeanKit
