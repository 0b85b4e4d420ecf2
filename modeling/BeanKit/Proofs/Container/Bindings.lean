import BeanKit.Proofs.Container.Criterion
import BeanKit.Proofs.Container.Entities
import BeanKit.Proofs.Container.Lookups
import BeanKit.Proofs.Container.Progress
import BeanKit.Proofs.Container.Search
/-! # Bindings are exact

The bindings of a started container list the interfaces from which declarations lead to a repository,
and no other ones, each with the only type that implements its root. There is one way in which such an
interface comes by its bean: its own proxy factory. -/

namespace BeanKit

open Relation

variable {c : Catalog} {d servant : Definition} {i j : Instances} {s t : Stage} {x : Context} {b : Bean}

/-! ## The list of bindings -/

theorem startable_of_bootstrap (h : (bootstrap c).exec { instances := i } = (.ok x, s)) :
    Startable c i.objects.length :=
  (c.firstFault?_eq_none_iff _).1 ((bootstrap_yields c i).exists_ok_iff.1 ⟨x, s, h⟩)

/-- Bindings that list, in the order of the catalog and once each, the interfaces that lead to a
repository, and name for each the only concrete type that implements its root. -/
structure Catalog.BindsExactly (c : Catalog) (bindings : Bindings) : Prop where
  listed : ∃ is : List Definition, is.Sublist c.interfaces ∧ bindings.keys = is.map Definition.name ∧
    ∀ d, d ∈ is ↔ d ∈ c.interfaces ∧
      ∃ root, ReflTransGen c.Declares d root ∧ root.descriptor.isRepository
  once : bindings.keys.Nodup
  implementation : ∀ d ∈ c.interfaces, ∀ name, bindings.get? d.name = some name →
    ∃ root servant, c.repositoryRoot? d = some root ∧ ReflTransGen c.Declares d root ∧
      root.descriptor.isRepository ∧ servant.name = name ∧
      ∀ e, e ∈ c.concretes ∧ c.Implements e root.name ↔ e = servant
  shared : ∀ d ∈ c.interfaces, ∀ d' ∈ c.interfaces, (c.repositoryRoot? d).isSome →
    c.repositoryRoot? d = c.repositoryRoot? d' → bindings.get? d.name = bindings.get? d'.name

/-- In a catalog that can start, the interfaces that are served are those with a root. -/
theorem servant?_isSome_iff {n : Nat} (hs : Startable c n) (hd : d ∈ c.interfaces) :
    (c.servant? d).isSome ↔ (c.repositoryRoot? d).isSome := by
  constructor
  · intro h
    obtain ⟨servant, hservant⟩ := Option.isSome_iff_exists.1 h
    obtain ⟨root, hroot, -⟩ := Catalog.servant?_eq_some_iff.1 hservant
    rw [hroot]
    rfl
  · intro h
    obtain ⟨root, hroot⟩ := Option.isSome_iff_exists.1 h
    obtain ⟨servant, himpl⟩ := hs.bound d hd root hroot
    rw [Catalog.servant?_eq_some_iff.2 ⟨root, hroot, himpl⟩]
    rfl

theorem get?_of_interface {bindings : Bindings} (hb : BindingsOf c bindings) (hd : d ∈ c.interfaces) :
    bindings.get? d.name = (c.servant? d).map Definition.name := by
  obtain ⟨hg, hi⟩ := (c.mem_interfaces_iff d).1 hd
  rw [hb d.name, Catalog.bound?, hg, Option.bind_some, if_pos hi, Option.map_map]
  rfl

theorem bindsExactly_of_entries {n : Nat} {bindings : Bindings} (hs : Startable c n)
    (h : bindings.entries = c.interfaces.filterMap c.binding?) : c.BindsExactly bindings where
  listed := by
    refine ⟨c.interfaces.filter fun d => (c.servant? d).isSome, List.filter_sublist, ?_, fun d => ?_⟩
    · rw [OrderedMap.keys, h, List.map_filterMap, ← List.filterMap_eq_map, List.filterMap_filter]
      refine List.filterMap_congr fun d _ => ?_
      rw [Catalog.binding?]
      cases c.servant? d <;> rfl
    · rw [List.mem_filter]
      refine and_congr_right fun hd => ?_
      rw [servant?_isSome_iff hs hd,
        Catalog.repositoryRoot?_isSome_iff ((c.mem_interfaces_iff d).1 hd).1]
  once := bindings.nodup
  implementation d hd name hname := by
    rw [get?_of_interface (bindingsOf_of_entries h) hd, Option.map_eq_some_iff] at hname
    obtain ⟨servant, hservant, rfl⟩ := hname
    obtain ⟨root, hroot, himpl⟩ := Catalog.servant?_eq_some_iff.1 hservant
    obtain ⟨hreach, htag⟩ := Catalog.repositoryRoot?_sound hroot
    refine ⟨root, servant, hroot, hreach, htag, rfl, fun e => ?_⟩
    rw [← Catalog.mem_implementations_iff, himpl, List.mem_singleton]
  shared d hd d' hd' _ hroot := by
    have hb := bindingsOf_of_entries h
    rw [get?_of_interface hb hd, get?_of_interface hb hd', Catalog.servant?, Catalog.servant?, hroot]

/-! ## Where the bean of a bound interface comes from -/

/-- A bean that the proxy factory of an interface has made. -/
def Instances.MadeFor (i : Instances) (d : Definition) (b : Bean) : Prop :=
  ∃ shownAs target m, d.proxyFactory = some shownAs ∧ b.facet = .interface shownAs ∧
    i.get? b.object = some ⟨d.name, .proxy shownAs target m⟩

theorem Instances.MadeFor.mono (h : i.MadeFor d b) (hij : i.Settles j) : j.MadeFor d b := by
  obtain ⟨shownAs, target, m, hfactory, hfacet, hget⟩ := h
  exact ⟨shownAs, target, m, hfactory, hfacet, hij _ _ rfl hget⟩

theorem Catalog.Builds.madeFor (h : c.Builds d servant s b t) : t.instances.MadeFor d b := by
  cases h with
  | @proxy entity shared cache blueprint target shownAs _ _ _ _ hfactory =>
    refine ⟨shownAs, target, shared.metadata, hfactory, rfl, ?_⟩
    have hself := ((s.instances.make ⟨servant.name, blueprint.nature⟩).2.bind target
      shared.metadata).get?_make_self ⟨d.name, .proxy shownAs target shared.metadata⟩
    rwa [Instances.length_bind, Instances.length_make] at hself

theorem Catalog.Builds.settles (h : c.Builds d servant s b t) :
    s.instances.Settles t.instances := by
  cases h with
  | proxy _ _ _ _ _ =>
    exact ((Instances.settles_make _ _).trans (Instances.settles_bind _ _ _)).trans
      (Instances.settles_make _ _)

/-- Bound interfaces have only beans that their own factories have made, or that they were given. -/
def Catalog.Proxied (c : Catalog) (given : String → Bean → Prop) (s : Stage) : Prop :=
  ∀ d servant b, c.bound? d.name = some (d, servant) → s.registry.get? d.name = some b →
    s.instances.MadeFor d b ∨ given d.name b

section Proxied

variable {given : String → Bean → Prop}

theorem Catalog.Proxied.mono {given' : String → Bean → Prop} (h : c.Proxied given s)
    (hreg : ∀ name, (c.bound? name).isSome → t.registry.get? name = s.registry.get? name)
    (hi : s.instances.Settles t.instances) (hgiven : ∀ name b, given name b → given' name b) :
    c.Proxied given' t := by
  intro d servant b hbound hb
  rw [hreg d.name (by rw [hbound]; rfl)] at hb
  exact (h d servant b hbound hb).imp (·.mono hi) (hgiven d.name b)

/-- A proxy that is built for a bound interface is its own. -/
theorem Catalog.Proxied.build (h : c.Proxied given s) (hbound : c.bound? d.name = some (d, servant))
    (hb : c.Builds d servant (s.reserve d.name) b t) : c.Proxied given (t.fill d.name b) := by
  intro d' servant' b' hbound' hb'
  rw [Stage.fill, Registry.get?_fill_eq_some_iff, hb.registry, Stage.reserve,
    Registry.get?_reserve] at hb'
  rcases hb' with hold | ⟨-, hname, rfl⟩
  · exact (h d' servant' b' hbound' hold).imp_left (·.mono hb.settles)
  · rw [hname, hbound] at hbound'
    cases hbound'
    exact .inl hb.madeFor

theorem Catalog.Proxied.advance (h : c.Proxied given s) (ha : c.Advances s t) :
    c.Proxied given t := by
  cases ha with
  | @component d blueprint hd hfree hblueprint =>
    refine h.mono (fun name hname => ?_) (Instances.settles_make _ _) fun _ _ hg => hg
    rw [get?_fill_of_bound (Catalog.bound?_of_component hd) hname]
    exact s.registry.get?_reserve d.name name
  | @lent d hd hroot b =>
    refine h.mono (fun name hname => ?_) (.refl _) fun _ _ hg => hg
    rw [get?_fill_of_bound (Catalog.bound?_of_no_root hd hroot) hname]
    exact s.registry.get?_reserve d.name name
  | proxy hbound _ hbuilds => exact h.build hbound hbuilds
  | injection _ => exact h

theorem proxied_of_advances (h : ReflTransGen c.Advances { instances := i } t) :
    c.Proxied given t := by
  induction h with
  | refl => exact fun _ _ _ _ hb => nomatch hb
  | tail _ ha ih => exact ih.advance ha

end Proxied

/-! ## Requests -/

/-- Building a proxy leaves the registry alone, and objects stay what they have come to be, whether
it succeeds or not. -/
theorem settles_buildProxy (s : Stage) (interface implementation : String) :
    (c.buildProxy interface implementation).Ensures
      (fun t => t.registry = s.registry ∧ s.instances.Settles t.instances) fun _ => True := by
  refine c.ensures_buildProxy ?_ ?_ ?_ interface implementation
  · exact fun t cache ht => ht
  · exact fun t o ht => ⟨ht.1, ht.2.trans (Instances.settles_make _ _)⟩
  · exact fun t repository m ht => ⟨ht.1, ht.2.trans (Instances.settles_bind _ _ _)⟩

section Requests

variable {given : String → Bean → Prop}

/-- A bound interface is resolved to its own proxy, or else gets no bean. -/
theorem Catalog.Proxied.resolveBound (h : c.Proxied given s)
    (hbound : c.bound? d.name = some (d, servant)) :
    c.Proxied given ((c.resolveBound d.name servant.name).exec s).2 := by
  rcases hexec : (c.resolveBound d.name servant.name).exec s with ⟨e | b, t⟩
  · rw [Catalog.resolveBound, Build.exec_getOrCreate] at hexec
    cases hg : s.registry.get? d.name with
    | some b =>
      rw [hg] at hexec
      cases hexec
    | none =>
      have hleaves := (settles_buildProxy (c := c) (s.reserve d.name) d.name servant.name
        (s.reserve d.name) ⟨rfl, .refl _⟩).1
      rw [hg] at hexec
      rcases hbuild : (c.buildProxy d.name servant.name).exec (s.reserve d.name) with ⟨e' | b, u⟩
      · rw [hbuild] at hexec hleaves
        cases hexec
        refine h.mono (fun name _ => ?_) hleaves.2 fun _ _ hg => hg
        rw [hleaves.1]
        exact s.registry.get?_reserve d.name name
      · rw [hbuild] at hexec
        cases hexec
  · rcases builds_of_resolveBound hbound hexec with ⟨-, rfl⟩ | ⟨-, u, hbuilds, rfl⟩
    · exact h
    · exact h.build hbound hbuilds

/-- Look-ups give a bound interface nothing but its own proxy. -/
theorem keeps_proxied (hb : BindingsOf x.catalog x.bindings) :
    x.Keeps (x.catalog.Proxied given) where
  resolve himpl := by
    obtain ⟨d, servant, hbound, rfl, rfl⟩ := hb.backs _ _ himpl
    exact Build.ensures_of_exec fun _ h => h.resolveBound hbound
  bind repository m h := h.mono (fun _ _ => rfl) (Instances.settles_bind _ _ _) fun _ _ hg => hg

/-- What is written to the registry by hand is all that a request can give a bound interface
besides its proxy. -/
theorem Catalog.Proxied.after (h : x.catalog.Proxied given s)
    (hb : BindingsOf x.catalog x.bindings) (r : Context.Request) :
    x.catalog.Proxied (fun name b => given name b ∨ r = .create name (.ok b)) (r.after x s) := by
  have hkept {t : Stage} (ht : x.catalog.Proxied given t) :
      x.catalog.Proxied (fun name b => given name b ∨ r = .create name (.ok b)) t :=
    ht.mono (fun _ _ => rfl) (.refl _) fun _ _ => .inl
  cases r with
  | create name outcome =>
    rw [Context.Request.after, Build.exec_getOrCreate]
    cases hg : s.registry.get? name with
    | some b => exact hkept h
    | none =>
      have hreserve : x.catalog.Proxied given (s.reserve name) :=
        h.mono (fun name' _ => s.registry.get?_reserve name name') (.refl _)
          fun _ _ hg => hg
      cases outcome with
      | error e => exact hkept hreserve
      | ok b =>
        intro d servant b' hbound hb'
        change ((s.reserve name).registry.fill name b).get? d.name = some b' at hb'
        rw [Registry.get?_fill_eq_some_iff] at hb'
        rcases hb' with hold | ⟨-, hname, rfl⟩
        · exact (hreserve d servant b' hbound hold).imp_right .inl
        · exact .inr (.inr (by rw [hname]))
  | resolve entity =>
    refine hkept ?_
    rw [Context.Request.after, Build.exec_metadata]
    rcases s.cache.resolve entity with ⟨e | shared, cache⟩ <;> exact h
  | _ => exact hkept ((keeps_proxied hb).after rfl h)

end Requests

theorem Catalog.Proxied.requests (h : x.catalog.Proxied (fun _ _ => False) s)
    (hb : BindingsOf x.catalog x.bindings) (rs : List Context.Request) :
    x.catalog.Proxied (fun name b => .create name (.ok b) ∈ rs) (x.after s rs) := by
  induction rs using List.reverseRecOn with
  | nil => exact h.mono (fun _ _ => rfl) (.refl _) fun _ _ hf => hf.elim
  | append_singleton rs r ih =>
    rw [Context.after, List.foldl_append]
    refine (ih.after hb r).mono (fun _ _ => rfl) (.refl _) fun name b hg => ?_
    rcases hg with hg | rfl
    · exact List.mem_append_left _ hg
    · exact List.mem_append_right _ (List.mem_singleton_self _)

/-! ## The bindings of a started container -/

/-- What is bound when interfaces have been bound has no bean yet: neither making components nor
registering by capability gives it one. -/
theorem get?_of_bound_before_wiring {r u : Stage} {bindings : Bindings}
    (hr : (makeComponents c.components).exec { instances := i } = (.ok (), r))
    (hu : (bindInterfaces c .empty c.interfaces).exec r = (.ok bindings, u)) {name : String}
    (hname : (c.bound? name).isSome) : u.registry.get? name = none := by
  have hmake := (makeComponents_yields (List.nil_append _) (stands_start c i)).post_of_exec hr
  have hbind := (bindInterfaces_yields (List.nil_append _) rfl
    (hmake.congr fun _ => (Option.or_none ..).symm)).post_of_exec hu
  obtain ⟨b, hb⟩ := Option.isSome_iff_exists.1 hname
  rw [hbind.2.registry, Catalog.readyBean?_of_bound? hb]

/-- The bindings of a container that was started over the objects `i`, at the end of its start. -/
structure Context.Bound (x : Context) (i : Instances) (s : Stage) : Prop where
  exact : x.catalog.BindsExactly x.bindings
  /-- When the components are made and the interfaces bound, no bound interface has a bean. -/
  unlent : ∃ r u count, (makeComponents x.catalog.components).exec { instances := i } = (.ok (), r) ∧
    (bindInterfaces x.catalog .empty x.catalog.interfaces).exec r = (.ok x.bindings, u) ∧
    (wireAll x.catalog x.bindings).exec u = (.ok count, s) ∧
    ∀ name, (x.bindings.get? name).isSome → u.registry.get? name = none
  /-- Whatever look-ups and calls lead to, the bean of a bound interface is one of its own factory. -/
  proxied : ∀ t, x.Visits s t → ∀ d ∈ x.catalog.interfaces, (x.bindings.get? d.name).isSome →
    ∀ b, t.registry.get? d.name = some b → t.instances.MadeFor d b
  /-- Only what is written to the registry by hand can be there instead. -/
  written : ∀ rs, ∀ d ∈ x.catalog.interfaces, (x.bindings.get? d.name).isSome →
    ∀ b, (x.after s rs).registry.get? d.name = some b →
      (x.after s rs).instances.MadeFor d b ∨ .create d.name (.ok b) ∈ rs

/-- The bindings of a started container are exact, and its bound interfaces have no beans but their
proxies. -/
theorem bootstrap_binds_exactly (c : Catalog) (i : Instances) {x : Context} {s : Stage}
    (h : (bootstrap c).exec { instances := i } = (.ok x, s)) : x.catalog = c ∧ x.Bound i s := by
  obtain ⟨log, hstarted⟩ := (bootstrap_yields c i).post_of_exec h
  obtain rfl := hstarted.catalog
  have hb := bindingsOf_of_entries hstarted.bindings
  have hproxied : x.catalog.Proxied (fun _ _ => False) s :=
    proxied_of_advances (advances_of_bootstrap h)
  have hbound {d : Definition} (hd : d ∈ x.catalog.interfaces)
      (hname : (x.bindings.get? d.name).isSome) :
      ∃ servant, x.catalog.bound? d.name = some (d, servant) := by
    rw [get?_of_interface hb hd, Option.isSome_map] at hname
    obtain ⟨servant, hservant⟩ := Option.isSome_iff_exists.1 hname
    exact ⟨servant, Catalog.bound?_eq_some_iff.2 ⟨hd, rfl, hservant⟩⟩
  refine ⟨rfl,
    { exact := bindsExactly_of_entries (startable_of_bootstrap h) hstarted.bindings
      unlent := ?_
      proxied := fun t ht d hd hname b hget => ?_
      written := fun rs d hd hname b hget => ?_ }⟩
  · obtain ⟨-, r, u, count, hr, hu, hwired⟩ := phases_of_bootstrap h
    refine ⟨r, u, count, hr, hu, hwired, fun name hname => get?_of_bound_before_wiring hr hu ?_⟩
    rwa [hb name, Option.isSome_map] at hname
  · obtain ⟨servant, hservant⟩ := hbound hd hname
    exact ((keeps_proxied hb).visits hproxied ht d servant b hservant hget).resolve_right id
  · obtain ⟨servant, hservant⟩ := hbound hd hname
    exact hproxied.requests hb rs d servant b hservant hget

/-- Interfaces that declare each other, some of them in front of a repository and some not, and
parents that the catalog does not have. -/
def loopingCatalog : Catalog :=
  .addAll .empty
    [{ descriptor :=
        { type := ⟨"Notes", "Notes"⟩
          kind := .interface
          interfaces := [⟨"Gone", "Gone"⟩, ⟨"Root", "Root"⟩]
          typeArguments := [⟨"i32", "i32"⟩, ⟨"Note", "Note"⟩] }
       proxyFactory := some "Notes" },
     { descriptor :=
        { type := ⟨"Root", "Root"⟩
          kind := .interface
          tags := [.repository]
          interfaces := [⟨"Notes", "Notes"⟩] } },
     { descriptor :=
        { type := ⟨"Left", "Left"⟩, kind := .interface, interfaces := [⟨"Right", "Right"⟩] } },
     { descriptor :=
        { type := ⟨"Right", "Right"⟩
          kind := .interface
          interfaces := [⟨"Left", "Left"⟩, ⟨"Gone", "Gone"⟩] } },
     { descriptor :=
        { type := ⟨"Store", "Store"⟩, kind := .concrete, interfaces := [⟨"Root", "Root"⟩] }
       constructor := some (.ok .repository)
       repositoryTarget := some fun b => some b.object },
     { descriptor :=
        { type := ⟨"Note", "Note"⟩
          kind := .concrete
          tags := [.table "notes"]
          fields := [⟨"id", [.id, .column "id"]⟩] } }]

/-- What is started over it. -/
def loopingContext : Context :=
  ⟨loopingCatalog, ⟨[("Notes", "Store"), ("Root", "Store")], by decide⟩⟩

theorem bootstrap_binds_exactly_looping :
    (bootstrap loopingCatalog).exec {} = (.ok loopingContext, {}) ∧
    loopingContext.catalog = loopingCatalog ∧ loopingContext.Bound {} {} := by
  have h : (bootstrap loopingCatalog).exec {} = (.ok loopingContext, {}) := by cbv
  exact ⟨h, bootstrap_binds_exactly loopingCatalog {} h⟩

end BeanKit
