import BeanKit.Proofs.Container.Bindings
import BeanKit.Proofs.Container.Tally
/-! # The beans of a container that has just started

Right after its start a container has the beans of its components, those that the components lend to
interfaces without a root, and the proxies that injection points have asked for. Nothing else has been
constructed: a repository that nobody depends on has not even been read for its metadata. -/

namespace BeanKit

variable {c : Catalog} {d : Definition} {i : Instances} {s : Stage} {x : Context} {name : String}

/-! ## Which names have a bean -/

/-- The names that injection points depend on. -/
def Catalog.dependencies (c : Catalog) : List String :=
  c.injectionPoints.flatMap fun p => p.method.parameters.map (·.name)

/-- The repository interfaces that injection points have asked for are the bound ones that are
depended on. -/
theorem mem_requests_iff {n : Nat} (hs : Startable c n) :
    name ∈ c.requests c.injectionPoints ↔ (c.bound? name).isSome ∧ name ∈ c.dependencies := by
  constructor
  · intro h
    rw [Catalog.requests, List.mem_eraseDups, List.mem_filterMap] at h
    obtain ⟨p, hp, hrequested⟩ := h
    unfold Catalog.requested? at hrequested
    split at hrequested
    · rename_i t ht
      obtain ⟨b, hb, rfl⟩ := Option.map_eq_some_iff.1 hrequested
      refine ⟨by rw [hb]; rfl, List.mem_flatMap.2 ⟨p, hp, ?_⟩⟩
      rw [ht]
      exact List.mem_singleton_self _
    · cases hrequested
  · rintro ⟨hb, h⟩
    obtain ⟨p, hp, htp⟩ := List.mem_flatMap.1 h
    obtain ⟨t, ht, rfl⟩ := List.mem_map.1 htp
    obtain ⟨d, hd, hdp⟩ := List.mem_flatMap.1 hp
    obtain ⟨m, hm, rfl⟩ := List.mem_map.1 hdp
    -- The method has one parameter only, or it could not have been served.
    obtain ⟨t', -, -, -, hone, -⟩ := hs.served d hd m hm
    rw [show (InjectionPoint.mk d m).method.parameters = [t'] from hone, List.mem_singleton] at ht
    exact Catalog.mem_requests hp (ht ▸ hone) hb

theorem componentBean_of_startable {n : Nat} (hs : Startable c n) (hd : d ∈ c.components) :
    ∃ b, c.componentBean n d = .ok b := by
  obtain ⟨blueprint, hb⟩ := hs.made d hd
  refine (fault?_eq_none_iff _).1 ?_
  rw [Catalog.componentBean, Catalog.fault?_madeAs, Catalog.creationFault?, hb]

section Started

variable {log : List Injection}

theorem Started.get?_component (h : Started c i x log s) (hd : d ∈ c.components)
    (hb : c.componentBean i.objects.length d = .ok b) : s.registry.get? d.name = some b :=
  (h.wired.stocked.stands.registry d.name).trans (Catalog.stock_of_component hd hb)

/-- A bound interface has its bean where it is depended on. -/
theorem Started.isSome_get?_of_bound (h : Started c i x log s) (hs : Startable c i.objects.length)
    {bound : Definition × Definition} (hb : c.bound? name = some bound) :
    (s.registry.get? name).isSome ↔ name ∈ c.dependencies := by
  have hrequests : name ∈ c.requests c.injectionPoints ↔ name ∈ c.dependencies := by
    rw [mem_requests_iff hs, hb]
    simp
  rw [h.wired.stocked.stands.registry name, Catalog.stock_of_bound? hb, ← hrequests]
  split
  · rename_i hm
    obtain ⟨b, hproxy⟩ := h.wired.stocked.built name hm
    simp [hproxy, hm]
  · rename_i hm
    simp [hm]

/-- The names that have a bean: those of components, those of interfaces that are lent one, and those
of bound interfaces that are depended on. -/
theorem Started.isSome_get?_iff (h : Started c i x log s) (hs : Startable c i.objects.length)
    (name : String) : (s.registry.get? name).isSome ↔ (∃ d ∈ c.components, d.name = name) ∨
      (c.lentBean? i.objects.length name).isSome ∨
        (c.bound? name).isSome ∧ name ∈ c.dependencies := by
  have hown : (c.ownBean? i.objects.length name).isSome ↔ ∃ d ∈ c.components, d.name = name := by
    rw [Option.isSome_iff_exists]
    constructor
    · rintro ⟨b, hb⟩
      obtain ⟨d, hd, hname, -⟩ := Catalog.ownBean?_eq_some_iff.1 hb
      exact ⟨d, hd, hname⟩
    · rintro ⟨d, hd, hname⟩
      obtain ⟨b, hb⟩ := componentBean_of_startable hs hd
      exact ⟨b, Catalog.ownBean?_eq_some_iff.2 ⟨d, hd, hname, hb⟩⟩
  cases hbound : c.bound? name with
  | none =>
    rw [h.wired.stocked.stands.registry name, Catalog.stock_of_not_bound? hbound,
      Catalog.readyBean?, Option.isSome_or, Bool.or_eq_true, hown]
    simp
  | some bound =>
    -- What is bound is made by no constructor for itself, and is lent nothing.
    have hready := Catalog.readyBean?_of_bound? (n := i.objects.length) hbound
    rw [Catalog.readyBean?, Option.or_eq_none_iff] at hready
    rw [h.isSome_get?_of_bound hs hbound, ← hown, hready.1, hready.2]
    simp

/-- An interface is lent a bean where its provider's own bean can be cast to it. -/
theorem Started.isSome_lentBean?_iff (h : Started c i x log s) (hs : Startable c i.objects.length) :
    (c.lentBean? i.objects.length name).isSome ↔
      ∃ j ∈ c.interfaces, j.name = name ∧ c.repositoryRoot? j = none ∧
        ∃ d own shown, provider? c name = some d ∧ s.registry.get? d.name = some own ∧
          d.castTo name own = some shown := by
  -- The bean of a provider is the one that its constructor has made.
  have hown {d : Definition} {own : Bean} (hd : provider? c name = some d) :
      c.componentBean i.objects.length d = .ok own ↔ s.registry.get? d.name = some own := by
    have hmem : d ∈ c.components := List.mem_of_find?_eq_some hd
    obtain ⟨b, hb⟩ := componentBean_of_startable hs hmem
    rw [hb, h.get?_component hmem hb, Except.ok.injEq, Option.some.injEq]
  rw [Option.isSome_iff_exists]
  constructor
  · rintro ⟨shown, hlent⟩
    obtain ⟨j, hj, hname, hroot, d, own, hd, hb, hcast⟩ := Catalog.lentBean?_eq_some_iff.1 hlent
    exact ⟨j, hj, hname, hroot, d, own, shown, hd, (hown hd).1 hb, hcast⟩
  · rintro ⟨j, hj, hname, hroot, d, own, shown, hd, hb, hcast⟩
    exact ⟨shown, Catalog.lentBean?_eq_some_iff.2
      ⟨j, hj, hname, hroot, d, own, hd, (hown hd).2 hb, hcast⟩⟩

end Started

/-! ## Right after the start -/

/-- The bound interfaces that injection points depend on, in the order of the catalog. -/
def Context.asked (x : Context) : List Definition :=
  x.catalog.interfaces.filter fun d =>
    (x.bindings.get? d.name).isSome && decide (d.name ∈ x.catalog.dependencies)

theorem Context.mem_asked_iff : d ∈ x.asked ↔
    d ∈ x.catalog.interfaces ∧ (x.bindings.get? d.name).isSome ∧ d.name ∈ x.catalog.dependencies := by
  rw [asked, List.mem_filter, Bool.and_eq_true, decide_eq_true_iff]

section Started

variable {log : List Injection}

/-- Every component has its bean. -/
theorem Started.having_components (h : Started c i x log s) (hs : Startable c i.objects.length) :
    s.having c.components = c.components := by
  refine List.filter_eq_self.2 fun d hd => ?_
  obtain ⟨b, hb⟩ := componentBean_of_startable hs hd
  rw [h.get?_component hd hb]
  rfl

/-- Of the bound interfaces, those have a bean that were asked for. -/
theorem Started.having_boundInterfaces (h : Started x.catalog i x log s)
    (hs : Startable x.catalog i.objects.length) :
    s.having x.catalog.boundInterfaces = x.asked := by
  rw [Stage.having, Catalog.boundInterfaces, List.filter_filter, Context.asked]
  refine List.filter_congr fun d hd => ?_
  rw [get?_of_interface (bindingsOf_of_entries h.bindings) hd, Option.isSome_map, Bool.and_comm,
    Bool.eq_iff_iff]
  simp only [Bool.and_eq_true, decide_eq_true_iff]
  refine and_congr_right fun hservant => ?_
  obtain ⟨servant, hservant⟩ := Option.isSome_iff_exists.1 hservant
  exact h.isSome_get?_of_bound hs (Catalog.bound?_eq_some_iff.2 ⟨hd, rfl, hservant⟩)

end Started

/-- What there is in a container that was started over the objects `i`, at the end of its start. -/
structure Context.Furnished (x : Context) (i : Instances) (s : Stage) : Prop where
  /-- The names are those of the components, those of the interfaces without a root to which the first
  component that declares a cast casts its own bean, and those of the bound interfaces asked for. -/
  names : ∀ name, name ∈ s.registry.names ↔
    (∃ d ∈ x.catalog.components, d.name = name) ∨
    (∃ j ∈ x.catalog.interfaces, j.name = name ∧ x.catalog.repositoryRoot? j = none ∧
      ∃ d own shown, provider? x.catalog name = some d ∧ s.registry.get? d.name = some own ∧
        d.castTo name own = some shown) ∨
    ∃ d ∈ x.asked, d.name = name
  /-- A component's bean is an object that its own constructor has made. -/
  own : ∀ d ∈ x.catalog.components, ∃ b, s.registry.get? d.name = some b ∧
    s.instances.constructedBy? b.object = some d.name
  /-- There has been one run for each component, and one of its implementation's constructor for each
  interface asked for. -/
  runs : s.instances.constructorRuns.Perm (i.constructorRuns ++
    x.catalog.components.map Definition.name ++ x.asked.filterMap fun d => x.bindings.get? d.name)
  /-- The cache has the metadata of the entities of the interfaces asked for. -/
  cached : ∀ name m, s.cache.get? name = some m ↔ ∃ d ∈ x.asked, ∃ entity,
    x.catalog.entityOf d = .ok entity ∧ entity.name = name ∧
      Metadata.resolve entity.descriptor = .ok m

/-- A container that has just started has exactly the beans of its components, those that they lend,
and the proxies that they ask for, and nothing more has been made or read for them. -/
theorem bootstrap_furnishes (c : Catalog) (i : Instances) {x : Context} {s : Stage}
    (h : (bootstrap c).exec { instances := i } = (.ok x, s)) :
    x.catalog = c ∧ x.Furnished i s := by
  obtain ⟨log, hstarted⟩ := (bootstrap_yields c i).post_of_exec h
  obtain rfl := hstarted.catalog
  have hs := startable_of_bootstrap h
  have hb := bindingsOf_of_entries hstarted.bindings
  have htally := tallied_of_advances (advances_of_bootstrap h)
  have hasked := hstarted.having_boundInterfaces hs
  refine ⟨rfl,
    { names := fun name => ?_
      own := fun d hd => ?_
      runs := ?_
      cached := hasked ▸ htally.cached }⟩
  · rw [Registry.mem_names_iff, hstarted.isSome_get?_iff hs]
    refine or_congr_right (or_congr (hstarted.isSome_lentBean?_iff hs) ?_)
    constructor
    · rintro ⟨hbound, hname⟩
      obtain ⟨⟨d, servant⟩, hbound⟩ := Option.isSome_iff_exists.1 hbound
      obtain ⟨hd, rfl, hservant⟩ := Catalog.bound?_eq_some_iff.1 hbound
      exact ⟨d, Context.mem_asked_iff.2 ⟨hd, by rw [hb, hbound]; rfl, hname⟩, rfl⟩
    · rintro ⟨d, hd, rfl⟩
      obtain ⟨-, hbound, hname⟩ := Context.mem_asked_iff.1 hd
      rw [hb, Option.isSome_map] at hbound
      exact ⟨hbound, hname⟩
  · obtain ⟨b, hbean⟩ := componentBean_of_startable hs hd
    have hget := hstarted.get?_component hd hbean
    exact ⟨b, hget, htally.own d hd b hget⟩
  · have hruns := htally.runs
    rw [hstarted.having_components hs, hasked] at hruns
    refine hruns.trans (List.Perm.of_eq (congrArg _ (List.filterMap_congr fun d hd => ?_)))
    exact (get?_of_interface hb (Context.mem_asked_iff.1 hd).1).symm

/-- Two components that depend on one repository interface. Both can be cast to an interface without a
root, which the first of them lends its bean to. Another interface of the same entity is bound and not
asked for. -/
def lendingCatalog : Catalog :=
  .addAll .empty
    [{ descriptor := { type := ⟨"Root", "Root"⟩, kind := .interface, tags := [.repository] } },
     { descriptor :=
        { type := ⟨"Store", "Store"⟩, kind := .concrete, interfaces := [⟨"Root", "Root"⟩] }
       constructor := some (.ok .repository)
       repositoryTarget := some fun b => some b.object },
     { descriptor :=
        { type := ⟨"Note", "Note"⟩
          kind := .concrete
          tags := [.table "notes"]
          fields := [⟨"id", [.id, .column "id"]⟩] } },
     { descriptor :=
        { type := ⟨"Notes", "Notes"⟩
          kind := .interface
          interfaces := [⟨"Root", "Root"⟩]
          typeArguments := [⟨"i32", "i32"⟩, ⟨"Note", "Note"⟩] }
       proxyFactory := some "Notes" },
     { descriptor :=
        { type := ⟨"Archive", "Archive"⟩
          kind := .interface
          interfaces := [⟨"Root", "Root"⟩]
          typeArguments := [⟨"i32", "i32"⟩, ⟨"Note", "Note"⟩] }
       proxyFactory := some "Archive" },
     { descriptor := { type := ⟨"Clock", "Clock"⟩, kind := .interface } },
     { descriptor :=
        { type := ⟨"A", "A"⟩
          kind := .concrete
          tags := [.component]
          methods := [⟨"notes", [⟨"Notes", "Notes"⟩], [.autowire]⟩] }
       constructor := some (.ok (.service "A"))
       casts := [("Clock", fun b => some ⟨.interface "Clock", b.object⟩)]
       injectors := [("notes", ⟨0, fun _ _ => .ok ()⟩)] },
     { descriptor :=
        { type := ⟨"B", "B"⟩
          kind := .concrete
          tags := [.component]
          methods := [⟨"notes", [⟨"Notes", "Notes"⟩], [.autowire]⟩] }
       constructor := some (.ok (.service "B"))
       casts := [("Clock", fun b => some ⟨.interface "Clock", b.object⟩)]
       injectors := [("notes", ⟨0, fun _ _ => .ok ()⟩)] }]

theorem bootstrap_furnishes_lending : ∃ x s,
    (bootstrap lendingCatalog).exec { instances := {} } = (.ok x, s) ∧
    x.catalog = lendingCatalog ∧ x.Furnished {} s := by
  have hfault : lendingCatalog.firstFault? 0 = none := by cbv
  obtain ⟨x, s, h⟩ := (bootstrap_yields lendingCatalog {}).exists_ok_iff.2 hfault
  exact ⟨x, s, h, bootstrap_furnishes lendingCatalog {} h⟩

end BeanKit
