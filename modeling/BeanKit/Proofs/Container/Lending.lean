import BeanKit.Proofs.Container.BeanSet
/-! # What interfaces without a root are lent

Components lend such interfaces their beans. Who lends is settled by what is declared, before any cast
is tried: the first component that declares a cast to the interface. Where its cast declines, nobody
else is asked, and the interface stays without a bean although a later component could lend one. -/

namespace BeanKit

variable {c : Catalog} {d p : Definition} {i : Instances} {s : Stage} {x : Context} {name : String}

/-- What a component's own bean is cast to. -/
def Definition.lends? (d : Definition) (s : Stage) (interface : String) : Option Bean :=
  (s.registry.get? d.name).bind (d.castTo interface)

/-- The cast of the first component whose own bean can be cast to an interface. -/
def Catalog.firstLent? (c : Catalog) (s : Stage) (interface : String) : Option Bean :=
  c.components.findSome? (·.lends? s interface)

/-! ## The first that declares a cast, and the first whose cast succeeds -/

/-- A component without a cast to an interface lends it nothing. -/
theorem Definition.lends?_of_not_canCastTo (h : ¬ d.canCastTo name) : d.lends? s name = none := by
  have hnone : d.casts.find? (·.1 = name) = none :=
    List.find?_eq_none.2 fun e he hname => h (List.any_eq_true.2 ⟨e, he, hname⟩)
  simp [lends?, castTo, hnone]

theorem Catalog.firstLent?_of_no_provider (h : provider? c name = none) :
    c.firstLent? s name = none := by
  unfold provider? at h
  refine List.findSome?_eq_none_iff.2 fun d hd => ?_
  exact Definition.lends?_of_not_canCastTo (List.find?_eq_none.1 h d hd)

/-- The components in front of the provider declare no cast, so that what the provider lends is what
is lent first. -/
theorem Catalog.firstLent?_of_provider {b : Bean} (h : provider? c name = some p)
    (hb : p.lends? s name = some b) : c.firstLent? s name = some b := by
  unfold provider? at h
  obtain ⟨-, before, after, hsplit, hbefore⟩ := List.find?_eq_some_iff_append.1 h
  have hnone : before.findSome? (·.lends? s name) = none := by
    refine List.findSome?_eq_none_iff.2 fun d hd => ?_
    exact Definition.lends?_of_not_canCastTo (by simpa using hbefore d hd)
  rw [firstLent?, hsplit, List.findSome?_append, hnone, Option.none_or, List.findSome?_cons, hb]

/-! ## What a started container has -/

/-- An interface without a root has what its provider lends it. -/
theorem Started.get?_of_no_root {log : List Injection} (h : Started c i x log s)
    (hs : Startable c i.objects.length) (hd : d ∈ c.interfaces) (hroot : c.repositoryRoot? d = none) :
    s.registry.get? d.name = (provider? c d.name).bind (·.lends? s d.name) := by
  rw [h.wired.stocked.stands.registry d.name,
    Catalog.stock_of_not_bound? (Catalog.bound?_of_no_root hd hroot), Catalog.readyBean?,
    Catalog.ownBean?_of_interface hd, Option.none_or, Catalog.lentBean?_of_no_root hd hroot]
  cases hp : provider? c d.name with
  | none => rfl
  | some p =>
    have hmem : p ∈ c.components := List.mem_of_find?_eq_some hp
    obtain ⟨b, hb⟩ := componentBean_of_startable hs hmem
    simp only [Option.bind_some, Definition.lends?]
    rw [h.get?_component hmem hb, Catalog.ownBean?_of_mem hmem, toOption_eq_some_iff.2 hb]

/-- In a container that has just started, an interface without a root has what the first component that
declares a cast to it lends. That is what the first component whose cast succeeds would lend, unless
the one that declares first declines and a later one does not. -/
theorem bootstrap_lends_by_declaration (c : Catalog) (i : Instances)
    (h : (bootstrap c).exec { instances := i } = (.ok x, s)) :
    ∀ d ∈ c.interfaces, c.repositoryRoot? d = none →
      s.registry.get? d.name = (provider? c d.name).bind (·.lends? s d.name) ∧
      (s.registry.get? d.name = c.firstLent? s d.name ↔
        ∀ p, provider? c d.name = some p → p.lends? s d.name = none →
          c.firstLent? s d.name = none) := by
  intro d hd hroot
  obtain ⟨log, hstarted⟩ := (bootstrap_yields c i).post_of_exec h
  have hget := hstarted.get?_of_no_root (startable_of_bootstrap h) hd hroot
  refine ⟨hget, ?_⟩
  rw [hget]
  cases hp : provider? c d.name with
  | none => simp [Catalog.firstLent?_of_no_provider hp]
  | some p =>
    cases hb : p.lends? s d.name with
    | none => simp [hb, eq_comm]
    | some b => simp [hb, Catalog.firstLent?_of_provider hp hb]

/-! ## A provider that declines -/

/-- An interface without a root. -/
def clockInterface : Definition :=
  { descriptor := { type := ⟨"Clock", "Clock"⟩, kind := .interface } }

/-- Two components that declare a cast to one interface. The cast of the first declines. -/
def decliningCatalog : Catalog :=
  .addAll .empty
    [clockInterface,
     { descriptor := { type := ⟨"Broken", "Broken"⟩, kind := .concrete, tags := [.component] }
       constructor := some (.ok (.service "Broken"))
       casts := [("Clock", fun _ => none)] },
     { descriptor := { type := ⟨"Quartz", "Quartz"⟩, kind := .concrete, tags := [.component] }
       constructor := some (.ok (.service "Quartz"))
       casts := [("Clock", fun b => some ⟨.interface "Clock", b.object⟩)] }]

/-- What it is started to, with the beans of its two components. -/
def decliningStage : Stage :=
  { instances := { objects := [⟨"Broken", .service "Broken"⟩, ⟨"Quartz", .service "Quartz"⟩] }
    registry :=
      ⟨⟨[("Broken", some ⟨.component "Broken", ⟨0⟩⟩), ("Quartz", some ⟨.component "Quartz", ⟨1⟩⟩)],
        by decide⟩⟩ }

theorem bootstrap_decliningCatalog :
    (bootstrap decliningCatalog).exec {} = (.ok ⟨decliningCatalog, .empty⟩, decliningStage) := by cbv

theorem clockInterface_mem : clockInterface ∈ decliningCatalog.interfaces :=
  (decliningCatalog.mem_interfaces_iff _).2 ⟨rfl, rfl⟩

theorem repositoryRoot?_clockInterface : decliningCatalog.repositoryRoot? clockInterface = none := by
  cbv

theorem bootstrap_lends_by_declaration_declining :
    (bootstrap decliningCatalog).exec {} = (.ok ⟨decliningCatalog, .empty⟩, decliningStage) ∧
    clockInterface ∈ decliningCatalog.interfaces ∧
    decliningCatalog.repositoryRoot? clockInterface = none ∧
    decliningStage.registry.get? "Clock" =
      (provider? decliningCatalog "Clock").bind (·.lends? decliningStage "Clock") :=
  ⟨bootstrap_decliningCatalog, clockInterface_mem, repositoryRoot?_clockInterface,
    (bootstrap_lends_by_declaration decliningCatalog {} bootstrap_decliningCatalog clockInterface
      clockInterface_mem repositoryRoot?_clockInterface).1⟩

/-- The second component's cast succeeds, and yet the interface has no bean. -/
theorem declining_provider_leaves_interface_bare :
    (bootstrap decliningCatalog).exec {} = (.ok ⟨decliningCatalog, .empty⟩, decliningStage) ∧
    clockInterface ∈ decliningCatalog.interfaces ∧
    decliningCatalog.repositoryRoot? clockInterface = none ∧
    decliningCatalog.firstLent? decliningStage "Clock" = some ⟨.interface "Clock", ⟨1⟩⟩ ∧
    decliningStage.registry.get? "Clock" = none := by
  refine ⟨bootstrap_decliningCatalog, clockInterface_mem, repositoryRoot?_clockInterface, ?_, ?_⟩
  · cbv
  · cbv

end BeanKit
