import BeanKit.Proofs.Container.Wiring
import BeanKit.Proofs.Container.Later
import Mathlib
/-! # A started container is wired

Every injection point of a started container has been served once, in order, and has been given the
bean that its dependency's name stands for from then on. -/

namespace BeanKit

variable {c : Catalog} {i : Instances} {x : Context} {s : Stage}

/-- An entry of the record tells how an injection point was served: its setter took, on the bean
registered for the component, the bean that its dependency's name answers at every later stage. -/
def Context.Served (x : Context) (s : Stage) (p : InjectionPoint) (entry : Injection) : Prop :=
  ∃ t injector target value, p.method.parameters = [t] ∧
    p.component.injector? p.method.name = some injector ∧
    injector.accept target value = .ok () ∧
    entry = ⟨target.object, injector.slot, value⟩ ∧
    ∀ s', x.Reaches s s' → s'.registry.get? p.component.name = some target ∧
      (x.bean t.name).exec s' = (.ok value, s')

theorem Started.served {log : List Injection} (h : Started c i x log s) :
    List.Forall₂ (x.Served s) c.injectionPoints log := by
  have hregistry := h.wired.stocked.stands.registry
  -- A point is one of a component of the catalog, whose bean the registry has.
  refine (List.forall₂_and_left ..).2 ⟨fun p hp => hp, h.wired.served⟩ |>.imp ?_
  rintro p entry ⟨hp, hserved⟩
  obtain ⟨t, injector, target, value, ht, hinjector, htarget, hvalue, haccept, rfl⟩ :=
    Catalog.served_eq_ok_iff.1 hserved
  obtain ⟨d, hd, hdp⟩ := List.mem_flatMap.1 hp
  obtain ⟨m, -, rfl⟩ := List.mem_map.1 hdp
  refine ⟨t, injector, target, value, ht, hinjector, haccept, rfl, fun s' hs' => ⟨?_, ?_⟩⟩
  · exact hs'.get?_registry ((hregistry _).trans (Catalog.stock_of_component hd htarget))
  · exact x.exec_bean_of_registered (hs'.get?_registry ((hregistry _).trans
      (Catalog.stock_of_resolved hvalue (Catalog.mem_requests hp ht))))

/-- Where the methods of each component have distinct names, the injection points do as well. -/
theorem Catalog.nodup_injectionPoints
    (h : ∀ d ∈ c.components, (d.descriptor.autowireMethods.map (·.name)).Nodup) :
    (c.injectionPoints.map fun p => (p.component.name, p.method.name)).Nodup := by
  rw [injectionPoints, List.map_flatMap, List.nodup_flatMap]
  constructor
  · intro d hd
    have hm := (h d hd).map (f := fun name => (d.name, name)) fun _ _ he => (Prod.mk.inj he).2
    rw [List.map_map] at hm
    rw [Definition.injectionPoints, List.map_map]
    exact hm
  · -- The points of two components differ in the component's name.
    refine (List.pairwise_map.1 c.nodup_component_names).imp fun {d d'} hne => ?_
    have hname {e : Definition} {key : String × String} (hk : key ∈ e.injectionPoints.map
        fun p => (p.component.name, p.method.name)) : e.name = key.1 := by
      obtain ⟨p, hp, rfl⟩ := List.mem_map.1 hk
      obtain ⟨m, -, rfl⟩ := List.mem_map.1 hp
      rfl
    exact fun key hk hk' => hne ((hname hk).trans (hname hk').symm)

/-- No half-wired container: in a container that has started, every injection point has been served
exactly once, in the order of the components and of their methods. -/
theorem bootstrap_serves_each_point_once (c : Catalog) (i : Instances) {x : Context} {s : Stage}
    (hnames : ∀ d ∈ c.components, (d.descriptor.autowireMethods.map (·.name)).Nodup)
    (h : (bootstrap c).exec { instances := i } = (.ok x, s)) :
    (c.injectionPoints.map fun p => (p.component.name, p.method.name)).Nodup ∧
      ∃ log, s.instances.injections = i.injections ++ log ∧
        List.Forall₂ (x.Served s) c.injectionPoints log := by
  obtain ⟨log, hstarted⟩ := (bootstrap_yields c i).post_of_exec h
  exact ⟨Catalog.nodup_injectionPoints hnames, log, hstarted.wired.stocked.stands.injections,
    hstarted.served⟩

/-- Two components that ask for each other and for one repository. The first asks for itself too. -/
def mutualCatalog : Catalog :=
  .addAll .empty
    [{ descriptor := { type := ⟨"Root", "Root"⟩, kind := .interface, tags := [.repository] } },
     { descriptor :=
        { type := ⟨"Store", "Store"⟩, kind := .concrete, interfaces := [⟨"Root", "Root"⟩] }
       constructor := some (.ok .repository)
       repositoryTarget := some fun b => some b.object },
     { descriptor :=
        { type := ⟨"Note", "Note"⟩
          kind := .concrete
          tags := [.table "notes"]
          fields := [⟨"id", [.id, .column "id"]⟩] } },
     { descriptor :=
        { type := ⟨"Notes", "Notes"⟩
          kind := .interface
          interfaces := [⟨"Root", "Root"⟩]
          typeArguments := [⟨"i32", "i32"⟩, ⟨"Note", "Note"⟩] }
       proxyFactory := some "Notes" },
     { descriptor :=
        { type := ⟨"A", "A"⟩
          kind := .concrete
          tags := [.component]
          methods :=
            [⟨"b", [⟨"B", "B"⟩], [.autowire]⟩, ⟨"notes", [⟨"Notes", "Notes"⟩], [.autowire]⟩,
             ⟨"self", [⟨"A", "A"⟩], [.autowire]⟩] }
       constructor := some (.ok (.service "A"))
       injectors :=
        [("b", ⟨0, fun _ _ => .ok ()⟩), ("notes", ⟨1, fun _ _ => .ok ()⟩),
         ("self", ⟨2, fun _ _ => .ok ()⟩)] },
     { descriptor :=
        { type := ⟨"B", "B"⟩
          kind := .concrete
          tags := [.component]
          methods :=
            [⟨"a", [⟨"A", "A"⟩], [.autowire]⟩, ⟨"notes", [⟨"Notes", "Notes"⟩], [.autowire]⟩] }
       constructor := some (.ok (.service "B"))
       injectors := [("a", ⟨0, fun _ _ => .ok ()⟩), ("notes", ⟨1, fun _ _ => .ok ()⟩)] }]

theorem bootstrap_serves_each_point_once_mutual : ∃ x s,
    (∀ d ∈ mutualCatalog.components, (d.descriptor.autowireMethods.map (·.name)).Nodup) ∧
    (bootstrap mutualCatalog).exec { instances := {} } = (.ok x, s) ∧
    (mutualCatalog.injectionPoints.map fun p => (p.component.name, p.method.name)).Nodup ∧
    ∃ log, s.instances.injections = [] ++ log ∧
      List.Forall₂ (x.Served s) mutualCatalog.injectionPoints log := by
  have hnames : ∀ d ∈ mutualCatalog.components,
      (d.descriptor.autowireMethods.map (·.name)).Nodup := by decide
  have hfault : mutualCatalog.firstFault? 0 = none := by cbv
  obtain ⟨x, s, h⟩ := (bootstrap_yields mutualCatalog {}).exists_ok_iff.2 hfault
  exact ⟨x, s, hnames, h, bootstrap_serves_each_point_once mutualCatalog {} hnames h⟩

end BeanKit
