import BeanKit.Proofs.Container.BeanSet
import Mathlib
/-! # Wiring stops where it fails

Wiring comes to a component, looks its bean up, and serves its injection points, one after the other. The
first place that it cannot pass ends it. What has been injected in front of this place stays injected,
and nothing behind it is looked at. Nothing is asked here of the registry, the bindings or the cache that
wiring is given: components may be missing, and bindings may lead nowhere. -/

namespace BeanKit

namespace Wiring

variable {c : Catalog} {bindings : Bindings} {s t u : Stage}

/-! ## Places -/

/-- A place that wiring comes to: a component, whose bean it looks up, or an injection point, which it
serves. -/
inductive Place where
  | component (d : Definition)
  | point (p : InjectionPoint)

/-- The injection point that a place is. -/
def Place.point? : Place → Option InjectionPoint
  | .component _ => none
  | .point p => some p

/-- The places of a component: the component itself, and then its injection points as declared. -/
def placesOf (d : Definition) : List Place := .component d :: d.injectionPoints.map .point

/-- The places of a catalog: those of its components, in order. -/
def places (c : Catalog) : List Place := c.components.flatMap placesOf

/-- The injection points among places. -/
def points (ps : List Place) : List InjectionPoint := ps.filterMap Place.point?

theorem points_append (ps qs : List Place) : points (ps ++ qs) = points ps ++ points qs :=
  List.filterMap_append

theorem points_map_point (ps : List InjectionPoint) : points (ps.map .point) = ps := by
  rw [points, List.filterMap_map]
  exact List.filterMap_some

theorem points_placesOf (d : Definition) : points (placesOf d) = d.injectionPoints :=
  points_map_point d.injectionPoints

theorem points_places (c : Catalog) : points (places c) = c.injectionPoints := by
  rw [points, places, List.filterMap_flatMap]
  exact List.flatMap_congr fun d _ => points_placesOf d

/-! ## What happens at a place -/

section Meets

variable (c : Catalog) (bindings : Bindings)

/-- The bean that a dependency is resolved to, and the stage that this leaves: the bean that the name
has, or else, where it is bound, its new proxy. -/
inductive Finds (s : Stage) (name : String) : Bean → Stage → Prop
  | registered {b : Bean} (hb : s.registry.get? name = some b) : Finds s name b s
  | built {implementation : String} {b : Bean} (hbound : bindings.get? name = some implementation)
    (hfree : s.registry.get? name = none) (hproxy : c.proxyFrom s name implementation = .ok b) :
    Finds s name b (((c.buildProxy name implementation).exec (s.reserve name)).2.fill name b)

/-- An injection point asks for one dependency, and there is a setter for it. -/
structure Asks (p : InjectionPoint) (dependency : TypeRef) (injector : Injector) : Prop where
  parameters : p.method.parameters = [dependency]
  injector : p.component.injector? p.method.name = some injector

/-- How wiring leaves a place that it comes to, and the stage then. -/
inductive Meets (s : Stage) : Place → Except ContainerError Unit → Stage → Prop
  /-- The component has its bean. -/
  | found {d : Definition} {b : Bean} (hb : s.registry.get? d.name = some b) :
    Meets s (.component d) (.ok ()) s
  /-- The component has no bean. -/
  | missing {d : Definition} (hfree : s.registry.get? d.name = none) :
    Meets s (.component d) (.error (.notRegistered d.name)) s
  /-- The method has no parameter, or more than one. -/
  | miscounted {p : InjectionPoint} (hcount : p.method.parameters.length ≠ 1) :
    Meets s (.point p) (.error (.wiring p.component.name p.method.name
      (.parameterCount p.method.parameters.length))) s
  /-- There is no setter for the method. -/
  | setterless {p : InjectionPoint} {dependency : TypeRef}
    (hone : p.method.parameters = [dependency])
    (hnone : p.component.injector? p.method.name = none) :
    Meets s (.point p) (.error (.wiring p.component.name p.method.name .noInjector)) s
  /-- The dependency is bound, but its proxy cannot be built. -/
  | unbuilt {p : InjectionPoint} {dependency : TypeRef} {injector : Injector}
    {implementation : String} {e : ContainerError} (hasks : Asks p dependency injector)
    (hbound : bindings.get? dependency.name = some implementation)
    (hfree : s.registry.get? dependency.name = none)
    (hproxy : c.proxyFrom s dependency.name implementation = .error e) :
    Meets s (.point p) (.error e)
      ((c.buildProxy dependency.name implementation).exec (s.reserve dependency.name)).2
  /-- The dependency is neither bound nor registered. -/
  | unsatisfied {p : InjectionPoint} {dependency : TypeRef} {injector : Injector}
    (hasks : Asks p dependency injector) (hunbound : bindings.get? dependency.name = none)
    (hfree : s.registry.get? dependency.name = none) :
    Meets s (.point p) (.error (.unsatisfiedDependency p.component.name dependency.name)) s
  /-- The setter refuses the dependency. -/
  | refused {p : InjectionPoint} {dependency : TypeRef} {injector : Injector} {target value : Bean}
    {t : Stage} {e : ContainerError} (hasks : Asks p dependency injector)
    (htarget : s.registry.get? p.component.name = some target)
    (hvalue : Finds c bindings s dependency.name value t)
    (haccept : injector.accept target value = .error e) : Meets s (.point p) (.error e) t
  /-- The setter takes the dependency. -/
  | served {p : InjectionPoint} {dependency : TypeRef} {injector : Injector} {target value : Bean}
    {t : Stage} (hasks : Asks p dependency injector)
    (htarget : s.registry.get? p.component.name = some target)
    (hvalue : Finds c bindings s dependency.name value t)
    (haccept : injector.accept target value = .ok ()) :
    Meets s (.point p) (.ok ())
      { t with instances := t.instances.inject ⟨target.object, injector.slot, value⟩ }

/-- Places are passed one after the other. -/
inductive Passes : Stage → List Place → Stage → Prop
  | nil {s : Stage} : Passes s [] s
  | cons {s t u : Stage} {place : Place} {rest : List Place} (h : Meets c bindings s place (.ok ()) t)
    (hrest : Passes t rest u) : Passes s (place :: rest) u

/-- How wiring leaves a row of places, when it has counted so far: it passes them all and counts the
injection points among them, or it does not get past one of them. -/
inductive Goes (s : Stage) (count : Nat) (ps : List Place) : Except ContainerError Nat → Stage → Prop
  | through {t : Stage} (h : Passes c bindings s ps t) : Goes s count ps (.ok (count + (points ps).length)) t
  | stopped {before after : List Place} {place : Place} {u t : Stage} {e : ContainerError}
    (hps : ps = before ++ place :: after) (h : Passes c bindings s before u)
    (hstop : Meets c bindings u place (.error e) t) : Goes s count ps (.error e) t

end Meets

/-! ## Wiring goes from place to place -/

theorem Passes.append {ps qs : List Place} (h : Passes c bindings s ps t)
    (h' : Passes c bindings t qs u) : Passes c bindings s (ps ++ qs) u := by
  induction h with
  | nil => exact h'
  | cons hplace _ ih => exact .cons hplace (ih h')

/-- Wiring goes on behind places that it has passed. -/
theorem Goes.behind {ps qs : List Place} {count : Nat} {r : Except ContainerError Nat}
    (h : Passes c bindings s ps t) (h' : Goes c bindings t (count + (points ps).length) qs r u) :
    Goes c bindings s count (ps ++ qs) r u := by
  cases h' with
  | through hqs =>
    rw [Nat.add_assoc, ← List.length_append, ← points_append]
    exact .through (h.append hqs)
  | @stopped before after place _ _ _ hqs hbefore hstop =>
    have hplaces : ps ++ qs = (ps ++ before) ++ place :: after := by rw [hqs, List.append_assoc]
    exact .stopped hplaces (h.append hbefore) hstop

/-- Where wiring has stopped, nothing that is still to come matters. -/
theorem Goes.stays {ps : List Place} {count : Nat} {e : ContainerError}
    (h : Goes c bindings s count ps (.error e) t) (qs : List Place) :
    Goes c bindings s count (ps ++ qs) (.error e) t := by
  cases h with
  | @stopped before after place _ _ _ hps hbefore hstop =>
    have hplaces : ps ++ qs = before ++ place :: (after ++ qs) := by
      rw [hps, List.append_assoc, List.cons_append]
    exact .stopped hplaces hbefore hstop

/-- A bound dependency is resolved to its bean, or to what building its proxy answers. -/
theorem exec_resolveDependency_of_bound {component dependency implementation : String}
    (hbound : bindings.get? dependency = some implementation) :
    (resolveDependency c bindings component dependency).exec s =
      match s.registry.get? dependency with
      | some b => (.ok b, s)
      | none =>
        match (c.buildProxy dependency implementation).exec (s.reserve dependency) with
        | (.ok b, t) => (.ok b, t.fill dependency b)
        | (.error e, t) => (.error e, t) := by
  rw [resolveDependency, hbound]
  exact Build.exec_getOrCreate ..

/-- A dependency that is not bound is resolved to its bean. -/
theorem exec_resolveDependency_of_unbound {component dependency : String}
    (hunbound : bindings.get? dependency = none) :
    (resolveDependency c bindings component dependency).exec s =
      match s.registry.get? dependency with
      | some b => (.ok b, s)
      | none => (.error (.unsatisfiedDependency component dependency), s) := by
  rw [resolveDependency, hunbound]
  simp only [Build.exec_bind, Build.exec_get]
  cases s.registry.get? dependency <;> rfl

/-- Wiring leaves an injection point as it is described, given the bean of its component. -/
theorem wireMethod_meets {d : Definition} {target : Bean}
    (htarget : s.registry.get? d.name = some target) (m : Method) :
    Meets c bindings s (.point ⟨d, m⟩) ((wireMethod c bindings d target m).exec s).1
      ((wireMethod c bindings d target m).exec s).2 := by
  unfold wireMethod
  split
  · rename_i dependency hparameters
    cases hinjector : d.injector? m.name with
    | none => exact .setterless (p := ⟨d, m⟩) hparameters hinjector
    | some injector =>
      have hasks : Asks ⟨d, m⟩ dependency injector := ⟨hparameters, hinjector⟩
      -- Once the dependency is found, it is the setter's turn, at whatever stage that is.
      have hgiven {value : Bean} {t : Stage} (hvalue : Finds c bindings s dependency.name value t) :
          Meets c bindings s (.point ⟨d, m⟩) ((injector.run target value).exec t).1
            ((injector.run target value).exec t).2 := by
        unfold Injector.run
        cases haccept : injector.accept target value with
        | error e => exact .refused hasks htarget hvalue haccept
        | ok _ => exact .served hasks htarget hvalue haccept
      simp only [Build.exec_bind]
      cases hbound : bindings.get? dependency.name with
      | none =>
        rw [exec_resolveDependency_of_unbound hbound]
        cases hreg : s.registry.get? dependency.name with
        | some b => exact hgiven (.registered hreg)
        | none => exact .unsatisfied hasks hbound hreg
      | some implementation =>
        rw [exec_resolveDependency_of_bound hbound]
        cases hreg : s.registry.get? dependency.name with
        | some b => exact hgiven (.registered hreg)
        | none =>
          have hanswer := (buildProxy_answers_proxyFrom c (s.reserve dependency.name)
            dependency.name implementation).answer
          have hfinds b := Finds.built (c := c) (b := b) hbound hreg
          have hunbuilt e := Meets.unbuilt (c := c) (e := e) hasks hbound hreg
          rcases hexec : (c.buildProxy dependency.name implementation).exec
            (s.reserve dependency.name) with ⟨e | b, t⟩
          · rw [hexec] at hanswer hunbuilt
            exact hunbuilt e hanswer.symm
          · rw [hexec] at hanswer hfinds
            exact hgiven (hfinds b hanswer.symm)
  · rename_i hparameters
    refine .miscounted (p := ⟨d, m⟩) fun hlength => ?_
    obtain ⟨dependency, hone⟩ := List.length_eq_one_iff.1 hlength
    exact hparameters dependency hone

/-! ## What a place changes -/

theorem buildProxy_leaves (c : Catalog) (s : Stage) (interface implementation : String) :
    ((c.buildProxy interface implementation).exec s).2.registry = s.registry ∧
      ((c.buildProxy interface implementation).exec s).2.instances.injections =
        s.instances.injections := by
  have hkeeps : (c.buildProxy interface implementation).Ensures
      (fun t => t.registry = s.registry ∧ t.instances.injections = s.instances.injections)
      fun _ => True :=
    c.ensures_buildProxy (fun _ _ ht => ht) (fun _ _ ht => ht) (fun _ _ _ ht => ht) _ _
  exact (hkeeps s ⟨rfl, rfl⟩).1

/-- The name is that of the one parameter of an injection point. -/
def AskedBy (ps : List InjectionPoint) (name : String) : Prop :=
  ∃ p ∈ ps, ∃ dependency, p.method.parameters = [dependency] ∧ dependency.name = name

section Adds

variable (c : Catalog) (bindings : Bindings)

/-- From one stage to another no name has lost its bean or been given another, and only bound
interfaces that injection points ask for have been given one: their proxies. -/
structure AddsOnly (ps : List InjectionPoint) (s t : Stage) : Prop where
  kept : ∀ name b, s.registry.get? name = some b → t.registry.get? name = some b
  added : ∀ name b, t.registry.get? name = some b → s.registry.get? name = some b ∨
    AskedBy ps name ∧ ∃ implementation u, bindings.get? name = some implementation ∧
      c.proxyFrom u name implementation = .ok b

/-- An entry of the record tells how an injection point was served: its setter took, on the bean of the
component, the bean of the dependency. -/
def Tells (t : Stage) (p : InjectionPoint) (entry : Injection) : Prop :=
  ∃ dependency injector target value, Asks p dependency injector ∧
    t.registry.get? p.component.name = some target ∧
    t.registry.get? dependency.name = some value ∧ injector.accept target value = .ok () ∧
    entry = ⟨target.object, injector.slot, value⟩

/-- From one stage to another the injection points have been served, once each and in order, and
nothing else has been injected. -/
def Injected (ps : List InjectionPoint) (s t : Stage) : Prop :=
  ∃ log, t.instances.injections = s.instances.injections ++ log ∧ List.Forall₂ (Tells t) ps log

end Adds

theorem AskedBy.mono {ps qs : List InjectionPoint} {name : String} (h : AskedBy ps name)
    (hps : ps ⊆ qs) : AskedBy qs name := by
  obtain ⟨p, hp, hdependency⟩ := h
  exact ⟨p, hps hp, hdependency⟩

section Effects

variable {ps qs : List InjectionPoint}

theorem AddsOnly.of_registry (h : ∀ name, t.registry.get? name = s.registry.get? name) :
    AddsOnly c bindings ps s t where
  kept _ _ hb := by rw [h, hb]
  added _ _ hb := .inl (by rw [← h, hb])

theorem AddsOnly.trans (h : AddsOnly c bindings ps s t) (h' : AddsOnly c bindings qs t u) :
    AddsOnly c bindings (ps ++ qs) s u where
  kept name b hb := h'.kept name b (h.kept name b hb)
  added name b hb := by
    rcases h'.added name b hb with hb | ⟨hasked, hproxy⟩
    · rcases h.added name b hb with hb | ⟨hasked, hproxy⟩
      · exact .inl hb
      · exact .inr ⟨hasked.mono (List.subset_append_left ..), hproxy⟩
    · exact .inr ⟨hasked.mono (List.subset_append_right ..), hproxy⟩

theorem Injected.nil (h : t.instances.injections = s.instances.injections) : Injected [] s t :=
  ⟨[], by rw [h, List.append_nil], .nil⟩

/-- What was served before is told by the same entries later on, since every name keeps its bean. -/
theorem Injected.trans (h : Injected ps s t)
    (hkept : ∀ name b, t.registry.get? name = some b → u.registry.get? name = some b)
    (h' : Injected qs t u) : Injected (ps ++ qs) s u := by
  obtain ⟨log, hlog, hserved⟩ := h
  obtain ⟨log', hlog', hserved'⟩ := h'
  refine ⟨log ++ log', by rw [hlog', hlog, List.append_assoc], ?_⟩
  refine List.rel_append (hserved.imp ?_) hserved'
  rintro p entry ⟨dependency, injector, target, value, hasks, htarget, hvalue, hrest⟩
  exact ⟨dependency, injector, target, value, hasks, hkept _ _ htarget, hkept _ _ hvalue, hrest⟩

end Effects

/-- Resolving a dependency injects nothing. -/
theorem Finds.injections {name : String} {b : Bean} (h : Finds c bindings s name b t) :
    t.instances.injections = s.instances.injections := by
  cases h with
  | registered hb => rfl
  | built hbound hfree hproxy => exact (buildProxy_leaves c (s.reserve name) name _).2

theorem Finds.get? {name : String} {b : Bean} (h : Finds c bindings s name b t) :
    t.registry.get? name = some b := by
  cases h with
  | registered hb => exact hb
  | built hbound hfree hproxy =>
    rw [Stage.fill, Registry.get?_fill, (buildProxy_leaves c (s.reserve name) name _).1,
      Stage.reserve, Registry.get?_reserve, hfree, if_pos rfl, Option.none_or]

/-- Resolving the dependency of an injection point adds its proxy at most. -/
theorem Finds.addsOnly {p : InjectionPoint} {dependency : TypeRef} {injector : Injector} {b : Bean}
    (h : Finds c bindings s dependency.name b t) (hasks : Asks p dependency injector) :
    AddsOnly c bindings [p] s t := by
  cases h with
  | registered hb => exact .of_registry fun _ => rfl
  | @built implementation _ hbound hfree hproxy =>
    have hregistry := (buildProxy_leaves c (s.reserve dependency.name) dependency.name
      implementation).1
    constructor
    · intro name b' hb'
      rw [Stage.fill, Registry.get?_fill, hregistry, Stage.reserve, Registry.get?_reserve, hb',
        Option.some_or]
    · intro name b' hb'
      rw [Stage.fill, Registry.get?_fill_eq_some_iff, hregistry, Stage.reserve,
        Registry.get?_reserve] at hb'
      rcases hb' with hb' | ⟨-, rfl, rfl⟩
      · exact .inl hb'
      · exact .inr ⟨⟨p, List.mem_singleton_self p, dependency, hasks.parameters, rfl⟩,
          implementation, s, hbound, hproxy⟩

/-- A place, passed or not, adds the proxy of its dependency at most. -/
theorem Meets.addsOnly {place : Place} {r : Except ContainerError Unit}
    (h : Meets c bindings s place r t) : AddsOnly c bindings (points [place]) s t := by
  cases h with
  | found hb => exact .of_registry fun _ => rfl
  | missing hfree => exact .of_registry fun _ => rfl
  | miscounted hcount => exact .of_registry fun _ => rfl
  | setterless hone hnone => exact .of_registry fun _ => rfl
  | @unbuilt p dependency injector implementation e hasks hbound hfree hproxy =>
    refine .of_registry fun name => ?_
    rw [(buildProxy_leaves c (s.reserve dependency.name) dependency.name implementation).1]
    exact s.registry.get?_reserve dependency.name name
  | unsatisfied hasks hunbound hfree => exact .of_registry fun _ => rfl
  | refused hasks htarget hvalue haccept => exact hvalue.addsOnly hasks
  | served hasks htarget hvalue haccept =>
    have hadds := hvalue.addsOnly hasks
    exact ⟨hadds.kept, hadds.added⟩

theorem Meets.injected_of_error {place : Place} {e : ContainerError}
    (h : Meets c bindings s place (.error e) t) : Injected [] s t := by
  cases h with
  | missing hfree => exact .nil rfl
  | miscounted hcount => exact .nil rfl
  | setterless hone hnone => exact .nil rfl
  | @unbuilt p dependency injector implementation e hasks hbound hfree hproxy =>
    exact .nil (buildProxy_leaves c (s.reserve dependency.name) dependency.name implementation).2
  | unsatisfied hasks hunbound hfree => exact .nil rfl
  | refused hasks htarget hvalue haccept => exact .nil hvalue.injections

theorem Meets.injected_of_ok {place : Place} (h : Meets c bindings s place (.ok ()) t) :
    Injected (points [place]) s t := by
  cases h with
  | found hb => exact .nil rfl
  | @served p dependency injector target value u hasks htarget hvalue haccept =>
    refine ⟨[⟨target.object, injector.slot, value⟩], ?_, .cons ?_ .nil⟩
    · rw [Instances.inject, hvalue.injections]
    · exact ⟨dependency, injector, target, value, hasks,
        (hvalue.addsOnly hasks).kept _ _ htarget, hvalue.get?, haccept, rfl⟩

theorem Passes.addsOnly {ps : List Place} (h : Passes c bindings s ps t) :
    AddsOnly c bindings (points ps) s t := by
  induction h with
  | nil => exact .of_registry fun _ => rfl
  | @cons s t u place rest hplace hrest ih =>
    rw [← List.singleton_append, points_append]
    exact hplace.addsOnly.trans ih

/-- Places that have been passed have had their injection points served. The induction is on the places;
what the first of them recorded is told by the last stage too. -/
theorem Passes.injected {ps : List Place} (h : Passes c bindings s ps t) :
    Injected (points ps) s t := by
  induction h with
  | nil => exact .nil rfl
  | @cons s t u place rest hplace hrest ih =>
    rw [← List.singleton_append, points_append]
    exact hplace.injected_of_ok.trans hrest.addsOnly.kept ih

/-- A component that has been passed has its bean. -/
theorem Passes.found {ps : List Place} (h : Passes c bindings s ps t) {d : Definition}
    (hd : .component d ∈ ps) : ∃ b, t.registry.get? d.name = some b := by
  induction h with
  | nil => cases hd
  | @cons s t u place rest hplace hrest ih =>
    rcases List.mem_cons.1 hd with rfl | hd
    · cases hplace with
      | @found _ b hb => exact ⟨b, hrest.addsOnly.kept _ _ hb⟩
    · exact ih hd

/-! ## The methods of a component, and the components -/

theorem goes_wireMethods {d : Definition} {target : Bean}
    (htarget : s.registry.get? d.name = some target) {ms : List Method} {count : Nat}
    {r : Except ContainerError Nat} (h : (wireMethods c bindings d target count ms).exec s = (r, t)) :
    Goes c bindings s count ((ms.map (InjectionPoint.mk d)).map .point) r t := by
  induction ms generalizing s count with
  | nil =>
    cases h
    exact .through .nil
  | cons m rest ih =>
    have hmeets : Meets c bindings s (.point ⟨d, m⟩) _ _ := wireMethod_meets htarget m
    rw [wireMethods, Build.exec_bind] at h
    rw [List.map_cons, List.map_cons]
    rcases hexec : (wireMethod c bindings d target m).exec s with ⟨e | ⟨⟩, u⟩
    · rw [hexec] at h hmeets
      cases h
      exact .stopped (List.nil_append _).symm .nil hmeets
    · rw [hexec] at h hmeets
      have hpassed : Passes c bindings s [.point ⟨d, m⟩] u := .cons hmeets .nil
      rw [← List.singleton_append]
      exact .behind hpassed (ih (hmeets.addsOnly.kept _ _ htarget) h)

theorem exec_wireComponents_cons (d : Definition) (rest : List Definition) (count : Nat) :
    (wireComponents c bindings count (d :: rest)).exec s =
      match s.registry.get? d.name with
      | none => (.error (.notRegistered d.name), s)
      | some target =>
        match (wireMethods c bindings d target count d.descriptor.autowireMethods).exec s with
        | (.ok n, t) => (wireComponents c bindings n rest).exec t
        | (.error e, t) => (.error e, t) := by
  rw [wireComponents]
  simp only [Build.exec_bind, Build.exec_get]
  cases s.registry.get? d.name with
  | none => rfl
  | some target =>
    dsimp only
    rw [Build.exec_bind]
    rcases (wireMethods c bindings d target count d.descriptor.autowireMethods).exec s with
      ⟨e | n, t⟩
    · rfl
    · rfl

theorem goes_wireComponents {ds : List Definition} {count : Nat} {r : Except ContainerError Nat}
    (h : (wireComponents c bindings count ds).exec s = (r, t)) :
    Goes c bindings s count (ds.flatMap placesOf) r t := by
  induction ds generalizing s count with
  | nil =>
    cases h
    exact .through .nil
  | cons d rest ih =>
    rw [exec_wireComponents_cons] at h
    rw [List.flatMap_cons]
    cases htarget : s.registry.get? d.name with
    | none =>
      rw [htarget] at h
      cases h
      exact .stopped (List.nil_append _).symm .nil (.missing htarget)
    | some target =>
      rw [htarget] at h
      -- The component itself is a place that has been passed, in front of its injection points.
      have hown {n : Except ContainerError Nat} {u : Stage}
          (hexec : (wireMethods c bindings d target count d.descriptor.autowireMethods).exec s =
            (n, u)) : Goes c bindings s count (placesOf d) n u := by
        have hpassed : Passes c bindings s [.component d] s := .cons (.found htarget) .nil
        rw [placesOf, ← List.singleton_append]
        exact .behind hpassed (goes_wireMethods htarget hexec)
      rcases hexec : (wireMethods c bindings d target count d.descriptor.autowireMethods).exec s with
        ⟨e | n, u⟩
      · simp only [hexec] at h
        cases h
        exact (hown hexec).stays _
      · simp only [hexec] at h
        cases hown hexec with
        | through hpassed => exact .behind hpassed (ih h)

/-- How many injection points the components have. -/
theorem length_injectionPoints (c : Catalog) : c.injectionPoints.length =
    (c.components.map fun d => d.descriptor.autowireMethods.length).sum := by
  rw [Catalog.injectionPoints, List.length_flatMap]
  simp only [Definition.injectionPoints, List.length_map]

/-- Wiring that succeeds has found a bean for every component, has served every injection point, once
and in order, and tells how many there are. Wiring that fails does so at one place: all places in front
of it have been passed, their injection points have been served, once and in order, and nothing else has
been injected; and the error is that of the place. Either way every name keeps its bean, and what has
been added are proxies of bound interfaces for which a place asks that wiring has come to. -/
theorem wireAll_stops_where_it_fails (c : Catalog) (bindings : Bindings) (s : Stage) :
    match (wireAll c bindings).exec s with
    | (.ok n, t) =>
      n = (c.components.map fun d => d.descriptor.autowireMethods.length).sum ∧
      (∀ d ∈ c.components, ∃ b, t.registry.get? d.name = some b) ∧
      Injected c.injectionPoints s t ∧ AddsOnly c bindings c.injectionPoints s t
    | (.error e, t) =>
      ∃ before place after u, places c = before ++ place :: after ∧
        Passes c bindings s before u ∧ Meets c bindings u place (.error e) t ∧
        (∀ d, .component d ∈ before → ∃ b, t.registry.get? d.name = some b) ∧
        Injected (points before) s t ∧ AddsOnly c bindings (points (before ++ [place])) s t := by
  rcases hexec : (wireAll c bindings).exec s with ⟨e | n, t⟩
  · cases goes_wireComponents hexec with
    | @stopped before after place u _ _ hplaces hbefore hstop =>
      refine ⟨before, place, after, u, hplaces, hbefore, hstop, ?_, ?_, ?_⟩
      · intro d hd
        obtain ⟨b, hb⟩ := hbefore.found hd
        exact ⟨b, hstop.addsOnly.kept _ _ hb⟩
      · have hinjected := hbefore.injected.trans hstop.addsOnly.kept hstop.injected_of_error
        rwa [List.append_nil] at hinjected
      · rw [points_append]
        exact hbefore.addsOnly.trans hstop.addsOnly
  · cases goes_wireComponents hexec with
    | through h =>
      change Passes c bindings s (places c) t at h
      rw [← length_injectionPoints, ← points_places c, ← places, Nat.zero_add]
      refine ⟨rfl, fun d hd => ?_, h.injected, h.addsOnly⟩
      exact h.found (List.mem_flatMap.2 ⟨d, hd, List.mem_cons_self⟩)

/-- A stage at which the first component of the lending catalog has its bean, and the second has none. -/
def halfStockedStage : Stage :=
  { instances := { objects := [⟨"A", .service "A"⟩] }
    registry := ⟨⟨[("A", some ⟨.component "A", ⟨0⟩⟩)], by decide⟩⟩ }

/-- The one binding that the components of the lending catalog ask for. -/
def notesBinding : Bindings := ⟨[("Notes", "Store")], by decide⟩

theorem wireAll_stops_where_it_fails_half_stocked : ∃ t before place after u,
    (wireAll lendingCatalog notesBinding).exec halfStockedStage = (.error (.notRegistered "B"), t) ∧
    t.instances.injections = [⟨⟨0⟩, 0, ⟨.interface "Notes", ⟨2⟩⟩⟩] ∧
    t.registry.get? "Notes" = some ⟨.interface "Notes", ⟨2⟩⟩ ∧
    places lendingCatalog = before ++ place :: after ∧
    Passes lendingCatalog notesBinding halfStockedStage before u ∧
    Meets lendingCatalog notesBinding u place (.error (.notRegistered "B")) t ∧
    Injected (points before) halfStockedStage t ∧
    AddsOnly lendingCatalog notesBinding (points (before ++ [place])) halfStockedStage t := by
  have herror : ((wireAll lendingCatalog notesBinding).exec halfStockedStage).1 =
      .error (.notRegistered "B") := by cbv
  have hinjections : ((wireAll lendingCatalog notesBinding).exec
      halfStockedStage).2.instances.injections = [⟨⟨0⟩, 0, ⟨.interface "Notes", ⟨2⟩⟩⟩] := by cbv
  have hproxy : ((wireAll lendingCatalog notesBinding).exec
      halfStockedStage).2.registry.get? "Notes" = some ⟨.interface "Notes", ⟨2⟩⟩ := by cbv
  have hstops := wireAll_stops_where_it_fails lendingCatalog notesBinding halfStockedStage
  rcases hexec : (wireAll lendingCatalog notesBinding).exec halfStockedStage with ⟨r, t⟩
  rw [hexec] at herror hinjections hproxy hstops
  subst herror
  obtain ⟨before, place, after, u, hplaces, hpassed, hstop, -, hinjected, hadded⟩ := hstops
  exact ⟨t, before, place, after, u, rfl, hinjections, hproxy, hplaces, hpassed, hstop, hinjected,
    hadded⟩

end Wiring
end BeanKit
