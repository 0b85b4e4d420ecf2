import BeanKit.Proofs.Container.Kept
import Mathlib.Logic.Relation
/-! # A start that goes well, change by change

A start that does not fail is a row of changes of four kinds: a component is made, an interface without
a root is lent a bean, a bound interface is given its proxy, and an injection is recorded. What each of
these changes keeps holds where the start ends. -/

namespace BeanKit

open Relation

namespace Build

variable {α β : Type} {s t : Stage}

/-- A sequence that answers is made of steps that answer. -/
theorem exec_bind_eq_ok_iff {act : Build α} {f : α → Build β} {b : β} :
    (act >>= f).exec s = (.ok b, t) ↔
      ∃ a u, act.exec s = (.ok a, u) ∧ (f a).exec u = (.ok b, t) := by
  rw [exec_bind]
  rcases act.exec s with ⟨e | a, u⟩
  · simp
  · constructor
    · exact fun h => ⟨a, u, rfl, h⟩
    · rintro ⟨a', u', he, h⟩
      cases he
      exact h

theorem exec_pure_eq_ok_iff {a b : α} :
    (pure a : Build α).exec s = (.ok b, t) ↔ a = b ∧ s = t := by
  rw [exec_pure, Prod.mk.injEq, Except.ok.injEq]

theorem exec_lift_eq_ok_iff {r : Except ContainerError α} {a : α} :
    (liftM r : Build α).exec s = (.ok a, t) ↔ r = .ok a ∧ s = t := by
  rw [exec_lift, Prod.mk.injEq]

theorem exec_metadata_eq_ok {d : Descriptor} {m : Metadata}
    (h : (metadata d).exec s = (.ok m, t)) :
    ∃ shared cache, s.cache.resolve d = (.ok shared, cache) ∧ shared.metadata = m ∧
      t = { s with cache } := by
  rw [exec_metadata] at h
  rcases hr : s.cache.resolve d with ⟨e | shared, cache⟩
  · rw [hr] at h
    cases h
  · rw [hr] at h
    cases h
    exact ⟨shared, cache, rfl, rfl, rfl⟩

end Build

theorem Definition.instantiate_eq_ok {d : Definition} {s t : Stage} {b : Bean}
    (h : d.instantiate.exec s = (.ok b, t)) :
    ∃ blueprint, d.blueprint = .ok blueprint ∧
      b = ⟨.component blueprint.type, ⟨s.instances.objects.length⟩⟩ ∧
      t = { s with instances := (s.instances.make ⟨d.name, blueprint.nature⟩).2 } := by
  unfold instantiate at h
  cases hb : d.blueprint with
  | error e =>
    rw [hb] at h
    cases h
  | ok blueprint =>
    rw [hb] at h
    cases h
    exact ⟨blueprint, rfl, rfl, rfl⟩

/-! ## A proxy that is built -/

/-- What a build that goes well finds and leaves: the entity of the interface with its metadata, a new
repository that is bound to them, and behind it the proxy. -/
inductive Catalog.Builds (c : Catalog) (d servant : Definition) (s : Stage) : Bean → Stage → Prop where
  | proxy {entity : Definition} {shared : SharedMetadata} {cache : MetadataCache}
    {blueprint : Blueprint} {target : ObjectId} {shownAs : String}
    (hentity : c.entityOf d = .ok entity)
    (hm : s.cache.resolve entity.descriptor = (.ok shared, cache))
    (hblueprint : servant.blueprint = .ok blueprint)
    (htarget : servant.repositoryTarget.bind
      (· ⟨.component blueprint.type, ⟨s.instances.objects.length⟩⟩) = some target)
    (hfactory : d.proxyFactory = some shownAs) :
    c.Builds d servant s ⟨.interface shownAs, ⟨s.instances.objects.length + 1⟩⟩
      { s with
        cache
        instances := (((s.instances.make ⟨servant.name, blueprint.nature⟩).2.bind target
          shared.metadata).make ⟨d.name, .proxy shownAs target shared.metadata⟩).2 }

variable {c : Catalog} {d servant : Definition} {s t u : Stage} {b : Bean}

theorem Catalog.Builds.registry (h : c.Builds d servant s b t) : t.registry = s.registry := by
  cases h
  rfl

theorem builds_of_exec (hd : c.get? d.name = some d) (hs : c.get? servant.name = some servant)
    (h : (c.buildProxy d.name servant.name).exec s = (.ok b, t)) : c.Builds d servant s b t := by
  unfold Catalog.buildProxy at h
  rw [Catalog.require_of_get? hd, Catalog.require_of_get? hs, Build.lift_ok_bind,
    Build.lift_ok_bind] at h
  obtain ⟨entity, _, hfound, h⟩ := Build.exec_bind_eq_ok_iff.1 h
  obtain ⟨hentity, rfl⟩ := Build.exec_lift_eq_ok_iff.1 hfound
  obtain ⟨m, _, hread, h⟩ := Build.exec_bind_eq_ok_iff.1 h
  obtain ⟨shared, cache, hm, rfl, rfl⟩ := Build.exec_metadata_eq_ok hread
  obtain ⟨made, _, hmade, h⟩ := Build.exec_bind_eq_ok_iff.1 h
  obtain ⟨blueprint, hblueprint, rfl, rfl⟩ := Definition.instantiate_eq_ok hmade
  split at h
  · cases h
  · rename_i target htarget
    obtain ⟨_, _, hbind, h⟩ := Build.exec_bind_eq_ok_iff.1 h
    cases hbind
    split at h
    · cases h
    · rename_i shownAs hfactory
      rw [Build.exec_bind, exec_make] at h
      obtain ⟨rfl, rfl⟩ := Build.exec_pure_eq_ok_iff.1 h
      rw [Instances.length_bind, Instances.length_make]
      exact .proxy hentity hm hblueprint htarget hfactory

/-- A bound interface that is resolved has its proxy already, or has just been given it. -/
theorem builds_of_resolveBound (hbound : c.bound? d.name = some (d, servant))
    (h : (c.resolveBound d.name servant.name).exec s = (.ok b, t)) :
    (s.registry.get? d.name = some b ∧ t = s) ∨
      s.registry.get? d.name = none ∧
        ∃ u, c.Builds d servant (s.reserve d.name) b u ∧ t = u.fill d.name b := by
  obtain ⟨hd, -, hservant⟩ := Catalog.bound?_eq_some_iff.1 hbound
  rw [Catalog.resolveBound, Build.exec_getOrCreate] at h
  cases hg : s.registry.get? d.name with
  | some b' =>
    rw [hg] at h
    cases h
    exact .inl ⟨rfl, rfl⟩
  | none =>
    rw [hg] at h
    rcases hexec : (c.buildProxy d.name servant.name).exec (s.reserve d.name) with ⟨e | b', u⟩
    · rw [hexec] at h
      cases h
    · rw [hexec] at h
      cases h
      exact .inr ⟨rfl, u, builds_of_exec ((c.mem_interfaces_iff d).1 hd).1
        (Catalog.get?_of_servant? hservant) hexec, rfl⟩

/-! ## The changes of a start -/

/-- A change of the stage while a container starts. -/
inductive Catalog.Advances (c : Catalog) (s : Stage) : Stage → Prop where
  /-- A component is made, under its own name. -/
  | component {d : Definition} {blueprint : Blueprint} (hd : d ∈ c.components)
    (hfree : s.registry.get? d.name = none) (hblueprint : d.blueprint = .ok blueprint) :
    c.Advances s
      ({ s.reserve d.name with
          instances := (s.instances.make ⟨d.name, blueprint.nature⟩).2 }.fill d.name
        ⟨.component blueprint.type, ⟨s.instances.objects.length⟩⟩)
  /-- An interface without a root is lent a bean. -/
  | lent {d : Definition} (hd : d ∈ c.interfaces) (hroot : c.repositoryRoot? d = none) (b : Bean) :
    c.Advances s ((s.reserve d.name).fill d.name b)
  /-- A bound interface is given its proxy. -/
  | proxy {d servant : Definition} {b : Bean} {t : Stage}
    (hbound : c.bound? d.name = some (d, servant)) (hfree : s.registry.get? d.name = none)
    (h : c.Builds d servant (s.reserve d.name) b t) : c.Advances s (t.fill d.name b)
  /-- A setter has taken a dependency. -/
  | injection (i : Injection) : c.Advances s { s with instances := s.instances.inject i }

theorem advances_of_makeComponents {ds : List Definition} (hds : ∀ d ∈ ds, d ∈ c.components)
    (h : (makeComponents ds).exec s = (.ok (), t)) : ReflTransGen c.Advances s t := by
  induction ds generalizing s with
  | nil =>
    obtain ⟨-, rfl⟩ := Build.exec_pure_eq_ok_iff.1 h
    exact .refl
  | cons d rest ih =>
    obtain ⟨hd, hrest⟩ := List.forall_mem_cons.1 hds
    obtain ⟨b, u, hmade, h⟩ := Build.exec_bind_eq_ok_iff.1 h
    rw [Build.exec_getOrCreate] at hmade
    cases hg : s.registry.get? d.name with
    | some b' =>
      rw [hg] at hmade
      cases hmade
      exact ih hrest h
    | none =>
      rw [hg] at hmade
      rcases hexec : d.instantiate.exec (s.reserve d.name) with ⟨e | b', u'⟩
      · rw [hexec] at hmade
        cases hmade
      · rw [hexec] at hmade
        cases hmade
        obtain ⟨blueprint, hblueprint, rfl, rfl⟩ := Definition.instantiate_eq_ok hexec
        exact .head (.component hd hg hblueprint) (ih hrest h)

theorem advances_of_registerByCapability (hd : d ∈ c.interfaces)
    (hroot : c.repositoryRoot? d = none) (s : Stage) :
    ReflTransGen c.Advances s ((registerByCapability c d.name).exec s).2 := by
  rw [exec_registerByCapability]
  split
  · exact .refl
  · exact .single (.lent hd hroot _)

theorem advances_of_bindInterfaces {ds : List Definition} (hds : ∀ d ∈ ds, d ∈ c.interfaces)
    {bindings bindings' : Bindings}
    (h : (bindInterfaces c bindings ds).exec s = (.ok bindings', t)) :
    ReflTransGen c.Advances s t := by
  induction ds generalizing bindings s with
  | nil =>
    obtain ⟨-, rfl⟩ := Build.exec_pure_eq_ok_iff.1 h
    exact .refl
  | cons d rest ih =>
    obtain ⟨hd, hrest⟩ := List.forall_mem_cons.1 hds
    rw [bindInterfaces] at h
    cases hroot : c.repositoryRoot? d with
    | some root =>
      rw [hroot] at h
      obtain ⟨implementation, u, hfound, h⟩ := Build.exec_bind_eq_ok_iff.1 h
      obtain ⟨-, rfl⟩ := Build.exec_lift_eq_ok_iff.1 hfound
      exact ih hrest h
    | none =>
      rw [hroot] at h
      obtain ⟨_, u, hlent, h⟩ := Build.exec_bind_eq_ok_iff.1 h
      have hadvances := advances_of_registerByCapability hd hroot s
      rw [hlent] at hadvances
      exact hadvances.trans (ih hrest h)

section Wiring

variable {bindings : Bindings}

theorem advances_of_resolveDependency (hb : c.Backs bindings) {component dependency : String}
    (h : (resolveDependency c bindings component dependency).exec s = (.ok b, t)) :
    ReflTransGen c.Advances s t := by
  unfold resolveDependency at h
  split at h
  · rename_i implementation himpl
    obtain ⟨d, servant, hbound, rfl, rfl⟩ := hb dependency implementation himpl
    rcases builds_of_resolveBound hbound h with ⟨-, rfl⟩ | ⟨hfree, u, hbuilds, rfl⟩
    · exact .refl
    · exact .single (.proxy hbound hfree hbuilds)
  · obtain ⟨s', _, hget, h⟩ := Build.exec_bind_eq_ok_iff.1 h
    cases hget
    split at h
    · obtain ⟨-, rfl⟩ := Build.exec_pure_eq_ok_iff.1 h
      exact .refl
    · cases h

theorem advances_of_wireMethod (hb : c.Backs bindings) {target : Bean} {m : Method}
    (h : (wireMethod c bindings d target m).exec s = (.ok (), t)) :
    ReflTransGen c.Advances s t := by
  unfold wireMethod at h
  split at h
  · split at h
    · cases h
    · rename_i injector _
      obtain ⟨value, u, hvalue, h⟩ := Build.exec_bind_eq_ok_iff.1 h
      unfold Injector.run at h
      split at h
      · cases h
      · cases h
        exact (advances_of_resolveDependency hb hvalue).tail (.injection _)
  · cases h

theorem advances_of_wireMethods (hb : c.Backs bindings) {target : Bean} {ms : List Method}
    {count count' : Nat} (h : (wireMethods c bindings d target count ms).exec s = (.ok count', t)) :
    ReflTransGen c.Advances s t := by
  induction ms generalizing count s with
  | nil =>
    obtain ⟨-, rfl⟩ := Build.exec_pure_eq_ok_iff.1 h
    exact .refl
  | cons m rest ih =>
    obtain ⟨_, u, hwired, h⟩ := Build.exec_bind_eq_ok_iff.1 h
    exact (advances_of_wireMethod hb hwired).trans (ih h)

theorem advances_of_wireComponents (hb : c.Backs bindings) {ds : List Definition}
    {count count' : Nat} (h : (wireComponents c bindings count ds).exec s = (.ok count', t)) :
    ReflTransGen c.Advances s t := by
  induction ds generalizing count s with
  | nil =>
    obtain ⟨-, rfl⟩ := Build.exec_pure_eq_ok_iff.1 h
    exact .refl
  | cons d rest ih =>
    obtain ⟨_, _, hget, h⟩ := Build.exec_bind_eq_ok_iff.1 h
    cases hget
    split at h
    · cases h
    · obtain ⟨_, u, hwired, h⟩ := Build.exec_bind_eq_ok_iff.1 h
      exact (advances_of_wireMethods hb hwired).trans (ih h)

end Wiring

/-! ## The whole start -/

theorem phases_of_bootstrap {x : Context} (h : (bootstrap c).exec s = (.ok x, t)) :
    x.catalog = c ∧ ∃ r u count, (makeComponents c.components).exec s = (.ok (), r) ∧
      (bindInterfaces c .empty c.interfaces).exec r = (.ok x.bindings, u) ∧
      (wireAll c x.bindings).exec u = (.ok count, t) := by
  obtain ⟨⟨⟩, r, hmade, h⟩ := Build.exec_bind_eq_ok_iff.1 h
  obtain ⟨bindings, u, hbound, h⟩ := Build.exec_bind_eq_ok_iff.1 h
  obtain ⟨count, t', hwired, h⟩ := Build.exec_bind_eq_ok_iff.1 h
  obtain ⟨rfl, rfl⟩ := Build.exec_pure_eq_ok_iff.1 h
  exact ⟨rfl, r, u, count, hmade, hbound, hwired⟩

/-- A start over a fresh registry and cache that goes well is a row of changes. -/
theorem advances_of_bootstrap {i : Instances} {x : Context}
    (h : (bootstrap c).exec { instances := i } = (.ok x, t)) :
    ReflTransGen c.Advances { instances := i } t := by
  obtain ⟨log, hstarted⟩ := (bootstrap_yields c i).post_of_exec h
  obtain ⟨-, r, u, count, hmade, hbound, hwired⟩ := phases_of_bootstrap h
  have hb := bindingsOf_of_entries hstarted.bindings
  exact (advances_of_makeComponents (fun _ hd => hd) hmade).trans
    ((advances_of_bindInterfaces (fun _ hd => hd) hbound).trans
      (advances_of_wireComponents hb.backs hwired))

end BeanKit
