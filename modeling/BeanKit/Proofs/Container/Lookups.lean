import BeanKit.Proofs.Container.Kept
import Mathlib
/-! # Look-ups are steady

A look-up of a bound interface changes the registry when the proxy is made, and it leaves objects and
metadata behind even when that fails. None of it shows: what was found is found again, and what failed
fails again, in the same way, whatever has been done in between. The one look-up that fails and yet
leaves a bean is one that was refused for the type of the bean that it found. -/

namespace BeanKit

/-- The hook takes any object of a type for a repository, or none. -/
def Definition.TakesAlike (d : Definition) : Prop :=
  ∀ hook, d.repositoryTarget = some hook →
    ∀ facet j k, (hook ⟨facet, j⟩).isSome = (hook ⟨facet, k⟩).isSome

variable {c : Catalog} {i : Instances} {x : Context} {s t u : Stage} {d servant : Definition}
  {name : String}

/-! ## How a proxy fails -/

theorem eq_error_of_fault? {α : Type} {r : Except ContainerError α} {e : ContainerError}
    (h : fault? r = some e) : r = .error e := by
  cases r with
  | ok a => cases h
  | error e' =>
    cases h
    rfl

/-- Whether a proxy can be built, and what goes wrong otherwise, does not depend on the number of its
objects. -/
theorem fault?_proxyOver (h : servant.TakesAlike) (j k : Nat) :
    fault? (c.proxyOver j d servant) = fault? (c.proxyOver k d servant) := by
  unfold Catalog.proxyOver Definition.madeAs
  simp only [Except.map, bind, Except.bind]
  rcases c.entityOf d with e | entity
  · rfl
  dsimp only
  rcases Metadata.resolve entity.descriptor with e | m
  · rfl
  simp only [mapError_ok]
  rcases servant.blueprint with e | blueprint
  · rfl
  -- Up to here nobody has seen the object; the hook is the first to be shown it.
  cases hhook : servant.repositoryTarget with
  | none => rfl
  | some hook =>
    have halike := h hook hhook (.component blueprint.type) ⟨j⟩ ⟨k⟩
    dsimp only [Option.bind_some]
    rcases hj : hook ⟨.component blueprint.type, ⟨j⟩⟩ with _ | target <;>
      rcases hk : hook ⟨.component blueprint.type, ⟨k⟩⟩ with _ | target'
    · rfl
    · rw [hj, hk] at halike
      cases halike
    · rw [hj, hk] at halike
      cases halike
    · cases d.proxyFactory <;> rfl

theorem bind_eq_error_iff {α β : Type} {r : Except ContainerError α}
    {f : α → Except ContainerError β} {e : ContainerError} :
    r >>= f = .error e ↔ r = .error e ∨ ∃ a, r = .ok a ∧ f a = .error e := by
  cases r with
  | ok a =>
    refine ⟨fun h => .inr ⟨a, rfl, h⟩, ?_⟩
    rintro (h | ⟨_, h, hf⟩)
    · cases h
    · cases h
      exact hf
  | error e' =>
    constructor
    · intro h
      cases h
      exact .inl rfl
    · rintro (h | ⟨_, h, -⟩)
      · cases h
        rfl
      · cases h

theorem entityOf_ne_notRegistered (c : Catalog) (d : Definition) (type : String) :
    c.entityOf d ≠ .error (.notRegistered type) := by
  unfold Catalog.entityOf
  split
  · split <;> nofun
  · nofun

theorem madeAs_ne_notRegistered {type : String}
    (h : servant.constructor ≠ some (.error (.notRegistered type))) (k : Nat) :
    servant.madeAs k ≠ .error (.notRegistered type) := by
  unfold Definition.madeAs Definition.blueprint
  rcases hc : servant.constructor with _ | e | blueprint
  · nofun
  · intro he
    cases he
    exact h hc
  · nofun

/-- Unless the constructor says so, a proxy does not fail for something that is not registered. -/
theorem proxyOver_ne_notRegistered {type : String}
    (h : servant.constructor ≠ some (.error (.notRegistered type))) (k : Nat) :
    c.proxyOver k d servant ≠ .error (.notRegistered type) := by
  intro he
  rcases bind_eq_error_iff.1 he with he | ⟨entity, -, he⟩
  · exact entityOf_ne_notRegistered c d type he
  rcases bind_eq_error_iff.1 he with he | ⟨m, -, he⟩
  · cases hm : Metadata.resolve entity.descriptor with
    | error e =>
      rw [hm] at he
      cases he
    | ok m =>
      rw [hm] at he
      cases he
  rcases bind_eq_error_iff.1 he with he | ⟨made, -, he⟩
  · exact madeAs_ne_notRegistered h k he
  split at he <;> cases he

/-! ## What a look-up comes to -/

/-- The bean of a bound interface: its proxy, or what the next one to be built comes to. -/
theorem resolveBound_answer (hbound : c.bound? d.name = some (d, servant))
    (hc : CacheOf c s.cache) :
    ((c.resolveBound d.name servant.name).exec s).1 = match s.registry.get? d.name with
      | some b => .ok b
      | none => c.proxyOver s.instances.objects.length d servant := by
  obtain ⟨hd, -, hservant⟩ := Catalog.bound?_eq_some_iff.1 hbound
  rw [Catalog.resolveBound, Build.exec_getOrCreate]
  cases s.registry.get? d.name with
  | some b => rfl
  | none =>
    have hanswer := (buildProxy_answers (s := s.reserve d.name)
      ((c.mem_interfaces_iff d).1 hd).1 (Catalog.get?_of_servant? hservant) hc).answer
    rcases hexec : (c.buildProxy d.name servant.name).exec (s.reserve d.name) with ⟨r, t⟩
    rw [hexec] at hanswer
    rw [show c.proxyOver s.instances.objects.length d servant = r from hanswer.symm]
    cases r <;> rfl

/-! ## Every proxy is made once -/

/-- Where a container stands between its steps: the cache agrees with the catalog, and every bound
interface that has a bean has had one run of its proxy factory, and no other interface has had any. -/
structure Steady (c : Catalog) (i : Instances) (s : Stage) : Prop where
  cache : CacheOf c s.cache
  runs : ∀ name, s.instances.proxyRuns name = i.proxyRuns name +
    if (c.bound? name).isSome ∧ (s.registry.get? name).isSome then 1 else 0

theorem steady_start (c : Catalog) (i : Instances) : Steady c i { instances := i } where
  cache := cacheOf_empty c
  runs _ := by
    rw [if_neg, Nat.add_zero]
    exact fun h => Bool.false_ne_true h.2

/-- Steps that neither run a proxy factory nor give a bound interface a bean. -/
theorem Steady.of_unbound (h : Steady c i s) (hc : CacheOf c t.cache)
    (hruns : ∀ name, t.instances.proxyRuns name = s.instances.proxyRuns name)
    (hreg : ∀ name, (c.bound? name).isSome → t.registry.get? name = s.registry.get? name) :
    Steady c i t where
  cache := hc
  runs name := by
    rw [hruns, h.runs]
    by_cases hb : (c.bound? name).isSome
    · rw [hreg name hb]
    · rw [if_neg fun h => hb h.1, if_neg fun h => hb h.1]

theorem Catalog.Ends.proxyRuns_of_error {e : ContainerError} {j : Instances}
    (h : c.Ends d servant i (.error e) j) (name : String) : j.proxyRuns name = i.proxyRuns name := by
  have hmake (b : Blueprint) :
      (i.make ⟨servant.name, b.nature⟩).2.proxyRuns name = i.proxyRuns name := by
    rw [Instances.proxyRuns_make, if_neg (by simp [b.isProxy_nature]), Nat.add_zero]
  cases h with
  | unserved _ => rfl
  | unfit _ _ => exact hmake _
  | unshown _ target m _ => rw [Instances.proxyRuns_bind, hmake]

theorem Catalog.Ends.proxyRuns_of_ok {b : Bean} {j : Instances}
    (h : c.Ends d servant i (.ok b) j) (name : String) :
    j.proxyRuns name = i.proxyRuns name + if name = d.name then 1 else 0 := by
  cases h with
  | @shown _ _ blueprint _ _ _ _ _ _ _ =>
    rw [Instances.proxyRuns_make, Instances.proxyRuns_bind, Instances.proxyRuns_make,
      if_neg (by simp [blueprint.isProxy_nature]), Nat.add_zero]
    simp [Nature.isProxy, eq_comm]

theorem Steady.resolve (h : Steady c i s) (hbound : c.bound? d.name = some (d, servant))
    {r : Except ContainerError Bean} (hr : c.Resolves d servant s r t) : Steady c i t := by
  have hreg := hr.registry
  cases hr with
  | found _ => exact h
  | refused _ hcache hends =>
    exact h.of_unbound hcache hends.proxyRuns_of_error fun name _ =>
      s.registry.get?_reserve d.name name
  | made habsent hcache hends =>
    refine ⟨hcache, fun name => ?_⟩
    rw [hreg]
    refine (hends.proxyRuns_of_ok name).trans ?_
    rw [h.runs]
    by_cases hn : name = d.name
    · subst hn
      simp [hbound, habsent, Except.toOption]
    · simp [hn]

theorem Steady.keepsFromStart (c : Catalog) (i : Instances) : c.KeepsFromStart (Steady c i) where
  cache hs := hs.cache
  resolve hbound hs h := hs.resolve hbound h
  bind repository m hs :=
    hs.of_unbound hs.cache (fun _ => Instances.proxyRuns_bind ..) fun _ _ => rfl
  make origin b hs := by
    refine hs.of_unbound hs.cache (fun name => ?_) fun _ _ => rfl
    rw [Instances.proxyRuns_make, if_neg (by simp [b.isProxy_nature]), Nat.add_zero]
  reserve _ hs :=
    hs.of_unbound hs.cache (fun _ => rfl) fun name _ => Registry.get?_reserve ..
  fill b hname hs :=
    hs.of_unbound hs.cache (fun _ => rfl) fun _ hb => get?_fill_of_bound hname hb _ b
  inject _ hs := hs.of_unbound hs.cache (fun _ => rfl) fun _ _ => rfl

theorem keeps_cacheOf : c.Keeps fun s => CacheOf c s.cache where
  cache hs := hs
  resolve _ hs hr := hr.cache hs
  bind _ _ hs := hs

/-! ## A name that is given no bean -/

/-- A name without a bean. -/
structure Barren (c : Catalog) (name : String) (s : Stage) : Prop where
  cache : CacheOf c s.cache
  absent : s.registry.get? name = none

theorem Catalog.Ends.proxyOver_of_ok {b : Bean} {j : Instances}
    (h : c.Ends d servant i (.ok b) j) : c.proxyOver i.objects.length d servant = .ok b := by
  cases h with
  | shown hentity hm hblueprint htarget hfactory =>
    refine Catalog.proxyOver_eq_ok_iff.2 ⟨_, _, _, _, _, hentity, hm, ?_, htarget, hfactory, rfl⟩
    rw [Definition.madeAs, hblueprint]
    rfl

/-- A name stays without a bean where no proxy can be built for it. -/
theorem Barren.keeps (h : ∀ d servant, c.bound? d.name = some (d, servant) → d.name = name →
    ∀ k b, c.proxyOver k d servant ≠ .ok b) : c.Keeps (Barren c name) where
  cache hs := hs.cache
  resolve {d servant s r t} hbound hs hr := by
    refine ⟨hr.cache hs.cache, ?_⟩
    cases hr with
    | found _ => exact hs.absent
    | refused _ _ _ => exact (s.registry.get?_reserve d.name name).trans hs.absent
    | made _ _ hends =>
      have hn : name ≠ d.name := fun hn => h d servant hbound hn.symm _ _ hends.proxyOver_of_ok
      rw [Stage.fill, Registry.get?_fill, if_neg hn, Option.or_none]
      exact (s.registry.get?_reserve d.name name).trans hs.absent
  bind _ _ hs := ⟨hs.cache, hs.absent⟩

/-! ## Looking up -/

namespace Context

/-- Names that are not bound are looked up in the registry alone. -/
theorem exec_bean_of_unbound (h : x.bindings.get? name = none) (s : Stage) :
    (x.bean name).exec s = (match s.registry.get? name with
      | some b => .ok b
      | none => .error (.notRegistered name), s) := by
  simp only [bean, h, Build.exec_bind, Build.exec_get]
  cases s.registry.get? name <;> rfl

theorem exec_bean_of_bound (hb : BindingsOf x.catalog x.bindings)
    (h : x.catalog.bound? d.name = some (d, servant)) (s : Stage) :
    (x.bean d.name).exec s = (x.catalog.resolveBound d.name servant.name).exec s := by
  rw [bean, hb d.name, h]
  rfl

/-- A name is looked up in the registry, or it is a bound interface. -/
theorem bean_cases (hb : BindingsOf x.catalog x.bindings) (name : String) :
    (x.bindings.get? name = none ∧ x.catalog.bound? name = none) ∨
      ∃ d servant, d.name = name ∧ x.catalog.bound? d.name = some (d, servant) := by
  cases h : x.catalog.bound? name with
  | none => exact .inl ⟨by rw [hb name, h]; rfl, rfl⟩
  | some b =>
    obtain ⟨-, rfl, -⟩ := Catalog.bound?_eq_some_iff.1 (show _ = some (b.1, b.2) from h)
    exact .inr ⟨b.1, b.2, rfl, h⟩

/-- A bean that a look-up has found is in the registry. -/
theorem get?_of_bean (hb : BindingsOf x.catalog x.bindings) (hc : CacheOf x.catalog s.cache)
    {b : Bean} (h : (x.bean name).exec s = (.ok b, t)) : t.registry.get? name = some b := by
  rcases bean_cases hb name with ⟨hnone, -⟩ | ⟨d, servant, rfl, hbound⟩
  · rw [exec_bean_of_unbound hnone] at h
    obtain ⟨hr, rfl⟩ := Prod.mk.inj h
    cases hg : s.registry.get? name with
    | none =>
      rw [hg] at hr
      cases hr
    | some b' =>
      rw [hg] at hr
      cases hr
      rfl
  · rw [exec_bean_of_bound hb hbound] at h
    exact (resolves_of_exec hbound hc h).get?_of_ok

/-- A look-up gives no other name a bean. -/
theorem get?_after_bean (hb : BindingsOf x.catalog x.bindings) (hc : CacheOf x.catalog s.cache)
    {r : Except ContainerError Bean} (h : (x.bean name).exec s = (r, t)) (name' : String) :
    t.registry.get? name' =
      (s.registry.get? name').or (if name' = name then r.toOption else none) := by
  rcases bean_cases hb name with ⟨hnone, -⟩ | ⟨d, servant, rfl, hbound⟩
  · rw [exec_bean_of_unbound hnone] at h
    obtain ⟨rfl, rfl⟩ := Prod.mk.inj h
    by_cases hn : name' = name
    · rw [hn, if_pos rfl]
      cases s.registry.get? name <;> rfl
    · rw [if_neg hn, Option.or_none]
  · rw [exec_bean_of_bound hb hbound] at h
    exact (resolves_of_exec hbound hc h).registry name'

/-- A look-up that fails gives nothing a bean. -/
theorem get?_after_failed (hb : BindingsOf x.catalog x.bindings) (hc : CacheOf x.catalog s.cache)
    {e : ContainerError} (h : (x.bean name).exec s = (.error e, t)) (name' : String) :
    t.registry.get? name' = s.registry.get? name' := by
  rw [get?_after_bean hb hc h name']
  simp only [Except.toOption, ite_self, Option.or_none]

/-- A look-up that fails is one of a name without a bean. -/
theorem get?_of_failed {e : ContainerError} (h : (x.bean name).exec s = (.error e, t)) :
    s.registry.get? name = none := by
  cases hg : s.registry.get? name with
  | none => rfl
  | some b =>
    rw [x.exec_bean_of_registered hg] at h
    cases h

/-- What keeps the proxy of an interface from being built once keeps it from being built ever. -/
theorem proxyOver_of_failed (hb : BindingsOf x.catalog x.bindings)
    (hc : CacheOf x.catalog s.cache) (halike : ∀ d ∈ x.catalog.definitions, d.TakesAlike)
    (hbound : x.catalog.bound? d.name = some (d, servant)) {e : ContainerError}
    (h : (x.bean d.name).exec s = (.error e, t)) (k : Nat) :
    x.catalog.proxyOver k d servant = .error e := by
  obtain ⟨-, -, hservant⟩ := Catalog.bound?_eq_some_iff.1 hbound
  have hmem := (x.catalog.mem_definitions_iff servant).2 (Catalog.get?_of_servant? hservant)
  have hanswer := resolveBound_answer hbound hc
  rw [get?_of_failed h, ← exec_bean_of_bound hb hbound, h] at hanswer
  refine eq_error_of_fault? ?_
  rw [fault?_proxyOver (halike servant hmem) k s.instances.objects.length,
    show x.catalog.proxyOver s.instances.objects.length d servant = .error e from hanswer.symm,
    fault?_error]

/-- A look-up that has failed fails in the same way ever after. -/
theorem bean_fails_again (hb : BindingsOf x.catalog x.bindings) (hc : CacheOf x.catalog s.cache)
    (halike : ∀ d ∈ x.catalog.definitions, d.TakesAlike) {e : ContainerError}
    (h : (x.bean name).exec s = (.error e, t)) (hu : x.Visits t u) :
    ((x.bean name).exec u).1 = .error e := by
  -- The name has no bean behind the failure, and nothing can give it one.
  have hcache : CacheOf x.catalog t.cache := by
    have ht := ((keeps_cacheOf.context hb.backs).bean name s hc).1
    rwa [h] at ht
  have habsent : t.registry.get? name = none := by
    rw [get?_after_failed hb hc h, get?_of_failed h]
  have hbar : ∀ d servant, x.catalog.bound? d.name = some (d, servant) → d.name = name →
      ∀ k b, x.catalog.proxyOver k d servant ≠ .ok b := by
    rintro d servant hbound rfl k b hk
    rw [proxyOver_of_failed hb hc halike hbound h k] at hk
    cases hk
  have hbarren := ((Barren.keeps hbar).context hb.backs).visits ⟨hcache, habsent⟩ hu
  rcases bean_cases hb name with ⟨hnone, -⟩ | ⟨d, servant, rfl, hbound⟩
  · have hs := get?_of_failed h
    rw [exec_bean_of_unbound hnone, hs] at h
    rw [exec_bean_of_unbound hnone, hbarren.absent]
    exact (Prod.mk.inj h).1
  · rw [exec_bean_of_bound hb hbound, resolveBound_answer hbound hbarren.cache, hbarren.absent]
    exact proxyOver_of_failed hb hc halike hbound h _

/-- Names that are not bound are given no bean. -/
theorem Visits.get?_of_unbound (hb : BindingsOf x.catalog x.bindings)
    (hc : CacheOf x.catalog s.cache) (hname : x.bindings.get? name = none) (h : x.Visits s t) :
    t.registry.get? name = s.registry.get? name := by
  cases hg : s.registry.get? name with
  | some b => exact h.reaches.get?_registry hg
  | none =>
    have hbar : ∀ d servant, x.catalog.bound? d.name = some (d, servant) → d.name = name →
        ∀ k b, x.catalog.proxyOver k d servant ≠ .ok b := by
      rintro d servant hbound rfl
      rw [hb d.name, hbound] at hname
      cases hname
    exact (((Barren.keeps hbar).context hb.backs).visits ⟨hc, hg⟩ h).absent

/-- Only what is neither bound nor registered is reported as not registered. -/
theorem bean_notRegistered_iff (hb : BindingsOf x.catalog x.bindings)
    (hc : CacheOf x.catalog s.cache)
    (hcon : ∀ d ∈ x.catalog.definitions, ∀ type,
      d.constructor ≠ some (.error (.notRegistered type))) :
    (∃ type, ((x.bean name).exec s).1 = .error (.notRegistered type)) ↔
      x.bindings.get? name = none ∧ s.registry.get? name = none := by
  constructor
  · rintro ⟨type, h⟩
    have habsent : s.registry.get? name = none := get?_of_failed (Prod.ext h rfl)
    refine ⟨?_, habsent⟩
    rcases bean_cases hb name with ⟨hnone, -⟩ | ⟨d, servant, rfl, hbound⟩
    · exact hnone
    · obtain ⟨-, -, hservant⟩ := Catalog.bound?_eq_some_iff.1 hbound
      have hmem := (x.catalog.mem_definitions_iff servant).2 (Catalog.get?_of_servant? hservant)
      rw [exec_bean_of_bound hb hbound, resolveBound_answer hbound hc, habsent] at h
      exact absurd h (proxyOver_ne_notRegistered (hcon servant hmem type) _)
  · rintro ⟨hnone, habsent⟩
    exact ⟨name, by rw [exec_bean_of_unbound hnone, habsent]⟩

/-! ## Steadiness -/

/-- A look-up that fails, for a bean that `bean` looks up under a name: it adds no bean, unless what
it refuses is the type of the bean that it has found, and it fails in the same way ever after. -/
structure FailsSteadily (x : Context) (s : Stage) (name : String) (look : Build Bean)
    (e : ContainerError) (t : Stage) : Prop where
  beans : (∀ name', t.registry.get? name' = s.registry.get? name') ∨
    e = .typeMismatch name ∧ ∃ b, (x.bean name).exec s = (.ok b, t)
  others : ∀ name', name' ≠ name → t.registry.get? name' = s.registry.get? name'
  again : ∀ u, x.Visits t u → (look.exec u).1 = .error e

/-- What look-ups come to at a stage of a container that was started over the objects `i`. -/
structure SteadyAt (x : Context) (i : Instances) (s : Stage) : Prop where
  /-- What was found is found ever after, and nothing changes any more. -/
  found : ∀ name b t, (x.bean name).exec s = (.ok b, t) →
    ∀ u, x.Visits t u → (x.bean name).exec u = (.ok b, u)
  kept : ∀ name b, s.registry.get? name = some b →
    ∀ u, x.Visits s u → u.registry.get? name = some b
  /-- Only bound interfaces can be given a bean. -/
  added : ∀ name, x.bindings.get? name = none →
    ∀ u, x.Visits s u → u.registry.get? name = s.registry.get? name
  /-- A bound interface that has its bean has had one run of its proxy factory; nothing else has had
  any. -/
  runs : ∀ name, s.instances.proxyRuns name = i.proxyRuns name +
    if (x.bindings.get? name).isSome ∧ (s.registry.get? name).isSome then 1 else 0
  bean : ∀ name e t, (x.bean name).exec s = (.error e, t) →
    (∀ name', t.registry.get? name' = s.registry.get? name') ∧
      ∀ u, x.Visits t u → ((x.bean name).exec u).1 = .error e
  component : ∀ type e t, (x.component type).exec s = (.error e, t) →
    x.FailsSteadily s type (x.component type) e t
  interface : ∀ name e t, (x.interface name).exec s = (.error e, t) →
    x.FailsSteadily s name (x.interface name) e t
  notRegistered : (∀ d ∈ x.catalog.definitions, ∀ type,
      d.constructor ≠ some (.error (.notRegistered type))) →
    ∀ name, (∃ type, ((x.bean name).exec s).1 = .error (.notRegistered type)) ↔
      x.bindings.get? name = none ∧ s.registry.get? name = none

/-- A look-up that checks the bean that it has found. -/
theorem failsSteadily_of_check (hb : BindingsOf x.catalog x.bindings)
    (hc : CacheOf x.catalog s.cache) (halike : ∀ d ∈ x.catalog.definitions, d.TakesAlike)
    {look : Build Bean} {check : Bean → Except ContainerError Unit}
    (hlook : ∀ s, look.exec s =
      (((x.bean name).exec s).1.bind fun b => (check b).map fun _ => b, ((x.bean name).exec s).2))
    (hcheck : ∀ b e, check b = .error e → e = .typeMismatch name) {e : ContainerError}
    (h : look.exec s = (.error e, t)) : x.FailsSteadily s name look e t := by
  rw [hlook] at h
  rcases hbean : (x.bean name).exec s with ⟨e' | b, t'⟩
  · -- The look-up itself has failed.
    rw [hbean] at h
    cases h
    have hafter := get?_after_failed hb hc hbean
    refine ⟨.inl hafter, fun name' _ => hafter name', fun u hu => ?_⟩
    rw [hlook, bean_fails_again hb hc halike hbean hu]
    rfl
  · -- A bean was found, and refused: it stays, and so does the refusal.
    rw [hbean] at h
    obtain ⟨hr, rfl⟩ := Prod.mk.inj h
    have hrefused : check b = .error e := by
      cases hcb : check b with
      | ok _ => simp [Except.bind, Except.map, hcb] at hr
      | error e' => simpa [Except.bind, Except.map, hcb] using hr
    refine ⟨.inr ⟨hcheck b e hrefused, b, hbean⟩, fun name' hn => ?_, fun u hu => ?_⟩
    · rw [get?_after_bean hb hc hbean, if_neg hn, Option.or_none]
    · have hu' := hu.reaches.get?_registry (get?_of_bean hb hc hbean)
      rw [hlook, x.exec_bean_of_registered hu']
      simp [Except.bind, Except.map, hrefused]

end Context

theorem expectComponent_error {b : Bean} {e : ContainerError}
    (h : b.expectComponent name = .error e) : e = .typeMismatch name := by
  unfold Bean.expectComponent at h
  split at h <;> cases h
  rfl

theorem expectInterface_error {b : Bean} {e : ContainerError}
    (h : b.expectInterface name = .error e) : e = .typeMismatch name := by
  unfold Bean.expectInterface at h
  split at h <;> cases h
  rfl

/-- Look-ups of a started container are steady at every stage that it can be brought to, if what its
types are taken for does not depend on when they are made. -/
theorem bootstrap_steadyAt (c : Catalog) (i : Instances)
    (halike : ∀ d ∈ c.definitions, d.TakesAlike)
    (h : (bootstrap c).exec { instances := i } = (.ok x, s)) (ht : x.Visits s t) :
    x.SteadyAt i t := by
  obtain ⟨log, hstarted⟩ := (bootstrap_yields c i).post_of_exec h
  obtain rfl := hstarted.catalog
  have hb := bindingsOf_of_entries hstarted.bindings
  have hkeeps := Steady.keepsFromStart x.catalog i
  have hsteady : Steady x.catalog i t :=
    (hkeeps.toKeeps.context hb.backs).visits (hkeeps.bootstrap (steady_start _ i) h) ht
  have hc := hsteady.cache
  exact
    { found := fun name b t' hfound u hu =>
        x.exec_bean_of_registered (hu.reaches.get?_registry (Context.get?_of_bean hb hc hfound))
      kept := fun name b hget u hu => hu.reaches.get?_registry hget
      added := fun name hname u hu => hu.get?_of_unbound hb hc hname
      runs := fun name => by
        rw [hsteady.runs, hb name, Option.isSome_map]
      bean := fun name e t' hfailed =>
        ⟨Context.get?_after_failed hb hc hfailed,
          fun u hu => Context.bean_fails_again hb hc halike hfailed hu⟩
      component := fun type e t' hfailed => Context.failsSteadily_of_check hb hc halike
        (x.exec_component type) (fun _ _ => expectComponent_error) hfailed
      interface := fun name e t' hfailed => Context.failsSteadily_of_check hb hc halike
        (x.exec_interface name) (fun _ _ => expectInterface_error) hfailed
      notRegistered := fun hcon name => Context.bean_notRegistered_iff hb hc hcon }

/-! ## A look-up that is refused for the type of what it finds -/

/-- A repository interface whose proxies are shown behind another one. -/
def misnamedCatalog : Catalog :=
  .addAll .empty
    [{ descriptor := { type := ⟨"Root", "Root"⟩, kind := .interface, tags := [.repository] } },
     { descriptor :=
        { type := ⟨"Store", "Store"⟩, kind := .concrete, interfaces := [⟨"Root", "Root"⟩] }
       constructor := some (.ok .repository)
       repositoryTarget := some fun b => some b.object },
     { descriptor :=
        { type := ⟨"Note", "Note"⟩
          kind := .concrete
          tags := [.table "notes"]
          fields := [⟨"id", [.id, .column "id"]⟩] } },
     { descriptor :=
        { type := ⟨"Notes", "Notes"⟩
          kind := .interface
          interfaces := [⟨"Root", "Root"⟩]
          typeArguments := [⟨"i32", "i32"⟩, ⟨"Note", "Note"⟩] }
       proxyFactory := some "Shelf" }]

/-- What is started over it: the root and the interface are bound, and nothing is made. -/
def misnamedContext : Context :=
  ⟨misnamedCatalog, ⟨[("Root", "Store"), ("Notes", "Store")], by decide⟩⟩

theorem bootstrap_misnamedCatalog :
    (bootstrap misnamedCatalog).exec {} = (.ok misnamedContext, {}) := by cbv

theorem takesAlike_misnamedCatalog : ∀ d ∈ misnamedCatalog.definitions, d.TakesAlike := by
  intro d hd hook hhook facet j k
  have hmem : some hook ∈ misnamedCatalog.definitions.map (·.repositoryTarget) :=
    hhook ▸ List.mem_map_of_mem hd
  rw [show misnamedCatalog.definitions.map (·.repositoryTarget) =
    [none, some fun b => some b.object, none, none] by cbv] at hmem
  obtain rfl : hook = fun b => some b.object := by simpa using hmem
  rfl

/-- The look-up fails, and the bean that it has found is new. -/
theorem interface_refused_adds_bean :
    (∀ d ∈ misnamedCatalog.definitions, d.TakesAlike) ∧
    (bootstrap misnamedCatalog).exec {} = (.ok misnamedContext, {}) ∧
    ((misnamedContext.interface "Notes").exec {}).1 = .error (.typeMismatch "Notes") ∧
    ({} : Stage).registry.names = [] ∧
    ((misnamedContext.interface "Notes").exec {}).2.registry.names = ["Notes"] := by
  refine ⟨takesAlike_misnamedCatalog, bootstrap_misnamedCatalog, ?_, ?_, ?_⟩
  · cbv
  · cbv
  · cbv

theorem bootstrap_steadyAt_misnamed :
    (∀ d ∈ misnamedCatalog.definitions, d.TakesAlike) ∧
    (bootstrap misnamedCatalog).exec {} = (.ok misnamedContext, {}) ∧
    misnamedContext.SteadyAt {} (misnamedContext.after {} [.interface "Notes"]) :=
  ⟨takesAlike_misnamedCatalog, bootstrap_misnamedCatalog,
    bootstrap_steadyAt misnamedCatalog {} takesAlike_misnamedCatalog bootstrap_misnamedCatalog
      ⟨[.interface "Notes"], by decide, rfl⟩⟩

end BeanKit
