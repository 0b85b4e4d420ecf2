import BeanKit.Container.Bootstrap
import BeanKit.Proofs.Outcome
/-! # What a step comes to

A step of a container fails, or answers and leaves a stage. `Build.Yields` states which of the two
it is together with the error, and what holds of the answer and of the stage. Steps compose along
it, so a phase is described from its steps without opening the monad. -/

namespace BeanKit

/-- The error of an answer that is one. -/
def fault? {α : Type} : Except ContainerError α → Option ContainerError
  | .ok _ => none
  | .error e => some e

@[simp] theorem fault?_ok {α : Type} (a : α) : fault? (.ok a) = none := rfl

@[simp] theorem fault?_error {α : Type} (e : ContainerError) :
    fault? (.error e : Except ContainerError α) = some e := rfl

theorem fault?_eq_none_iff {α : Type} (r : Except ContainerError α) :
    fault? r = none ↔ ∃ a, r = .ok a := by
  cases r with
  | ok a => simp
  | error e => simp

theorem toOption_eq_some_iff {α : Type} {r : Except ContainerError α} {a : α} :
    r.toOption = some a ↔ r = .ok a := by
  cases r <;> simp [Except.toOption]

@[simp] theorem mapError_ok {ε ε' α : Type} (f : ε → ε') (a : α) :
    (Except.ok a : Except ε α).mapError f = .ok a := rfl

@[simp] theorem mapError_error {ε ε' α : Type} (f : ε → ε') (e : ε) :
    (Except.error e : Except ε α).mapError f = .error (f e) := rfl

theorem mapError_eq_ok_iff {α : Type} {r : Except SchemaError α} {a : α} :
    r.mapError ContainerError.schema = .ok a ↔ r = .ok a := by
  cases r <;> simp

theorem findSome?_cons_or {α β : Type} (f : α → Option β) (a : α) (l : List α) :
    (a :: l).findSome? f = (f a).or (l.findSome? f) := by
  rw [List.findSome?_cons]
  cases f a <;> rfl

/-- Two conditions under which there is the same answer. -/
theorem ite_or_ite {α : Type} (p q : Prop) [Decidable p] [Decidable q] (o : Option α) :
    (if p then o else none).or (if q then o else none) = if p ∨ q then o else none := by
  by_cases hp : p <;> by_cases hq : q <;> simp [hp, hq]

namespace Build

variable {α β : Type}

/-- A step fails with the fault, where there is one; without one it answers, and the condition holds
of the answer and the stage left. -/
def Yields (act : Build α) (s : Stage) (fault : Option ContainerError)
    (post : α → Stage → Prop) : Prop :=
  match fault with
  | none => ∃ a t, act.exec s = (.ok a, t) ∧ post a t
  | some e => ∃ t, act.exec s = (.error e, t)

section Rules

variable {act : Build α} {s t : Stage} {fault : Option ContainerError} {post : α → Stage → Prop}

theorem yields_of_exec {a : α} (h : act.exec s = (.ok a, t)) (hp : post a t) :
    act.Yields s none post := ⟨a, t, h, hp⟩

theorem yields_fault_of_exec {e : ContainerError} (h : act.exec s = (.error e, t)) :
    act.Yields s (some e) post := ⟨t, h⟩

/-- Only what a step answers and leaves counts. -/
theorem Yields.congr {act' : Build α} (h : act'.Yields t fault post)
    (he : act.exec s = act'.exec t) : act.Yields s fault post := by
  unfold Yields at h ⊢
  rw [he]
  exact h

theorem Yields.mono {post' : α → Stage → Prop} (h : act.Yields s fault post)
    (hp : ∀ a t, post a t → post' a t) : act.Yields s fault post' := by
  cases fault with
  | none =>
    obtain ⟨a, t, he, ha⟩ := h
    exact ⟨a, t, he, hp a t ha⟩
  | some e => exact h

/-- The fault of a sequence is that of its first part, else that of the second. -/
theorem Yields.bind {f : α → Build β} {fault' : Option ContainerError} {post' : β → Stage → Prop}
    (h : act.Yields s fault post)
    (hf : fault = none → ∀ a t, post a t → (f a).Yields t fault' post') :
    (act >>= f).Yields s (fault.or fault') post' := by
  cases fault with
  | none =>
    obtain ⟨a, t, he, ha⟩ := h
    refine (hf rfl a t ha).congr ?_
    rw [exec_bind, he]
  | some e =>
    obtain ⟨t, he⟩ := h
    exact yields_fault_of_exec (by rw [exec_bind, he])

/-- A step after which only the answer is changed keeps its fault. -/
theorem Yields.bind_pure {g : α → β} {post' : β → Stage → Prop} (h : act.Yields s fault post)
    (hg : ∀ a t, post a t → post' (g a) t) :
    (act >>= fun a => pure (g a)).Yields s fault post' := by
  rw [← Option.or_none (o := fault)]
  exact h.bind fun _ a t ha => yields_of_exec (exec_pure ..) (hg a t ha)

/-- A step without a fault is one that answers. -/
theorem Yields.exists_ok_iff (h : act.Yields s fault post) :
    (∃ a t, act.exec s = (.ok a, t)) ↔ fault = none := by
  cases fault with
  | none =>
    obtain ⟨a, t, he, -⟩ := h
    exact ⟨fun _ => rfl, fun _ => ⟨a, t, he⟩⟩
  | some e =>
    obtain ⟨t, he⟩ := h
    simp [he]

theorem Yields.exists_error_iff (h : act.Yields s fault post) (e : ContainerError) :
    (∃ t, act.exec s = (.error e, t)) ↔ fault = some e := by
  cases fault with
  | none =>
    obtain ⟨a, t, he, -⟩ := h
    simp [he]
  | some e' =>
    obtain ⟨t, he⟩ := h
    simp [he]

/-- What a step answers is as the condition says. -/
theorem Yields.post_of_exec {a : α} (h : act.Yields s fault post)
    (he : act.exec s = (.ok a, t)) : post a t := by
  cases fault with
  | none =>
    obtain ⟨a', t', he', hp⟩ := h
    rw [he] at he'
    cases he'
    exact hp
  | some e =>
    obtain ⟨t', he'⟩ := h
    rw [he] at he'
    cases he'

end Rules

/-- A step gives the answer `r`, error or not; where it is none, the condition holds of the stage
left. -/
def Answers (act : Build α) (s : Stage) (r : Except ContainerError α) (post : Stage → Prop) :
    Prop :=
  act.Yields s (fault? r) fun a t => r = .ok a ∧ post t

section Rules

variable {act : Build α} {s t : Stage} {r : Except ContainerError α} {post : Stage → Prop}

theorem answers_of_exec (h : act.exec s = (r, t)) (hp : ∀ a, r = .ok a → post t) :
    act.Answers s r post := by
  cases r with
  | ok a => exact yields_of_exec h ⟨rfl, hp a rfl⟩
  | error e => exact yields_fault_of_exec h

theorem Answers.congr {act' : Build α} (h : act'.Answers t r post)
    (he : act.exec s = act'.exec t) : act.Answers s r post := Yields.congr h he

theorem Answers.mono {post' : Stage → Prop} (h : act.Answers s r post)
    (hp : ∀ a t, r = .ok a → post t → post' t) : act.Answers s r post' :=
  Yields.mono h fun a t ht => ⟨ht.1, hp a t ht.1 ht.2⟩

/-- The answers of a sequence compose like the steps. -/
theorem Answers.bind {f : α → Build β} {r' : α → Except ContainerError β} {post' : Stage → Prop}
    (h : act.Answers s r post)
    (hf : ∀ a t, r = .ok a → post t → (f a).Answers t (r' a) post') :
    (act >>= f).Answers s (r >>= r') post' := by
  cases r with
  | ok a =>
    obtain ⟨a', t, he, ha, hp⟩ := h
    cases ha
    exact (hf a t rfl hp).congr (by rw [exec_bind, he])
  | error e =>
    obtain ⟨t, he⟩ := h
    exact yields_fault_of_exec (by rw [exec_bind, he])

theorem Answers.answer (h : act.Answers s r post) : (act.exec s).1 = r := by
  cases r with
  | ok a =>
    obtain ⟨a', t, he, ha, -⟩ := h
    cases ha
    rw [he]
  | error e =>
    obtain ⟨t, he⟩ := h
    rw [he]

theorem answers_lift (r : Except ContainerError α) (s : Stage) :
    (liftM r : Build α).Answers s r (s = ·) := answers_of_exec (exec_lift ..) fun _ _ => rfl

end Rules

/-! ## Single steps -/

section Single

variable {s : Stage}

theorem yields_getOrCreate_present {name : String} {b : Bean} (factory : Build Bean)
    (h : s.registry.get? name = some b) :
    (getOrCreate name factory).Yields s none fun b' t => b' = b ∧ t = s :=
  yields_of_exec (by rw [exec_getOrCreate, h]) ⟨rfl, rfl⟩

/-- A name without a bean takes the one that its factory makes. -/
theorem yields_getOrCreate_absent {name : String} {factory : Build Bean}
    {fault : Option ContainerError} {post : Bean → Stage → Prop}
    (h : s.registry.get? name = none) (hf : factory.Yields (s.reserve name) fault post) :
    (getOrCreate name factory).Yields s fault fun b t => ∃ u, post b u ∧ t = u.fill name b := by
  cases fault with
  | none =>
    obtain ⟨b, u, he, hp⟩ := hf
    exact yields_of_exec (by rw [exec_getOrCreate, h, he]) ⟨u, hp, rfl⟩
  | some e =>
    obtain ⟨u, he⟩ := hf
    exact yields_fault_of_exec (by rw [exec_getOrCreate, h, he])

end Single
end Build

/-- The bean of a type whose object has the number `k`. -/
def Definition.madeAs (d : Definition) (k : Nat) : Except ContainerError Bean :=
  d.blueprint.map fun b => ⟨.component b.type, ⟨k⟩⟩

/-- A stage with `k` more objects, and with the same beans and injections. -/
structure Stage.Grows (k : Nat) (s t : Stage) : Prop where
  registry : ∀ name, t.registry.get? name = s.registry.get? name
  injections : t.instances.injections = s.instances.injections
  objects : t.instances.objects.length = s.instances.objects.length + k

theorem Stage.Grows.refl (s : Stage) : s.Grows 0 s := ⟨fun _ => rfl, rfl, rfl⟩

theorem Stage.Grows.trans {j k : Nat} {s t u : Stage} (h : s.Grows j t) (h' : t.Grows k u) :
    s.Grows (j + k) u where
  registry name := (h'.registry name).trans (h.registry name)
  injections := h'.injections.trans h.injections
  objects := by rw [h'.objects, h.objects, Nat.add_assoc]

/-- A cell that is given to a name is empty. -/
theorem Stage.grows_reserve (s : Stage) (name : String) : s.Grows 0 (s.reserve name) :=
  ⟨s.registry.get?_reserve name, rfl, rfl⟩

theorem Stage.Grows.of_reserve {k : Nat} {s t : Stage} {name : String}
    (h : (s.reserve name).Grows k t) : s.Grows k t :=
  Nat.zero_add k ▸ (s.grows_reserve name).trans h

/-- Binding a repository changes what an object is, and adds none. -/
theorem Stage.grows_bind_make (s : Stage) (target : ObjectId) (m : Metadata) (o : Object) :
    s.Grows 1 { s with instances := ((s.instances.bind target m).make o).2 } where
  registry _ := rfl
  injections := rfl
  objects := by
    refine List.length_append.trans ?_
    rw [Instances.length_bind]
    rfl

theorem Definition.instantiate_answers (d : Definition) (s : Stage) :
    d.instantiate.Answers s (d.madeAs s.instances.objects.length) fun t =>
      s.Grows 1 t ∧ t.cache = s.cache := by
  unfold instantiate madeAs
  cases d.blueprint with
  | error e => exact Build.answers_of_exec (Build.exec_throw ..) fun _ h => nomatch h
  | ok b =>
    refine Build.answers_of_exec rfl fun _ _ => ⟨⟨fun _ => rfl, rfl, ?_⟩, rfl⟩
    exact List.length_append

theorem Injector.run_answers (i : Injector) (target dependency : Bean) (s : Stage) :
    (i.run target dependency).Answers s (i.accept target dependency) fun t =>
      t = { s with instances := s.instances.inject ⟨target.object, i.slot, dependency⟩ } := by
  unfold run
  cases i.accept target dependency with
  | error e => exact Build.answers_of_exec (Build.exec_throw ..) fun _ h => nomatch h
  | ok _ => exact Build.answers_of_exec (Build.exec_modify ..) fun _ _ => rfl

/-! ## The cache

An entity is resolved to the metadata of its definition in the catalog, through the cache or not. -/

/-- A cache that has nothing but the metadata of the catalog's definitions. -/
def CacheOf (c : Catalog) (cache : MetadataCache) : Prop :=
  ∀ name m, cache.get? name = some m →
    ∃ d, c.get? name = some d ∧ Metadata.resolve d.descriptor = .ok m

theorem cacheOf_empty (c : Catalog) : CacheOf c .empty := fun _ _ h => nomatch h

theorem CacheOf.keep {c : Catalog} {cache : MetadataCache} {d : Definition} {m : Metadata}
    (hc : CacheOf c cache) (hd : c.get? d.name = some d)
    (hm : Metadata.resolve d.descriptor = .ok m) : CacheOf c (cache.keep d.descriptor.name m) := by
  intro name m' h
  rw [MetadataCache.get?_keep, Option.or_eq_some_iff] at h
  rcases h with h | ⟨-, h⟩
  · exact hc _ _ h
  · split at h
    · rename_i hn
      cases h
      exact ⟨d, hn ▸ hd, hm⟩
    · cases h

section Metadata

variable {c : Catalog} {d : Definition} {s : Stage}

/-- Such a cache answers for a definition of the catalog with its own metadata, and stays such a
cache. -/
theorem CacheOf.resolve {cache : MetadataCache} (hc : CacheOf c cache)
    (hd : c.get? d.name = some d) :
    cache.metadata d.descriptor = Metadata.resolve d.descriptor ∧
      CacheOf c (cache.resolve d.descriptor).2 := by
  rw [MetadataCache.metadata]
  rcases cache.resolve_cases d.descriptor with ⟨shared, hshared, h⟩ | ⟨m, -, hm, h⟩ | ⟨e, -, hm, h⟩ <;>
    rw [h]
  · -- What the cache has is the metadata of the same definition: the catalog has one for the name.
    obtain ⟨d', hd', hm⟩ := hc _ _ (congrArg (Option.map SharedMetadata.metadata) hshared)
    obtain rfl : d = d' := Option.some.inj (hd.symm.trans hd')
    exact ⟨hm.symm, hc⟩
  · exact ⟨hm.symm, hc.keep hd hm⟩
  · exact ⟨hm.symm, hc⟩

/-- Metadata are what the cache answers, and nothing but the cache can change. -/
theorem exec_metadata_eq (d : Descriptor) (s : Stage) : (Build.metadata d).exec s =
    ((s.cache.metadata d).mapError .schema, { s with cache := (s.cache.resolve d).2 }) := by
  rw [Build.exec_metadata, MetadataCache.metadata]
  rcases s.cache.resolve_cases d with ⟨shared, -, h⟩ | ⟨m, -, -, h⟩ | ⟨e, -, -, h⟩ <;> rw [h] <;> rfl

/-- The metadata is that of the catalog's definition. -/
theorem exec_metadata_of_cacheOf (hc : CacheOf c s.cache) (hd : c.get? d.name = some d) :
    ∃ cache, (Build.metadata d.descriptor).exec s =
      ((Metadata.resolve d.descriptor).mapError .schema, { s with cache }) ∧ CacheOf c cache := by
  obtain ⟨hanswer, hcache⟩ := hc.resolve hd
  rw [exec_metadata_eq, hanswer]
  exact ⟨_, rfl, hcache⟩

theorem metadata_answers (d : Descriptor) (s : Stage) :
    (Build.metadata d).Answers s ((s.cache.metadata d).mapError .schema) fun t =>
      s.Grows 0 t ∧ t.cache = (s.cache.resolve d).2 :=
  Build.answers_of_exec (exec_metadata_eq d s) fun _ _ => ⟨⟨fun _ => rfl, rfl, rfl⟩, rfl⟩

end Metadata

end BeanKit
