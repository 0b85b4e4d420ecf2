import BeanKit.Proofs.Container.Wiring
/-! # What building a proxy leaves

A proxy is built in a fixed order, and its own object comes last. So there are four ways in which a
build can end, and only in the last of them has there been a run of the proxy factory. Whatever the
end is, an object stays what it was, unless it was a repository that nobody had bound. -/

namespace BeanKit

/-- Whether an object stays what it is: it is no repository, or one that is bound. -/
def Nature.isSettled : Nature → Bool
  | .repository r => r.metadata.isSome
  | _ => true

/-- Whether an object is a proxy. -/
def Nature.isProxy : Nature → Bool
  | .proxy .. => true
  | _ => false

theorem Blueprint.isProxy_nature (b : Blueprint) : b.nature.isProxy = false := by
  cases b <;> rfl

theorem List.countP_modify_of_forall {α : Type} {p : α → Bool} {f : α → α}
    (h : ∀ a, p (f a) = p a) (l : List α) (k : Nat) : (l.modify k f).countP p = l.countP p := by
  induction l generalizing k with
  | nil => cases k <;> rfl
  | cons a rest ih =>
    cases k with
    | zero => simp only [List.modify_zero_cons, List.countP_cons, h]
    | succ k => simp only [List.modify_succ_cons, List.countP_cons, ih]

namespace Instances

/-- How many runs of its proxy factory an interface has had: each of them has made a proxy. -/
def proxyRuns (s : Instances) (name : String) : Nat :=
  s.objects.countP fun o => decide (o.origin = name) && o.nature.isProxy

variable {s : Instances} {id : ObjectId} {o : Object}

theorem length_make (s : Instances) (o : Object) :
    (s.make o).2.objects.length = s.objects.length + 1 := List.length_append

theorem get?_make_self (s : Instances) (o : Object) :
    (s.make o).2.get? ⟨s.objects.length⟩ = some o := by
  simp only [get?, make, List.getElem?_concat_length]

theorem get?_make_of_get? (h : s.get? id = some o) (o' : Object) :
    (s.make o').2.get? id = some o := by
  obtain ⟨hlt, -⟩ := List.getElem?_eq_some_iff.1 h
  exact (List.getElem?_append_left hlt).trans h

theorem get?_bind_of_settled (h : s.get? id = some o) (ho : o.nature.isSettled)
    (target : ObjectId) (m : Metadata) : (s.bind target m).get? id = some o := by
  have h' : s.objects[id.index]? = some o := h
  simp only [get?, bind, List.getElem?_modify, h']
  by_cases ht : target.index = id.index
  · rcases o with ⟨origin, type | ⟨_ | bound⟩ | _⟩
    · simp [ht]
    · cases ho
    · simp [ht, Repository.bind]
    · simp [ht]
  · simp [ht]

theorem get?_bind_repository {origin : String} {r : Repository}
    (h : s.get? id = some ⟨origin, .repository r⟩) (m : Metadata) :
    (s.bind id m).get? id = some ⟨origin, .repository (r.bind m)⟩ := by
  have h' : s.objects[id.index]? = some ⟨origin, .repository r⟩ := h
  simp only [get?, bind, List.getElem?_modify, h']
  simp

theorem proxyRuns_make (s : Instances) (o : Object) (name : String) :
    (s.make o).2.proxyRuns name =
      s.proxyRuns name + if o.origin = name ∧ o.nature.isProxy then 1 else 0 := by
  simp only [proxyRuns, make, List.countP_append, List.countP_singleton, Bool.and_eq_true,
    decide_eq_true_eq]

theorem proxyRuns_bind (s : Instances) (target : ObjectId) (m : Metadata) (name : String) :
    (s.bind target m).proxyRuns name = s.proxyRuns name := by
  refine List.countP_modify_of_forall (fun o => ?_) _ _
  rcases o with ⟨origin, type | r | _⟩ <;> rfl

end Instances

/-! ## The four ways to end -/

/-- How building a proxy can end over some objects: the answer, and the objects that are left. -/
inductive Catalog.Ends (c : Catalog) (d servant : Definition) (i : Instances) :
    Except ContainerError Bean → Instances → Prop
  /-- The entity has no metadata, or there is no object to put behind the proxy. -/
  | unserved (e : ContainerError) : c.Ends d servant i (.error e) i
  /-- The object that was made is not taken for a repository. -/
  | unfit (e : ContainerError) {blueprint : Blueprint}
    (hblueprint : servant.blueprint = .ok blueprint) :
    c.Ends d servant i (.error e) (i.make ⟨servant.name, blueprint.nature⟩).2
  /-- The repository is bound, but nothing makes a proxy for it. -/
  | unshown (e : ContainerError) {blueprint : Blueprint} (target : ObjectId) (m : Metadata)
    (hblueprint : servant.blueprint = .ok blueprint) :
    c.Ends d servant i (.error e) ((i.make ⟨servant.name, blueprint.nature⟩).2.bind target m)
  /-- The proxy stands in front of the repository. -/
  | shown {entity : Definition} {m : Metadata} {blueprint : Blueprint} {target : ObjectId}
    {shownAs : String} (hentity : c.entityOf d = .ok entity)
    (hm : Metadata.resolve entity.descriptor = .ok m)
    (hblueprint : servant.blueprint = .ok blueprint)
    (htarget : servant.repositoryTarget.bind
      (· ⟨.component blueprint.type, ⟨i.objects.length⟩⟩) = some target)
    (hfactory : d.proxyFactory = some shownAs) :
    c.Ends d servant i (.ok ⟨.interface shownAs, ⟨i.objects.length + 1⟩⟩)
      (((i.make ⟨servant.name, blueprint.nature⟩).2.bind target m).make
        ⟨d.name, .proxy shownAs target m⟩).2

variable {c : Catalog} {d servant : Definition} {s : Stage}

theorem exec_make (origin : String) (nature : Nature) (s : Stage) :
    (Build.make origin nature).exec s =
      (.ok ⟨s.instances.objects.length⟩,
        { s with instances := (s.instances.make ⟨origin, nature⟩).2 }) := rfl

/-- Building a proxy leaves the registry alone, keeps the cache to the catalog, and ends in one of
the four ways. -/
theorem exec_buildProxy (hd : c.get? d.name = some d) (hs : c.get? servant.name = some servant)
    (hc : CacheOf c s.cache) :
    ∃ cache r instances, (c.buildProxy d.name servant.name).exec s =
        (r, { s with cache, instances }) ∧ CacheOf c cache ∧
          c.Ends d servant s.instances r instances := by
  unfold Catalog.buildProxy
  -- The cases follow the steps of the build; whichever fails is the last.
  rw [Catalog.require_of_get? hd, Catalog.require_of_get? hs, Build.lift_ok_bind,
    Build.lift_ok_bind]
  cases hentity : c.entityOf d with
  | error e => exact ⟨_, _, _, rfl, hc, .unserved e⟩
  | ok entity =>
    obtain ⟨-, _, -, -, hget⟩ := Catalog.entityOf_eq_ok_iff.1 hentity
    rw [← Catalog.name_of_get? hget] at hget
    obtain ⟨cache, hexec, hcache⟩ := exec_metadata_of_cacheOf hc hget
    rw [Build.lift_ok_bind, Build.exec_bind, hexec]
    cases hm : Metadata.resolve entity.descriptor with
    | error e => exact ⟨_, _, _, rfl, hcache, .unserved _⟩
    | ok m =>
      unfold Definition.instantiate
      cases hblueprint : servant.blueprint with
      | error e => exact ⟨_, _, _, rfl, hcache, .unserved e⟩
      | ok blueprint =>
        simp only [mapError_ok, Build.exec_bind, exec_make, Build.exec_pure]
        cases htarget : servant.repositoryTarget.bind
            (· ⟨.component blueprint.type, ⟨s.instances.objects.length⟩⟩) with
        | none => exact ⟨_, _, _, rfl, hcache, .unfit _ hblueprint⟩
        | some target =>
          cases hfactory : d.proxyFactory with
          | none => exact ⟨_, _, _, rfl, hcache, .unshown _ target m hblueprint⟩
          | some shownAs =>
            refine ⟨cache, _, _, ?_, hcache, .shown hentity hm hblueprint htarget hfactory⟩
            simp only [Build.exec_bind, Build.exec_modify, exec_make, Build.exec_pure,
              Instances.length_bind, Instances.length_make]

/-! ## A bound interface is resolved -/

/-- How resolving a bound interface can end: the answer, and the stage that is left. -/
inductive Catalog.Resolves (c : Catalog) (d servant : Definition) (s : Stage) :
    Except ContainerError Bean → Stage → Prop
  /-- The interface has its proxy already. -/
  | found {b : Bean} (hb : s.registry.get? d.name = some b) : c.Resolves d servant s (.ok b) s
  /-- The proxy cannot be built. -/
  | refused {e : ContainerError} {cache : MetadataCache} {instances : Instances}
    (habsent : s.registry.get? d.name = none) (hcache : CacheOf c cache)
    (hends : c.Ends d servant s.instances (.error e) instances) :
    c.Resolves d servant s (.error e) { s.reserve d.name with cache, instances }
  /-- The interface is given its proxy. -/
  | made {b : Bean} {cache : MetadataCache} {instances : Instances}
    (habsent : s.registry.get? d.name = none) (hcache : CacheOf c cache)
    (hends : c.Ends d servant s.instances (.ok b) instances) :
    c.Resolves d servant s (.ok b) ({ s.reserve d.name with cache, instances }.fill d.name b)

theorem resolves_of_exec (hbound : c.bound? d.name = some (d, servant)) (hc : CacheOf c s.cache)
    {r : Except ContainerError Bean} {t : Stage}
    (h : (c.resolveBound d.name servant.name).exec s = (r, t)) : c.Resolves d servant s r t := by
  obtain ⟨hd, -, hservant⟩ := Catalog.bound?_eq_some_iff.1 hbound
  rw [Catalog.resolveBound, Build.exec_getOrCreate] at h
  cases hg : s.registry.get? d.name with
  | some b =>
    rw [hg] at h
    cases h
    exact .found hg
  | none =>
    obtain ⟨cache, r', instances, hexec, hcache, hends⟩ := exec_buildProxy (s := s.reserve d.name)
      ((c.mem_interfaces_iff d).1 hd).1 (Catalog.get?_of_servant? hservant) hc
    rw [hg, hexec] at h
    cases r' with
    | ok b =>
      cases h
      exact .made hg hcache hends
    | error e =>
      cases h
      exact .refused hg hcache hends

/-- Only the interface that is resolved can be given a bean. -/
theorem Catalog.Resolves.registry {r : Except ContainerError Bean} (h : c.Resolves d servant s r t)
    (name : String) : t.registry.get? name =
      (s.registry.get? name).or (if name = d.name then r.toOption else none) := by
  cases h with
  | found hb =>
    by_cases hn : name = d.name
    · rw [hn, hb, Option.some_or]
    · rw [if_neg hn, Option.or_none]
  | refused habsent hcache hends =>
    simp only [Except.toOption, ite_self, Option.or_none]
    exact s.registry.get?_reserve d.name name
  | made habsent hcache hends =>
    rw [Stage.fill, Registry.get?_fill]
    exact congrArg (Option.or · _) (s.registry.get?_reserve d.name name)

theorem Catalog.Resolves.cache {r : Except ContainerError Bean} (h : c.Resolves d servant s r t)
    (hc : CacheOf c s.cache) : CacheOf c t.cache := by
  cases h with
  | found _ => exact hc
  | refused _ hcache _ => exact hcache
  | made _ hcache _ => exact hcache

/-- A bean that an interface is resolved to is in the registry from then on. -/
theorem Catalog.Resolves.get?_of_ok {b : Bean} (h : c.Resolves d servant s (.ok b) t) :
    t.registry.get? d.name = some b := by
  cases h with
  | found hb => exact hb
  | made habsent hcache hends =>
    rw [Stage.fill, Registry.get?_fill, if_pos rfl]
    exact congrArg (Option.or · _) ((s.registry.get?_reserve d.name d.name).trans habsent)

end BeanKit
