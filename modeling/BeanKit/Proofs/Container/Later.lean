import BeanKit.Container.Bootstrap
/-! # After the start

Whoever holds a started container can look beans up, call the repositories behind its proxies and
bind them, write to its registry, and resolve metadata through its cache, any number of times and in
any order. What each of these requests keeps holds of every stage that they lead to; above all, none
of them replaces a bean that a name has. -/

namespace BeanKit

/-! ## Steps that keep a condition -/

/-- A step keeps a condition on the stage, and what it answers is as `post` says. -/
def Build.Ensures {α : Type} (I : Stage → Prop) (act : Build α) (post : α → Prop) : Prop :=
  ∀ s, I s → I (act.exec s).2 ∧ ∀ a, (act.exec s).1 = .ok a → post a

namespace Build

variable {α β : Type} {I : Stage → Prop} {post : α → Prop} {post' : β → Prop}

theorem ensures_pure {a : α} (h : post a) : Ensures I (pure a) post := by
  refine fun s hs => ⟨hs, fun a' ha => ?_⟩
  cases ha
  exact h

theorem ensures_throw (e : ContainerError) : Ensures I (throw e) post :=
  fun _ hs => ⟨hs, nofun⟩

theorem ensures_get : Ensures I (get : Build Stage) I := by
  refine fun s hs => ⟨hs, fun a ha => ?_⟩
  cases ha
  exact hs

theorem ensures_lift {r : Except ContainerError α} (h : ∀ a, r = .ok a → post a) :
    Ensures I (liftM r) post := fun _ hs => ⟨hs, h⟩

theorem Ensures.bind {act : Build α} {f : α → Build β} (h : Ensures I act post)
    (hf : ∀ a, post a → Ensures I (f a) post') : Ensures I (act >>= f) post' := by
  intro s hs
  obtain ⟨hI, hpost⟩ := h s hs
  rw [exec_bind]
  rcases he : act.exec s with ⟨e | a, t⟩
  · rw [he] at hI
    exact ⟨hI, nofun⟩
  · rw [he] at hI hpost
    exact hf a (hpost a rfl) t hI

/-- What the registry has under a name, or else an error. -/
theorem ensures_registered (name : String) (e : ContainerError) :
    Ensures I (get >>= fun s => match s.registry.get? name with
      | some b => pure b
      | none => throw e) fun _ => True := by
  refine ensures_get.bind fun s _ => ?_
  split
  · exact ensures_pure trivial
  · exact ensures_throw e

/-- A step of which only the stage matters. -/
theorem ensures_of_exec {act : Build α} (h : ∀ t, I t → I (act.exec t).2) :
    act.Ensures I fun _ => True :=
  fun t ht => ⟨h t ht, fun _ _ => trivial⟩

/-- A name is given its cell, its factory is run, and what it has made is written to the cell. -/
theorem ensures_getOrCreate {name : String} {factory : Build Bean}
    (hreserve : ∀ t, I t → I (t.reserve name)) (hfill : ∀ t b, I t → I (t.fill name b))
    (h : factory.Ensures I fun _ => True) :
    (getOrCreate name factory).Ensures I fun _ => True := by
  refine ensures_of_exec fun s hs => ?_
  rw [exec_getOrCreate]
  cases s.registry.get? name with
  | some b => exact hs
  | none =>
    have ht := (h _ (hreserve s hs)).1
    rcases hexec : factory.exec (s.reserve name) with ⟨e | b, t⟩
    · rw [hexec] at ht
      exact ht
    · rw [hexec] at ht
      exact hfill t b ht

/-- The bean of a name stays, whatever other names are given, and whatever else is offered for this
one. -/
theorem ensures_registry_getOrCreate {name name' : String} {b : Bean} {factory : Build Bean}
    (h : factory.Ensures (·.registry.get? name = some b) fun _ => True) :
    (getOrCreate name' factory).Ensures (·.registry.get? name = some b) fun _ => True := by
  refine ensures_getOrCreate (fun t ht => ?_) (fun t b' ht => ?_) h
  · exact (t.registry.get?_reserve name' name).trans ht
  · rw [Stage.fill, Registry.get?_fill, ht, Option.some_or]

end Build

/-- Building a proxy, whether it succeeds or not, comes to nothing but changes of the cache, objects
that are made, and repositories that are bound. -/
theorem Catalog.ensures_buildProxy (c : Catalog) {I : Stage → Prop}
    (hcache : ∀ t cache, I t → I { t with cache })
    (hmake : ∀ t o, I t → I { t with instances := (t.instances.make o).2 })
    (hbind : ∀ t repository m, I t → I { t with instances := t.instances.bind repository m })
    (interface implementation : String) :
    (c.buildProxy interface implementation).Ensures I fun _ => True := by
  unfold buildProxy
  refine (Build.ensures_of_exec fun _ ht => ht).bind fun d _ => ?_
  refine (Build.ensures_of_exec fun _ ht => ht).bind fun servant _ => ?_
  refine (Build.ensures_of_exec fun _ ht => ht).bind fun entity _ => ?_
  refine (Build.ensures_of_exec fun t ht => ?_).bind fun m _ => ?_
  · rw [Build.exec_metadata]
    rcases t.cache.resolve entity.descriptor with ⟨e | shared, cache⟩
    · exact ht
    · exact hcache t cache ht
  refine (Build.ensures_of_exec fun t ht => ?_).bind fun made _ => ?_
  · unfold Definition.instantiate
    split
    · exact ht
    · exact hmake t _ ht
  split
  · exact Build.ensures_throw _
  · refine (Build.ensures_of_exec fun t ht => ?_).bind fun _ _ => ?_
    · exact hbind t _ m ht
    split
    · exact Build.ensures_throw _
    · exact Build.ensures_of_exec fun t ht => hmake t _ ht

/-! ## Requests -/

/-- A call that a proxy takes. -/
inductive RepositoryCall where
  | save (values : List (String × Value))
  | getOne (id : Value)
  | delete (id : Value)
  | listAll
  | invoke (method : String) (args : List Value)

/-- What a proxy answers to a call. -/
def RepositoryCall.answer (p : Proxy) : RepositoryCall → Except Query.Error String
  | .save values => p.save values
  | .getOne id => p.getOne id
  | .delete id => p.delete id
  | .listAll => p.listAll
  | .invoke method args => p.invoke method args

namespace Context

/-- What can be asked of a started container, or done to what it hands out. A factory given to the
registry comes to an outcome. -/
inductive Request where
  | bean (name : String)
  | component (type : String)
  | interface (name : String)
  | call (proxy : ObjectId) (request : RepositoryCall)
  | bind (repository : ObjectId) (metadata : Metadata)
  | create (name : String) (outcome : Except ContainerError Bean)
  | resolve (entity : Descriptor)

/-- Whether a request is a use of the container itself: it writes nothing to the registry by hand, and
has nothing resolved that the container knows nothing of. -/
def Request.isUse : Request → Bool
  | .create _ _ | .resolve _ => false
  | _ => true

/-- The stage after a request, whether it answers or fails. A call reads the proxy and leaves
everything as it is. -/
def Request.after (x : Context) (s : Stage) : Request → Stage
  | .bean name => ((x.bean name).exec s).2
  | .component type => ((x.component type).exec s).2
  | .interface name => ((x.interface name).exec s).2
  | .call _ _ => s
  | .bind repository m => { s with instances := s.instances.bind repository m }
  | .create name outcome => ((Build.getOrCreate name (liftM outcome)).exec s).2
  | .resolve entity => ((Build.metadata entity).exec s).2

/-- The stage after some requests, one after the other. -/
def after (x : Context) (s : Stage) (rs : List Request) : Stage :=
  rs.foldl (fun t r => r.after x t) s

/-- Whether requests can lead from a stage to another one. -/
def Reaches (x : Context) (s t : Stage) : Prop := ∃ rs, x.after s rs = t

/-- Whether uses can lead from a stage to another one. -/
def Visits (x : Context) (s t : Stage) : Prop :=
  ∃ rs : List Request, (∀ r ∈ rs, r.isUse) ∧ x.after s rs = t

variable {x : Context} {s t : Stage}

/-- What every request of some keeps holds when all of them have been made. -/
theorem after_induction {I : Stage → Prop} {rs : List Request}
    (hstep : ∀ r ∈ rs, ∀ u, I u → I (r.after x u)) (hs : I s) : I (x.after s rs) :=
  List.foldlRecOn rs _ hs fun u hu r hr => hstep r hr u hu

theorem Reaches.refl : x.Reaches s s := ⟨[], rfl⟩

theorem Visits.reaches (h : x.Visits s t) : x.Reaches s t := by
  obtain ⟨rs, -, ht⟩ := h
  exact ⟨rs, ht⟩

/-- Checking what a look-up has found changes nothing. -/
theorem exec_checked (look : Build Bean) (check : Bean → Except ContainerError Unit) (s : Stage) :
    (look >>= fun b => match check b with
      | .ok () => pure b
      | .error e => throw e).exec s =
      ((look.exec s).1.bind fun b => (check b).map fun _ => b, (look.exec s).2) := by
  rw [Build.exec_bind]
  rcases look.exec s with ⟨e | b, t⟩
  · rfl
  · simp only [Except.bind]
    cases check b <;> rfl

theorem exec_component (x : Context) (type : String) (s : Stage) :
    (x.component type).exec s =
      (((x.bean type).exec s).1.bind fun b => (b.expectComponent type).map fun _ => b,
        ((x.bean type).exec s).2) :=
  exec_checked (x.bean type) (·.expectComponent type) s

theorem exec_interface (x : Context) (name : String) (s : Stage) :
    (x.interface name).exec s =
      (((x.bean name).exec s).1.bind fun b => (b.expectInterface name).map fun _ => b,
        ((x.bean name).exec s).2) :=
  exec_checked (x.bean name) (·.expectInterface name) s

/-! ## What requests keep -/

/-- A condition on the stage that the uses of a container keep: resolving a bound interface keeps it,
and so does binding a repository. -/
structure Keeps (x : Context) (I : Stage → Prop) : Prop where
  resolve : ∀ {name implementation}, x.bindings.get? name = some implementation →
    (x.catalog.resolveBound name implementation).Ensures I fun _ => True
  bind : ∀ {s} (repository : ObjectId) (m : Metadata), I s →
    I { s with instances := s.instances.bind repository m }

section Keeps

variable {I : Stage → Prop}

theorem Keeps.bean (hk : x.Keeps I) (name : String) : (x.bean name).Ensures I fun _ => True := by
  unfold Context.bean
  split
  · rename_i himpl
    exact hk.resolve himpl
  · exact Build.ensures_registered name _

/-- A use keeps what a container keeps. -/
theorem Keeps.after (hk : x.Keeps I) {r : Request} (hr : r.isUse) (hs : I s) : I (r.after x s) := by
  cases r with
  | bean name => exact (hk.bean name s hs).1
  | component type =>
    rw [Request.after, exec_component]
    exact (hk.bean type s hs).1
  | interface name =>
    rw [Request.after, exec_interface]
    exact (hk.bean name s hs).1
  | call proxy request => exact hs
  | bind repository m => exact hk.bind repository m hs
  | create name outcome => cases hr
  | resolve entity => cases hr

/-- What holds of a started container and is kept holds whatever it is used for. -/
theorem Keeps.visits (hk : x.Keeps I) (hs : I s) (h : x.Visits s t) : I t := by
  obtain ⟨rs, hrs, rfl⟩ := h
  exact after_induction (fun r hr u hu => hk.after (hrs r hr) hu) hs

end Keeps

/-- A container keeps the bean of every name. -/
theorem keeps_registered (x : Context) (name : String) (b : Bean) :
    x.Keeps (·.registry.get? name = some b) where
  resolve _ := Build.ensures_registry_getOrCreate <|
    x.catalog.ensures_buildProxy (fun _ _ ht => ht) (fun _ _ ht => ht) (fun _ _ _ ht => ht) _ _
  bind _ _ hs := hs

theorem get?_registry_after {name : String} {b : Bean} (h : s.registry.get? name = some b)
    (r : Request) : (r.after x s).registry.get? name = some b := by
  cases r with
  | create n outcome =>
    exact (Build.ensures_registry_getOrCreate (Build.ensures_lift fun _ _ => trivial) s h).1
  | resolve entity =>
    rw [Request.after, Build.exec_metadata]
    rcases s.cache.resolve entity with ⟨e | shared, cache⟩ <;> exact h
  | _ => exact (x.keeps_registered name b).after rfl h

/-- A name that has a bean has that bean ever after. -/
theorem Reaches.get?_registry (ht : x.Reaches s t) {name : String} {b : Bean}
    (h : s.registry.get? name = some b) : t.registry.get? name = some b := by
  obtain ⟨rs, rfl⟩ := ht
  exact after_induction (I := (·.registry.get? name = some b))
    (fun r _ u hu => get?_registry_after hu r) h

/-- A name that has a bean is answered with it, bound or not, and nothing changes. -/
theorem exec_bean_of_registered (x : Context) {s : Stage} {name : String} {b : Bean}
    (h : s.registry.get? name = some b) : (x.bean name).exec s = (.ok b, s) := by
  unfold bean
  split
  · rw [Catalog.resolveBound, Build.exec_getOrCreate, h]
  · rw [Build.exec_bind, Build.exec_get]
    simp only [h]
    rfl

end Context
end BeanKit
