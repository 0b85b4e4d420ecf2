import BeanKit.Container.Definition
/-!
# The registry

Beans by name. A name that has a bean keeps it: whoever writes first is the only one. What a
container works on while it runs is gathered here as well: the objects, the registry, and the cache
of entity metadata.
-/

namespace BeanKit

/-- Beans by name, each in a cell of its own. A name is given its cell when a bean is first asked
for under it, before there is one; the cell stays empty until a bean is written to it. -/
structure Registry where
  cells : OrderedMap String (Option Bean) := .empty
  deriving Repr, DecidableEq

namespace Registry

/-- The registry without cells. -/
def empty : Registry := {}

/-- The bean in the cell of a name. -/
def get? (r : Registry) (name : String) : Option Bean := (r.cells.get? name).join

/-- Whether a name has a cell that is filled. -/
def contains (r : Registry) (name : String) : Bool := (r.cells.get? name).any (·.isSome)

/-- Gives a name its cell, where it has none. -/
def reserve (r : Registry) (name : String) : Registry := ⟨r.cells.insertIfAbsent name none⟩

/-- Writes a bean to the cell of a name; a cell that is filled keeps its bean. -/
def fill (r : Registry) (name : String) (b : Bean) : Registry :=
  match r.get? name with
  | some _ => r
  | none => ⟨r.cells.insert name (some b)⟩

/-- The names whose cells are filled, in the order of the cells. -/
def filled (r : Registry) : List String := (r.cells.entries.filter (·.2.isSome)).map (·.1)

/-- How many cells are filled. -/
def size (r : Registry) : Nat := (r.cells.entries.filter (·.2.isSome)).length

/-- Whether no cell is filled. -/
def isEmpty (r : Registry) : Bool := r.size = 0

/-- The names in the registry, in ascending order. -/
def names (r : Registry) : List String := r.filled.mergeSort fun a b => decide (a ≤ b)

/-- A registry in a diagnostic. -/
def describe (r : Registry) : String :=
  Text.record "BeanRegistry" [("beans", Text.quotedList r.names)]

theorem get?_reserve (r : Registry) (name name' : String) :
    (r.reserve name).get? name' = r.get? name' := by
  simp only [get?, reserve, OrderedMap.get?_insertIfAbsent]
  cases r.cells.get? name' with
  | some cell => rfl
  | none => split <;> rfl

/-- A name with a bean has its cell already. -/
theorem reserve_of_get?_eq_some {r : Registry} {name : String} {b : Bean}
    (h : r.get? name = some b) : r.reserve name = r := by
  have hc : r.cells.contains name := by
    rw [OrderedMap.contains_eq_isSome_get?, Option.isSome_iff_exists]
    exact ⟨some b, Option.join_eq_some_iff.1 h⟩
  rw [reserve, OrderedMap.insertIfAbsent, dif_pos hc]

/-- A name that has a bean keeps it, and only the name that is written can be given one. -/
theorem get?_fill (r : Registry) (name name' : String) (b : Bean) :
    (r.fill name b).get? name' = (r.get? name').or (if name' = name then some b else none) := by
  unfold fill
  split
  · rename_i b' hb
    by_cases hn : name' = name
    · rw [hn, hb, Option.some_or]
    · rw [if_neg hn, Option.or_none]
  · rename_i hb
    by_cases hn : name' = name
    · subst hn
      rw [hb, if_pos rfl, Option.none_or, get?, OrderedMap.get?_insert_self]
      rfl
    · rw [if_neg hn, Option.or_none, get?, OrderedMap.get?_insert_of_ne _ _ hn, get?]

/-- A bean of a name was there before, or it is the one that has been written. -/
theorem get?_fill_eq_some_iff (r : Registry) (name name' : String) (b b' : Bean) :
    (r.fill name b).get? name' = some b' ↔
      r.get? name' = some b' ∨ r.get? name' = none ∧ name' = name ∧ b' = b := by
  rw [get?_fill, Option.or_eq_some_iff]
  by_cases hn : name' = name
  · simp [hn, eq_comm]
  · simp [hn]

theorem contains_eq_isSome_get? (r : Registry) (name : String) :
    r.contains name = (r.get? name).isSome := by
  unfold contains get?
  rcases r.cells.get? name with _ | _ | b <;> rfl

theorem nodup_filled (r : Registry) : r.filled.Nodup :=
  r.cells.nodup.sublist (List.filter_sublist.map _)

theorem mem_filled_iff (r : Registry) (name : String) :
    name ∈ r.filled ↔ (r.get? name).isSome := by
  simp only [filled, List.mem_map, List.mem_filter, get?, Option.isSome_iff_exists,
    Option.join_eq_some_iff, OrderedMap.get?_eq_some_iff]
  constructor
  · rintro ⟨⟨_, cell⟩, ⟨he, b, hb⟩, rfl⟩
    exact ⟨b, hb ▸ he⟩
  · rintro ⟨b, hb⟩
    exact ⟨(name, some b), ⟨hb, b, rfl⟩, rfl⟩

theorem mem_names_iff (r : Registry) (name : String) :
    name ∈ r.names ↔ (r.get? name).isSome := by
  rw [names, List.mem_mergeSort, mem_filled_iff]

theorem size_eq_length_filled (r : Registry) : r.size = r.filled.length := by
  rw [size, filled, List.length_map]

end Registry

/-- All that changes while a container runs. -/
structure Stage where
  instances : Instances := {}
  registry : Registry := .empty
  cache : MetadataCache := .empty
  deriving Repr, DecidableEq

namespace Stage

instance : Inhabited Stage := ⟨{}⟩

/-- Gives a name its cell. -/
def reserve (s : Stage) (name : String) : Stage :=
  { s with registry := s.registry.reserve name }

/-- Writes a bean to the cell of a name. -/
def fill (s : Stage) (name : String) (b : Bean) : Stage :=
  { s with registry := s.registry.fill name b }

theorem reserve_of_get?_eq_some (s : Stage) {name : String} {b : Bean}
    (h : s.registry.get? name = some b) : s.reserve name = s := by
  rw [reserve, Registry.reserve_of_get?_eq_some h]

theorem fill_of_get?_eq_some (s : Stage) {name : String} {b : Bean}
    (h : s.registry.get? name = some b) (b' : Bean) : s.fill name b' = s := by
  simp only [fill, Registry.fill, h]

end Stage

/-- A step of a container: it may fail, and what it has changed before stays changed. -/
abbrev Build := ExceptT ContainerError (StateM Stage)

namespace Build

/-- What a step answers from a stage, and the stage that it leaves. -/
def exec {α : Type} (act : Build α) (s : Stage) : Except ContainerError α × Stage := act.run.run s

section Exec

variable {α β : Type}

@[simp] theorem exec_pure (a : α) (s : Stage) : (pure a : Build α).exec s = (.ok a, s) := rfl

@[simp] theorem exec_throw (e : ContainerError) (s : Stage) :
    (throw e : Build α).exec s = (.error e, s) := rfl

@[simp] theorem exec_lift (r : Except ContainerError α) (s : Stage) :
    (liftM r : Build α).exec s = (r, s) := rfl

@[simp] theorem lift_ok_bind (a : α) (f : α → Build β) :
    (liftM (.ok a : Except ContainerError α) : Build α) >>= f = f a := rfl

@[simp] theorem exec_get (s : Stage) : (get : Build Stage).exec s = (.ok s, s) := rfl

@[simp] theorem exec_modify (f : Stage → Stage) (s : Stage) :
    (modify f : Build PUnit).exec s = (.ok (), f s) := rfl

theorem exec_bind (act : Build α) (f : α → Build β) (s : Stage) :
    (act >>= f).exec s = match act.exec s with
      | (.ok a, t) => (f a).exec t
      | (.error e, t) => (.error e, t) := by
  unfold exec ExceptT.run StateT.run
  simp only [bind, ExceptT.bind, ExceptT.mk, StateT.bind, ExceptT.bindCont]
  rcases act s with ⟨_ | _, t⟩ <;> rfl

end Exec

/-- Makes an object of the given nature. -/
def make (origin : String) (nature : Nature) : Build ObjectId :=
  modifyGet fun s =>
    let (id, instances) := s.instances.make ⟨origin, nature⟩
    (id, { s with instances })

/-- The bean under a name; where its cell is empty, the factory makes it. A factory that fails
leaves the cell empty. -/
def getOrCreate (name : String) (factory : Build Bean) : Build Bean := do
  modify (·.reserve name)
  match (← get).registry.get? name with
  | some b => pure b
  | none =>
    let b ← factory
    modify (·.fill name b)
    pure b

theorem exec_getOrCreate (name : String) (factory : Build Bean) (s : Stage) :
    (getOrCreate name factory).exec s = match s.registry.get? name with
      | some b => (.ok b, s)
      | none => match factory.exec (s.reserve name) with
        | (.ok b, t) => (.ok b, t.fill name b)
        | (.error e, t) => (.error e, t) := by
  simp only [getOrCreate, exec_bind, exec_modify, exec_get]
  rw [show (s.reserve name).registry.get? name = s.registry.get? name from
    s.registry.get?_reserve name name]
  cases h : s.registry.get? name with
  | some b =>
    rw [s.reserve_of_get?_eq_some h]
    rfl
  | none =>
    simp only [exec_bind]
    rcases factory.exec (s.reserve name) with ⟨_ | b, t⟩ <;> rfl

/-- Writes a bean where the name has none, and answers the bean under the name. -/
def putIfAbsent (name : String) (b : Bean) : Build Bean :=
  getOrCreate name (pure b)

theorem exec_putIfAbsent (name : String) (b : Bean) (s : Stage) :
    (putIfAbsent name b).exec s =
      (.ok ((s.registry.get? name).getD b), (s.reserve name).fill name b) := by
  rw [putIfAbsent, exec_getOrCreate]
  cases h : s.registry.get? name with
  | some b' => rw [s.reserve_of_get?_eq_some h, s.fill_of_get?_eq_some h, Option.getD_some]
  | none => rfl

/-- The metadata of an entity, through the cache. -/
def metadata (d : Descriptor) : Build Metadata := do
  let s ← get
  match s.cache.resolve d with
  | (.ok shared, cache) =>
    set { s with cache }
    pure shared.metadata
  | (.error e, _) => throw (.schema e)

theorem exec_metadata (d : Descriptor) (s : Stage) :
    (metadata d).exec s = match s.cache.resolve d with
      | (.ok shared, cache) => (.ok shared.metadata, { s with cache })
      | (.error e, _) => (.error (.schema e), s) := by
  simp only [metadata, exec_bind, exec_get]
  rcases s.cache.resolve d with ⟨_ | shared, cache⟩ <;> rfl

end Build

/-- Runs the constructor of a type, which makes a new object. -/
def Definition.instantiate (d : Definition) : Build Bean :=
  match d.blueprint with
  | .error e => throw e
  | .ok blueprint => do
    let id ← Build.make d.name blueprint.nature
    pure ⟨.component blueprint.type, id⟩

/-- Calls a setter on a target: a dependency that it takes is recorded. -/
def Injector.run (i : Injector) (target dependency : Bean) : Build Unit := do
  match i.accept target dependency with
  | .error e => throw e
  | .ok () =>
    modify fun s =>
      { s with instances := s.instances.inject ⟨target.object, i.slot, dependency⟩ }

end BeanKit
