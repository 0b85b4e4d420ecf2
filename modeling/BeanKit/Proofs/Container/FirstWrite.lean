import BeanKit.Container.Registry
import Mathlib.Data.List.Sort
import Mathlib.Data.String.Basic
/-! # Whoever writes first is the only one

A registry has a cell for every name that a bean was ever asked for under, filled or not, and a
factory can ask the same registry for other beans while its own cell is empty. Seen from outside it
is a plain map to which every name is written at most once.

`Ledger` is that map, with its writes in order. `Mirrors` relates a registry to it, one call at a
time; that no factory asks for a bean which is just being made is `Orderly`. -/

namespace BeanKit

/-! ## Factories and calls -/

/-- What a factory does: it comes to an outcome, whatever it does to the objects on the way, or it
first asks the registry for a bean, with a factory for that one, and goes on from the answer. -/
inductive Factory where
  | finish (outcome : Instances → Except ContainerError Bean × Instances)
  | create (name : String) (nested : Factory) (next : Except ContainerError Bean → Factory)

/-- A call of a registry. -/
inductive Call where
  | get (name : String)
  | contains (name : String)
  | putIfAbsent (name : String) (b : Bean)
  | getOrCreate (name : String) (factory : Factory)
  | size
  | isEmpty
  | names

/-- What a call answers. -/
inductive Answer where
  | found (b : Option Bean)
  | made (r : Except ContainerError Bean)
  | flag (b : Bool)
  | count (n : Nat)
  | names (l : List String)

namespace Build

/-- Comes to an outcome, which may change the objects. -/
def finish (outcome : Instances → Except ContainerError Bean × Instances) : Build Bean :=
  ExceptT.mk fun s => ((outcome s.instances).1, { s with instances := (outcome s.instances).2 })

/-- The answer of a step, error or not. -/
def attempt {α : Type} (act : Build α) : Build (Except ContainerError α) := ExceptT.lift act.run

theorem exec_attempt {α : Type} (act : Build α) (s : Stage) :
    (attempt act).exec s = (.ok (act.exec s).1, (act.exec s).2) := rfl

end Build

/-- Runs a factory. -/
def Factory.run : Factory → Build Bean
  | .finish outcome => Build.finish outcome
  | .create name nested next => do
    let r ← Build.attempt (Build.getOrCreate name nested.run)
    (next r).run

/-- Performs a call: the answer, and the stage that it leaves. -/
def Call.run (s : Stage) : Call → Answer × Stage
  | .get name => (.found (s.registry.get? name), s)
  | .contains name => (.flag (s.registry.contains name), s)
  | .putIfAbsent name b =>
    let done := (Build.putIfAbsent name b).exec s
    (.made done.1, done.2)
  | .getOrCreate name factory =>
    let done := (Build.getOrCreate name factory.run).exec s
    (.made done.1, done.2)
  | .size => (.count s.registry.size, s)
  | .isEmpty => (.flag s.registry.isEmpty, s)
  | .names => (.names s.registry.names, s)

/-- Performs calls in turn. -/
def perform (s : Stage) : List Call → List Answer × Stage
  | [] => ([], s)
  | c :: rest =>
    let done := perform (c.run s).2 rest
    ((c.run s).1 :: done.1, done.2)

/-! ## What was replied

A reply tells the bean, or the error, that was answered for a name. It is fresh where the name had
no bean, so that a factory was run or the bean was put there. The replies are those to the calls and
those to the factories that the calls have run, in the order in which they were given. -/

/-- A reply of a registry, and what the registry was like when it was given. -/
structure Reply where
  name : String
  fresh : Bool
  answer : Except ContainerError Bean
  left : Registry

/-- The bean that a name was given for a reply. -/
def Reply.written? (r : Reply) : Option (String × Bean) :=
  match r.fresh, r.answer with
  | true, .ok b => some (r.name, b)
  | _, _ => none

/-- The replies when a bean is asked for, from those to the factory where it is run. -/
def replies (s : Stage) (name : String) (act : Build Bean) (nested : Stage → List Reply) :
    List Reply :=
  (if (s.registry.get? name).isSome then [] else nested (s.reserve name)) ++
    [⟨name, (s.registry.get? name).isNone, ((Build.getOrCreate name act).exec s).1,
      ((Build.getOrCreate name act).exec s).2.registry⟩]

/-- The replies to a factory. -/
def Factory.replies : Factory → Stage → List Reply
  | .finish _, _ => []
  | .create name nested next, s =>
    let done := (Build.getOrCreate name nested.run).exec s
    BeanKit.replies s name nested.run nested.replies ++ (next done.1).replies done.2

/-- The replies to a call. -/
def Call.replies (s : Stage) : Call → List Reply
  | .get name => (s.registry.get? name).toList.map fun b => ⟨name, false, .ok b, s.registry⟩
  | .putIfAbsent name b => BeanKit.replies s name (pure b) fun _ => []
  | .getOrCreate name factory => BeanKit.replies s name factory.run factory.replies
  | _ => []

/-- The replies to calls performed in turn. -/
def allReplies (s : Stage) : List Call → List Reply
  | [] => []
  | c :: rest => c.replies s ++ allReplies (c.run s).2 rest

/-! ## The plain map -/

/-- A plain map from names to beans, as the list of its writes. -/
structure Ledger where
  writes : List (String × Bean)
  instances : Instances

namespace Ledger

/-- The bean that was written to a name first. -/
def get? (l : Ledger) (name : String) : Option Bean :=
  (l.writes.find? (·.1 = name)).map (·.2)

/-- Writes a bean to a name. -/
def write (l : Ledger) (name : String) (b : Bean) : Ledger :=
  { l with writes := l.writes ++ [(name, b)] }

/-- The bean of a name; where it has none, a factory is run, and what it makes is written. -/
def getOrCreate (l : Ledger) (name : String)
    (factory : Ledger → Except ContainerError Bean × Ledger) :
    Except ContainerError Bean × Ledger :=
  match l.get? name with
  | some b => (.ok b, l)
  | none =>
    match factory l with
    | (.ok b, after) => (.ok b, after.write name b)
    | (.error e, after) => (.error e, after)

end Ledger

/-- What a factory comes to over a plain map. -/
def Factory.outcome : Factory → Ledger → Except ContainerError Bean × Ledger
  | .finish outcome, l => ((outcome l.instances).1, { l with instances := (outcome l.instances).2 })
  | .create name nested next, l =>
    let done := l.getOrCreate name nested.outcome
    (next done.1).outcome done.2

/-- What a call comes to over a plain map. -/
def Call.outcome (l : Ledger) : Call → Answer × Ledger
  | .get name => (.found (l.get? name), l)
  | .contains name => (.flag (l.writes.any (·.1 = name)), l)
  | .putIfAbsent name b =>
    match l.get? name with
    | some b' => (.made (.ok b'), l)
    | none => (.made (.ok b), l.write name b)
  | .getOrCreate name factory =>
    let done := l.getOrCreate name factory.outcome
    (.made done.1, done.2)
  | .size => (.count l.writes.length, l)
  | .isEmpty => (.flag l.writes.isEmpty, l)
  | .names => (.names ((l.writes.map (·.1)).mergeSort fun a b => decide (a ≤ b)), l)

/-- What calls come to over a plain map. -/
def outcomes (l : Ledger) : List Call → List Answer × Ledger
  | [] => ([], l)
  | c :: rest =>
    let done := outcomes (c.outcome l).2 rest
    ((c.outcome l).1 :: done.1, done.2)

/-! ## No bean is asked for while it is being made -/

/-- A factory that is run never asks for one of the beans that are being made. -/
def Factory.Orderly : Factory → List String → Ledger → Prop
  | .finish _, _, _ => True
  | .create name nested next, busy, l =>
    name ∉ busy ∧ (l.get? name = none → nested.Orderly (name :: busy) l) ∧
      (next (l.getOrCreate name nested.outcome).1).Orderly busy
        (l.getOrCreate name nested.outcome).2

/-- A call whose factory, where it is run, is orderly. -/
def Call.Orderly (l : Ledger) : Call → Prop
  | .getOrCreate name factory => l.get? name = none → factory.Orderly [name] l
  | _ => True

/-- Calls that are orderly, one after the other. -/
def Orderly (l : Ledger) : List Call → Prop
  | [] => True
  | c :: rest => c.Orderly l ∧ Orderly (c.outcome l).2 rest

/-! ## The registry mirrors the map -/

namespace Ledger

/-- A name that has a bean keeps it, and only the name that is written can be given one. -/
theorem get?_write (l : Ledger) (name name' : String) (b : Bean) :
    (l.write name b).get? name' = (l.get? name').or (if name' = name then some b else none) := by
  simp only [get?, write, List.find?_append, List.find?_singleton, decide_eq_true_eq]
  by_cases hn : name' = name
  · cases l.writes.find? (·.1 = name') <;> simp [hn]
  · simp [hn, Ne.symm hn]

theorem get?_eq_none_iff (l : Ledger) (name : String) :
    l.get? name = none ↔ name ∉ l.writes.map (·.1) := by
  simp only [get?, Option.map_eq_none_iff, List.find?_eq_none, decide_eq_true_eq, List.mem_map,
    not_exists, not_and]

theorem get?_of_writes_eq_append {l m : Ledger} {more : List (String × Bean)}
    (h : m.writes = l.writes ++ more) {name : String} {b : Bean} (hb : l.get? name = some b) :
    m.get? name = some b := by
  obtain ⟨w, hw, rfl⟩ := Option.map_eq_some_iff.1 hb
  rw [get?, h, List.find?_append, hw]
  rfl

end Ledger

/-- A registry that has the beans of a map to which no name was written twice. The names `busy` are
those whose beans are being made: they have none yet. -/
structure Mirrors (busy : List String) (s : Stage) (l : Ledger) : Prop where
  beans : ∀ name, s.registry.get? name = l.get? name
  instances : s.instances = l.instances
  once : (l.writes.map (·.1)).Nodup
  waiting : ∀ name ∈ busy, l.get? name = none

/-- What a part of a run leaves: from the map `l` it leads to `m`, which the registry mirrors again.
The replies on the way tell what has been written; every bean among them stays, and an error leaves
its name without a bean. -/
structure Follows (busy : List String) (l : Ledger) (log : List Reply) (s : Stage) (m : Ledger) :
    Prop extends Mirrors busy s m where
  writes : m.writes = l.writes ++ log.filterMap Reply.written?
  stays : ∀ r ∈ log, ∀ b, r.answer = .ok b → m.get? r.name = some b
  absent : ∀ r ∈ log, ∀ e, r.answer = .error e → r.left.get? r.name = none

section Mirrors

variable {busy : List String} {s t : Stage} {l m n : Ledger} {log log' : List Reply}

/-- Giving a name that is free its cell, and having its bean made from now on. -/
theorem Mirrors.reserve (h : Mirrors busy s l) {name : String} (hn : l.get? name = none) :
    Mirrors (name :: busy) (s.reserve name) l where
  beans name' := (s.registry.get?_reserve name name').trans (h.beans name')
  instances := h.instances
  once := h.once
  waiting := by
    intro name' hm
    rcases List.mem_cons.1 hm with rfl | hm
    · exact hn
    · exact h.waiting name' hm

/-- The bean that was being made is written, for the first time. -/
theorem Mirrors.fill {name : String} (h : Mirrors (name :: busy) s l) (hb : name ∉ busy)
    (b : Bean) : Mirrors busy (s.fill name b) (l.write name b) where
  beans name' := by
    rw [Stage.fill, Registry.get?_fill, Ledger.get?_write, h.beans]
  instances := h.instances
  once := by
    have hfree := (l.get?_eq_none_iff name).1 (h.waiting name List.mem_cons_self)
    rw [Ledger.write, List.map_append, List.nodup_append]
    refine ⟨h.once, List.nodup_singleton _, ?_⟩
    intro a ha a' ha' hab
    obtain rfl := List.mem_singleton.1 ha'
    exact hfree (hab ▸ ha)
  waiting name' hm := by
    have hne : name' ≠ name := fun he => hb (he ▸ hm)
    rw [Ledger.get?_write, if_neg hne, Option.or_none]
    exact h.waiting name' (List.mem_cons_of_mem _ hm)

theorem Mirrors.follows_nil (h : Mirrors busy s l) : Follows busy l [] s l :=
  { h with
    writes := (List.append_nil _).symm
    stays := fun _ hr => absurd hr List.not_mem_nil
    absent := fun _ hr => absurd hr List.not_mem_nil }

/-- A reply that has the bean of its name and writes nothing. -/
theorem Mirrors.follows_found (h : Mirrors busy s l) {name : String} {b : Bean}
    (hb : l.get? name = some b) (r : Registry) :
    Follows busy l [⟨name, false, .ok b, r⟩] s l where
  toMirrors := h
  writes := (List.append_nil _).symm
  stays := by
    intro r hr b' hb'
    obtain rfl := List.mem_singleton.1 hr
    cases hb'
    exact hb
  absent := by
    intro r hr e he
    obtain rfl := List.mem_singleton.1 hr
    cases he

theorem Follows.trans (h : Follows busy l log s m) (h' : Follows busy m log' t n) :
    Follows busy l (log ++ log') t n where
  toMirrors := h'.toMirrors
  writes := by rw [h'.writes, h.writes, List.filterMap_append, List.append_assoc]
  stays := by
    intro r hr b hb
    rcases List.mem_append.1 hr with hr | hr
    · exact Ledger.get?_of_writes_eq_append h'.writes (h.stays r hr b hb)
    · exact h'.stays r hr b hb
  absent r hr := (List.mem_append.1 hr).elim (h.absent r) (h'.absent r)

/-- The factory has made the bean, which is now written. -/
theorem Follows.fill {name : String} (h : Follows (name :: busy) l log s m) (hb : name ∉ busy)
    (b : Bean) (r : Registry) :
    Follows busy l (log ++ [⟨name, true, .ok b, r⟩]) (s.fill name b) (m.write name b) where
  toMirrors := h.toMirrors.fill hb b
  writes := by
    rw [List.filterMap_append, ← List.append_assoc, ← h.writes]
    rfl
  stays := by
    intro r hr b' hb'
    rw [Ledger.get?_write]
    rcases List.mem_append.1 hr with hr | hr
    · rw [h.stays r hr b' hb', Option.some_or]
    · obtain rfl := List.mem_singleton.1 hr
      cases hb'
      rw [h.waiting name List.mem_cons_self, Option.none_or, if_pos rfl]
  absent := by
    intro r hr e he
    rcases List.mem_append.1 hr with hr | hr
    · exact h.absent r hr e he
    · obtain rfl := List.mem_singleton.1 hr
      cases he

/-- The factory has failed: the beans that it asked for stay, and its own name is free again. -/
theorem Follows.fail {name : String} (h : Follows (name :: busy) l log s m) (e : ContainerError) :
    Follows busy l (log ++ [⟨name, true, .error e, s.registry⟩]) s m where
  beans := h.beans
  instances := h.instances
  once := h.once
  waiting name' hm := h.waiting name' (List.mem_cons_of_mem _ hm)
  writes := by
    rw [List.filterMap_append, ← List.append_assoc, ← h.writes]
    exact (List.append_nil _).symm
  stays := by
    intro r hr b hb
    rcases List.mem_append.1 hr with hr | hr
    · exact h.stays r hr b hb
    · obtain rfl := List.mem_singleton.1 hr
      cases hb
  absent := by
    intro r hr e' he
    rcases List.mem_append.1 hr with hr | hr
    · exact h.absent r hr e' he
    · obtain rfl := List.mem_singleton.1 hr
      exact (h.beans name).trans (h.waiting name List.mem_cons_self)

/-- Asking for a bean mirrors asking the map, if running the factory does. -/
theorem Mirrors.getOrCreate (h : Mirrors busy s l) {name : String} (hn : name ∉ busy)
    (act : Build Bean) (nested : Stage → List Reply)
    (factory : Ledger → Except ContainerError Bean × Ledger)
    (hf : l.get? name = none → ∀ t, Mirrors (name :: busy) t l → (act.exec t).1 = (factory l).1 ∧
      Follows (name :: busy) l (nested t) (act.exec t).2 (factory l).2) :
    ((Build.getOrCreate name act).exec s).1 = (l.getOrCreate name factory).1 ∧
      Follows busy l (replies s name act nested) ((Build.getOrCreate name act).exec s).2
        (l.getOrCreate name factory).2 := by
  rw [replies, Build.exec_getOrCreate, h.beans name, Ledger.getOrCreate]
  cases hg : l.get? name with
  | some b => exact ⟨rfl, h.follows_found hg _⟩
  | none =>
    obtain ⟨hanswer, hafter⟩ := hf hg _ (h.reserve hg)
    rcases hact : act.exec (s.reserve name) with ⟨r, t⟩
    rcases hfac : factory l with ⟨r', after⟩
    rw [hact, hfac] at hanswer hafter
    obtain rfl : r = r' := hanswer
    cases r with
    | ok b => exact ⟨rfl, hafter.fill hn b _⟩
    | error e => exact ⟨rfl, hafter.fail e⟩

/-- An orderly factory comes to the same outcome. The induction is on what the factory still has to
do; the name that it asks for joins those in the making while its own factory runs. -/
theorem Mirrors.run {f : Factory} (h : Mirrors busy s l) (hf : f.Orderly busy l) :
    (f.run.exec s).1 = (f.outcome l).1 ∧
      Follows busy l (f.replies s) (f.run.exec s).2 (f.outcome l).2 := by
  induction f generalizing busy s l with
  | finish outcome =>
    refine ⟨congrArg (fun i => (outcome i).1) h.instances, ?_⟩
    exact
      { beans := h.beans
        instances := congrArg (fun i => (outcome i).2) h.instances
        once := h.once
        waiting := h.waiting
        writes := (List.append_nil _).symm
        stays := fun _ hr => absurd hr List.not_mem_nil
        absent := fun _ hr => absurd hr List.not_mem_nil }
  | create name nested next ihNested ihNext =>
    obtain ⟨hn, hnested, hnext⟩ := hf
    obtain ⟨hanswer, hafter⟩ := h.getOrCreate hn nested.run nested.replies nested.outcome
      fun hfree t ht => ihNested ht (hnested hfree)
    rw [Factory.run, Factory.outcome, Factory.replies, Build.exec_bind, Build.exec_attempt]
    rw [← hanswer] at hnext ⊢
    obtain ⟨hdone, hrest⟩ := ihNext _ hafter.toMirrors hnext
    exact ⟨hdone, hafter.trans hrest⟩

end Mirrors

/-! ## Views

What the other calls tell of the registry agrees with looking its names up, whatever its cells. -/

/-- The views of a registry agree with one another. -/
structure Registry.Coherent (r : Registry) : Prop where
  contains : ∀ name, r.contains name = (r.get? name).isSome
  names : ∀ name, name ∈ r.names ↔ (r.get? name).isSome
  size : r.size = r.names.length
  isEmpty : r.isEmpty = r.names.isEmpty
  ascending : r.names.Pairwise (· < ·)

theorem Registry.coherent (r : Registry) : r.Coherent where
  contains := r.contains_eq_isSome_get?
  names := r.mem_names_iff
  size := by rw [Registry.names, List.length_mergeSort, size_eq_length_filled]
  isEmpty := by
    rw [Bool.eq_iff_iff, Registry.isEmpty, decide_eq_true_iff, List.isEmpty_iff_length_eq_zero,
      Registry.names, List.length_mergeSort, size_eq_length_filled]
  ascending := by
    have hsorted : r.names.SortedLE := List.sortedLE_mergeSort
    have hnodup : r.names.Nodup := List.nodup_mergeSort.2 r.nodup_filled
    exact (hsorted.sortedLT_of_nodup hnodup).pairwise

section Calls

variable {busy : List String} {s : Stage} {l : Ledger}

/-- The names with a filled cell are those that have been written to, in another order. -/
theorem Mirrors.perm (h : Mirrors busy s l) : s.registry.filled.Perm (l.writes.map (·.1)) := by
  rw [List.perm_ext_iff_of_nodup s.registry.nodup_filled h.once]
  intro name
  rw [Registry.mem_filled_iff, h.beans, Option.isSome_iff_ne_none, Ne, l.get?_eq_none_iff,
    Decidable.not_not]

theorem Mirrors.contains (h : Mirrors busy s l) (name : String) :
    s.registry.contains name = l.writes.any (·.1 = name) := by
  rw [Registry.contains_eq_isSome_get?, h.beans, Ledger.get?, Option.isSome_map,
    List.isSome_find?]

theorem Mirrors.size (h : Mirrors busy s l) : s.registry.size = l.writes.length := by
  rw [Registry.size_eq_length_filled, h.perm.length_eq, List.length_map]

theorem Mirrors.names (h : Mirrors busy s l) :
    s.registry.names = (l.writes.map (·.1)).mergeSort fun a b => decide (a ≤ b) := by
  refine List.Perm.eq_of_sortedLE List.sortedLE_mergeSort List.sortedLE_mergeSort ?_
  exact (List.mergeSort_perm _ _).trans (h.perm.trans (List.mergeSort_perm _ _).symm)

/-- One orderly call, on a registry where no bean is being made. -/
theorem Mirrors.call (h : Mirrors [] s l) {c : Call} (hc : c.Orderly l) :
    (c.run s).1 = (c.outcome l).1 ∧
      Follows [] l (c.replies s) (c.run s).2 (c.outcome l).2 := by
  cases c with
  | get name =>
    refine ⟨congrArg Answer.found (h.beans name), ?_⟩
    simp only [Call.replies, h.beans name]
    cases hb : l.get? name with
    | none => exact h.follows_nil
    | some b => exact h.follows_found hb _
  | contains name => exact ⟨congrArg Answer.flag (h.contains name), h.follows_nil⟩
  | putIfAbsent name b =>
    obtain ⟨hanswer, hafter⟩ := h.getOrCreate (List.not_mem_nil : name ∉ []) (pure b)
      (fun _ => []) (fun l => (.ok b, l)) fun _ t ht => ⟨rfl, ht.follows_nil⟩
    have hput : (Call.putIfAbsent name b).outcome l =
        (.made (l.getOrCreate name fun l => (.ok b, l)).1,
          (l.getOrCreate name fun l => (.ok b, l)).2) := by
      rw [Call.outcome, Ledger.getOrCreate]
      cases l.get? name <;> rfl
    rw [hput]
    exact ⟨congrArg Answer.made hanswer, hafter⟩
  | getOrCreate name factory =>
    obtain ⟨hanswer, hafter⟩ := h.getOrCreate List.not_mem_nil factory.run factory.replies
      factory.outcome fun hfree t ht => ht.run (hc hfree)
    exact ⟨congrArg Answer.made hanswer, hafter⟩
  | size => exact ⟨congrArg Answer.count h.size, h.follows_nil⟩
  | isEmpty =>
    refine ⟨congrArg Answer.flag ?_, h.follows_nil⟩
    rw [Bool.eq_iff_iff, Registry.isEmpty, decide_eq_true_iff, List.isEmpty_iff_length_eq_zero,
      h.size]
  | names => exact ⟨congrArg Answer.names h.names, h.follows_nil⟩

/-- Orderly calls in turn. -/
theorem Mirrors.perform (h : Mirrors [] s l) {calls : List Call} (hc : Orderly l calls) :
    (perform s calls).1 = (outcomes l calls).1 ∧
      Follows [] l (allReplies s calls) (perform s calls).2 (outcomes l calls).2 := by
  induction calls generalizing s l with
  | nil => exact ⟨rfl, h.follows_nil⟩
  | cons c rest ih =>
    obtain ⟨hanswer, hafter⟩ := h.call hc.1
    obtain ⟨hanswers, hdone⟩ := ih hafter.toMirrors hc.2
    exact ⟨congrArg₂ List.cons hanswer hanswers, hafter.trans hdone⟩

end Calls

/-! ## First write wins -/

theorem perform_append (s : Stage) (before after : List Call) :
    perform s (before ++ after) =
      ((perform s before).1 ++ (perform (perform s before).2 after).1,
        (perform (perform s before).2 after).2) := by
  induction before generalizing s with
  | nil => rfl
  | cons c rest ih => simp only [List.cons_append, perform, ih]

theorem orderly_append (l : Ledger) (before after : List Call) :
    Orderly l (before ++ after) ↔ Orderly l before ∧ Orderly (outcomes l before).2 after := by
  induction before generalizing l with
  | nil => exact (and_iff_right trivial).symm
  | cons c rest ih => simp only [List.cons_append, Orderly, outcomes, ih, and_assoc]

/-- What a registry without beans shows of calls: they answer as over a plain map to which no name
is written twice. -/
structure FirstWriteWins (i : Instances) (calls : List Call) : Prop where
  answers : (perform { instances := i } calls).1 = (outcomes ⟨[], i⟩ calls).1
  instances : (perform { instances := i } calls).2.instances = (outcomes ⟨[], i⟩ calls).2.instances
  beans : ∀ name,
    (perform { instances := i } calls).2.registry.get? name = (outcomes ⟨[], i⟩ calls).2.get? name
  /-- What has been written is what the fresh replies tell: no two of them are for one name. -/
  writes : (outcomes ⟨[], i⟩ calls).2.writes =
    (allReplies { instances := i } calls).filterMap Reply.written?
  once : (((allReplies { instances := i } calls).filterMap Reply.written?).map (·.1)).Nodup
  /-- All beans that are ever replied for a name are the one that it has at the end. -/
  same : ∀ r ∈ allReplies { instances := i } calls, ∀ b, r.answer = .ok b →
    (perform { instances := i } calls).2.registry.get? r.name = some b
  /-- A bean is kept, from every point on. -/
  kept : ∀ before after, calls = before ++ after → ∀ name b,
    (perform { instances := i } before).2.registry.get? name = some b →
      (perform { instances := i } calls).2.registry.get? name = some b
  /-- A failure shows nothing under its name. -/
  unseen : ∀ r ∈ allReplies { instances := i } calls, ∀ e, r.answer = .error e →
    r.left.get? r.name = none ∧ r.left.contains r.name = false ∧ r.name ∉ r.left.names
  /-- After a failure the next factory for the name is run. -/
  retried : ∀ before after name f, calls = before ++ .getOrCreate name f :: after →
    ∀ e t, (Call.getOrCreate name f).run (perform { instances := i } before).2 =
      (.made (.error e), t) →
    ∀ g : Factory, ((Call.getOrCreate name g).run t).1 = .made (g.run.exec (t.reserve name)).1
  coherent : (perform { instances := i } calls).2.registry.Coherent

theorem Mirrors.start (i : Instances) : Mirrors [] { instances := i } ⟨[], i⟩ where
  beans _ := rfl
  instances := rfl
  once := List.nodup_nil
  waiting _ hm := absurd hm List.not_mem_nil

theorem Registry.unseen_of_get?_eq_none {r : Registry} {name : String} (h : r.get? name = none) :
    r.get? name = none ∧ r.contains name = false ∧ name ∉ r.names := by
  refine ⟨h, ?_, ?_⟩
  · rw [r.coherent.contains, h]
    rfl
  · rw [r.coherent.names, h]
    exact Bool.false_ne_true

/-- A call that fails leaves its name without a bean. -/
theorem Mirrors.get?_of_failed {s t : Stage} {l : Ledger} (h : Mirrors [] s l) {name : String}
    {f : Factory} (hf : (Call.getOrCreate name f).Orderly l) {e : ContainerError}
    (he : (Call.getOrCreate name f).run s = (.made (.error e), t)) :
    t.registry.get? name = none := by
  obtain ⟨hanswer, rfl⟩ := Prod.mk.inj he
  exact (h.call hf).2.absent ⟨name, _, _, _⟩
    (List.mem_append_right _ (List.mem_singleton.2 rfl)) e (Answer.made.inj hanswer)

/-- A registry that starts without beans is a map in which the first write to a name wins, for every
sequence of calls whose factories do not ask for a bean in the making. -/
theorem perform_firstWriteWins (i : Instances) (calls : List Call)
    (h : Orderly ⟨[], i⟩ calls) : FirstWriteWins i calls := by
  obtain ⟨hanswers, hend⟩ := (Mirrors.start i).perform h
  have hwrites := hend.writes
  rw [List.nil_append] at hwrites
  exact
    { answers := hanswers
      instances := hend.instances
      beans := hend.beans
      writes := hwrites
      once := hwrites ▸ hend.once
      same := fun r hr b hb => (hend.beans r.name).trans (hend.stays r hr b hb)
      kept := by
        rintro before after rfl name b hb
        obtain ⟨hbefore, hafter⟩ := (orderly_append ..).1 h
        -- The calls before end with a registry that mirrors the map; those after only add writes.
        have hmid := ((Mirrors.start i).perform hbefore).2.toMirrors
        have hrest := (hmid.perform hafter).2
        rw [perform_append, hrest.beans]
        exact Ledger.get?_of_writes_eq_append hrest.writes ((hmid.beans name).symm.trans hb)
      unseen := fun r hr e he => Registry.unseen_of_get?_eq_none (hend.absent r hr e he)
      retried := by
        rintro before after name f rfl e t he g
        obtain ⟨hbefore, hcall, -⟩ := (orderly_append ..).1 h
        have hmid := ((Mirrors.start i).perform hbefore).2.toMirrors
        have hnone := hmid.get?_of_failed hcall he
        simp only [Call.run, Build.exec_getOrCreate, hnone]
        rcases g.run.exec (t.reserve name) with ⟨_ | b, u⟩ <;> rfl
      coherent := Registry.coherent _ }

/-- The first factory for the cart fails once the clock is there; the second one is run, and the
third is not. -/
theorem perform_firstWriteWins_retried :
    let clock : Bean := ⟨.component "Clock", ⟨0⟩⟩
    let cart : Bean := ⟨.component "Cart", ⟨1⟩⟩
    let failing : Factory := .create "Clock" (.finish fun i => (.ok clock, i)) fun _ =>
      .finish fun i => (.error (.typeMismatch "Clock"), i)
    let calls : List Call :=
      [.getOrCreate "Cart" failing, .getOrCreate "Cart" (.finish fun i => (.ok cart, i)),
        .getOrCreate "Cart" failing, .names]
    FirstWriteWins {} calls ∧
      (outcomes ⟨[], {}⟩ calls).2.writes = [("Clock", clock), ("Cart", cart)] := by
  refine ⟨perform_firstWriteWins {} _ ⟨?_, ?_, ?_, trivial, trivial⟩, by decide⟩
  · exact fun _ => ⟨by decide, fun _ => trivial, trivial⟩
  · exact fun _ => trivial
  · exact fun h => absurd h (by decide)

end BeanKit
