import BeanKit.Container.Binding
import Mathlib.Logic.Relation
import Mathlib.Tactic.ByContra
/-! # Both searches find what there is

A search works through a stack and goes on from no name twice. What it has passed over is closed: none
of it is what the search looks for, and all that it declares has been passed over too or is on the
stack. So a search that comes to the end of its stack has missed nothing, whatever circles and loose
ends the declarations have. -/

namespace BeanKit

open Relation

/-! ## Searching with a stack -/

section Explored

variable {α : Type} {step : α → α → Prop} {goal seen : α → Prop} {a b : α} {next rest : List α}

/-- What a search has seen in vain: none of it is a goal, and it leads only to what has been seen or
stands on the stack. -/
structure Explored (step : α → α → Prop) (goal seen : α → Prop) (stack : List α) : Prop where
  misses : ∀ a, seen a → ¬ goal a
  leads : ∀ a b, seen a → step a b → seen b ∨ b ∈ stack

theorem explored_nothing (step : α → α → Prop) (goal : α → Prop) (stack : List α) :
    Explored step goal (fun _ => False) stack :=
  ⟨fun _ h => h.elim, fun _ _ h => h.elim⟩

/-- What has been seen before can be taken off the stack. -/
theorem Explored.skip (h : Explored step goal seen (a :: rest)) (ha : seen a) :
    Explored step goal seen rest where
  misses := h.misses
  leads b b' hb hstep := by
    rcases h.leads b b' hb hstep with hseen | hmem
    · exact .inl hseen
    · rcases List.mem_cons.1 hmem with rfl | hmem
      · exact .inl ha
      · exact .inr hmem

/-- What is no goal makes way for all that it leads to. -/
theorem Explored.visit (h : Explored step goal seen (a :: rest)) (ha : ¬ goal a)
    (hnext : ∀ b, step a b → b ∈ next) :
    Explored step goal (fun b => seen b ∨ b = a) (next ++ rest) where
  misses b hb := by
    rcases hb with hb | rfl
    · exact h.misses b hb
    · exact ha
  leads b b' hb hstep := by
    rcases hb with hb | rfl
    · rcases h.leads b b' hb hstep with hseen | hmem
      · exact .inl (.inl hseen)
      · rcases List.mem_cons.1 hmem with rfl | hmem
        · exact .inl (.inr rfl)
        · exact .inr (List.mem_append_right _ hmem)
    · exact .inr (List.mem_append_left _ (hnext b' hstep))

/-- With an empty stack, nothing that has been seen leads to a goal. -/
theorem Explored.not_goal (h : Explored step goal seen []) (ha : seen a)
    (hab : ReflTransGen step a b) : ¬ goal b := by
  have hb : seen b := by
    induction hab with
    | refl => exact ha
    | tail _ hstep ih =>
      rcases h.leads _ _ ih hstep with hseen | hmem
      · exact hseen
      · exact absurd hmem List.not_mem_nil
  exact h.misses b hb

end Explored

namespace Catalog

variable {c c' : Catalog} {d d' root : Definition} {interface : String}

/-! ## Repository roots -/

/-- A definition declares another one as an interface of its type, and the catalog has it. -/
def Declares (c : Catalog) (d e : Definition) : Prop :=
  ∃ t ∈ d.descriptor.interfaces, c.get? t.name = some e

theorem mem_parents_iff {e : Definition} : e ∈ c.parents d ↔ c.Declares d e := by
  rw [parents, List.mem_filterMap]
  rfl

theorem get?_of_declares {e : Definition} (h : c.Declares d e) : c.get? e.name = some e := by
  obtain ⟨t, -, ht⟩ := h
  rwa [name_of_get? ht]

theorem rootFrom_sound {unvisited : List String} {stack : List Definition}
    (h : c.rootFrom unvisited stack = some root) :
    root.descriptor.isRepository ∧ ∃ d ∈ stack, ReflTransGen c.Declares d root := by
  fun_induction c.rootFrom unvisited stack with
  | case1 => cases h
  | case2 unvisited d rest _ htag =>
    cases h
    exact ⟨htag, _, List.mem_cons_self, .refl⟩
  | case3 unvisited d rest _ _ ih =>
    obtain ⟨htag, e, he, hreach⟩ := ih h
    refine ⟨htag, ?_⟩
    rcases List.mem_append.1 he with he | he
    · have hstep := mem_parents_iff.1 (List.mem_reverse.1 he)
      exact ⟨d, List.mem_cons_self, .head hstep hreach⟩
    · exact ⟨e, List.mem_cons_of_mem _ he, hreach⟩
  | case4 unvisited d rest _ ih =>
    obtain ⟨htag, e, he, hreach⟩ := ih h
    exact ⟨htag, e, List.mem_cons_of_mem _ he, hreach⟩

/-- A search for a root that ends without one has seen all of its stack, and nothing is left of it. -/
theorem explored_of_rootFrom {unvisited : List String} {stack : List Definition}
    {seen : Definition → Prop} (hstack : ∀ d ∈ stack, c.get? d.name = some d)
    (hseen : ∀ d, c.get? d.name = some d → d.name ∉ unvisited → seen d)
    (hexplored : Explored c.Declares (·.descriptor.isRepository) seen stack)
    (h : c.rootFrom unvisited stack = none) :
    ∃ seen', (∀ d, seen d → seen' d) ∧ (∀ d ∈ stack, seen' d) ∧
      Explored c.Declares (·.descriptor.isRepository) seen' [] := by
  fun_induction c.rootFrom unvisited stack generalizing seen with
  | case1 => exact ⟨seen, fun _ hd => hd, fun _ hd => absurd hd List.not_mem_nil, hexplored⟩
  | case2 => cases h
  | case3 unvisited d rest _ htag ih =>
    obtain ⟨hd, hrest⟩ := List.forall_mem_cons.1 hstack
    have hparents : ∀ e, c.Declares d e → e ∈ (c.parents d).reverse := fun e he =>
      List.mem_reverse.2 (mem_parents_iff.2 he)
    have hnext : ∀ e ∈ (c.parents d).reverse ++ rest, c.get? e.name = some e := by
      intro e he
      rcases List.mem_append.1 he with he | he
      · exact get?_of_declares (mem_parents_iff.1 (List.mem_reverse.1 he))
      · exact hrest e he
    -- The name that is struck off is that of the definition just seen, and of no other one.
    have hseen' : ∀ e, c.get? e.name = some e → e.name ∉ unvisited.erase d.name → seen e ∨ e = d := by
      intro e he hne
      by_cases hname : e.name = d.name
      · rw [hname, hd] at he
        exact .inr (Option.some.inj he).symm
      · exact .inl (hseen e he fun hm => hne ((List.mem_erase_of_ne hname).2 hm))
    obtain ⟨seen', hkeep, hall, hend⟩ := ih hnext hseen' (hexplored.visit htag hparents) h
    refine ⟨seen', fun e he => hkeep e (.inl he), ?_, hend⟩
    exact List.forall_mem_cons.2 ⟨hkeep d (.inr rfl), fun e he => hall e (List.mem_append_right _ he)⟩
  | case4 unvisited d rest hd ih =>
    obtain ⟨hget, hrest⟩ := List.forall_mem_cons.1 hstack
    have hsd := hseen d hget hd
    obtain ⟨seen', hkeep, hall, hend⟩ := ih hrest hseen (hexplored.skip hsd) h
    exact ⟨seen', hkeep, List.forall_mem_cons.2 ⟨hkeep d hsd, hall⟩, hend⟩

/-- The root of an interface is tagged as a repository, and declared parents lead to it. -/
theorem repositoryRoot?_sound (h : c.repositoryRoot? d = some root) :
    ReflTransGen c.Declares d root ∧ root.descriptor.isRepository := by
  obtain ⟨htag, e, he, hreach⟩ := rootFrom_sound h
  obtain rfl := List.mem_singleton.1 he
  exact ⟨hreach, htag⟩

/-- An interface has a root exactly where declared parents lead to a definition that is tagged as a
repository. -/
theorem repositoryRoot?_isSome_iff (hd : c.get? d.name = some d) :
    (c.repositoryRoot? d).isSome ↔
      ∃ root, ReflTransGen c.Declares d root ∧ root.descriptor.isRepository := by
  constructor
  · intro h
    obtain ⟨root, hroot⟩ := Option.isSome_iff_exists.1 h
    exact ⟨root, repositoryRoot?_sound hroot⟩
  · rintro ⟨root, hreach, htag⟩
    rw [Option.isSome_iff_ne_none]
    intro hnone
    -- At the start every name of the catalog is unvisited.
    have hfresh : ∀ e, c.get? e.name = some e → e.name ∉ d.name :: c.keys.erase d.name → False := by
      intro e he hne
      have hkey : e.name ∈ c.keys := OrderedMap.mem_keys_of_get? he
      rw [List.mem_cons, not_or] at hne
      exact hne.2 ((List.mem_erase_of_ne hne.1).2 hkey)
    obtain ⟨seen, -, hall, hend⟩ := explored_of_rootFrom (List.forall_mem_singleton.2 hd) hfresh
      (explored_nothing ..) hnone
    exact hend.not_goal (hall d (List.mem_singleton_self d)) hreach htag

/-! ## Implementations -/

/-- The type of a name declares an interface. -/
def Extends (c : Catalog) (name interface : String) : Prop :=
  ∃ d, c.get? name = some d ∧ interface ∈ interfaceNames d

/-- A type declares an interface, or one whose own declarations lead to it. -/
def Implements (c : Catalog) (d : Definition) (interface : String) : Prop :=
  ∃ name ∈ interfaceNames d, ReflTransGen c.Extends name interface

theorem mem_declared_iff {name e : String} :
    e ∈ (c.get? name).elim [] interfaceNames ↔ c.Extends name e := by
  unfold Extends
  cases c.get? name <;> simp

theorem reachesFrom_sound {goal : String} {unvisited stack : List String}
    (h : c.reachesFrom goal unvisited stack = true) :
    ∃ name ∈ stack, ReflTransGen c.Extends name goal := by
  fun_induction c.reachesFrom goal unvisited stack with
  | case1 => cases h
  | case2 unvisited rest => exact ⟨goal, List.mem_cons_self, .refl⟩
  | case3 unvisited name rest _ _ ih =>
    obtain ⟨e, he, hreach⟩ := ih h
    rcases List.mem_append.1 he with he | he
    · have hstep := mem_declared_iff.1 (List.mem_reverse.1 he)
      exact ⟨name, List.mem_cons_self, .head hstep hreach⟩
    · exact ⟨e, List.mem_cons_of_mem _ he, hreach⟩
  | case4 unvisited name rest _ _ ih =>
    obtain ⟨e, he, hreach⟩ := ih h
    exact ⟨e, List.mem_cons_of_mem _ he, hreach⟩

/-- A search for a name that ends without it has seen all of its stack, and nothing is left of it. -/
theorem explored_of_reachesFrom {goal : String} {unvisited stack : List String}
    {seen : String → Prop} (hseen : ∀ name ∈ c.keys, name ∉ unvisited → seen name)
    (hexplored : Explored c.Extends (· = goal) seen stack)
    (h : c.reachesFrom goal unvisited stack = false) :
    ∃ seen', (∀ name, seen name → seen' name) ∧ (∀ name ∈ stack, seen' name) ∧
      Explored c.Extends (· = goal) seen' [] := by
  fun_induction c.reachesFrom goal unvisited stack generalizing seen with
  | case1 => exact ⟨seen, fun _ hn => hn, fun _ hn => absurd hn List.not_mem_nil, hexplored⟩
  | case2 => cases h
  | case3 unvisited name rest hgoal _ ih =>
    have hdeclared : ∀ e, c.Extends name e → e ∈ ((c.get? name).elim [] interfaceNames).reverse :=
      fun e he => List.mem_reverse.2 (mem_declared_iff.2 he)
    have hseen' : ∀ e ∈ c.keys, e ∉ unvisited.erase name → seen e ∨ e = name := by
      intro e he hne
      by_cases hname : e = name
      · exact .inr hname
      · exact .inl (hseen e he fun hm => hne ((List.mem_erase_of_ne hname).2 hm))
    obtain ⟨seen', hkeep, hall, hend⟩ := ih hseen' (hexplored.visit hgoal hdeclared) h
    exact ⟨seen', fun e he => hkeep e (.inl he), List.forall_mem_cons.2
      ⟨hkeep name (.inr rfl), fun e he => hall e (List.mem_append_right _ he)⟩, hend⟩
  | case4 unvisited name rest hgoal hvisited ih =>
    by_cases hkey : name ∈ c.keys
    · have hsn := hseen name hkey hvisited
      obtain ⟨seen', hkeep, hall, hend⟩ := ih hseen (hexplored.skip hsn) h
      exact ⟨seen', hkeep, List.forall_mem_cons.2 ⟨hkeep name hsn, hall⟩, hend⟩
    · -- A name outside the catalog declares nothing, so it can be counted as seen.
      have hnone : ∀ e, c.Extends name e → e ∈ ([] : List String) := by
        rintro e ⟨d, hd, -⟩
        exact absurd (OrderedMap.mem_keys_of_get? hd) hkey
      have hseen' : ∀ e ∈ c.keys, e ∉ unvisited → seen e ∨ e = name :=
        fun e he hne => .inl (hseen e he hne)
      obtain ⟨seen', hkeep, hall, hend⟩ := ih hseen' (hexplored.visit hgoal hnone) h
      exact ⟨seen', fun e he => hkeep e (.inl he),
        List.forall_mem_cons.2 ⟨hkeep name (.inr rfl), hall⟩, hend⟩

/-- A type is found to implement an interface exactly where its declarations lead to it. -/
theorem implements_iff : c.implements d interface ↔ c.Implements d interface := by
  constructor
  · intro h
    obtain ⟨name, hname, hreach⟩ := reachesFrom_sound h
    exact ⟨name, List.mem_reverse.1 hname, hreach⟩
  · rintro ⟨name, hname, hreach⟩
    by_contra h
    have hfresh : ∀ e ∈ c.keys, e ∉ c.keys → False := fun _ hk hne => hne hk
    obtain ⟨seen, -, hall, hend⟩ := explored_of_reachesFrom hfresh (explored_nothing ..)
      (Bool.eq_false_iff.2 h)
    exact hend.not_goal (hall name (List.mem_reverse.2 hname)) hreach rfl

/-- More declarations lead to more. -/
theorem Implements.mono (h : c.Implements d interface)
    (hd : ∀ name ∈ interfaceNames d, name ∈ interfaceNames d')
    (hc : ∀ name e, c.Extends name e → c'.Extends name e) : c'.Implements d' interface := by
  obtain ⟨name, hname, hreach⟩ := h
  exact ⟨name, hd name hname, ReflTransGen.mono hc _ _ hreach⟩

/-- What a type implements is settled by which interfaces are declared, in whatever order. -/
theorem implements_congr (hd : ∀ name, name ∈ interfaceNames d ↔ name ∈ interfaceNames d')
    (hc : ∀ name e, c.Extends name e ↔ c'.Extends name e) :
    c.implements d interface = c'.implements d' interface := by
  rw [Bool.eq_iff_iff, implements_iff, implements_iff]
  constructor
  · exact fun h => h.mono (fun name => (hd name).1) fun name e => (hc name e).1
  · exact fun h => h.mono (fun name => (hd name).2) fun name e => (hc name e).2

/-- The implementations of an interface, as its declarations have it. -/
theorem mem_implementations_iff :
    d ∈ c.implementations interface ↔ d ∈ c.concretes ∧ c.Implements d interface := by
  rw [implementations, List.mem_filter, implements_iff]

end Catalog
end BeanKit
