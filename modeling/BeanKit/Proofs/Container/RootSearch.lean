import BeanKit.Proofs.Container.FirstOfEach
import BeanKit.Proofs.Container.Search
import Mathlib
/-! # The search for a root comes to its end

A search goes on from turn to turn: it takes the next definition from its stack, passes it over where
its name has been visited, ends with it where it is tagged, and puts its parents on the stack otherwise.
Nothing in this keeps it from turning in a circle but the names that it remembers. Each definition puts
its parents on the stack once, so that there are no more turns than declarations, and two. -/

namespace BeanKit

open Relation

/-- A search under way: the names that have been visited, and what is still to be looked at, the next
one first. -/
structure RootSearch where
  visited : List String := []
  pending : List Definition

namespace RootSearch

/-- One turn: the search ends with what it has found, or it goes on. -/
def turn (c : Catalog) (s : RootSearch) : Option Definition ⊕ RootSearch :=
  match s.pending with
  | [] => .inl none
  | d :: rest =>
    if d.name ∈ s.visited then .inr { s with pending := rest }
    else if d.descriptor.isRepository then .inl (some d)
    else .inr ⟨d.name :: s.visited, (c.parents d).reverse ++ rest⟩

/-- What a search ends with, if it ends within a number of turns. -/
def result? (c : Catalog) : Nat → RootSearch → Option (Option Definition)
  | 0, _ => none
  | n + 1, s =>
    match s.turn c with
    | .inl found => some found
    | .inr t => t.result? c n

variable {c : Catalog} {d : Definition} {visited unvisited : List String} {rest : List Definition}

theorem turn_of_visited (h : d.name ∈ visited) :
    turn c ⟨visited, d :: rest⟩ = .inr ⟨visited, rest⟩ := by
  simp [turn, h]

theorem turn_of_root (h : d.name ∉ visited) (htag : d.descriptor.isRepository) :
    turn c ⟨visited, d :: rest⟩ = .inl (some d) := by
  simp [turn, h, htag]

theorem turn_of_no_root (h : d.name ∉ visited) (htag : ¬ d.descriptor.isRepository) :
    turn c ⟨visited, d :: rest⟩ = .inr ⟨d.name :: visited, (c.parents d).reverse ++ rest⟩ := by
  simp [turn, h, htag]

/-- A search over definitions of the catalog that has not visited the names `unvisited`, and has visited
all others. -/
structure Leaves (c : Catalog) (unvisited : List String) (s : RootSearch) : Prop where
  nodup : unvisited.Nodup
  pending : ∀ d ∈ s.pending, c.get? d.name = some d
  visited : ∀ d, c.get? d.name = some d → (d.name ∈ s.visited ↔ d.name ∉ unvisited)

theorem Leaves.skip (h : Leaves c unvisited ⟨visited, d :: rest⟩) :
    Leaves c unvisited ⟨visited, rest⟩ where
  nodup := h.nodup
  pending := (List.forall_mem_cons.1 h.pending).2
  visited := h.visited

theorem Leaves.visit (h : Leaves c unvisited ⟨visited, d :: rest⟩) :
    Leaves c (unvisited.erase d.name) ⟨d.name :: visited, (c.parents d).reverse ++ rest⟩ where
  nodup := h.nodup.erase _
  pending := by
    intro e he
    rcases List.mem_append.1 he with he | he
    · exact Catalog.get?_of_declares (Catalog.mem_parents_iff.1 (List.mem_reverse.1 he))
    · exact h.pending e (List.mem_cons_of_mem _ he)
  visited := by
    intro e he
    have hrest : e.name ∈ visited ↔ e.name ∉ unvisited := h.visited e he
    rw [h.nodup.mem_erase_iff, List.mem_cons, hrest]
    tauto

end RootSearch

namespace Catalog

variable {c : Catalog} {d root : Definition}

/-- How many parents the definition of a name puts on a stack. -/
def fanOut (c : Catalog) (name : String) : Nat := ((c.get? name).elim [] c.parents).length

/-- How many parents the definitions declare, as far as the catalog has them. -/
def declarations (c : Catalog) : Nat := (c.definitions.map fun d => (c.parents d).length).sum

/-- A visited name gives its parents to the stack. -/
theorem sum_fanOut_erase {unvisited : List String} (hd : c.get? d.name = some d)
    (hmem : d.name ∈ unvisited) :
    (c.parents d).length + ((unvisited.erase d.name).map c.fanOut).sum =
      (unvisited.map c.fanOut).sum := by
  have hfan : c.fanOut d.name = (c.parents d).length := by simp [fanOut, hd]
  rw [← hfan]
  exact List.sum_map_erase c.fanOut hmem

/-- A search finds what the recursion over the unvisited names finds, given as many turns as these names
have parents and the stack has members, and one more. The induction is along the recursion: each of its
steps is one turn, and uses up one of them. -/
theorem result?_eq_rootFrom {unvisited visited : List String} {stack : List Definition} {n : Nat}
    (h : RootSearch.Leaves c unvisited ⟨visited, stack⟩)
    (hn : (unvisited.map c.fanOut).sum + stack.length ≤ n) :
    RootSearch.result? c (n + 1) ⟨visited, stack⟩ = some (c.rootFrom unvisited stack) := by
  fun_induction c.rootFrom unvisited stack generalizing visited n with
  | case1 => rfl
  | case2 unvisited d rest hmem htag =>
    have hd : c.get? d.name = some d := h.pending d List.mem_cons_self
    have hvisited : d.name ∉ visited := fun hv => (h.visited d hd).1 hv hmem
    rw [RootSearch.result?, RootSearch.turn_of_root hvisited htag]
  | case3 unvisited d rest hmem htag ih =>
    have hd : c.get? d.name = some d := h.pending d List.mem_cons_self
    have hvisited : d.name ∉ visited := fun hv => (h.visited d hd).1 hv hmem
    have hsum := sum_fanOut_erase hd hmem
    rw [List.length_cons] at hn
    obtain ⟨k, rfl⟩ : ∃ k, n = k + 1 := ⟨n - 1, by omega⟩
    rw [RootSearch.result?, RootSearch.turn_of_no_root hvisited htag]
    refine ih h.visit ?_
    rw [List.length_append, List.length_reverse]
    omega
  | case4 unvisited d rest hmem ih =>
    have hd : c.get? d.name = some d := h.pending d List.mem_cons_self
    rw [List.length_cons] at hn
    obtain ⟨k, rfl⟩ : ∃ k, n = k + 1 := ⟨n - 1, by omega⟩
    rw [RootSearch.result?, RootSearch.turn_of_visited ((h.visited d hd).2 hmem)]
    exact ih h.skip (by omega)

/-- A search from a definition of the catalog comes to its end, with the root of this definition. -/
theorem result?_eq_repositoryRoot? (hd : c.get? d.name = some d) :
    RootSearch.result? c (c.declarations + 2) ⟨[], [d]⟩ = some (c.repositoryRoot? d) := by
  have hmem : d.name ∈ c.keys := OrderedMap.mem_keys_of_get? hd
  have hperm : (d.name :: c.keys.erase d.name).Perm c.keys := (List.perm_cons_erase hmem).symm
  have hsum : ((d.name :: c.keys.erase d.name).map c.fanOut).sum = c.declarations := by
    rw [(hperm.map _).sum_eq, keys_eq, List.map_map, declarations]
    congr 1
    refine List.map_congr_left fun e he => ?_
    simp [fanOut, (c.mem_definitions_iff e).1 he]
  refine result?_eq_rootFrom ⟨hperm.nodup_iff.2 c.nodup, by simpa using hd, ?_⟩ ?_
  · intro e he
    have hkey : e.name ∈ c.keys := OrderedMap.mem_keys_of_get? he
    simp [hperm.mem_iff, hkey]
  · rw [List.length_singleton]
    omega

/-- A definition that is tagged as a repository is its own root. -/
theorem repositoryRoot?_of_tagged (htag : d.descriptor.isRepository) :
    c.repositoryRoot? d = some d := by
  rw [repositoryRoot?, rootFrom, dif_pos List.mem_cons_self, if_pos htag]

/-- The search for a root comes to its end in any catalog, after two more turns than the definitions have
parents in it at most. It finds a root exactly where declared parents lead to a definition that is
tagged as a repository; then it finds one of these, and the start itself where that is tagged. -/
theorem repositoryRoot?_decides_reachability (hd : d ∈ c.definitions) :
    RootSearch.result? c (c.declarations + 2) ⟨[], [d]⟩ = some (c.repositoryRoot? d) ∧
    ((c.repositoryRoot? d).isSome ↔
      ∃ root, ReflTransGen c.Declares d root ∧ root.descriptor.isRepository) ∧
    (∀ root, c.repositoryRoot? d = some root →
      root.descriptor.isRepository ∧ ReflTransGen c.Declares d root) ∧
    (d.descriptor.isRepository → c.repositoryRoot? d = some d) := by
  have hget := (c.mem_definitions_iff d).1 hd
  refine ⟨result?_eq_repositoryRoot? hget, repositoryRoot?_isSome_iff hget, ?_,
    repositoryRoot?_of_tagged⟩
  intro root hroot
  exact (repositoryRoot?_sound hroot).symm

/-- An interface that is its own parent, goes around in a circle with another one, names a parent that
is missing, and comes to the root on two ways. -/
def knotDefinition : Definition :=
  { descriptor :=
      { type := ⟨"Knot", "Knot"⟩, kind := .interface
        interfaces := [⟨"Knot", "Knot"⟩, ⟨"Root", "Root"⟩, ⟨"Loop", "Loop"⟩, ⟨"Gone", "Gone"⟩] } }

def knotCatalog : Catalog :=
  .addAll .empty
    [knotDefinition,
     { descriptor :=
        { type := ⟨"Loop", "Loop"⟩, kind := .interface
          interfaces := [⟨"Knot", "Knot"⟩, ⟨"Root", "Root"⟩] } },
     { descriptor :=
        { type := ⟨"Root", "Root"⟩, kind := .interface, tags := [.repository]
          interfaces := [⟨"Knot", "Knot"⟩] } }]

theorem repositoryRoot?_decides_reachability_knot :
    knotDefinition ∈ knotCatalog.definitions ∧ ∃ root, root.name = "Root" ∧
      RootSearch.result? knotCatalog (knotCatalog.declarations + 2) ⟨[], [knotDefinition]⟩ =
        some (some root) ∧
      root.descriptor.isRepository ∧ ReflTransGen knotCatalog.Declares knotDefinition root := by
  have hmem : knotDefinition ∈ knotCatalog.definitions :=
    (knotCatalog.mem_definitions_iff _).2 rfl
  obtain ⟨hend, -, hsound, -⟩ := repositoryRoot?_decides_reachability hmem
  have hroot : (knotCatalog.repositoryRoot? knotDefinition).map Definition.name = some "Root" := by
    cbv
  obtain ⟨root, hfound, hname⟩ := Option.map_eq_some_iff.1 hroot
  rw [hfound] at hend
  exact ⟨hmem, root, hname, hend, hsound root hfound⟩

end Catalog
end BeanKit
