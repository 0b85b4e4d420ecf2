import BeanKit.Proofs.Container.RootSearch
import Mathlib
/-! # The search for an interface follows declarations only

Whether a type implements an interface is found out by names. A search takes the next name from its
stack, ends where it is the one looked for, passes it over where it has been visited, and puts the
interfaces that its type declares on the stack otherwise. A name that the catalog lacks declares nothing,
but can be the one looked for. What is found is a chain of declarations, and a chain does not know in
which order anything was declared or entered. -/

namespace BeanKit

open Relation

/-- A search under way: the names that have been visited, and those that are still to be looked at, the
next one first. -/
structure InterfaceSearch where
  visited : List String := []
  pending : List String

namespace InterfaceSearch

/-- One turn: the search ends with whether it has found the name, or it goes on. -/
def turn (c : Catalog) (goal : String) (s : InterfaceSearch) : Bool ⊕ InterfaceSearch :=
  match s.pending with
  | [] => .inl false
  | name :: rest =>
    if name = goal then .inl true
    else if name ∈ s.visited then .inr { s with pending := rest }
    else
      .inr ⟨name :: s.visited, ((c.get? name).elim [] Catalog.interfaceNames).reverse ++ rest⟩

/-- What a search ends with, if it ends within a number of turns. -/
def result? (c : Catalog) (goal : String) : Nat → InterfaceSearch → Option Bool
  | 0, _ => none
  | n + 1, s =>
    match s.turn c goal with
    | .inl found => some found
    | .inr t => t.result? c goal n

variable {c : Catalog} {goal name : String} {visited unvisited rest : List String}

theorem turn_of_visited (hgoal : name ≠ goal) (h : name ∈ visited) :
    turn c goal ⟨visited, name :: rest⟩ = .inr ⟨visited, rest⟩ := by
  simp [turn, hgoal, h]

theorem turn_of_unvisited (hgoal : name ≠ goal) (h : name ∉ visited) :
    turn c goal ⟨visited, name :: rest⟩ =
      .inr ⟨name :: visited, ((c.get? name).elim [] Catalog.interfaceNames).reverse ++ rest⟩ := by
  simp [turn, hgoal, h]

/-- Of the names of the catalog, a search has visited all but the names `unvisited`. -/
structure Leaves (c : Catalog) (unvisited visited : List String) : Prop where
  nodup : unvisited.Nodup
  known : ∀ name ∈ unvisited, name ∈ c.keys
  visited : ∀ name ∈ c.keys, (name ∈ visited ↔ name ∉ unvisited)

theorem Leaves.visit (h : Leaves c unvisited visited) (name : String) :
    Leaves c (unvisited.erase name) (name :: visited) where
  nodup := h.nodup.erase _
  known e he := h.known e (List.mem_of_mem_erase he)
  visited := by
    intro e he
    have hrest : e ∈ visited ↔ e ∉ unvisited := h.visited e he
    rw [h.nodup.mem_erase_iff, List.mem_cons, hrest]
    tauto

end InterfaceSearch

namespace Catalog

variable {c c' : Catalog} {d d' : Definition} {interface : String}

/-! ## The search comes to its end -/

/-- How many interfaces the type of a name puts on a stack. -/
def declaredBy (c : Catalog) (name : String) : Nat := ((c.get? name).elim [] interfaceNames).length

/-- How many interfaces the definitions declare. -/
def interfaceDeclarations (c : Catalog) : Nat :=
  (c.definitions.map fun d => (interfaceNames d).length).sum

/-- A search for a name finds what the recursion over the unvisited names finds, given as many turns as
these names declare interfaces and the stack has members, and one more. The induction is along the
recursion, each step of which is one turn. -/
theorem result?_eq_reachesFrom {goal : String} {unvisited visited stack : List String} {n : Nat}
    (h : InterfaceSearch.Leaves c unvisited visited)
    (hn : (unvisited.map c.declaredBy).sum + stack.length ≤ n) :
    InterfaceSearch.result? c goal (n + 1) ⟨visited, stack⟩ =
      some (c.reachesFrom goal unvisited stack) := by
  fun_induction c.reachesFrom goal unvisited stack generalizing visited n with
  | case1 => rfl
  | case2 unvisited rest => simp [InterfaceSearch.result?, InterfaceSearch.turn]
  | case3 unvisited name rest hgoal hname ih =>
    have hvisited : name ∉ visited := fun hv => (h.visited name (h.known name hname)).1 hv hname
    have hsum := List.sum_map_erase c.declaredBy hname
    rw [List.length_cons] at hn
    obtain ⟨k, rfl⟩ : ∃ k, n = k + 1 := ⟨n - 1, by omega⟩
    rw [InterfaceSearch.result?, InterfaceSearch.turn_of_unvisited hgoal hvisited]
    refine ih (h.visit name) ?_
    rw [List.length_append, List.length_reverse]
    have hdeclared : c.declaredBy name = ((c.get? name).elim [] interfaceNames).length := rfl
    omega
  | case4 unvisited name rest hgoal hname ih =>
    rw [List.length_cons] at hn
    obtain ⟨k, rfl⟩ : ∃ k, n = k + 1 := ⟨n - 1, by omega⟩
    rw [InterfaceSearch.result?]
    by_cases hvisited : name ∈ visited
    · rw [InterfaceSearch.turn_of_visited hgoal hvisited]
      exact ih h (by omega)
    · -- The name is new although it is not among the unvisited ones, so the catalog lacks it.
      have hkey : name ∉ c.keys := fun hk => hvisited ((h.visited name hk).2 hname)
      have hnone : c.get? name = none := (OrderedMap.get?_eq_none_iff _ _).2 hkey
      rw [InterfaceSearch.turn_of_unvisited hgoal hvisited, hnone]
      have hleaves := h.visit name
      rw [List.erase_of_not_mem hname] at hleaves
      exact ih hleaves (by omega)

/-- The search for an interface of a type comes to its end, with whether the type implements it. -/
theorem result?_eq_implements (c : Catalog) (d : Definition) (interface : String) :
    InterfaceSearch.result? c interface
        (c.interfaceDeclarations + d.descriptor.interfaces.length + 1)
        ⟨[], (interfaceNames d).reverse⟩ = some (c.implements d interface) := by
  refine result?_eq_reachesFrom ⟨c.nodup, fun _ h => h, by simp⟩ ?_
  have hsum : (c.keys.map c.declaredBy).sum = c.interfaceDeclarations := by
    rw [keys_eq, List.map_map, interfaceDeclarations]
    congr 1
    refine List.map_congr_left fun e he => ?_
    simp [declaredBy, (c.mem_definitions_iff e).1 he]
  rw [hsum, List.length_reverse, interfaceNames, List.length_map]

/-! ## What a chain does not depend on -/

/-- What a definition has for a search: its name, and its interfaces in no order. -/
def declaration (d : Definition) : String × Multiset String := (d.name, ↑(interfaceNames d))

/-- The same definitions as far as a search goes, in another order, and each with its interfaces in
another order. -/
def Rearranges (c c' : Catalog) : Prop :=
  (c.definitions.map declaration).Perm (c'.definitions.map declaration)

theorem Rearranges.extends (h : c.Rearranges c') {name e : String} (he : c.Extends name e) :
    c'.Extends name e := by
  obtain ⟨d, hd, he⟩ := he
  have hmem : declaration d ∈ c'.definitions.map declaration := by
    obtain rfl := name_of_get? hd
    exact h.mem_iff.1 (List.mem_map_of_mem ((c.mem_definitions_iff d).2 hd))
  obtain ⟨d', hd', hsame⟩ := List.mem_map.1 hmem
  obtain ⟨hname, hnames⟩ := Prod.mk.inj hsame
  refine ⟨d', ?_, (Multiset.coe_eq_coe.1 hnames).mem_iff.2 he⟩
  rw [← name_of_get? hd, ← hname]
  exact (c'.mem_definitions_iff d').1 hd'

theorem Rearranges.implements_eq (h : c.Rearranges c')
    (hd : (interfaceNames d).Perm (interfaceNames d')) :
    c.implements d interface = c'.implements d' interface := by
  refine implements_congr (fun _ => hd.mem_iff) fun name e => ?_
  exact ⟨fun he => h.extends he, fun he => Rearranges.extends (List.Perm.symm h) he⟩

/-- What is entered later changes nothing about a name that has its definition. -/
theorem get?_addAll_of_get? {name : String} (ds : List Definition) (h : c.get? name = some d) :
    (c.addAll ds).get? name = some d := by
  induction ds generalizing c with
  | nil => exact h
  | cons e rest ih =>
    refine ih ?_
    have hadd : (c.add e).get? name = (c.get? name).or (if name = e.name then some e else none) :=
      OrderedMap.get?_insertIfAbsent ..
    rw [hadd, h, Option.some_or]

theorem implements_addAll (ds : List Definition) (h : c.implements d interface) :
    (c.addAll ds).implements d interface := by
  refine implements_iff.2 ((implements_iff.1 h).mono (fun _ hname => hname) ?_)
  rintro name e ⟨d', hd', he⟩
  exact ⟨d', get?_addAll_of_get? ds hd', he⟩

/-- The search for an interface comes to its end in any catalog, after one more turn than there are
declarations to follow at most. It finds the interface exactly where a chain of one or more declared
interfaces leads from the type to it, every one of them but the last being a name of the catalog. So it
is not the order that counts, neither that of the catalog nor that in which interfaces are declared; and
a type that implements an interface does so however many definitions are entered later. -/
theorem implements_decides_chains (c : Catalog) (d : Definition) (interface : String) :
    InterfaceSearch.result? c interface
        (c.interfaceDeclarations + d.descriptor.interfaces.length + 1)
        ⟨[], (interfaceNames d).reverse⟩ = some (c.implements d interface) ∧
    (c.implements d interface ↔
      ∃ name ∈ interfaceNames d, ReflTransGen c.Extends name interface) ∧
    (∀ c' d', c.Rearranges c' → (interfaceNames d).Perm (interfaceNames d') →
      c.implements d interface = c'.implements d' interface) ∧
    ∀ ds, c.implements d interface → (c.addAll ds).implements d interface := by
  refine ⟨result?_eq_implements c d interface, implements_iff, ?_, fun ds => implements_addAll ds⟩
  intro c' d' hc hd
  exact hc.implements_eq hd

/-- A type with one interface, which has the others behind it. -/
def tiedDefinition : Definition :=
  { descriptor :=
      { type := ⟨"Tied", "Tied"⟩, kind := .concrete, interfaces := [⟨"Loop", "Loop"⟩] } }

/-- The knot, entered from its other end and with all interfaces declared the other way around. -/
def untangledCatalog : Catalog :=
  .addAll .empty (knotCatalog.definitions.reverse.map fun d =>
    { d with descriptor := { d.descriptor with interfaces := d.descriptor.interfaces.reverse } })

theorem implements_decides_chains_knot :
    InterfaceSearch.result? knotCatalog "Gone" 9 ⟨[], ["Loop"]⟩ = some true ∧
    knotCatalog.Rearranges untangledCatalog ∧
    untangledCatalog.implements tiedDefinition "Gone" ∧
    ∀ ds, (knotCatalog.addAll ds).implements tiedDefinition "Gone" := by
  obtain ⟨hend, -, horder, hmore⟩ := implements_decides_chains knotCatalog tiedDefinition "Gone"
  have hgone : knotCatalog.implements tiedDefinition "Gone" := by cbv
  have hrearranges : knotCatalog.Rearranges untangledCatalog := by
    unfold Rearranges
    decide
  rw [hgone] at hend
  refine ⟨hend, hrearranges, ?_, fun ds => hmore ds hgone⟩
  rw [← horder untangledCatalog tiedDefinition hrearranges (.refl _)]
  exact hgone

end Catalog
end BeanKit
