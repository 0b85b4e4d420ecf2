/-!
# Maps that keep the order of insertion

A list of entries in which each key stands once. Writing a key that is present keeps its place and
takes the new value; a new key goes to the end. `get?` and `keys` are the views: every operation is
described by what it does to them.
-/

namespace BeanKit

/-- What there is one of is found first in any order. -/
theorem find?_eq_of_perm {α : Type} {l l' : List α} {p : α → Bool} (hperm : l.Perm l')
    (hone : ∀ a ∈ l, ∀ b ∈ l, p a → p b → a = b) : l.find? p = l'.find? p := by
  cases h : l.find? p with
  | none =>
    refine (List.find?_eq_none.2 fun a ha => ?_).symm
    exact List.find?_eq_none.1 h a (hperm.mem_iff.2 ha)
  | some a =>
    have ha := List.mem_of_find?_eq_some h
    cases h' : l'.find? p with
    | none => exact absurd (List.find?_some h) (List.find?_eq_none.1 h' a (hperm.mem_iff.1 ha))
    | some b =>
      have hb := hperm.mem_iff.2 (List.mem_of_find?_eq_some h')
      rw [hone a ha b hb (List.find?_some h) (List.find?_some h')]

/-- A map whose entries stand in the order in which their keys were first written. -/
structure OrderedMap (α β : Type) where
  entries : List (α × β) := []
  nodup : (entries.map (·.1)).Nodup := by simp
  deriving Repr, DecidableEq

namespace OrderedMap

variable {α β : Type} [DecidableEq α]

/-- The map without entries. -/
def empty : OrderedMap α β := {}

instance : Inhabited (OrderedMap α β) := ⟨empty⟩

/-- The keys, in order of insertion. -/
def keys (m : OrderedMap α β) : List α := m.entries.map (·.1)

/-- The values, in order of insertion. -/
def values (m : OrderedMap α β) : List β := m.entries.map (·.2)

omit [DecidableEq α] in
theorem entries_eq_zip (m : OrderedMap α β) : m.entries = m.keys.zip m.values := by
  rw [keys, values, ← List.unzip_fst, ← List.unzip_snd, List.zip_unzip]

omit [DecidableEq α] in
theorem eq_of_entries {m m' : OrderedMap α β} (h : m.entries = m'.entries) : m = m' := by
  cases m
  cases m'
  cases h
  rfl

/-- How many keys there are. -/
def size (m : OrderedMap α β) : Nat := m.entries.length

/-- Whether there is no key. -/
def isEmpty (m : OrderedMap α β) : Bool := m.entries.isEmpty

/-- The value of a key. -/
def get? (m : OrderedMap α β) (k : α) : Option β :=
  (m.entries.find? (·.1 = k)).map (·.2)

/-- Whether a key is present. -/
def contains (m : OrderedMap α β) (k : α) : Bool := m.entries.any (·.1 = k)

/-- Writes a value into a list of entries: at the key's place, else at the end. -/
def put (k : α) (v : β) : List (α × β) → List (α × β)
  | [] => [(k, v)]
  | (k', v') :: rest => if k' = k then (k, v) :: rest else (k', v') :: put k v rest

theorem map_fst_put (k : α) (v : β) (l : List (α × β)) :
    (put k v l).map (·.1) = if k ∈ l.map (·.1) then l.map (·.1) else l.map (·.1) ++ [k] := by
  induction l with
  | nil => simp [put]
  | cons e rest ih =>
    by_cases h : e.1 = k
    · simp [put, h]
    · by_cases hm : k ∈ rest.map (·.1)
      · simp_all [put]
      · simp_all [put, Ne.symm h]

theorem nodup_put (k : α) (v : β) {l : List (α × β)} (h : (l.map (·.1)).Nodup) :
    ((put k v l).map (·.1)).Nodup := by
  rw [map_fst_put]
  split
  · exact h
  · rename_i hk
    exact List.nodup_append.2 ⟨h, by simp, fun a ha b hb e => hk (List.mem_singleton.1 hb ▸ e ▸ ha)⟩

theorem contains_iff_mem_keys (m : OrderedMap α β) (k : α) : m.contains k ↔ k ∈ m.keys := by
  simp [contains, keys]

/-- Writes a key: a present key keeps its place and takes the value. -/
def insert (m : OrderedMap α β) (k : α) (v : β) : OrderedMap α β :=
  ⟨put k v m.entries, nodup_put k v m.nodup⟩

theorem nodup_append_absent {m : OrderedMap α β} {k : α} (v : β) (h : ¬ m.contains k) :
    ((m.entries ++ [(k, v)]).map (·.1)).Nodup := by
  rw [contains_iff_mem_keys] at h
  rw [List.map_append]
  exact List.nodup_append.2
    ⟨m.nodup, by simp, fun a ha b hb e => h (by simp at hb; subst hb e; exact ha)⟩

/-- Writes a key only where it is absent. -/
def insertIfAbsent (m : OrderedMap α β) (k : α) (v : β) : OrderedMap α β :=
  if h : m.contains k then m else ⟨m.entries ++ [(k, v)], nodup_append_absent v h⟩

theorem mem_insertIfAbsent {m : OrderedMap α β} {k : α} {v : β} {e : α × β}
    (h : e ∈ (m.insertIfAbsent k v).entries) : e ∈ m.entries ∨ e = (k, v) := by
  unfold insertIfAbsent at h
  split at h
  · exact .inl h
  · simpa using h

/-- The map that writing the pairs in turn gives. -/
def ofList (pairs : List (α × β)) : OrderedMap α β :=
  pairs.foldl (fun m p => m.insert p.1 p.2) empty

theorem get?_eq_none_iff (m : OrderedMap α β) (k : α) : m.get? k = none ↔ k ∉ m.keys := by
  simp only [get?, keys, Option.map_eq_none_iff, List.find?_eq_none, decide_eq_true_eq,
    List.mem_map, not_exists, not_and]

/-- Looking up finds exactly the entries. -/
theorem get?_eq_some_iff (m : OrderedMap α β) (k : α) (v : β) :
    m.get? k = some v ↔ (k, v) ∈ m.entries := by
  obtain ⟨l, hl⟩ := m
  simp only [get?]
  induction l with
  | nil => simp
  | cons e rest ih =>
    rw [List.map_cons, List.nodup_cons] at hl
    by_cases h : e.1 = k
    · subst h
      have hr : (e.1, v) ∉ rest := fun hm => hl.1 (List.mem_map.2 ⟨_, hm, rfl⟩)
      simp [hr, Prod.ext_iff, eq_comm]
    · have he : (k, v) ≠ e := fun hk => h (hk ▸ rfl)
      simp [h, he, ih hl.2]

theorem contains_eq_isSome_get? (m : OrderedMap α β) (k : α) :
    m.contains k = (m.get? k).isSome := by
  rw [Bool.eq_iff_iff, contains_iff_mem_keys, Option.isSome_iff_ne_none, Ne, get?_eq_none_iff,
    Decidable.not_not]

/-- The keys are those that have a value. -/
theorem mem_keys_iff {m : OrderedMap α β} {k : α} : k ∈ m.keys ↔ ∃ v, m.get? k = some v := by
  rw [← contains_iff_mem_keys, contains_eq_isSome_get?, Option.isSome_iff_exists]

theorem mem_keys_of_get? {m : OrderedMap α β} {k : α} {v : β} (h : m.get? k = some v) :
    k ∈ m.keys := mem_keys_iff.2 ⟨v, h⟩

theorem get?_insert_self (m : OrderedMap α β) (k : α) (v : β) :
    (m.insert k v).get? k = some v := by
  obtain ⟨l, hl⟩ := m
  simp only [insert, get?]
  clear hl
  induction l with
  | nil => simp [put]
  | cons e rest ih =>
    by_cases h : e.1 = k
    · simp [put, h]
    · simpa [put, h] using ih

theorem get?_insert_of_ne (m : OrderedMap α β) {k k' : α} (v : β) (h : k' ≠ k) :
    (m.insert k v).get? k' = m.get? k' := by
  obtain ⟨l, hl⟩ := m
  simp only [insert, get?]
  clear hl
  induction l with
  | nil => simp [put, Ne.symm h]
  | cons e rest ih =>
    by_cases he : e.1 = k
    · have : ¬ e.1 = k' := fun hk => h (hk ▸ he)
      simp [put, he, Ne.symm h]
    · by_cases hk : e.1 = k'
      · simp [put, hk, h]
      · simpa [put, he, hk] using ih

theorem entries_insert_of_not_mem {m : OrderedMap α β} {k : α} (v : β) (h : k ∉ m.keys) :
    (m.insert k v).entries = m.entries ++ [(k, v)] := by
  obtain ⟨l, hl⟩ := m
  simp only [insert, keys] at h ⊢
  clear hl
  induction l with
  | nil => rfl
  | cons e rest ih =>
    rw [List.map_cons, List.mem_cons, not_or] at h
    rw [put, if_neg (Ne.symm h.1), ih h.2, List.cons_append]

/-- A name that is taken keeps its value, and only the name that is written can become taken. -/
theorem get?_insertIfAbsent (m : OrderedMap α β) (k k' : α) (v : β) :
    (m.insertIfAbsent k v).get? k' = (m.get? k').or (if k' = k then some v else none) := by
  unfold insertIfAbsent
  split
  · rename_i h
    by_cases hk : k' = k
    · rw [contains_eq_isSome_get?, ← hk] at h
      rw [Option.or_of_isSome h]
    · simp [hk]
  · simp only [get?, List.find?_append, List.find?_singleton, decide_eq_true_eq]
    by_cases hk : k' = k
    · cases h : m.entries.find? (·.1 = k') <;> simp [hk]
    · simp [hk, Ne.symm hk]

theorem keys_insert (m : OrderedMap α β) (k : α) (v : β) :
    (m.insert k v).keys = if k ∈ m.keys then m.keys else m.keys ++ [k] :=
  map_fst_put k v m.entries

end OrderedMap
end BeanKit
