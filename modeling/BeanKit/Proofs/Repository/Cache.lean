import BeanKit.Proofs.Repository.Mapping
/-! # The first reading of an entity is kept

Descriptors are resolved through one cache, in any order and as often as one likes. The first one of a
name that can be read gives the name an object for good: whatever other descriptor of the name comes
later, sound or not, is answered with this object, and no other name is. A descriptor that cannot be
read leaves nothing behind. -/

namespace BeanKit

namespace OrderedMap

variable {α β : Type} [DecidableEq α] {m n : OrderedMap α β} {k : α} {v : β}

theorem entries_prefix_insertIfAbsent (m : OrderedMap α β) (k : α) (v : β) :
    m.entries <+: (m.insertIfAbsent k v).entries := by
  unfold insertIfAbsent
  split
  · exact List.prefix_refl _
  · exact List.prefix_append _ _

theorem entries_insertIfAbsent_of_absent (h : m.get? k = none) (v : β) :
    (m.insertIfAbsent k v).entries = m.entries ++ [(k, v)] := by
  have habsent : ¬ m.contains k := by rw [contains_eq_isSome_get?, h]; exact Bool.false_ne_true
  rw [insertIfAbsent, dif_neg habsent]

/-- Where a map only grows at its end, what it has stays. -/
theorem get?_of_prefix (hmn : m.entries <+: n.entries) (h : m.get? k = some v) :
    n.get? k = some v := by
  rw [get?_eq_some_iff] at h ⊢
  exact hmn.subset h

end OrderedMap

namespace MetadataCache

variable {cache : MetadataCache} {d : Descriptor} {ds before rest : List Descriptor} {m : Metadata}
  {e : SchemaError} {name name' : String} {shared shared' : SharedMetadata}

/-! ## One descriptor -/

theorem prefix_resolve (cache : MetadataCache) (d : Descriptor) :
    cache.entries.entries <+: (cache.resolve d).2.entries.entries := by
  rcases cache.resolve_cases d with ⟨shared, -, h⟩ | ⟨m, -, -, h⟩ | ⟨e, -, -, h⟩ <;> rw [h]
  exact cache.entries.entries_prefix_insertIfAbsent _ _

/-- What is answered for a descriptor. -/
def answer (cache : MetadataCache) (d : Descriptor) : Except SchemaError SharedMetadata :=
  (cache.resolve d).1

/-- The object that is answered is the one that the cache then has. -/
theorem answer_eq_ok_iff :
    cache.answer d = .ok shared ↔ (cache.resolve d).2.shared? d.name = some shared := by
  rw [answer]
  rcases cache.resolve_cases d with ⟨shared', hget, h⟩ | ⟨m, hget, -, h⟩ | ⟨e, hget, -, h⟩ <;> rw [h]
  · simp [hget]
  · simp [hget, shared?_keep]
  · simp [hget]

theorem answer_eq_error (h : cache.answer d = .error e) :
    Metadata.resolve d = .error e ∧ (cache.resolve d).2 = cache := by
  rw [answer] at h
  rcases cache.resolve_cases d with ⟨shared, -, h'⟩ | ⟨m, -, -, h'⟩ | ⟨e', -, hread, h'⟩ <;>
    rw [h'] at h ⊢
  · cases h
  · cases h
  · cases h
    exact ⟨hread, rfl⟩

/-- What a descriptor of a name is read as. -/
def reading? (name : String) (d : Descriptor) : Option Metadata :=
  if d.name = name then (Metadata.resolve d).toOption else none

theorem reading?_eq_some_iff :
    reading? name d = some m ↔ d.name = name ∧ Metadata.resolve d = .ok m := by
  unfold reading?
  split
  · cases Metadata.resolve d <;> simp [Except.toOption, *]
  · simp [*]

theorem reading?_eq_none_iff :
    reading? name d = none ↔ (d.name = name → ∃ e, Metadata.resolve d = .error e) := by
  unfold reading?
  split
  · cases Metadata.resolve d <;> simp [Except.toOption, *]
  · simp [*]

theorem get?_resolve (cache : MetadataCache) (d : Descriptor) (name : String) :
    (cache.resolve d).2.get? name = (cache.get? name).or (reading? name d) := by
  unfold reading?
  rcases cache.resolve_cases d with ⟨shared, hget, h⟩ | ⟨m, hget, hread, h⟩ | ⟨e, hget, hread, h⟩ <;>
    rw [h]
  · by_cases hname : d.name = name
    · rw [← hname, get?, hget, Option.map_some, Option.some_or]
    · rw [if_neg hname, Option.or_none]
  · rw [get?_keep, hread]
    simp only [Except.toOption, eq_comm]
  · simp [hread, Except.toOption]

/-! ## Objects and their numbers -/

/-- The objects of a cache are all that it has made, in this order. -/
def Numbered (cache : MetadataCache) : Prop :=
  cache.entries.entries.map (·.2.number) = List.range cache.made

theorem numbered_empty : Numbered .empty := rfl

theorem Numbered.resolve (h : cache.Numbered) (d : Descriptor) : (cache.resolve d).2.Numbered := by
  rcases cache.resolve_cases d with ⟨shared, -, h'⟩ | ⟨m, habsent, -, h'⟩ | ⟨e, -, -, h'⟩ <;> rw [h']
  · exact h
  · rw [Numbered] at h ⊢
    rw [keep, OrderedMap.entries_insertIfAbsent_of_absent habsent, List.map_append, h,
      List.range_succ]
    rfl
  · exact h

theorem Numbered.made_eq_size (h : cache.Numbered) : cache.made = cache.size := by
  have hlength := congrArg List.length h
  rw [List.length_map, List.length_range] at hlength
  exact hlength.symm

/-- No two names have one object. -/
theorem Numbered.name_eq (h : cache.Numbered) (hget : cache.shared? name = some shared)
    (hget' : cache.shared? name' = some shared') (hn : shared.number = shared'.number) :
    name = name' := by
  have hnodup : (cache.entries.entries.map (·.2.number)).Nodup := by
    rw [h]
    exact List.nodup_range
  exact congrArg Prod.fst (List.inj_on_of_nodup_map hnodup
    ((OrderedMap.get?_eq_some_iff ..).1 hget) ((OrderedMap.get?_eq_some_iff ..).1 hget') hn)

/-! ## Descriptors in turn -/

/-- The cache after descriptors have been resolved through it in turn. -/
def after (cache : MetadataCache) (ds : List Descriptor) : MetadataCache :=
  ds.foldl (fun cache d => (cache.resolve d).2) cache

theorem after_append (cache : MetadataCache) (before rest : List Descriptor) :
    cache.after (before ++ rest) = (cache.after before).after rest := List.foldl_append

theorem after_singleton (cache : MetadataCache) (d : Descriptor) :
    cache.after [d] = (cache.resolve d).2 := rfl

theorem prefix_after (cache : MetadataCache) (ds : List Descriptor) :
    cache.entries.entries <+: (cache.after ds).entries.entries := by
  induction ds generalizing cache with
  | nil => exact List.prefix_refl _
  | cons d rest ih => exact (cache.prefix_resolve d).trans (ih _)

theorem Numbered.after (h : cache.Numbered) (ds : List Descriptor) : (cache.after ds).Numbered := by
  induction ds generalizing cache with
  | nil => exact h
  | cons d rest ih => exact ih (h.resolve d)

/-- Under a name the cache has what it had, or what the first descriptor of the name that can be read
is read as. -/
theorem get?_after (cache : MetadataCache) (ds : List Descriptor) (name : String) :
    (cache.after ds).get? name = (cache.get? name).or (ds.findSome? (reading? name)) := by
  induction ds generalizing cache with
  | nil => simp [after]
  | cons d rest ih =>
    rw [after, List.foldl_cons, ← after, ih, get?_resolve, Option.or_assoc, List.findSome?_cons]
    cases reading? name d <;> rfl

/-- What has been answered is what the cache has at the end of the run. -/
theorem shared?_of_answer (hds : ds = before ++ d :: rest)
    (h : (after .empty before).answer d = .ok shared) :
    (after .empty ds).shared? d.name = some shared := by
  have hkept := OrderedMap.get?_of_prefix (prefix_after _ rest) (answer_eq_ok_iff.1 h)
  rw [hds, after_append]
  exact hkept

/-- A descriptor is answered with the first reading of its name, up to itself. -/
theorem exists_first_of_answer (h : (after .empty before).answer d = .ok shared) :
    ∃ front d' back, before ++ [d] = front ++ d' :: back ∧ d'.name = d.name ∧
      Metadata.resolve d' = .ok shared.metadata ∧
      ∀ e ∈ front, e.name = d.name → ∃ fault, Metadata.resolve e = .error fault := by
  have hget : (after .empty (before ++ [d])).get? d.name = some shared.metadata := by
    rw [after_append, after_singleton, get?, answer_eq_ok_iff.1 h, Option.map_some]
  rw [get?_after] at hget
  obtain ⟨front, d', back, hsplit, hread, hfront⟩ := List.findSome?_eq_some_iff.1 hget
  obtain ⟨hname, hm⟩ := reading?_eq_some_iff.1 hread
  exact ⟨front, d', back, hsplit, hname, hm, fun e he => reading?_eq_none_iff.1 (hfront e he)⟩

/-- Where a name stands for one descriptor only, a descriptor is answered with its own reading. -/
theorem metadata_eq_resolve (hds : ds = before ++ d :: rest)
    (hsame : ∀ d ∈ ds, ∀ d' ∈ ds, d.name = d'.name → d = d') :
    (after .empty before).metadata d = Metadata.resolve d := by
  rw [metadata, ← answer]
  cases h : (after .empty before).answer d with
  | error fault =>
    rw [(answer_eq_error h).1]
    rfl
  | ok shared =>
    obtain ⟨front, d', back, hsplit, hname, hread, -⟩ := exists_first_of_answer h
    have hall : ds = front ++ d' :: (back ++ rest) := by
      rw [hds, List.append_cons, hsplit, List.append_assoc, List.cons_append]
    have hd : d' = d := hsame d' (by simp [hall]) d (by simp [hds]) hname
    rw [← hd, hread]
    rfl

/-- The names of a cache are those that have been answered with metadata. -/
theorem mem_keys_after_iff : name ∈ (after .empty ds).entries.keys ↔
    ∃ before d rest shared, ds = before ++ d :: rest ∧ d.name = name ∧
      (after .empty before).answer d = .ok shared := by
  constructor
  · intro hkey
    obtain ⟨shared, hshared⟩ := OrderedMap.mem_keys_iff.1 hkey
    have hm : (after .empty ds).get? name = some shared.metadata :=
      congrArg (Option.map SharedMetadata.metadata) hshared
    rw [get?_after] at hm
    obtain ⟨before, d, rest, hds, hread, -⟩ := List.findSome?_eq_some_iff.1 hm
    obtain ⟨rfl, hread'⟩ := reading?_eq_some_iff.1 hread
    -- The cache has the name once its descriptor has been resolved, whoever was the first.
    cases hanswer : (after .empty before).answer d with
    | ok shared => exact ⟨before, d, rest, shared, hds, rfl, hanswer⟩
    | error fault =>
      rw [(answer_eq_error hanswer).1] at hread'
      cases hread'
  · rintro ⟨before, d, rest, shared, hds, rfl, hanswer⟩
    exact OrderedMap.mem_keys_of_get? (shared?_of_answer hds hanswer)

/-! ## The first reading stays -/

/-- What a cache shows that starts empty and has descriptors resolved through it in turn. -/
structure FirstReadingStays (ds : List Descriptor) : Prop where
  /-- What is answered lies in the cache for good. -/
  lasting : ∀ before d rest, ds = before ++ d :: rest → ∀ shared,
    (after .empty before).answer d = .ok shared →
      (after .empty ds).shared? d.name = some shared
  /-- All descriptors of a name that are answered with metadata are answered with one object. -/
  one : ∀ before d rest, ds = before ++ d :: rest → ∀ before' d' rest', ds = before' ++ d' :: rest' →
    d.name = d'.name → ∀ shared shared', (after .empty before).answer d = .ok shared →
      (after .empty before').answer d' = .ok shared' → shared = shared'
  /-- Descriptors of two names are answered with two objects, also where the metadata are alike. -/
  apart : ∀ before d rest, ds = before ++ d :: rest → ∀ before' d' rest', ds = before' ++ d' :: rest' →
    d.name ≠ d'.name → ∀ shared shared', (after .empty before).answer d = .ok shared →
      (after .empty before').answer d' = .ok shared' → shared.number ≠ shared'.number
  /-- The metadata are those of the first descriptor of the name that has any. -/
  first : ∀ before d rest, ds = before ++ d :: rest → ∀ shared,
    (after .empty before).answer d = .ok shared →
      ∃ front d' back, before ++ [d] = front ++ d' :: back ∧ d'.name = d.name ∧
        Metadata.resolve d' = .ok shared.metadata ∧
        ∀ e ∈ front, e.name = d.name → ∃ fault, Metadata.resolve e = .error fault
  /-- What cannot be answered is told what is wrong with it, and leaves nothing. -/
  failed : ∀ before d rest, ds = before ++ d :: rest → ∀ fault,
    (after .empty before).answer d = .error fault →
      Metadata.resolve d = .error fault ∧ after .empty (before ++ [d]) = after .empty before
  /-- The cache is as large as there are names that have been answered with metadata. -/
  size : ∃ names : List String, names.Nodup ∧ (after .empty ds).size = names.length ∧
    ∀ name, name ∈ names ↔ ∃ before d rest shared, ds = before ++ d :: rest ∧ d.name = name ∧
      (after .empty before).answer d = .ok shared
  /-- No object is made that is not kept. -/
  made : (after .empty ds).made = (after .empty ds).size
  grows : ∀ before rest, ds = before ++ rest → (after .empty before).size ≤ (after .empty ds).size
  /-- Where a name stands for one descriptor only, the cache makes no difference. -/
  transparent : (∀ d ∈ ds, ∀ d' ∈ ds, d.name = d'.name → d = d') →
    ∀ before d rest, ds = before ++ d :: rest →
      (after .empty before).metadata d = Metadata.resolve d

/-- A cache through which descriptors are resolved in turn keeps the first reading of each name as one
object, and shows nothing of those that cannot be read. -/
theorem cache_keeps_first_reading (ds : List Descriptor) : FirstReadingStays ds where
  lasting before d rest hds shared h := shared?_of_answer hds h
  one before d rest hds before' d' rest' hds' hname shared shared' h h' := by
    have hget := shared?_of_answer hds h
    rw [hname, shared?_of_answer hds' h'] at hget
    exact (Option.some.inj hget).symm
  apart before d rest hds before' d' rest' hds' hname shared shared' h h' hn :=
    hname ((numbered_empty.after ds).name_eq (shared?_of_answer hds h) (shared?_of_answer hds' h') hn)
  first before d rest hds shared h := exists_first_of_answer h
  failed before d rest hds fault h := by
    obtain ⟨hread, hsame⟩ := answer_eq_error h
    refine ⟨hread, ?_⟩
    rw [after_append, after_singleton, hsame]
  size := by
    refine ⟨(after .empty ds).entries.keys, (after .empty ds).entries.nodup, ?_,
      fun name => mem_keys_after_iff⟩
    rw [MetadataCache.size, OrderedMap.size, OrderedMap.keys, List.length_map]
  made := (numbered_empty.after ds).made_eq_size
  grows before rest hds := by
    rw [hds, after_append]
    exact (prefix_after _ rest).length_le
  transparent hsame before d rest hds := metadata_eq_resolve hds hsame

/-- An item that is kept in a table, if it is tagged with one, under the given column. -/
def itemDescriptor (name : String) (tags : List Tag) (column : String) : Descriptor where
  type := ⟨name, name⟩
  kind := .concrete
  tags := tags
  fields := [⟨"id", [.column column, .id]⟩]

def itemMetadata (name : String) : Metadata where
  entity := ⟨name, name⟩
  table := "items"
  idField := "id"
  columnOfField := .ofList [("id", "ID")]
  fieldOfColumn := .ofList [("ID", "id")]

/-- An item fails at first, is read then, and is answered alike when it comes again in another table or
in none. An item of another name in the same table is another object. -/
theorem cache_keeps_first_reading_retried :
    let bare := itemDescriptor "shop::Item" [] "ID"
    let sound := itemDescriptor "shop::Item" [.table "items"] "ID"
    let moved := itemDescriptor "shop::Item" [.table "goods"] "NUMBER"
    let other := itemDescriptor "shop::Article" [.table "items"] "ID"
    (after .empty []).answer bare = .error (.missingTable "shop::Item") ∧
      (after .empty [bare]).answer sound = .ok ⟨0, itemMetadata "shop::Item"⟩ ∧
      (after .empty [bare, sound]).answer other = .ok ⟨1, itemMetadata "shop::Article"⟩ ∧
      (after .empty [bare, sound, other]).answer moved = .ok ⟨0, itemMetadata "shop::Item"⟩ ∧
      (after .empty [bare, sound, other, moved]).answer bare = .ok ⟨0, itemMetadata "shop::Item"⟩ ∧
      (after .empty [bare, sound, other, moved, bare]).shared? "shop::Item" =
        some ⟨0, itemMetadata "shop::Item"⟩ ∧
      FirstReadingStays [bare, sound, other, moved, bare] := by
  intro bare sound moved other
  have hagain : (after .empty [bare, sound, other, moved]).answer bare =
      .ok ⟨0, itemMetadata "shop::Item"⟩ := by rfl
  have hstays := cache_keeps_first_reading [bare, sound, other, moved, bare]
  exact ⟨by rfl, by rfl, by rfl, by rfl, hagain,
    hstays.lasting [bare, sound, other, moved] bare [] rfl _ hagain, hstays⟩

end MetadataCache
end BeanKit
