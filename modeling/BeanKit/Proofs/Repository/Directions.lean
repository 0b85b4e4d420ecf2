import BeanKit.Proofs.Repository.Schema
/-! # The two directions of a mapping

Metadata lead from fields to columns and from columns to fields. Both maps are written field by field,
and the later write counts: for a field that is declared twice in the one map, for a column that is
declared twice in the other. Nothing keeps two fields from one column. Each of them has the column then,
but the column has only the last of them. -/

namespace BeanKit

/-! ## The last write counts -/

section Last

variable {α κ κ' : Type} {key : α → κ} {key' : α → κ'} {l before after before' after' : List α}
  {a b : α}

/-- A member of a list whose key comes no more behind it. -/
def LastBy (key : α → κ) (l : List α) (a : α) : Prop :=
  ∃ before after, l = before ++ a :: after ∧ key a ∉ after.map key

/-- Two places in a list are one, or one of them is behind the other one. -/
theorem eq_or_behind (h : before ++ a :: after = before' ++ b :: after') :
    (a = b ∧ after = after') ∨ b ∈ after ∨ a ∈ after' := by
  induction before generalizing before' with
  | nil =>
    cases before' with
    | nil => exact .inl (List.cons.inj h)
    | cons c rest =>
      obtain ⟨-, rfl⟩ := List.cons.inj h
      exact .inr (.inl (by simp))
  | cons c rest ih =>
    cases before' with
    | nil =>
      obtain ⟨-, rfl⟩ := List.cons.inj h
      exact .inr (.inr (by simp))
    | cons c' rest' => exact ih (List.cons.inj h).2

theorem LastBy.unique (ha : LastBy key l a) (hb : LastBy key l b) (hkey : key a = key b) : a = b := by
  obtain ⟨before, after, rfl, hafter⟩ := ha
  obtain ⟨before', after', hsplit, hafter'⟩ := hb
  rcases eq_or_behind hsplit with ⟨rfl, -⟩ | hbehind | hbehind
  · rfl
  · exact absurd (hkey ▸ List.mem_map_of_mem hbehind) hafter
  · exact absurd (hkey ▸ List.mem_map_of_mem hbehind) hafter'

theorem LastBy.mem (h : LastBy key l a) : a ∈ l := by
  obtain ⟨before, after, rfl, -⟩ := h
  simp

/-- Where all keys are distinct, each member is the last with its key. -/
theorem lastBy_iff_mem (h : (l.map key).Nodup) : LastBy key l a ↔ a ∈ l := by
  refine ⟨LastBy.mem, fun ha => ?_⟩
  obtain ⟨before, after, rfl⟩ := List.append_of_mem ha
  rw [List.map_append, List.map_cons, List.nodup_append, List.nodup_cons] at h
  exact ⟨before, after, rfl, h.2.1.1⟩

theorem lastBy_map {β : Type} {g : α → β} {key : β → κ} (hg : Function.Injective g) :
    LastBy key (l.map g) (g a) ↔ LastBy (key ∘ g) l a := by
  constructor
  · rintro ⟨before, after, hsplit, hlast⟩
    obtain ⟨front, rest, rfl, -, hrest⟩ := List.map_eq_append_iff.1 hsplit
    obtain ⟨b, back, rfl, hb, rfl⟩ := List.map_eq_cons_iff.1 hrest
    obtain rfl := hg hb
    exact ⟨front, back, rfl, by rwa [List.map_map] at hlast⟩
  · rintro ⟨before, after, rfl, hlast⟩
    exact ⟨before.map g, after.map g, by simp, by rwa [List.map_map]⟩

/-- The last place of a member is the last one by either key, if it has a last place by both. -/
theorem LastBy.not_mem_behind (h : LastBy key' l a) (hsplit : l = before ++ a :: after)
    (hlast : key a ∉ after.map key) : key' a ∉ after.map key' := by
  obtain ⟨before', after', hsplit', hlast'⟩ := h
  rcases eq_or_behind (hsplit.symm.trans hsplit') with ⟨-, rfl⟩ | hbehind | hbehind
  · exact hlast'
  · exact absurd (List.mem_map_of_mem hbehind) hlast
  · exact absurd (List.mem_map_of_mem hbehind) hlast'

/-- Members are the last by one key and by another one alike where, at each place, the one comes again
exactly if the other one does. -/
theorem lastBy_congr_iff : (∀ a, LastBy key l a ↔ LastBy key' l a) ↔
    ∀ before a after, l = before ++ a :: after → (key a ∈ after.map key ↔ key' a ∈ after.map key') := by
  constructor
  · intro h before a after hsplit
    rw [← not_iff_not]
    constructor
    · intro hlast
      exact ((h a).1 ⟨before, after, hsplit, hlast⟩).not_mem_behind hsplit hlast
    · intro hlast
      exact ((h a).2 ⟨before, after, hsplit, hlast⟩).not_mem_behind hsplit hlast
  · intro h a
    constructor
    · rintro ⟨before, after, hsplit, hlast⟩
      exact ⟨before, after, hsplit, (not_congr (h before a after hsplit)).1 hlast⟩
    · rintro ⟨before, after, hsplit, hlast⟩
      exact ⟨before, after, hsplit, (not_congr (h before a after hsplit)).2 hlast⟩

end Last

/-- A key has the value of the last pair with it. -/
theorem OrderedMap.get?_ofList_eq_some_iff {α β : Type} [DecidableEq α] {pairs : List (α × β)}
    {k : α} {v : β} : (ofList pairs).get? k = some v ↔ LastBy Prod.fst pairs (k, v) := by
  rw [get?_ofList, List.getLast?_eq_head?_reverse, ← List.filter_reverse, List.head?_filter,
    Option.map_eq_some_iff]
  simp only [List.find?_eq_some_iff_append]
  constructor
  · rintro ⟨⟨k', v'⟩, ⟨hk, front, back, hsplit, hfront⟩, rfl⟩
    obtain rfl : k' = k := of_decide_eq_true hk
    refine ⟨back.reverse, front.reverse, by simpa using congrArg List.reverse hsplit, ?_⟩
    intro hm
    obtain ⟨e, he, hkey⟩ := List.mem_map.1 hm
    simpa [hkey] using hfront e (List.mem_reverse.1 he)
  · rintro ⟨before, after, rfl, hafter⟩
    refine ⟨(k, v), ⟨by simp, after.reverse, before.reverse, by simp, ?_⟩, rfl⟩
    intro e he
    have hm : e.1 ∈ after.map Prod.fst := List.mem_map_of_mem (List.mem_reverse.1 he)
    have hne : e.1 ≠ k := fun hkey => hafter (hkey ▸ hm)
    simp [hne]

/-! ## Fields and columns -/

/-- The fields of a descriptor that have a column, each with its column, as declared. -/
def Descriptor.pairs (d : Descriptor) : List (String × String) :=
  (Metadata.mappedFields d.fields).map fun e => (e.1.name, e.2)

namespace Metadata

variable {d : Descriptor} {m : Metadata} {field column : String}

/-- The two directions of a mapping undo one another. -/
def Inverse (m : Metadata) : Prop :=
  ∀ field column, m.column? field = some column ↔ m.field? column = some field

theorem Reads.column?_eq_some_iff (h : m.Reads d) :
    m.column? field = some column ↔ LastBy Prod.fst d.pairs (field, column) := by
  rw [column?, h.columnOfField, OrderedMap.get?_ofList_eq_some_iff]
  rfl

theorem Reads.field?_eq_some_iff (h : m.Reads d) :
    m.field? column = some field ↔ LastBy Prod.snd d.pairs (field, column) := by
  have hswap : ((mappedFields d.fields).map fun e => (e.2, e.1.name)) = d.pairs.map Prod.swap := by
    simp [Descriptor.pairs, Prod.swap]
  have hlast : LastBy Prod.fst (d.pairs.map Prod.swap) (Prod.swap (field, column)) ↔
      LastBy Prod.snd d.pairs (field, column) := lastBy_map Prod.swap_injective
  rw [field?, h.fieldOfColumn, hswap, OrderedMap.get?_ofList_eq_some_iff]
  exact hlast

theorem Reads.inverse_iff (h : m.Reads d) :
    m.Inverse ↔ ∀ e, LastBy Prod.fst d.pairs e ↔ LastBy Prod.snd d.pairs e := by
  simp only [Inverse, h.column?_eq_some_iff, h.field?_eq_some_iff, Prod.forall]

/-- Where no two fields have one name, the field of a column has this column. All columns lead back to
where they come from exactly if no two fields have one column. -/
theorem Reads.inverse_iff_nodup (h : m.Reads d) (hnames : (d.pairs.map Prod.fst).Nodup) :
    m.Inverse ↔ (d.pairs.map Prod.snd).Nodup := by
  rw [h.inverse_iff]
  constructor
  · intro hlast
    have hpairs : d.pairs.Nodup := List.Nodup.of_map _ hnames
    refine hpairs.map_on fun e he e' he' hcolumn => ?_
    have hlast (a) (ha : a ∈ d.pairs) := (hlast a).1 ((lastBy_iff_mem hnames).2 ha)
    exact (hlast e he).unique (hlast e' he') hcolumn
  · intro hcolumns e
    rw [lastBy_iff_mem hnames, lastBy_iff_mem hcolumns]

/-- A field has the column that it is last declared with, and a column has the field that is last
declared with it. So the two directions are inverse exactly where, behind each declaration of a field
with a column, the field is declared again if and only if the column is. -/
theorem directions_inverse_iff (h : resolve d = .ok m) :
    (∀ field column, m.column? field = some column ↔ LastBy Prod.fst d.pairs (field, column)) ∧
    (∀ field column, m.field? column = some field ↔ LastBy Prod.snd d.pairs (field, column)) ∧
    (m.Inverse ↔ ∀ before e after, d.pairs = before ++ e :: after →
      (e.1 ∈ after.map Prod.fst ↔ e.2 ∈ after.map Prod.snd)) ∧
    ((d.pairs.map Prod.fst).Nodup →
      (∀ field column, m.field? column = some field → m.column? field = some column) ∧
      (m.Inverse ↔ (d.pairs.map Prod.snd).Nodup)) := by
  have hreads := reads_of_resolve h
  refine ⟨fun _ _ => hreads.column?_eq_some_iff, fun _ _ => hreads.field?_eq_some_iff, ?_, ?_⟩
  · rw [hreads.inverse_iff, lastBy_congr_iff]
  · intro hnames
    refine ⟨fun field column hfield => ?_, hreads.inverse_iff_nodup hnames⟩
    rw [hreads.column?_eq_some_iff, lastBy_iff_mem hnames]
    exact (hreads.field?_eq_some_iff.1 hfield).mem

theorem directions_inverse_iff_voucher :
    resolve voucherDescriptor = .ok voucherMetadata ∧
      (voucherDescriptor.pairs.map Prod.fst).Nodup ∧
      (voucherDescriptor.pairs.map Prod.snd).Nodup ∧ voucherMetadata.Inverse := by
  have hresolve : resolve voucherDescriptor = .ok voucherMetadata := by rfl
  have hnames : (voucherDescriptor.pairs.map Prod.fst).Nodup := by decide
  have hcolumns : (voucherDescriptor.pairs.map Prod.snd).Nodup := by decide
  obtain ⟨-, -, -, hdistinct⟩ := directions_inverse_iff hresolve
  exact ⟨hresolve, hnames, hcolumns, (hdistinct hnames).2.2 hcolumns⟩

/-- A person, two of whose fields are kept in one column. -/
def personDescriptor : Descriptor where
  type := ⟨"shop::Person", "shop::Person"⟩
  kind := .concrete
  tags := [.table "people"]
  fields := [⟨"id", [.column "ID", .id]⟩, ⟨"nick", [.column "NAME"]⟩, ⟨"name", [.column "NAME"]⟩]

def personMetadata : Metadata where
  entity := personDescriptor.type
  table := "people"
  idField := "id"
  columnOfField := .ofList [("id", "ID"), ("nick", "NAME"), ("name", "NAME")]
  fieldOfColumn := .ofList [("ID", "id"), ("NAME", "name")]

/-- The first of two fields that share a column has it, and is not the field of it. -/
theorem shared_column_breaks_inverse :
    resolve personDescriptor = .ok personMetadata ∧
      personMetadata.column? "nick" = some "NAME" ∧ personMetadata.field? "NAME" = some "name" ∧
      ¬ personMetadata.Inverse := by
  have hcolumn : personMetadata.column? "nick" = some "NAME" := by rfl
  have hfield : personMetadata.field? "NAME" = some "name" := by rfl
  refine ⟨by rfl, hcolumn, hfield, fun hinverse => ?_⟩
  have hnick := (hinverse "nick" "NAME").1 hcolumn
  rw [hfield] at hnick
  exact absurd hnick (by decide)

end Metadata
end BeanKit
