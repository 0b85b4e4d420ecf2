import BeanKit.Proofs.Repository.Mapping
/-! # Which descriptors have metadata

A descriptor has metadata where it names a table, where no column of its fields is blank, and where one
field alone has a column and is marked as the id. Of what is wrong with any other descriptor one thing
is told: the table before all columns, these in the order of the fields, and the ids last. -/

namespace BeanKit

open BeanKit.Text

/-! ## What tags name -/

/-- The first tag of a kind among some tags, and the name in it. -/
def Tag.First (kind : String → Tag) (tags : List Tag) (name : String) : Prop :=
  ∃ before after, tags = before ++ kind name :: after ∧ ∀ other, kind other ∉ before

theorem Tag.first_iff {kind : String → Tag} {read : Tag → Option String}
    (hread : ∀ tag name, read tag = some name ↔ tag = kind name) {tags : List Tag} {name : String} :
    tags.findSome? read = some name ↔ First kind tags name := by
  have hnone (tag : Tag) : read tag = none ↔ ∀ other, tag ≠ kind other := by
    rw [Option.eq_none_iff_forall_ne_some]
    exact forall_congr' fun other => not_congr (hread tag other)
  rw [List.findSome?_eq_some_iff]
  constructor
  · rintro ⟨before, tag, after, rfl, htag, hbefore⟩
    obtain rfl := (hread ..).1 htag
    exact ⟨before, after, rfl, fun other hm => (hnone _).1 (hbefore _ hm) other rfl⟩
  · rintro ⟨before, after, rfl, hbefore⟩
    refine ⟨before, _, after, rfl, (hread ..).2 rfl, fun tag hm => (hnone tag).2 ?_⟩
    rintro other rfl
    exact hbefore other hm

theorem Descriptor.table?_eq_some_iff {d : Descriptor} {table : String} :
    d.table? = some table ↔ Tag.First .table d.tags table :=
  Tag.first_iff fun tag name => by cases tag <;> simp [Tag.table?]

theorem Field.column?_eq_some_iff {f : Field} {column : String} :
    f.column? = some column ↔ Tag.First .column f.tags column :=
  Tag.first_iff fun tag name => by cases tag <;> simp [Tag.column?]

/-! ## What a descriptor must have -/

/-- A field with a column. -/
def Field.IsMapped (f : Field) : Prop := ∃ column, .column column ∈ f.tags

/-- A field whose column, if it has one, has a name. -/
def Field.ColumnNamed (f : Field) : Prop :=
  ∀ column, Tag.First .column f.tags column → isBlankText column = false

theorem Field.isSome_column?_iff {f : Field} : f.column?.isSome ↔ f.IsMapped := by
  rw [column?, List.findSome?_isSome_iff]
  constructor
  · rintro ⟨tag, hm, htag⟩
    cases tag <;> simp [Tag.column?] at htag
    exact ⟨_, hm⟩
  · rintro ⟨column, hm⟩
    exact ⟨_, hm, rfl⟩

theorem Field.columnNamed_iff {f : Field} : f.ColumnNamed ↔ ¬ f.column?.any isBlankText := by
  simp [ColumnNamed, ← column?_eq_some_iff, Option.any_eq_true]

instance : DecidablePred Field.IsMapped := fun _ => decidable_of_iff _ Field.isSome_column?_iff

instance : DecidablePred Field.ColumnNamed := fun _ => decidable_of_iff _ Field.columnNamed_iff.symm

namespace Descriptor

/-- The first table that a type is tagged with has a name. -/
def HasTable (d : Descriptor) : Prop :=
  ∃ table, Tag.First .table d.tags table ∧ isBlankText table = false

/-- The fields with a column, as declared. -/
def mapped (d : Descriptor) : List Field := d.fields.filter fun f => f.IsMapped

/-- Those of them that are marked as the id. -/
def keys (d : Descriptor) : List Field := d.mapped.filter fun f => .id ∈ f.tags

end Descriptor

/-- What is told of a descriptor without metadata. -/
inductive Faulty (d : Descriptor) : SchemaError → Prop
  | missingTable : ¬ d.HasTable → Faulty d (.missingTable d.name)
  | emptyColumn {before after : List Field} {f : Field} : d.HasTable →
      d.fields = before ++ f :: after → (∀ g ∈ before, g.ColumnNamed) → ¬ f.ColumnNamed →
        Faulty d (.emptyColumn d.name f.name)
  | missingId : d.HasTable → (∀ f ∈ d.fields, f.ColumnNamed) → d.keys = [] →
      Faulty d (.missingId d.name)
  | multipleIds : d.HasTable → (∀ f ∈ d.fields, f.ColumnNamed) → 1 < d.keys.length →
      Faulty d (.multipleIds d.name (d.keys.map Field.name))

namespace Metadata

variable {d : Descriptor} {m : Metadata} {fields : List Field}

/-! ## The reading, check by check -/

theorem forall₂_mappedFields (fields : List Field) :
    List.Forall₂ (fun f e => e.1 = f ∧ f.column? = some e.2) (fields.filter fun f => f.IsMapped)
      (mappedFields fields) := by
  induction fields with
  | nil => exact .nil
  | cons f rest ih =>
    cases hf : f.column? with
    | none =>
      have hm : ¬ f.IsMapped := by simp [← Field.isSome_column?_iff, hf]
      simpa [mappedFields, hf, hm] using ih
    | some column =>
      have hm : f.IsMapped := by simp [← Field.isSome_column?_iff, hf]
      simpa [mappedFields, hf, hm] using ih

theorem map_fst_mappedFields (fields : List Field) :
    (mappedFields fields).map (·.1) = fields.filter fun f => f.IsMapped := by
  have h : List.Forall₂ (· = ·) (fields.filter fun f => f.IsMapped)
      ((mappedFields fields).map (·.1)) :=
    List.forall₂_map_right_iff.2 ((forall₂_mappedFields fields).imp fun _ _ he => he.1.symm)
  rw [List.forall₂_eq_eq_eq] at h
  exact h.symm

theorem mem_mappedFields_iff {f : Field} {column : String} :
    (f, column) ∈ mappedFields fields ↔ f ∈ fields ∧ f.column? = some column := by
  simp [mappedFields]

/-- The fields that are counted as ids. -/
theorem ids_eq (d : Descriptor) :
    ((mappedFields d.fields).filter (·.1.isId)).map (·.1.name) = d.keys.map Field.name := by
  rw [Descriptor.keys, Descriptor.mapped, ← map_fst_mappedFields, List.filter_map, List.map_map]
  simp [Field.isId, Function.comp_def]

theorem find?_blank_eq_none (h : ∀ f ∈ fields, f.ColumnNamed) :
    (mappedFields fields).find? (isBlankText ·.2) = none := by
  refine List.find?_eq_none.2 fun ⟨f, column⟩ hm => ?_
  obtain ⟨hf, hcolumn⟩ := mem_mappedFields_iff.1 hm
  simp [h f hf column (Field.column?_eq_some_iff.1 hcolumn)]

/-- The first field whose column is blank is found where the fields in front of it have none. -/
theorem find?_blank_eq_some {before : List Field} {f : Field} (after : List Field)
    (hbefore : ∀ g ∈ before, g.ColumnNamed) (hf : ¬ f.ColumnNamed) :
    ∃ column, (mappedFields (before ++ f :: after)).find? (isBlankText ·.2) = some (f, column) := by
  rw [Field.columnNamed_iff, not_not, Option.any_eq_true] at hf
  obtain ⟨column, hcolumn, hblank⟩ := hf
  refine ⟨column, ?_⟩
  have hnone := find?_blank_eq_none hbefore
  unfold mappedFields at hnone ⊢
  rw [List.filterMap_append, List.find?_append, hnone]
  simp [hcolumn, hblank]

theorem resolve_of_no_table (h : ¬ d.HasTable) : resolve d = .error (.missingTable d.name) := by
  unfold resolve
  cases htable : d.table? with
  | none => rfl
  | some table =>
    have hblank : isBlankText table = true := by
      by_contra hn
      exact h ⟨table, Descriptor.table?_eq_some_iff.1 htable, Bool.eq_false_iff.2 hn⟩
    simp [hblank]

theorem resolve_of_empty_column {before after : List Field} {f : Field} (htable : d.HasTable)
    (hfields : d.fields = before ++ f :: after) (hbefore : ∀ g ∈ before, g.ColumnNamed)
    (hf : ¬ f.ColumnNamed) : resolve d = .error (.emptyColumn d.name f.name) := by
  obtain ⟨table, hfirst, hnamed⟩ := htable
  obtain ⟨column, hfind⟩ := find?_blank_eq_some after hbefore hf
  rw [← hfields] at hfind
  simp [resolve, Descriptor.table?_eq_some_iff.2 hfirst, hnamed, hfind]

/-- With a table and columns that have names, all depends on the ids. -/
theorem resolve_of_columns (htable : d.HasTable) (hcolumns : ∀ f ∈ d.fields, f.ColumnNamed) :
    ((∃ m, resolve d = .ok m) ↔ d.keys.length = 1) ∧
    (d.keys = [] → resolve d = .error (.missingId d.name)) ∧
    (1 < d.keys.length → resolve d = .error (.multipleIds d.name (d.keys.map Field.name))) := by
  obtain ⟨table, hfirst, hnamed⟩ := htable
  simp only [resolve, Descriptor.table?_eq_some_iff.2 hfirst, hnamed, find?_blank_eq_none hcolumns,
    ids_eq]
  rcases d.keys with _ | ⟨f, _ | ⟨g, rest⟩⟩ <;> simp

/-! ## The verdict -/

theorem exists_first_unnamed (h : ¬ ∀ f ∈ fields, f.ColumnNamed) :
    ∃ before f after, fields = before ++ f :: after ∧ (∀ g ∈ before, g.ColumnNamed) ∧
      ¬ f.ColumnNamed := by
  cases hfind : fields.find? fun f => ¬ f.ColumnNamed with
  | none => exact absurd (by simpa using List.find?_eq_none.1 hfind) h
  | some f =>
    obtain ⟨hf, before, after, hsplit, hbefore⟩ := List.find?_eq_some_iff_append.1 hfind
    exact ⟨before, f, after, hsplit, by simpa using hbefore, by simpa using hf⟩

/-- What is wrong is told. -/
theorem resolve_of_faulty {e : SchemaError} (h : Faulty d e) : resolve d = .error e := by
  cases h with
  | missingTable htable => exact resolve_of_no_table htable
  | emptyColumn htable hfields hbefore hf => exact resolve_of_empty_column htable hfields hbefore hf
  | missingId htable hcolumns hkeys => exact (resolve_of_columns htable hcolumns).2.1 hkeys
  | multipleIds htable hcolumns hkeys => exact (resolve_of_columns htable hcolumns).2.2 hkeys

/-- There is nothing wrong, or the fault that comes first is. The checks are taken in their order. -/
theorem sound_or_faulty (d : Descriptor) :
    (d.HasTable ∧ (∀ f ∈ d.fields, f.ColumnNamed) ∧ d.keys.length = 1) ∨ ∃ e, Faulty d e := by
  by_cases htable : d.HasTable
  · by_cases hcolumns : ∀ f ∈ d.fields, f.ColumnNamed
    · rcases Nat.lt_trichotomy d.keys.length 1 with hnone | hone | hmany
      · exact .inr ⟨_, .missingId htable hcolumns (List.length_eq_zero_iff.1 (by omega))⟩
      · exact .inl ⟨htable, hcolumns, hone⟩
      · exact .inr ⟨_, .multipleIds htable hcolumns hmany⟩
    · obtain ⟨before, f, after, hfields, hbefore, hf⟩ := exists_first_unnamed hcolumns
      exact .inr ⟨_, .emptyColumn htable hfields hbefore hf⟩
  · exact .inr ⟨_, .missingTable htable⟩

/-! ## What metadata list -/

/-- What metadata say of a descriptor: whose they are and in which table, which fields are mapped, in
what order and to which columns, and which one of them is the id. -/
structure Presents (m : Metadata) (d : Descriptor) : Prop where
  entity : m.entity = d.type
  table : Tag.First .table d.tags m.table
  fields : List.Forall₂ (fun f e => e.1 = f.name ∧ Tag.First .column f.tags e.2) d.mapped
    m.columnOfField.entries
  id : ∃ f, d.keys = [f] ∧ m.idField = f.name ∧ m.idField ∈ m.columnOfField.keys ∧
    Tag.First .column f.tags m.idColumn ∧ m.column? m.idField = some m.idColumn

/-- The id is the one field that has a column and is marked as the id. -/
theorem Reads.exists_key (h : m.Reads d) : ∃ f, d.keys = [f] ∧ m.idField = f.name := by
  have hid := h.id
  rw [ids_eq, List.map_eq_singleton_iff] at hid
  obtain ⟨f, hf, hname⟩ := hid
  exact ⟨f, hf, hname.symm⟩

/-- Where no two mapped fields have one name, the map lists them as they are declared. -/
theorem Reads.entries_columnOfField (h : m.Reads d) (hnames : (d.mapped.map Field.name).Nodup) :
    m.columnOfField.entries = (mappedFields d.fields).map fun e => (e.1.name, e.2) := by
  rw [Descriptor.mapped, ← map_fst_mappedFields, List.map_map] at hnames
  rw [h.columnOfField]
  apply OrderedMap.entries_ofList_of_nodup
  rwa [List.map_map]

/-- No field takes the column of another one then. -/
theorem Reads.column?_of_mapped (h : m.Reads d) (hnames : (d.mapped.map Field.name).Nodup)
    {f : Field} (hf : f ∈ d.mapped) : m.column? f.name = f.column? := by
  obtain ⟨hdeclared, hmapped⟩ := List.mem_filter.1 hf
  obtain ⟨column, hcolumn⟩ :=
    Option.isSome_iff_exists.1 (Field.isSome_column?_iff.2 (of_decide_eq_true hmapped))
  rw [hcolumn, column?, OrderedMap.get?_eq_some_iff, h.entries_columnOfField hnames]
  exact List.mem_map.2 ⟨(f, column), mem_mappedFields_iff.2 ⟨hdeclared, hcolumn⟩, rfl⟩

theorem Reads.presents (h : m.Reads d) (hnames : (d.mapped.map Field.name).Nodup) :
    m.Presents d := by
  obtain ⟨f, hkeys, hname⟩ := h.exists_key
  have hf : f ∈ d.keys := hkeys ▸ List.mem_singleton_self f
  have hcolumn : f.column? = some m.idColumn := by
    rw [← h.column?_of_mapped hnames (List.mem_of_mem_filter hf), ← hname]
    exact h.column?_idField
  exact
    { entity := h.entity
      table := Descriptor.table?_eq_some_iff.1 h.table
      fields := by
        rw [h.entries_columnOfField hnames, List.forall₂_map_right_iff]
        refine (forall₂_mappedFields d.fields).imp ?_
        rintro f e ⟨rfl, hcolumn⟩
        exact ⟨rfl, Field.column?_eq_some_iff.1 hcolumn⟩
      id := ⟨f, hkeys, hname, OrderedMap.mem_keys_of_get? h.column?_idField,
        Field.column?_eq_some_iff.1 hcolumn, h.column?_idField⟩ }

/-- A descriptor has metadata exactly where it names a table, all its columns have names, and one field
with a column is marked as the id. Otherwise the first fault is told, and no other one. -/
theorem resolve_validates (d : Descriptor) :
    ((∃ m, resolve d = .ok m) ↔
      d.HasTable ∧ (∀ f ∈ d.fields, f.ColumnNamed) ∧ d.keys.length = 1) ∧
    (∀ e, resolve d = .error e ↔ Faulty d e) ∧
    ∀ m, resolve d = .ok m → (d.mapped.map Field.name).Nodup → m.Presents d := by
  refine ⟨⟨?_, ?_⟩, ?_, fun m h => (reads_of_resolve h).presents⟩
  · rintro ⟨m, hm⟩
    rcases sound_or_faulty d with hsound | ⟨e, he⟩
    · exact hsound
    · rw [resolve_of_faulty he] at hm
      cases hm
  · rintro ⟨htable, hcolumns, hone⟩
    exact (resolve_of_columns htable hcolumns).1.2 hone
  · intro e
    refine ⟨fun he => ?_, resolve_of_faulty⟩
    rcases sound_or_faulty d with ⟨htable, hcolumns, hone⟩ | ⟨e', he'⟩
    · obtain ⟨m, hm⟩ := (resolve_of_columns htable hcolumns).1.2 hone
      rw [hm] at he
      cases he
    · have hsame := resolve_of_faulty he'
      rw [he] at hsame
      cases hsame
      exact he'

/-- A voucher. It is tagged with two tables, its number with two columns, and the row that is marked as
the id has none. -/
def voucherDescriptor : Descriptor where
  type := ⟨"shop::Voucher", "shop::Voucher"⟩
  kind := .concrete
  tags := [.other "Audited", .table "vouchers", .table "coupons"]
  fields := [⟨"row", [.id]⟩, ⟨"number", [.id, .column "NUMBER", .column "NO"]⟩, ⟨"cached", []⟩,
    ⟨"note", [.column "NOTE"]⟩]

def voucherMetadata : Metadata where
  entity := voucherDescriptor.type
  table := "vouchers"
  idField := "number"
  columnOfField := .ofList [("number", "NUMBER"), ("note", "NOTE")]
  fieldOfColumn := .ofList [("NUMBER", "number"), ("NOTE", "note")]

theorem resolve_validates_voucher :
    resolve voucherDescriptor = .ok voucherMetadata ∧
      (voucherDescriptor.mapped.map Field.name).Nodup ∧
      voucherMetadata.Presents voucherDescriptor := by
  have hresolve : resolve voucherDescriptor = .ok voucherMetadata := by rfl
  have hnames : (voucherDescriptor.mapped.map Field.name).Nodup := by decide
  exact ⟨hresolve, hnames, (resolve_validates voucherDescriptor).2.2 _ hresolve hnames⟩

end Metadata
end BeanKit
