import BeanKit.Proofs.Query.Diagnosis
import BeanKit.Proofs.Query.Reading
import BeanKit.Proofs.Repository.Mapping
/-!
# Which field a text is read as

Of the fields that a text starts with, the one with the longest spelling is taken, and of fields with
one spelling the first that is declared (`LongestMatch`). Where no two fields have one spelling, the
order of declaration is not seen in anything that is read: `longest_match_decides`. And a field can be
asked for by its own name alone exactly where it has a spelling and is the first to have it:
`resolve_field_by_own_name`.
-/

namespace BeanKit.Query

open Naming (capitalizeChars)

/-! ## The first match in an index -/

section Index

variable {index : FieldIndex} {text after : List Char} {c d : Candidate}

theorem find?_spelling_of_match? (h : index.match? text = some (c, after)) :
    index.find? (·.spelling = c.spelling) = some c := by
  induction index with
  | nil => cases h
  | cons b index ih =>
    have hc : c.spelling <+: text := (match?_sound h).2 ▸ List.prefix_append _ _
    rw [FieldIndex.match?] at h
    split at h
    · cases h
      simp
    · rename_i hb
      have hne : b.spelling ≠ c.spelling := fun he => Text.after?_eq_none_iff.1 hb (he ▸ hc)
      rw [List.find?_cons_of_neg (by simpa using hne)]
      exact ih h

theorem weight_le_of_match? (hs : index.Pairwise fun a b => b.weight ≤ a.weight)
    (h : index.match? text = some (c, after)) (hd : d ∈ index) (hp : d.spelling <+: text) :
    d.weight ≤ c.weight := by
  induction index with
  | nil => cases hd
  | cons b index ih =>
    obtain ⟨hb, hs⟩ := List.pairwise_cons.1 hs
    rw [FieldIndex.match?] at h
    split at h
    · cases h
      rcases List.mem_cons.1 hd with rfl | hd
      · exact Nat.le_refl _
      · exact hb d hd
    · rename_i hnone
      rcases List.mem_cons.1 hd with rfl | hd
      · exact absurd hp (Text.after?_eq_none_iff.1 hnone)
      · exact ih hs h hd

end Index

/-! ## The order of the fields of a map -/

/-- A field of a map as it stands in a query name. -/
def Candidate.ofEntry (e : String × String) : Candidate := ⟨capitalizeChars e.1.toList, e.1, e.2⟩

def Candidate.heavier (a b : Candidate) : Bool := b.weight ≤ a.weight

theorem heavier_trans (a b c : Candidate) (h : a.heavier b) (h' : b.heavier c) : a.heavier c := by
  simp only [Candidate.heavier, decide_eq_true_eq] at h h' ⊢
  exact Nat.le_trans h' h

theorem heavier_total (a b : Candidate) : a.heavier b || b.heavier a := by
  simp only [Candidate.heavier, Bool.or_eq_true, decide_eq_true_eq]
  exact Nat.le_total _ _

theorem ofMap_eq (fields : FieldMap) : FieldIndex.ofMap fields =
    (fields.entries.map Candidate.ofEntry).mergeSort Candidate.heavier := rfl

theorem pairwise_ofMap (fields : FieldMap) :
    (FieldIndex.ofMap fields).Pairwise fun a b => b.weight ≤ a.weight := by
  have h := List.pairwise_mergeSort heavier_trans heavier_total
    (fields.entries.map Candidate.ofEntry)
  rw [ofMap_eq]
  simpa only [Candidate.heavier, decide_eq_true_eq] using h

/-- Fields with one spelling stay in the order of the map, because they weigh the same. -/
theorem filter_ofMap (fields : FieldMap) (spelling : List Char) :
    (FieldIndex.ofMap fields).filter (·.spelling = spelling) =
      (fields.entries.map Candidate.ofEntry).filter (·.spelling = spelling) := by
  let candidates := fields.entries.map Candidate.ofEntry
  -- the sort is stable, so the fields with this spelling are a sublist of the index as they stand;
  -- as the index has no others, they are all that the filter leaves
  have hsame : (candidates.filter (·.spelling = spelling)).Pairwise
      fun a b => a.heavier b = true := by
    refine List.pairwise_of_forall_mem_list fun a ha b hb => ?_
    have hab : a.spelling = b.spelling := by
      simp only [List.mem_filter, decide_eq_true_eq] at ha hb
      rw [ha.2, hb.2]
    simp [Candidate.heavier, Candidate.weight, hab]
  have hsub := (List.sublist_mergeSort heavier_trans heavier_total hsame
    List.filter_sublist).filter (·.spelling = spelling)
  rw [List.filter_filter] at hsub
  simp only [Bool.and_self] at hsub
  have hperm := (List.mergeSort_perm candidates Candidate.heavier).filter (·.spelling = spelling)
  exact (hsub.eq_of_length hperm.length_eq.symm).symm

section Fields

variable {fields : FieldMap} {text after : List Char} {c : Candidate}

/-- No field that the text starts with has a longer spelling than the one that is taken. -/
theorem longest_of_match? (h : (FieldIndex.ofMap fields).match? text = some (c, after))
    {e : String × String} (he : e ∈ fields.entries) (hp : capitalizeChars e.1.toList <+: text) :
    (Candidate.ofEntry e).weight ≤ c.weight :=
  weight_le_of_match? (pairwise_ofMap fields) h (mem_ofMap.2 ⟨he, rfl⟩) hp

/-- The field that is taken is the first of the map with its spelling. -/
theorem first_of_match? (h : (FieldIndex.ofMap fields).match? text = some (c, after)) :
    fields.entries.find? (fun e => capitalizeChars e.1.toList = c.spelling) =
      some (c.field, c.column) := by
  have hfind := find?_spelling_of_match? h
  rw [← List.head?_filter, filter_ofMap, List.head?_filter, List.find?_map,
    Option.map_eq_some_iff] at hfind
  obtain ⟨e, he, rfl⟩ := hfind
  exact he

theorem weight_eq (c : Candidate) : c.weight = (c.spelling.map Char.utf8Size).sum := by
  rw [Candidate.weight, List.sum_eq_foldr, List.foldr_map]

theorem length_le_of_weight_le {d : Candidate} (hc : c.spelling <+: text) (hd : d.spelling <+: text)
    (hw : d.weight ≤ c.weight) : d.spelling.length ≤ c.spelling.length := by
  apply Nat.le_of_not_lt
  intro hlt
  -- both stand at the front of one text, so the longer one has all bytes of the other and more
  obtain ⟨more, hmore⟩ := List.prefix_of_prefix_length_le hc hd (Nat.le_of_lt hlt)
  rw [weight_eq, weight_eq, ← hmore, List.map_append, List.sum_append] at hw
  cases more with
  | nil =>
    rw [List.append_nil] at hmore
    rw [hmore] at hlt
    exact Nat.lt_irrefl _ hlt
  | cons ch more =>
    have hpos := ch.utf8Size_pos
    simp only [List.map_cons, List.sum_cons] at hw
    omega

/-- What a text is read as where a field belongs. The text starts with the field's spelling; no field
that it starts with is spelled with more characters, and none in front of it is spelled the same. -/
structure LongestMatch (fields : FieldMap) (text : List Char) (c : Candidate) (after : List Char) :
    Prop where
  spelled : text = c.spelling ++ after
  longest : ∀ f ∈ fields.keys, capitalizeChars f.toList <+: text →
    (capitalizeChars f.toList).length ≤ c.spelling.length
  first : fields.entries.find? (fun e => capitalizeChars e.1.toList = c.spelling) =
    some (c.field, c.column)

theorem LongestMatch.spelling_prefix (h : LongestMatch fields text c after) : c.spelling <+: text :=
  ⟨after, h.spelled.symm⟩

theorem LongestMatch.mem_keys (h : LongestMatch fields text c after) :
    c.field ∈ fields.keys ∧ capitalizeChars c.field.toList = c.spelling := by
  have hname := List.find?_some h.first
  exact ⟨List.mem_map_of_mem (List.mem_of_find?_eq_some h.first), by simpa using hname⟩

/-- A text is read as one field at most. -/
theorem LongestMatch.unique {d : Candidate} {rest : List Char} (h : LongestMatch fields text c after)
    (h' : LongestMatch fields text d rest) : c = d ∧ after = rest := by
  obtain ⟨hc, hcs⟩ := h.mem_keys
  obtain ⟨hd, hds⟩ := h'.mem_keys
  have hle : d.spelling.length ≤ c.spelling.length :=
    hds ▸ h.longest _ hd (hds ▸ h'.spelling_prefix)
  have hge : c.spelling.length ≤ d.spelling.length :=
    hcs ▸ h'.longest _ hc (hcs ▸ h.spelling_prefix)
  have hspelling : c.spelling = d.spelling :=
    (List.prefix_of_prefix_length_le h.spelling_prefix h'.spelling_prefix hge).eq_of_length_le hle
  have hfirst := h.first
  rw [hspelling, h'.first] at hfirst
  have hafter := h.spelled
  rw [h'.spelled, hspelling, List.append_cancel_left_eq] at hafter
  obtain ⟨spelling, field, column⟩ := c
  cases hfirst
  subst hspelling
  exact ⟨rfl, hafter.symm⟩

theorem longestMatch_of_match? (h : (FieldIndex.ofMap fields).match? text = some (c, after)) :
    LongestMatch fields text c after where
  spelled := (match?_sound h).2
  longest f hf hp := by
    obtain ⟨e, he, rfl⟩ := List.mem_map.1 hf
    exact length_le_of_weight_le (d := Candidate.ofEntry e) ⟨after, (match?_sound h).2.symm⟩ hp
      (longest_of_match? h he hp)
  first := first_of_match? h

/-- A field is taken exactly where it is the longest match. -/
theorem match?_eq_some_iff : (FieldIndex.ofMap fields).match? text = some (c, after) ↔
    LongestMatch fields text c after := by
  constructor
  · exact longestMatch_of_match?
  · intro h
    have hc : c ∈ FieldIndex.ofMap fields :=
      mem_ofMap.2 ⟨List.mem_of_find?_eq_some h.first, h.mem_keys.2.symm⟩
    obtain ⟨d, rest, hm⟩ := match?_isSome hc h.spelling_prefix
    obtain ⟨rfl, rfl⟩ := h.unique (longestMatch_of_match? hm)
    exact hm

/-- A text that is the spelling of a field is read to its end. -/
theorem match?_spelling {f column : String} (hf : (f, column) ∈ fields.entries) :
    ∃ c, (FieldIndex.ofMap fields).match? (capitalizeChars f.toList) = some (c, []) ∧
      c.spelling = capitalizeChars f.toList := by
  obtain ⟨c, after, hm⟩ :=
    match?_isSome (c := Candidate.ofEntry (f, column)) (mem_ofMap.2 ⟨hf, rfl⟩) List.prefix_rfl
  have hlongest := longestMatch_of_match? hm
  -- the field itself is a match, so the longest one leaves nothing of it
  have hlength := hlongest.longest f (List.mem_map_of_mem hf) List.prefix_rfl
  have htext : capitalizeChars f.toList = c.spelling ++ after := hlongest.spelled
  rw [htext, List.length_append] at hlength
  obtain rfl : after = [] := List.length_eq_zero_iff.1 (by omega)
  exact ⟨c, hm, by simpa using htext.symm⟩

/-- `findBy` and the spelling of a field ask for the first field with that spelling. -/
theorem parse_spelling {f g column : String} (hf : f ∈ fields.keys)
    (hne : capitalizeChars f.toList ≠ [])
    (hg : fields.entries.find? (fun e => capitalizeChars e.1.toList = capitalizeChars f.toList) =
      some (g, column)) {method : String}
    (hm : method.toList = findBy.toList ++ capitalizeChars f.toList) :
    parse fields method = .ok ⟨method, [⟨none, ⟨g, column, .isEqual, false⟩⟩]⟩ := by
  obtain ⟨⟨f, fcol⟩, he, rfl⟩ := List.mem_map.1 hf
  obtain ⟨c, hmatch, hc⟩ := match?_spelling he
  have hfirst := first_of_match? hmatch
  rw [hc, hg, Option.some.injEq, Prod.mk.injEq] at hfirst
  obtain ⟨rfl, rfl⟩ := hfirst
  have hstep : Scan.step (.ofMap fields) method { rest := capitalizeChars f.toList } =
      .ok { rest := [], expect := .condition
            current := some { field := c.field, column := c.column } } := by
    simp only [Scan.step, Scan.stepField, hmatch]
  rw [parse_of_toList hm hne, Scan.run_step hne hstep, Scan.run_nil rfl]
  rfl

end Fields

/-! ## Another order of declaration -/

section Congr

variable {index other : FieldIndex} {method : String}

/-- The reader sees of an index only what it matches. -/
theorem step_congr (h : ∀ text, index.match? text = other.match? text) (s : Scan) :
    s.step index method = s.step other method := by
  have hmisplaced : index.isMisplaced s.rest = other.isMisplaced s.rest := by
    simp only [FieldIndex.isMisplaced, h]
  cases he : s.expect with
  | field => simp only [Scan.step, he, Scan.stepField, h, hmisplaced]
  | condition | connective => simp only [Scan.step, he]

theorem run_congr (h : ∀ text, index.match? text = other.match? text) (s : Scan) :
    s.run index method = s.run other method := by
  fun_induction Scan.run index method s with
  | case1 s hr => rw [Scan.run_nil (by simpa using hr)]
  | case2 s hr e he =>
    rw [step_congr h] at he
    rw [Scan.run_stuck (by simpa using hr) he]
  | case3 s hr t ht ih =>
    rw [step_congr h] at ht
    rw [ih, Scan.run_step (by simpa using hr) ht]

theorem parseWith_congr (h : ∀ text, index.match? text = other.match? text) (method : String) :
    parseWith index method = parseWith other method := by
  unfold parseWith
  split
  · exact run_congr h _
  · rfl

end Congr

section Permuted

variable {fields others : FieldMap} {text after : List Char} {c : Candidate}

theorem LongestMatch.permuted (hperm : fields.entries.Perm others.entries)
    (hn : (fields.keys.map fun f => capitalizeChars f.toList).Nodup)
    (h : LongestMatch fields text c after) : LongestMatch others text c after where
  spelled := h.spelled
  longest f hf hp := h.longest f ((hperm.map Prod.fst).mem_iff.2 hf) hp
  first := by
    have hone : ∀ e ∈ fields.entries, ∀ e' ∈ fields.entries,
        capitalizeChars e.1.toList = capitalizeChars e'.1.toList → e = e' := by
      rw [OrderedMap.keys, List.map_map] at hn
      exact fun e he e' he' => List.inj_on_of_nodup_map hn he he'
    rw [← h.first]
    refine (find?_eq_of_perm hperm fun e he e' he' hs hs' => ?_).symm
    rw [decide_eq_true_eq] at hs hs'
    exact hone e he e' he' (hs.trans hs'.symm)

/-- Where no two fields have one spelling, what a text is read as does not depend on their order. -/
theorem match?_permuted (hperm : fields.entries.Perm others.entries)
    (hn : (fields.keys.map fun f => capitalizeChars f.toList).Nodup) (text : List Char) :
    (FieldIndex.ofMap fields).match? text = (FieldIndex.ofMap others).match? text := by
  have hn' : (others.keys.map fun f => capitalizeChars f.toList).Nodup :=
    ((hperm.map Prod.fst).map _).nodup_iff.1 hn
  refine Option.ext fun ⟨c, after⟩ => ?_
  rw [match?_eq_some_iff, match?_eq_some_iff]
  exact ⟨.permuted hperm hn, .permuted hperm.symm hn'⟩

end Permuted

/-- A field is read as the longest match, and one is read wherever there is one. So the order in
which fields are declared makes no difference to what a query name says, or to why and where it is
refused, as long as no two fields are spelled the same. -/
theorem longest_match_decides (fields : FieldMap) :
    (∀ text, ((FieldIndex.ofMap fields).match? text).isSome ↔
      ∃ f ∈ fields.keys, capitalizeChars f.toList <+: text) ∧
    (∀ text c after, (FieldIndex.ofMap fields).match? text = some (c, after) ↔
      LongestMatch fields text c after) ∧
    ∀ others : FieldMap, fields.entries.Perm others.entries →
      (fields.keys.map fun f => capitalizeChars f.toList).Nodup →
        ∀ method, parse fields method = parse others method := by
  refine ⟨fun text => match?_isSome_iff, fun text c after => match?_eq_some_iff, ?_⟩
  intro others hperm hn method
  exact parseWith_congr (match?_permuted hperm hn) method

/-- One field's name goes on where another one's ends, in letters of two bytes. -/
theorem longest_match_decides_accented :
    let fields : FieldMap := .ofList [("é", "E"), ("éà", "EA")]
    let others : FieldMap := .ofList [("éà", "EA"), ("é", "E")]
    fields.entries.Perm others.entries ∧
      (fields.keys.map fun f => capitalizeChars f.toList).Nodup ∧
      LongestMatch fields "ÉàAndÉ".toList ⟨"Éà".toList, "éà", "EA"⟩ "AndÉ".toList ∧
      (∀ method, parse fields method = parse others method) := by
  intro fields others
  obtain ⟨-, hmatch, horder⟩ := longest_match_decides fields
  have hindex : FieldIndex.ofMap fields =
      [⟨"Éà".toList, "éà", "EA"⟩, ⟨"É".toList, "é", "E"⟩] := by cbv
  have hread : (FieldIndex.ofMap fields).match? "ÉàAndÉ".toList =
      some (⟨"Éà".toList, "éà", "EA"⟩, "AndÉ".toList) := by
    rw [hindex]
    rfl
  have hperm : fields.entries.Perm others.entries := by decide
  have hspelled : (fields.keys.map fun f => capitalizeChars f.toList).Nodup := by decide
  exact ⟨hperm, hspelled, (hmatch _ _ _).1 hread, horder others hperm hspelled⟩

/-! ## Fields of an entity -/

/-- The first mapped field of an entity, in the order of declaration, that has a spelling. -/
def namedField? (d : Descriptor) (spelling : List Char) : Option String :=
  ((Metadata.mappedFields d.fields).map (·.1.name)).find? fun f =>
    capitalizeChars f.toList = spelling

/-- The first of the fields with a spelling is also the first that is declared with it. -/
theorem namedField?_eq_some_iff {d : Descriptor} {m : Metadata} (hm : m.Reads d)
    {spelling : List Char} {g : String} :
    namedField? d spelling = some g ↔ ∃ column, m.columnOfField.entries.find?
      (fun e => capitalizeChars e.1.toList = spelling) = some (g, column) := by
  have hkeys : m.columnOfField.keys.find? (fun f => capitalizeChars f.toList = spelling) =
      namedField? d spelling := by
    rw [hm.columnOfField, OrderedMap.find?_keys_ofList, List.map_map]
    rfl
  rw [← hkeys, OrderedMap.keys, List.find?_map, Option.map_eq_some_iff]
  constructor
  · rintro ⟨⟨g, column⟩, he, rfl⟩
    exact ⟨column, he⟩
  · rintro ⟨column, he⟩
    exact ⟨(g, column), he, rfl⟩

/-- A field of an entity is asked for by its own name exactly where this name has a spelling and no
field that is declared in front of it is spelled the same. -/
theorem resolve_field_by_own_name {d : Descriptor} {m : Metadata} (h : Metadata.resolve d = .ok m)
    {field column : String} (hf : m.column? field = some column) {method : String}
    (hm : method.toList = findBy.toList ++ capitalizeChars field.toList) :
    parse m.columnOfField method = .ok ⟨method, [⟨none, ⟨field, column, .isEqual, false⟩⟩]⟩ ↔
      capitalizeChars field.toList ≠ [] ∧
        namedField? d (capitalizeChars field.toList) = some field := by
  have hreads := Metadata.reads_of_resolve h
  have hentry : (field, column) ∈ m.columnOfField.entries :=
    (m.columnOfField.get?_eq_some_iff _ _).1 hf
  have hkey : field ∈ m.columnOfField.keys := List.mem_map_of_mem hentry
  rw [namedField?_eq_some_iff hreads]
  constructor
  · intro hparse
    have hne : capitalizeChars field.toList ≠ [] := by
      intro hnil
      rw [hnil, List.append_nil, String.toList_inj] at hm
      subst hm
      cases hparse
    refine ⟨hne, ?_⟩
    obtain ⟨c, hmatch, hc⟩ := match?_spelling hentry
    have hfirst := first_of_match? hmatch
    rw [hc] at hfirst
    rw [parse_spelling hkey hne hfirst hm] at hparse
    cases hparse
    exact ⟨c.column, hfirst⟩
  · rintro ⟨hne, gcol, hfirst⟩
    have hg : (field, gcol) ∈ m.columnOfField.entries := List.mem_of_find?_eq_some hfirst
    have hcolumn : m.column? field = some gcol := (m.columnOfField.get?_eq_some_iff _ _).2 hg
    rw [hf, Option.some.injEq] at hcolumn
    rw [parse_spelling hkey hne hfirst hm, hcolumn]

/-- A book whose fields share the start of a name, or all of it but for the spelling. -/
def bookDescriptor : Descriptor where
  type := { name := "library::Book", fullName := "library::Book" }
  kind := .concrete
  tags := [.table "books"]
  fields := [{ name := "id", tags := [.column "ID", .id] },
    { name := "line1", tags := [.column "FIRST"] }, { name := "line10", tags := [.column "LAST"] },
    { name := "author_name", tags := [.column "AUTHOR"] },
    { name := "authorName", tags := [.column "WRITER"] }]

def bookMetadata : Metadata where
  entity := bookDescriptor.type
  table := "books"
  idField := "id"
  columnOfField := .ofList [("id", "ID"), ("line1", "FIRST"), ("line10", "LAST"),
    ("author_name", "AUTHOR"), ("authorName", "WRITER")]
  fieldOfColumn := .ofList [("ID", "id"), ("FIRST", "line1"), ("LAST", "line10"),
    ("AUTHOR", "author_name"), ("WRITER", "authorName")]

/-- A field whose name goes on where another one ends. -/
theorem resolve_field_by_own_name_longer :
    Metadata.resolve bookDescriptor = .ok bookMetadata ∧
      bookMetadata.column? "line10" = some "LAST" ∧
      parse bookMetadata.columnOfField "findByLine10" =
        .ok ⟨"findByLine10", [⟨none, ⟨"line10", "LAST", .isEqual, false⟩⟩]⟩ := by
  have hresolve : Metadata.resolve bookDescriptor = .ok bookMetadata := by rfl
  have hcolumn : bookMetadata.column? "line10" = some "LAST" := by rfl
  have hname : "findByLine10".toList = findBy.toList ++ capitalizeChars "line10".toList := by decide
  exact ⟨hresolve, hcolumn,
    (resolve_field_by_own_name hresolve hcolumn hname).2 ⟨by decide, by decide⟩⟩

/-- A field that is spelled like an earlier one cannot be asked for. -/
theorem namesake_hides_field :
    Metadata.resolve bookDescriptor = .ok bookMetadata ∧
      bookMetadata.column? "authorName" = some "WRITER" ∧
      "findByAuthorName".toList = findBy.toList ++ capitalizeChars "authorName".toList ∧
      parse bookMetadata.columnOfField "findByAuthorName" =
        .ok ⟨"findByAuthorName", [⟨none, ⟨"author_name", "AUTHOR", .isEqual, false⟩⟩]⟩ ∧
      parse bookMetadata.columnOfField "findByAuthorName" ≠
        .ok ⟨"findByAuthorName", [⟨none, ⟨"authorName", "WRITER", .isEqual, false⟩⟩]⟩ := by
  have hname : "findByAuthorName".toList =
      findBy.toList ++ capitalizeChars "authorName".toList := by decide
  have hkey : "authorName" ∈ bookMetadata.columnOfField.keys := by decide
  have hparse : parse bookMetadata.columnOfField "findByAuthorName" =
      .ok ⟨"findByAuthorName", [⟨none, ⟨"author_name", "AUTHOR", .isEqual, false⟩⟩]⟩ :=
    parse_spelling hkey (by decide) (by decide) hname
  refine ⟨by rfl, by rfl, hname, hparse, ?_⟩
  rw [hparse]
  decide

end BeanKit.Query
