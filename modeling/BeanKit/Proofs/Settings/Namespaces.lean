import BeanKit.Settings.Basic
import BeanKit.Proofs.Container.Inventory
import BeanKit.Proofs.Text.Paths
import Mathlib
/-! # Namespaces

A namespace is written as a path of identifiers, with any number of further separators behind it. Settings
accept these texts and no others. A type lies in such a namespace if the pieces of its name start with
the identifiers, whatever the name looks like from there on. -/

namespace BeanKit

open BeanKit.Text

namespace Settings

/-! ## What settings accept -/

/-- An identifier: a letter or an underscore, and then letters, numbers and underscores. -/
def Identifier (id : List Char) : Prop :=
  ∃ first more, id = first :: more ∧ (isAlphabetic first ∨ first = '_') ∧
    ∀ ch ∈ more, isAlphanumeric ch ∨ ch = '_'

/-- A text spells identifiers: they stand in it with separators between them, and nothing but further
separators follows. -/
structure Spells (space : List Char) (ids : List (List Char)) : Prop where
  identifiers : ∀ id ∈ ids, Identifier id
  text : ∃ k, space = [':', ':'].intercalate ids ++ (List.replicate k [':', ':']).flatten

/-- A run of colons in a text that no colon stands in front of or behind. -/
structure ColonRun (text before : List Char) (n : Nat) (after : List Char) : Prop where
  text_eq : text = before ++ (List.replicate n ':' ++ after)
  opens : before.getLast? ≠ some ':'
  closes : after.head? ≠ some ':'

/-! ### Identifiers -/

theorem isIdentifier_iff {id : List Char} : isIdentifier id ↔ Identifier id := by
  cases id with
  | nil => simp [isIdentifier, Identifier]
  | cons first more => simp [isIdentifier, Identifier]

theorem Identifier.ne_nil {id : List Char} (h : Identifier id) : id ≠ [] := by
  obtain ⟨first, more, rfl, -, -⟩ := h
  exact List.cons_ne_nil _ _

theorem Identifier.isAlphanumeric {id : List Char} (h : Identifier id) :
    ∀ ch ∈ id, isAlphanumeric ch ∨ ch = '_' := by
  obtain ⟨first, more, rfl, hfirst, hmore⟩ := h
  refine List.forall_mem_cons.2 ⟨hfirst.imp_left fun halpha => ?_, hmore⟩
  rw [Text.isAlphanumeric, halpha, Bool.true_or]

theorem Identifier.colon_not_mem {id : List Char} (h : Identifier id) : ':' ∉ id := by
  intro hmem
  rcases h.isAlphanumeric _ hmem with hcolon | hcolon
  · exact absurd hcolon (by decide)
  · exact absurd hcolon (by decide)

/-! ### Paths of identifiers -/

section Path

variable {space : List Char} {ids : List (List Char)}

theorem intercalate_ne_nil (hne : ids ≠ []) (h : ∀ id ∈ ids, Identifier id) :
    [':', ':'].intercalate ids ≠ [] := by
  obtain ⟨id, more, rfl⟩ := List.exists_cons_of_ne_nil hne
  have hid := (h id List.mem_cons_self).ne_nil
  cases more with
  | nil => rwa [List.intercalate_singleton]
  | cons next more =>
    rw [List.intercalate_cons_cons, List.append_assoc]
    exact List.append_ne_nil_of_left_ne_nil hid _

/-- A path of identifiers does not start with a colon. -/
theorem head?_intercalate_ne (h : ∀ id ∈ ids, Identifier id) :
    ([':', ':'].intercalate ids).head? ≠ some ':' := by
  cases ids with
  | nil => simp
  | cons id more =>
    have hid := h id List.mem_cons_self
    have hhead : id.head? ≠ some ':' := fun hcolon => hid.colon_not_mem (List.mem_of_head? hcolon)
    cases more with
    | nil => rwa [List.intercalate_singleton]
    | cons next more =>
      rwa [List.intercalate_cons_cons, List.append_assoc, List.head?_append_of_ne_nil _ hid.ne_nil]

/-- A path of identifiers does not end in a colon. -/
theorem getLast?_intercalate_ne (h : ∀ id ∈ ids, Identifier id) :
    ([':', ':'].intercalate ids).getLast? ≠ some ':' := by
  induction ids with
  | nil => simp
  | cons id more ih =>
    obtain ⟨hid, hmore⟩ := List.forall_mem_cons.1 h
    cases more with
    | nil =>
      rw [List.intercalate_singleton]
      exact fun hcolon => hid.colon_not_mem (List.mem_of_getLast? hcolon)
    | cons next more =>
      rw [List.intercalate_cons_cons,
        List.getLast?_append_of_ne_nil _ (intercalate_ne_nil (List.cons_ne_nil _ _) hmore)]
      exact ih hmore

theorem spells_of_all (hids : ids.all isIdentifier) (k : Nat)
    (htext : space = [':', ':'].intercalate ids ++ (List.replicate k [':', ':']).flatten) :
    Spells space ids :=
  ⟨fun id hid => isIdentifier_iff.1 (List.all_eq_true.1 hids id hid), k, htext⟩

theorem Spells.dropTails_eq (h : Spells space ids) :
    dropTails [':', ':'] space = [':', ':'].intercalate ids := by
  obtain ⟨k, rfl⟩ := h.text
  refine dropTails_append (List.cons_ne_nil _ _) ?_ k
  rintro ⟨front, hfront⟩
  refine getLast?_intercalate_ne h.identifiers ?_
  rw [← hfront, List.getLast?_append_of_ne_nil _ (List.cons_ne_nil _ _)]
  rfl

theorem Spells.colon_not_mem (h : Spells space ids) : ∀ id ∈ ids, ':' ∉ id :=
  fun id hid => (h.identifiers id hid).colon_not_mem

theorem Spells.splitOnPair_eq (h : Spells space ids) (hne : ids ≠ []) :
    splitOnPair ':' ':' ([':', ':'].intercalate ids) = ids :=
  splitOnPair_intercalate hne h.colon_not_mem

/-- A text spells one list of identifiers at most. -/
theorem Spells.unique {ids' : List (List Char)} (h : Spells space ids) (h' : Spells space ids') :
    ids = ids' := by
  have hpath : [':', ':'].intercalate ids = [':', ':'].intercalate ids' :=
    h.dropTails_eq.symm.trans h'.dropTails_eq
  by_cases hne : ids = []
  · by_contra hdiffers
    rw [hne] at hpath hdiffers
    exact intercalate_ne_nil (Ne.symm hdiffers) h'.identifiers hpath.symm
  · by_cases hne' : ids' = []
    · rw [hne'] at hpath
      exact absurd hpath (intercalate_ne_nil hne h.identifiers)
    · rw [← h.splitOnPair_eq hne, ← h'.splitOnPair_eq hne', hpath]

theorem isNamespace_iff : isNamespace space ↔ ∃ ids, Spells space ids := by
  constructor
  · intro h
    obtain ⟨k, hspace⟩ := exists_eq_dropTails_append (List.cons_ne_nil ':' [':']) space
    rw [isNamespace, Bool.or_eq_true, List.isEmpty_iff] at h
    rcases h with hempty | hall
    · rw [hempty] at hspace
      exact ⟨[], spells_of_all rfl k hspace⟩
    · refine ⟨_, spells_of_all hall k ?_⟩
      rwa [intercalate_splitOnPair]
  · rintro ⟨ids, h⟩
    rw [isNamespace, Bool.or_eq_true, List.isEmpty_iff, List.all_eq_true, h.dropTails_eq]
    by_cases hne : ids = []
    · exact .inl (by rw [hne, List.intercalate_nil])
    · rw [h.splitOnPair_eq hne]
      exact .inr fun id hid => isIdentifier_iff.2 (h.identifiers id hid)

end Path

/-! ### Blanks -/

/-- A code point that spans hold lies in one of them. -/
theorem exists_span_of_holds {spans : List Span} {n : Nat} (h : Span.holds spans n) :
    ∃ span ∈ spans, n ∈ List.range' span.first (span.last + 1 - span.first) := by
  induction spans with
  | nil => exact absurd h Bool.false_ne_true
  | cons span more ih =>
    rw [Span.holds] at h
    split at h
    · exact absurd h Bool.false_ne_true
    · rename_i hfirst
      rcases Bool.or_eq_true _ _ ▸ h with hlast | hmore
      · refine ⟨span, List.mem_cons_self, List.mem_range'_1.2 ?_⟩
        have := of_decide_eq_true hlast
        omega
      · obtain ⟨other, hother, hn⟩ := ih hmore
        exact ⟨other, List.mem_cons_of_mem _ hother, hn⟩

theorem isAlphanumeric_of_isBlank {ch : Char} (h : isBlank ch) : isAlphanumeric ch = false := by
  obtain ⟨span, hspan, hn⟩ := exists_span_of_holds h
  -- Few code points are blank, so the tables of letters and numbers are asked about each of them.
  have hblank : ∀ span ∈ blankSpans, ∀ n ∈ List.range' span.first (span.last + 1 - span.first),
      (Span.holds alphabeticSpans n || Span.holds numericSpans n) = false := by decide +kernel
  exact hblank span hspan _ hn

/-- Every character of a path is a colon, an underscore, a letter or a number. -/
theorem Spells.characters {space : List Char} {ids : List (List Char)} (h : Spells space ids) :
    ∀ ch ∈ space, isAlphanumeric ch ∨ ch = '_' ∨ ch = ':' := by
  obtain ⟨k, rfl⟩ := h.text
  intro ch hch
  rcases List.mem_append.1 hch with hpath | hend
  · rcases mem_of_mem_intercalate hpath with ⟨id, hid, hch⟩ | hsep
    · exact ((h.identifiers id hid).isAlphanumeric ch hch).imp_right .inl
    · exact .inr (.inr (by simpa using hsep))
  · obtain ⟨piece, hpiece, hch⟩ := List.mem_flatten.1 hend
    rw [List.eq_of_mem_replicate hpiece] at hch
    exact .inr (.inr (by simpa using hch))

theorem Spells.isBlank_eq_false {space : List Char} {ids : List (List Char)} (h : Spells space ids) :
    ∀ ch ∈ space, isBlank ch = false := by
  intro ch hch
  by_contra hblank
  rw [Bool.not_eq_false] at hblank
  rcases h.characters ch hch with halpha | rfl | rfl
  · rw [isAlphanumeric_of_isBlank hblank] at halpha
    exact Bool.false_ne_true halpha
  · exact absurd hblank (by decide)
  · exact absurd hblank (by decide)

/-! ### Runs of colons -/

section Runs

variable {before after rest : List Char} {n m : Nat} {ids : List (List Char)}

theorem takeWhile_run (h : after.head? ≠ some ':') :
    (List.replicate n ':' ++ after).takeWhile (· == ':') = List.replicate n ':' := by
  rw [List.takeWhile_append_of_pos fun ch hch => by simp [List.eq_of_mem_replicate hch]]
  cases after with
  | nil => simp
  | cons ch after =>
    have hch : ¬ ch = ':' := by simpa using h
    simp [hch]

/-- Where a run of colons ends shows in the text. -/
theorem run_inj (hafter : after.head? ≠ some ':') (hrest : rest.head? ≠ some ':')
    (h : List.replicate n ':' ++ after = List.replicate m ':' ++ rest) : n = m ∧ after = rest := by
  have hcolons : List.replicate n ':' = List.replicate m ':' := by
    rw [← takeWhile_run hafter, h, takeWhile_run hrest]
  obtain rfl : n = m := by simpa using congrArg List.length hcolons
  exact ⟨rfl, List.append_cancel_left h⟩

theorem eq_nil_of_colons {text : List Char} (h : ∀ ch ∈ text, ch = ':')
    (hlast : text.getLast? ≠ some ':') : text = [] := by
  by_contra hne
  rw [List.getLast?_eq_some_getLast hne] at hlast
  exact hlast (congrArg some (h _ (List.getLast_mem hne)))

/-- A run of colons does not start inside an identifier. -/
theorem cut_identifier {id tail : List Char} (hid : Identifier id) (hn : n ≠ 0)
    (h : id ++ tail = before ++ (List.replicate n ':' ++ after)) :
    ∃ front, before = id ++ front ∧ tail = front ++ (List.replicate n ':' ++ after) := by
  rcases List.append_eq_append_iff.1 h with hcut | ⟨part, rfl, hpart⟩
  · exact hcut
  · cases part with
    | nil => exact ⟨[], by simp, by simpa using hpart.symm⟩
    | cons ch part =>
      obtain ⟨n, rfl⟩ := Nat.exists_eq_add_one_of_ne_zero hn
      obtain rfl : ':' = ch := (List.cons.inj hpart).1
      exact absurd (List.mem_append_right before List.mem_cons_self) hid.colon_not_mem

theorem getLast?_ne_of_append {front back : List Char} (h : (front ++ back).getLast? ≠ some ':') :
    back.getLast? ≠ some ':' := by
  intro hlast
  rw [List.getLast?_append, hlast, Option.some_or] at h
  exact h rfl

/-- In a path of identifiers with colons behind it, a run of colons is the one at the end, or one of two
colons behind an identifier. The induction is on the identifiers: a run does not start inside the
first, and what stands behind the first is a shorter path. -/
theorem run_of_path (hids : ∀ id ∈ ids, Identifier id) (hn : n ≠ 0)
    (hopens : before.getLast? ≠ some ':') (hcloses : after.head? ≠ some ':')
    (h : [':', ':'].intercalate ids ++ List.replicate m ':' =
      before ++ (List.replicate n ':' ++ after)) :
    (after = [] ∧ n = m) ∨ (before ≠ [] ∧ n = 2) := by
  induction ids generalizing before with
  | nil =>
    have hall : ∀ ch ∈ before ++ (List.replicate n ':' ++ after), ch = ':' := by
      rw [← h]
      exact fun ch hch => List.eq_of_mem_replicate hch
    obtain rfl : before = [] :=
      eq_nil_of_colons (fun ch hch => hall ch (List.mem_append_left _ hch)) hopens
    have hcolons : List.replicate n ':' ++ after = List.replicate m ':' ++ [] := by
      simpa using h.symm
    obtain ⟨hnm, hafter⟩ := run_inj hcloses (by simp) hcolons
    exact .inl ⟨hafter, hnm⟩
  | cons id more ih =>
    obtain ⟨hid, hmore⟩ := List.forall_mem_cons.1 hids
    cases more with
    | nil =>
      rw [List.intercalate_singleton] at h
      obtain ⟨front, rfl, htail⟩ := cut_identifier hid hn h
      refine (ih hmore (getLast?_ne_of_append hopens) htail).imp_right fun hrun => ?_
      exact ⟨List.append_ne_nil_of_left_ne_nil hid.ne_nil _, hrun.2⟩
    | cons next more =>
      rw [List.intercalate_cons_cons, List.append_assoc, List.append_assoc] at h
      obtain ⟨front, rfl, htail⟩ := cut_identifier hid hn h
      have hbefore : id ++ front ≠ [] := List.append_ne_nil_of_left_ne_nil hid.ne_nil _
      match front with
      | [] =>
        -- The run is the separator itself: what stands behind it starts with an identifier.
        have hhead : ([':', ':'].intercalate (next :: more) ++ List.replicate m ':').head? ≠ some ':' := by
          rw [List.head?_append_of_ne_nil _ (intercalate_ne_nil (List.cons_ne_nil _ _) hmore)]
          exact head?_intercalate_ne hmore
        exact .inr ⟨hbefore, (run_inj (m := 2) hcloses hhead htail.symm).1⟩
      | [ch] =>
        -- The run would have the separator's first colon in front of it.
        obtain rfl : ':' = ch := (List.cons.inj htail).1
        exact absurd List.getLast?_concat hopens
      | ch :: ch' :: front =>
        have hback : ([ch, ch'] ++ front).getLast? ≠ some ':' := getLast?_ne_of_append hopens
        have hfront : front.getLast? ≠ some ':' := getLast?_ne_of_append hback
        have hrest := (List.cons.inj (List.cons.inj htail).2).2
        exact (ih hmore hfront hrest).imp_right fun hrun => ⟨hbefore, hrun.2⟩

theorem Spells.run {space : List Char} (h : Spells space ids) (hrun : ColonRun space before n after)
    (hn : n ≠ 0) : (after = [] ∧ Even n) ∨ (before ≠ [] ∧ n = 2) := by
  obtain ⟨k, hspace⟩ := h.text
  rw [hrun.text_eq, show [':', ':'] = List.replicate 2 ':' from rfl,
    List.flatten_replicate_replicate] at hspace
  refine (run_of_path h.identifiers hn hrun.opens hrun.closes hspace.symm).imp_left ?_
  rintro ⟨hafter, rfl⟩
  exact ⟨hafter, even_two.mul_left k⟩

end Runs
end Settings

open Settings

namespace ScanSettings

variable {s : ScanSettings}

theorem validate_eq_ok_iff : s.validate = .ok () ↔ ∃ ids, Spells s.space.toList ids := by
  rw [validate, ← isNamespace_iff]
  by_cases h : isNamespace s.space.toList
  · simp [h]
  · simp [h]

theorem validate_eq_error_iff :
    s.validate = .error (.invalidNamespace s.space) ↔ ∀ ids, ¬ Spells s.space.toList ids := by
  rw [← not_exists, ← isNamespace_iff, validate]
  by_cases h : isNamespace s.space.toList
  · simp [h]
  · simp [h]

/-- Settings accept a namespace if it spells identifiers, and refuse any other one with its text. So they
refuse blanks, an odd number of colons in a row, and, where more text follows, colons at the front and
more than two colons in a row. -/
theorem validate_accepts_spellings (s : ScanSettings) :
    (s.validate = .ok () ↔ ∃ ids, Spells s.space.toList ids) ∧
    (s.validate = .error (.invalidNamespace s.space) ↔ ∀ ids, ¬ Spells s.space.toList ids) ∧
    (∀ ch ∈ s.space.toList, isBlank ch → s.validate = .error (.invalidNamespace s.space)) ∧
    ∀ before n after, ColonRun s.space.toList before n after → n ≠ 0 →
      Odd n ∨ (after ≠ [] ∧ (before = [] ∨ 2 < n)) →
      s.validate = .error (.invalidNamespace s.space) := by
  refine ⟨validate_eq_ok_iff, validate_eq_error_iff, ?_, ?_⟩
  · intro ch hch hblank
    refine validate_eq_error_iff.2 fun ids hspells => ?_
    rw [hspells.isBlank_eq_false ch hch] at hblank
    exact Bool.false_ne_true hblank
  · intro before n after hrun hn hbad
    refine validate_eq_error_iff.2 fun ids hspells => ?_
    rcases hspells.run hrun hn with ⟨hend, heven⟩ | ⟨hfront, htwo⟩
    · rcases hbad with hodd | ⟨hmore, -⟩
      · exact Nat.not_odd_iff_even.2 heven hodd
      · exact hmore hend
    · rcases hbad with hodd | ⟨-, hempty | hlong⟩
      · rw [htwo] at hodd
        exact absurd hodd (by decide)
      · exact hfront hempty
      · omega

/-- Identifiers behind one another, with two separators at the end, are accepted. Two separators between
them are not. -/
theorem validate_accepts_spellings_doubled :
    Spells "demo::sample::::".toList ["demo".toList, "sample".toList] ∧
    ({ space := "demo::sample::::" } : ScanSettings).validate = .ok () ∧
    ColonRun "demo::::sample".toList "demo".toList 4 "sample".toList ∧
    ({ space := "demo::::sample" } : ScanSettings).validate =
      .error (.invalidNamespace "demo::::sample") := by
  have hspells : Spells "demo::sample::::".toList ["demo".toList, "sample".toList] :=
    spells_of_all (by decide +kernel) 2 (by decide)
  have hrun : ColonRun "demo::::sample".toList "demo".toList 4 "sample".toList :=
    ⟨by decide, by decide, by decide⟩
  obtain ⟨haccepts, -, -, -⟩ := validate_accepts_spellings { space := "demo::sample::::" }
  obtain ⟨-, -, -, hrefuses⟩ := validate_accepts_spellings { space := "demo::::sample" }
  exact ⟨hspells, haccepts.2 ⟨_, hspells⟩, hrun,
    hrefuses _ _ _ hrun (by decide) (.inr ⟨by decide, .inr (by decide)⟩)⟩

end ScanSettings

/-! ## What lies in a namespace -/

namespace TypeRef

variable {space : String} {ids : List (List Char)}

/-- The pieces of a type's name, as separators cut it. -/
def segments (t : TypeRef) : List (List Char) := splitOnPair ':' ':' t.name.toList

theorem separator_eq : separator = [':', ':'] := by decide

theorem append_prefix_iff {word mark text : List Char} :
    word ++ mark <+: text ↔ ∃ rest, after? word text = some rest ∧ startsWith mark rest := by
  simp only [after?_eq_some_iff, startsWith_iff_prefix]
  constructor
  · rintro ⟨rest, rfl⟩
    exact ⟨mark ++ rest, List.append_assoc .., List.prefix_append ..⟩
  · rintro ⟨rest, rfl, hmark⟩
    exact (List.prefix_append_right_inj word).2 hmark

/-- A type lies in a namespace if the pieces of its name start with the identifiers. -/
theorem inNamespace_iff (h : Spells space.toList ids) (t : TypeRef) :
    t.inNamespace space ↔ ids <+: t.segments := by
  unfold inNamespace segments
  rw [separator_eq, h.dropTails_eq]
  by_cases hne : ids = []
  · simp [hne]
  · have hpath : ([':', ':'].intercalate ids).isEmpty = false :=
      List.isEmpty_eq_false_iff.2 (intercalate_ne_nil hne h.identifiers)
    dsimp only
    rw [prefix_splitOnPair_iff hne h.colon_not_mem, hpath, Bool.false_or, Bool.or_eq_true,
      decide_eq_true_iff, append_prefix_iff]
    refine or_congr_right ?_
    cases after? ([':', ':'].intercalate ids) t.name.toList with
    | none => simp
    | some rest => simp

/-- Where the last identifier goes on in a name, the type does not lie in the namespace. -/
theorem inNamespace_eq_false (h : Spells space.toList ids) (hne : ids ≠ []) {t : TypeRef} {ch : Char}
    {rest : List Char} (hname : t.name.toList = [':', ':'].intercalate ids ++ ch :: rest)
    (hch : ch ≠ ':') : t.inNamespace space = false := by
  rw [← Bool.not_eq_true, inNamespace_iff h, segments,
    prefix_splitOnPair_iff hne h.colon_not_mem, hname]
  rintro (hwhole | hcut)
  · exact List.cons_ne_nil _ _ (List.append_right_eq_self.1 hwhole)
  · rw [List.prefix_append_right_inj, List.cons_prefix_cons] at hcut
    exact hch hcut.1.symm

/-- A namespace that settings accept stands for the one list of identifiers that it spells. A type lies in
it if the pieces of its name start with these; so no type does in whose name the last identifier goes
on, and every type does if there are none. A namespace that has more identifiers behind these has
some of the types and no other ones, and a scan for it finds them only. -/
theorem inNamespace_by_segments (s : ScanSettings) (h : s.validate = .ok ()) :
    ∃ ids, (∀ ids', Spells s.space.toList ids' ↔ ids' = ids) ∧
      (∀ t : TypeRef, t.inNamespace s.space ↔ ids <+: t.segments) ∧
      (ids = [] → ∀ t : TypeRef, t.inNamespace s.space) ∧
      (ids ≠ [] → ∀ (t : TypeRef) ch rest,
        t.name.toList = [':', ':'].intercalate ids ++ ch :: rest → ch ≠ ':' →
          t.inNamespace s.space = false) ∧
      ∀ (s' : ScanSettings) ids', Spells s'.space.toList ids' → ids <+: ids' →
        (∀ t : TypeRef, t.inNamespace s'.space → t.inNamespace s.space) ∧
        (∀ ds, ((Scanner.fixed ds).scan s'.space).Sublist ((Scanner.fixed ds).scan s.space)) ∧
        ∀ types, (Scanner.inventory types).scan s'.space ⊆ (Scanner.inventory types).scan s.space := by
  obtain ⟨ids, hids⟩ := ScanSettings.validate_eq_ok_iff.1 h
  refine ⟨ids, ?_, inNamespace_iff hids, ?_, ?_, ?_⟩
  · intro ids'
    constructor
    · exact fun hids' => hids'.unique hids
    · rintro rfl
      exact hids
  · rintro rfl t
    exact (inNamespace_iff hids t).2 List.nil_prefix
  · intro hne t ch rest hname hch
    exact inNamespace_eq_false hids hne hname hch
  · intro s' ids' hids' hextends
    have hlies : ∀ t : TypeRef, t.inNamespace s'.space → t.inNamespace s.space := fun t ht =>
      (inNamespace_iff hids t).2 (hextends.trans ((inNamespace_iff hids' t).1 ht))
    refine ⟨hlies, fun ds => ?_, fun types d hd => ?_⟩
    · exact List.monotone_filter_right ds fun d hd => hlies _ hd
    · have hscan := (Inventory.scan_perm types s'.space).mem_iff.1 hd
      refine (Inventory.scan_perm types s.space).mem_iff.2 ?_
      rw [List.mem_filter] at hscan ⊢
      exact hscan.imp_right (hlies _)

theorem inNamespace_by_segments_demo :
    ({ space := "demo::" } : ScanSettings).validate = .ok () ∧
    Spells "demo::".toList ["demo".toList] ∧
    (named "demo::Page<other::Item>").inNamespace "demo::" ∧
    (named "demos::Item").inNamespace "demo::" = false ∧
    Spells "demo::sample".toList ["demo".toList, "sample".toList] ∧
    ∀ t : TypeRef, t.inNamespace "demo::sample" → t.inNamespace "demo::" := by
  have hdemo : Spells "demo::".toList ["demo".toList] :=
    spells_of_all (by decide +kernel) 1 (by decide)
  have hsample : Spells "demo::sample".toList ["demo".toList, "sample".toList] :=
    spells_of_all (by decide +kernel) 0 (by decide)
  have hvalid : ({ space := "demo::" } : ScanSettings).validate = .ok () :=
    ScanSettings.validate_eq_ok_iff.2 ⟨_, hdemo⟩
  obtain ⟨ids, hspells, hlies, -, hlonger, hextends⟩ := inNamespace_by_segments _ hvalid
  obtain rfl : ["demo".toList] = ids := (hspells _).1 hdemo
  refine ⟨hvalid, hdemo, (hlies _).2 (by decide), ?_, hsample, ?_⟩
  · exact hlonger (by decide) _ 's' "::Item".toList (by decide) (by decide)
  · exact (hextends { space := "demo::sample" } _ hsample (by decide)).1

end TypeRef
end BeanKit
