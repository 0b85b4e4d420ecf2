import BeanKit.Proofs.Text.Trimming
import BeanKit.TypeRef
/-!
# The identity of a type

The container keeps what it knows of a type under the type's identity. For a trait object that is the
path of its trait, whatever is written behind the path, and for any other type it is the name without
the blanks around it. `TypeRef.named_stable`: an identity is a name that stands for itself.
-/

namespace BeanKit.TypeRef

open BeanKit.Text

/-! ## Names of trait objects -/

/-- A character that may stand in the path of a trait. -/
def InPath (ch : Char) : Prop := ch ≠ '<' ∧ ¬ isBlank ch

instance : DecidablePred InPath := fun ch =>
  inferInstanceAs (Decidable (ch ≠ '<' ∧ ¬ isBlank ch))

/-- A name is the mark of a trait object, the path of the trait and a tail, with blanks around them.
The tail starts with the first character that no path has. -/
structure WritesObject (path tail : List Char) (name : String) : Prop where
  trimmed : trim name.toList = objectMark ++ (path ++ tail)
  path : ∀ ch ∈ path, InPath ch
  tail : ∀ ch ∈ tail.head?, ¬ InPath ch

variable {name : String} {path tail cs : List Char}

theorem not_endsPath_iff {ch : Char} : (!endsPath ch) = true ↔ InPath ch := by
  rw [endsPath, Bool.not_eq_true', Bool.or_eq_false_iff, decide_eq_false_iff_not, InPath,
    Bool.not_eq_true]

theorem exists_writesObject (h : objectMark <+: trim name.toList) :
    ∃ path tail, WritesObject path tail name := by
  obtain ⟨rest, hrest⟩ := h
  refine ⟨rest.takeWhile (!endsPath ·), rest.dropWhile (!endsPath ·), ?_, ?_, ?_⟩
  · rw [List.takeWhile_append_dropWhile, hrest]
  · intro ch hch
    have hends := List.mem_takeWhile_imp hch
    exact not_endsPath_iff.1 hends
  · intro ch hch hpath
    have hends := List.head?_dropWhile_not (!endsPath ·) rest
    rw [Option.mem_def.1 hch] at hends
    exact Bool.eq_false_iff.1 hends (not_endsPath_iff.2 hpath)

/-- The path is cut off in front of the tail. -/
theorem WritesObject.erase_eq (h : WritesObject path tail name) : erase name.toList = path := by
  have hpath : ∀ ch ∈ path, !endsPath ch := fun ch hch => not_endsPath_iff.2 (h.path ch hch)
  have htail : tail.takeWhile (!endsPath ·) = [] := by
    cases tail with
    | nil => rfl
    | cons ch more => exact List.takeWhile_cons_of_neg (mt not_endsPath_iff.1 (h.tail ch rfl))
  rw [erase, h.trimmed, after?_append]
  dsimp only
  rw [List.takeWhile_append_of_pos hpath, htail, List.append_nil]

theorem erase_of_not_object (h : ¬ objectMark <+: trim cs) : erase cs = trim cs := by
  rw [erase, after?_eq_none_iff.2 h]

/-! ## Names that stand for themselves -/

/-- A path has no blank, which the mark of a trait object ends in. -/
theorem erase_of_inPath (h : ∀ ch ∈ path, InPath ch) : erase path = path := by
  have htrim : trim path = path :=
    trim_eq_self (fun ch hch => (h ch (List.mem_of_mem_head? hch)).2) fun ch hch =>
      (h ch (List.mem_of_mem_getLast? hch)).2
  have hobject : ¬ objectMark <+: trim path := by
    intro hmark
    rw [htrim] at hmark
    exact (h ' ' (hmark.subset (by decide))).2 (by decide)
  rw [erase_of_not_object hobject, htrim]

theorem erase_erase (name : String) : erase (erase name.toList) = erase name.toList := by
  by_cases h : objectMark <+: trim name.toList
  · obtain ⟨path, tail, hwrites⟩ := exists_writesObject h
    rw [hwrites.erase_eq, erase_of_inPath hwrites.path]
  · rw [erase_of_not_object h, erase_of_not_object (by rwa [trim_trim]), trim_trim]

/-- A trait object with nothing behind its path. Without a path the mark itself would be trimmed. -/
theorem writesObject_bare (h : ∀ ch ∈ path, InPath ch) (hne : path ≠ []) :
    WritesObject path [] (String.ofList (objectMark ++ path)) where
  trimmed := by
    rw [String.toList_ofList, List.append_nil]
    refine trim_eq_self ?_ fun ch hch => ?_
    · rintro ch ⟨⟩
      decide
    · rw [List.getLast?_append_of_ne_nil _ hne] at hch
      exact (h ch (List.mem_of_mem_getLast? hch)).2
  path := h
  tail := by simp

/-! ## Identities -/

theorem name_named (name : String) : (named name).name = String.ofList (erase name.toList) := rfl

theorem WritesObject.name_named (h : WritesObject path tail name) :
    (named name).name = String.ofList path := by
  rw [TypeRef.name_named, h.erase_eq]

/-- An identity stands for itself. That of a trait object is the path of its trait, in which there is
neither a blank nor a `<`: names of trait objects have one identity exactly where they have one path,
and the path alone has it too, with and without the mark. Any other type's is what trimming leaves of
its name: two such names have one identity exactly where they are one but for the blanks around
them. -/
theorem named_stable (name : String) :
    (named (named name).name).name = (named name).name ∧
    (objectMark <+: trim name.toList → ∃ path tail, WritesObject path tail name ∧
      (named name).name = String.ofList path ∧
      (named (String.ofList path)).name = (named name).name ∧
      (path ≠ [] → (named (String.ofList (objectMark ++ path))).name = (named name).name) ∧
      ∀ other path' tail', WritesObject path' tail' other →
        ((named other).name = (named name).name ↔ path' = path)) ∧
    (¬ objectMark <+: trim name.toList →
      (named name).name = String.ofList (trim name.toList) ∧
      ∀ other : String, ¬ objectMark <+: trim other.toList →
        ((named other).name = (named name).name ↔
          ∃ core, Pads core other.toList ∧ Pads core name.toList)) := by
  refine ⟨?_, fun hobject => ?_, fun hobject => ⟨?_, fun other hother => ?_⟩⟩
  · rw [name_named, name_named, String.toList_ofList, erase_erase]
  · obtain ⟨path, tail, hname⟩ := exists_writesObject hobject
    refine ⟨path, tail, hname, hname.name_named, ?_, fun hne => ?_, fun other path' tail' hother => ?_⟩
    · rw [hname.name_named, name_named, String.toList_ofList, erase_of_inPath hname.path]
    · rw [hname.name_named, (writesObject_bare hname.path hne).name_named]
    · rw [hname.name_named, hother.name_named, String.ofList_inj]
  · rw [name_named, erase_of_not_object hobject]
  · rw [name_named, name_named, erase_of_not_object hobject, erase_of_not_object hother,
      String.ofList_inj, trim_eq_trim_iff]

/-- Generic arguments and bounds do not tell trait objects apart, and blanks no other types. -/
theorem named_stable_repo :
    let name := " dyn demo::Repo<i32, demo::Product>"
    let bounded := "dyn demo::Repo + core::marker::Send"
    objectMark <+: trim name.toList ∧
      WritesObject "demo::Repo".toList " + core::marker::Send".toList bounded ∧
      (named bounded).name = (named name).name ∧
      (named "demo::Repo").name = (named name).name ∧
      (named "dyn demo::Repo").name = (named name).name ∧
      ¬ objectMark <+: trim "demo::Holder<u8>\n".toList ∧
      (named " demo::Holder<u8>").name = (named "demo::Holder<u8>\n").name := by
  intro name bounded
  have hobject : objectMark <+: trim name.toList := by decide
  have hrepo : "demo::Repo".toList.all (!endsPath ·) := by decide
  have hinPath : ∀ ch ∈ "demo::Repo".toList, InPath ch := fun ch hch =>
    not_endsPath_iff.1 (List.all_eq_true.1 hrepo ch hch)
  have hname : WritesObject "demo::Repo".toList "<i32, demo::Product>".toList name :=
    ⟨by decide, hinPath, by rintro ch ⟨⟩; decide⟩
  have hbounded : WritesObject "demo::Repo".toList " + core::marker::Send".toList bounded :=
    ⟨by decide, hinPath, by rintro ch ⟨⟩; decide⟩
  obtain ⟨path, tail, -, -, hpath, hbare, hothers⟩ := (named_stable name).2.1 hobject
  obtain rfl : "demo::Repo".toList = path := (hothers name _ _ hname).1 rfl
  have hconcrete : ¬ objectMark <+: trim "demo::Holder<u8>\n".toList := by decide
  refine ⟨hobject, hbounded, (hothers bounded _ _ hbounded).2 rfl, hpath, hbare (by decide),
    hconcrete, ?_⟩
  obtain ⟨-, hblanks⟩ := (named_stable "demo::Holder<u8>\n").2.2 hconcrete
  exact (hblanks " demo::Holder<u8>" (by decide)).2
    ⟨"demo::Holder<u8>".toList,
      ⟨[' '], [], List.forall_mem_singleton.2 (by decide), List.forall_mem_nil _, by decide⟩,
      ⟨[], ['\n'], List.forall_mem_nil _, List.forall_mem_singleton.2 (by decide), by decide⟩⟩

end BeanKit.TypeRef
