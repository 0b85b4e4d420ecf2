/-!
# Pieces of a text

Cutting lists of characters at given words. All of it is structural recursion on the list, so a
proof about a cut is an induction on the text that is cut.
-/

namespace BeanKit.Text

/-- What follows a word at the front of a text, where the text starts with the word. -/
def after? : List Char → List Char → Option (List Char)
  | [], text => some text
  | _ :: _, [] => none
  | w :: word, c :: text => if w = c then after? word text else none

/-- Whether a text starts with a word. -/
def startsWith (word text : List Char) : Bool := (after? word text).isSome

theorem length_of_after? {word text rest : List Char} (h : after? word text = some rest) :
    word.length + rest.length = text.length := by
  induction word generalizing text with
  | nil => simp_all [after?]
  | cons w word ih =>
    cases text with
    | nil => simp [after?] at h
    | cons c text =>
      by_cases hc : w = c
      · have := ih (by simpa [after?, hc] using h)
        simp only [List.length_cons]
        omega
      · simp [after?, hc] at h

/-- A text starts with a word exactly where it is the word and what follows it. -/
theorem after?_eq_some_iff {word text rest : List Char} :
    after? word text = some rest ↔ text = word ++ rest := by
  induction word generalizing text with
  | nil => simp [after?, eq_comm]
  | cons w word ih =>
    cases text with
    | nil => simp [after?]
    | cons c text =>
      by_cases hc : w = c
      · simp [after?, hc, ih]
      · simp [after?, hc, Ne.symm hc]

theorem after?_append (word rest : List Char) : after? word (word ++ rest) = some rest :=
  after?_eq_some_iff.2 rfl

theorem startsWith_iff_prefix {word text : List Char} : startsWith word text ↔ word <+: text := by
  simp only [startsWith, Option.isSome_iff_exists, after?_eq_some_iff]
  exact ⟨fun ⟨rest, h⟩ => ⟨rest, h.symm⟩, fun ⟨rest, h⟩ => ⟨rest, h.symm⟩⟩

theorem after?_eq_none_iff {word text : List Char} :
    after? word text = none ↔ ¬ word <+: text := by
  rw [← startsWith_iff_prefix, startsWith, Option.not_isSome_iff_eq_none]

/-- A text without the characters of `tail` that it ends in, as often as they stand there. Without
characters to take away, the text stays as it is. -/
def dropTails (tail text : List Char) : List Char :=
  (go text.length tail.reverse text.reverse).reverse
where
  /-- Takes the reversed tail from the front of the reversed text at most `fuel` times. -/
  go : Nat → List Char → List Char → List Char
    | 0, _, text => text
    | fuel + 1, tail, text =>
      match tail, after? tail text with
      | _ :: _, some rest => go fuel tail rest
      | _, _ => text

/-- Adds a character in front of the first piece. -/
def consFirst (c : Char) : List (List Char) → List (List Char)
  | [] => [[c]]
  | p :: rest => (c :: p) :: rest

/-- The pieces between the places where a two-character separator `a`, `b` stands, from the left. -/
def splitOnPair (a b : Char) : List Char → List (List Char)
  | [] => [[]]
  | [c] => [[c]]
  | c :: d :: rest =>
    if c = a ∧ d = b then [] :: splitOnPair a b rest
    else consFirst c (splitOnPair a b (d :: rest))

/-- The pieces between the places where one character stands. -/
def splitOn (sep : Char) : List Char → List (List Char)
  | [] => [[]]
  | c :: rest => if c = sep then [] :: splitOn sep rest else consFirst c (splitOn sep rest)

/-- What follows the last place where the two-character separator stands; the whole text where it
stands nowhere. The places are looked for from the right. -/
def afterLastPair (a b : Char) (text : List Char) : List Char :=
  go text.reverse []
where
  /-- Walks the reversed text and collects what lies to the right of the place reached. -/
  go : List Char → List Char → List Char
    | [], found => found
    | [c], found => c :: found
    | c :: d :: rest, found => if c = b ∧ d = a then found else go (d :: rest) (c :: found)

/-- An ASCII capital letter as a small one; every other character as it is. -/
def lowerAscii (c : Char) : Char :=
  if 'A' ≤ c ∧ c ≤ 'Z' then Char.ofNat (c.toNat + 32) else c

/-- A text with its ASCII capital letters made small. -/
def lowerAsciiText (s : String) : String := String.ofList (s.toList.map lowerAscii)

/-- Whether a character is an ASCII digit. -/
def isDigit (c : Char) : Bool := '0' ≤ c && c ≤ '9'

/-- The number that decimal digits write. -/
def digitsValue (cs : List Char) : Nat :=
  cs.foldl (fun n c => n * 10 + (c.toNat - 48)) 0

/-- The number that a text of decimal digits writes; a text that has none, or anything else, is no
number. -/
def nat? (cs : List Char) : Option Nat :=
  if cs ≠ [] ∧ cs.all isDigit then some (digitsValue cs) else none

/-- Digits, padded with zeros on the left to a width. -/
def padded (width n : Nat) : String :=
  let digits := toString n
  String.ofList (List.replicate (width - digits.length) '0') ++ digits

end BeanKit.Text
