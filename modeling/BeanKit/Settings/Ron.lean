import BeanKit.Settings.Reading
/-!
# RON files

Reads a RON document: structures with named fields, tuples, lists, maps, options, texts, characters
and numbers. The names of structures say nothing, a name alone is a value without content, and an
option stands for what it holds. The root is a structure or a map; of two fields with one key the
later one counts.
-/

namespace BeanKit.Settings.Ron

open BeanKit.Text

/-! ## Blanks and comments -/

/-- Whether a character may stand between two tokens. -/
def isSpace (c : Char) : Bool := c = ' ' || c = '\t' || c = '\n' || c = '\r'

/-- What follows a comment of `level` open marks. -/
def afterBlockComment? : Nat → List Char → Option (List Char)
  | 0, cs => some cs
  | level + 1, '*' :: '/' :: rest => afterBlockComment? level rest
  | level + 1, '/' :: '*' :: rest => afterBlockComment? (level + 2) rest
  | level + 1, _ :: rest => afterBlockComment? (level + 1) rest
  | _ + 1, [] => none
termination_by _ cs => cs.length

/-- A text from its first token on. A slash that opens no comment stays. -/
def skipFrom : Nat → List Char → List Char
  | 0, cs => cs
  | fuel + 1, cs =>
    match cs.dropWhile isSpace with
    | '/' :: '/' :: rest => skipFrom fuel (rest.dropWhile (· ≠ '\n'))
    | '/' :: '*' :: rest =>
      match afterBlockComment? 1 rest with
      | some rest => skipFrom fuel rest
      | none => '/' :: '*' :: rest
    | cs => cs

/-- A text from its first token on. -/
def skipSpace (cs : List Char) : List Char := skipFrom cs.length cs

/-! ## Names -/

/-- Whether a character may start a name. -/
def startsName (c : Char) : Bool := 'a' ≤ c && c ≤ 'z' || 'A' ≤ c && c ≤ 'Z' || c = '_'

/-- Whether a character may stand in a name. -/
def isNameChar (c : Char) : Bool := startsName c || isDigit c

/-- Whether a character may stand in a raw name. -/
def isRawNameChar (c : Char) : Bool := isNameChar c || c = '.' || c = '+' || c = '-'

/-- A name. What opens a raw text is none. -/
def name (cs : List Char) : Taken (List Char) :=
  match cs with
  | 'r' :: '"' :: _ => none
  | 'r' :: '#' :: rest =>
    if rest.head?.any isRawNameChar then
      some (rest.takeWhile isRawNameChar, rest.dropWhile isRawNameChar)
    else none
  | c :: _ => if startsName c then some (cs.takeWhile isNameChar, cs.dropWhile isNameChar) else none
  | [] => none

/-- What follows a word that no further characters of a name stand behind. -/
def afterWord? (word : String) (cs : List Char) : Option (List Char) :=
  (after? word.toList cs).filter fun rest => !rest.head?.any isNameChar

/-! ## Texts and characters -/

/-- The character of an escape in braces: one to six hexadecimal digits. -/
def bracedEscape? : List Char → Taken Char
  | '{' :: rest =>
    let digits := rest.takeWhile fun c => (hexDigit? c).isSome
    match rest.drop digits.length with
    | '}' :: rest =>
      if 6 < digits.length then none
      else ((digits? 16 digits).bind codePoint?).map fun c => (c, rest)
    | _ => none
  | _ => none

/-- The character that an escape stands for, behind its backslash. -/
def escape? : List Char → Taken Char
  | '\'' :: rest => some ('\'', rest)
  | '"' :: rest => some ('"', rest)
  | '\\' :: rest => some ('\\', rest)
  | 'n' :: rest => some ('\n', rest)
  | 'r' :: rest => some ('\r', rest)
  | 't' :: rest => some ('\t', rest)
  | '0' :: rest => some ('\x00', rest)
  | 'x' :: rest => hexEscape? 2 rest
  | 'u' :: rest => bracedEscape? rest
  | _ => none

/-- The characters of a text up to the closing quote. -/
def textBody : Nat → List Char → Taken (List Char)
  | 0, _ => none
  | _, [] => none
  | _, '"' :: rest => some ([], rest)
  | fuel + 1, '\\' :: rest =>
    match escape? rest with
    | some (c, rest) => consTaken c (textBody fuel rest)
    | none => none
  | fuel + 1, c :: rest => consTaken c (textBody fuel rest)

/-- The characters up to a word, and what follows it. -/
def upToWord (word : List Char) : List Char → Taken (List Char)
  | [] => none
  | c :: rest =>
    match after? word (c :: rest) with
    | some rest => some ([], rest)
    | none => consTaken c (upToWord word rest)

/-- A raw text behind its letter: as many number signs stand behind its last quote as in front of
its first. -/
def rawText (cs : List Char) : Taken (List Char) :=
  let signs := cs.takeWhile (· = '#')
  match cs.drop signs.length with
  | '"' :: rest => upToWord ('"' :: signs) rest
  | _ => none

/-- A character behind its opening quote. -/
def character : List Char → Taken Char
  | '\\' :: rest => (escape? rest).bind closed
  | c :: rest => closed (c, rest)
  | [] => none
where
  /-- Takes the closing quote. -/
  closed : Char × List Char → Taken Char
    | (c, '\'' :: rest) => some (c, rest)
    | _ => none

/-! ## Numbers -/

/-- Whether a character may stand among the digits of an integer. -/
def isIntegerChar (c : Char) : Bool := (hexDigit? c).isSome || c = '_'

/-- Whether a character may stand in a floating-point number. -/
def isFloatChar (c : Char) : Bool :=
  isDigit c || c = 'e' || c = 'E' || c = '.' || c = '+' || c = '-' || c = '_'

/-- The digits of an integer with their base, and what follows them. -/
def integerDigits (cs : List Char) : (Nat × List Char) × List Char :=
  let (base, cs) := match cs with
    | '0' :: 'x' :: rest => (16, rest)
    | '0' :: 'b' :: rest => (2, rest)
    | '0' :: 'o' :: rest => (8, rest)
    | _ => (10, cs)
  ((base, cs.takeWhile isIntegerChar), cs.dropWhile isIntegerChar)

/-- An integer, where it fits sixty-four bits with its sign, or without one at least. -/
def integer? (signed negative : Bool) (cs : List Char) : Taken Tree :=
  let ((base, digits), rest) := integerDigits cs
  if digits.head? = some '_' then none
  else
    (digits? base (digits.filter (· ≠ '_'))).bind fun n =>
      if n < Nat.pow 2 63 ∨ (negative ∧ n = Nat.pow 2 63) then
        some (.int (if negative then -(n : Int) else n), rest)
      else if !signed ∧ n < Nat.pow 2 64 then some (.float (Double.ofDecimal false n 0), rest)
      else none

/-- A floating-point number; words for infinity and for no number can stand behind a sign. -/
def float? (cs : List Char) : Taken Tree :=
  let word := ["+inf", "-inf", "+NaN", "-NaN"].findSome? fun w =>
    (afterWord? w cs).map fun rest => (w, rest)
  match word with
  | some (w, rest) => (Number.double? w.toList).map fun x => (.float x, rest)
  | none =>
    let token := cs.takeWhile isFloatChar
    if token.contains '_' then none
    else (Number.double? token).map fun x => (.float x, cs.drop token.length)

/-- A number. What has more characters as a floating-point number than as an integer is one, and so
is what is no integer within range. -/
def number? (cs : List Char) : Taken Tree :=
  let (negative, rest) := Number.takeSign cs
  if (rest.takeWhile isIntegerChar).length < (rest.takeWhile isFloatChar).length then float? cs
  else (integer? (rest.length < cs.length) negative rest).orElse fun _ => float? cs

/-! ## Values -/

/-- Whether the first field behind an opening parenthesis has a name. -/
def hasNames (cs : List Char) : Bool :=
  match name cs with
  | some (_, rest) => (skipSpace rest).head? = some ':'
  | none => false

/-- How deep values may lie in one another. -/
def greatestDepth : Nat := 128

mutual

/-- A value, in which values lie at most `depth` deep. Every call takes at least one character, so
the length of the text is fuel enough. -/
def value : Nat → Nat → List Char → Taken Tree
  | 0, _, _ => none
  | fuel + 1, depth, cs =>
    match cs with
    | '(' :: ')' :: rest => some (.null, rest)
    | '(' :: rest => inParens fuel depth (skipSpace rest)
    | '[' :: rest => inside depth fun depth =>
      (items ']' fuel depth (skipSpace rest)).map fun (ts, rest) => (.list ts, rest)
    | '{' :: rest => inside depth fun depth =>
      (entries fuel depth (skipSpace rest)).map fun (fs, rest) => (table fs, rest)
    | '"' :: rest => (textBody (rest.length + 1) rest).map text
    | '\'' :: rest => (character rest).map fun (c, rest) => (.text c.toString, rest)
    | 'r' :: '"' :: _ => (rawText (cs.drop 1)).map text
    | 'r' :: '#' :: '"' :: _ => (rawText (cs.drop 1)).map text
    | 'r' :: '#' :: '#' :: _ => (rawText (cs.drop 1)).map text
    | _ =>
      match ["true", "false", "None", "inf", "NaN", "Some"].findSome? fun w =>
        (afterWord? w cs).map fun rest => (w, rest) with
      | some ("true", rest) => some (.bool true, rest)
      | some ("false", rest) => some (.bool false, rest)
      | some ("None", rest) => some (.null, rest)
      | some ("inf", rest) => some (.float (.infinity false), rest)
      | some ("NaN", rest) => some (.float .nan, rest)
      | some (_, rest) =>
        match skipSpace rest with
        | '(' :: rest => inside depth fun depth =>
          (value fuel depth (skipSpace rest)).bind fun (t, rest) =>
            match skipSpace rest with
            | ',' :: rest => closing t (skipSpace rest)
            | rest => closing t rest
        | _ => none
      | none =>
        match name cs with
        | none => number? cs
        | some (_, rest) =>
          match skipSpace rest with
          | '(' :: rest => inParens fuel depth (skipSpace rest)
          | _ => some (.null, skipSpace rest)
where
  /-- One level further in. -/
  inside (depth : Nat) (read : Nat → Taken Tree) : Taken Tree :=
    match depth with
    | 0 => none
    | depth + 1 => read depth
  /-- Fields as a tree. -/
  table (fields : List (String × Tree)) : Tree := .table (OrderedMap.ofList fields).entries
  /-- A text as a tree. -/
  text (taken : List Char × List Char) : Tree × List Char :=
    (.text (String.ofList taken.1), taken.2)
  /-- Takes the closing parenthesis of an option. -/
  closing (t : Tree) : List Char → Taken Tree
    | ')' :: rest => some (t, rest)
    | _ => none

/-- What stands in parentheses: the fields of a structure or the items of a tuple. -/
def inParens : Nat → Nat → List Char → Taken Tree
  | 0, _, _ => none
  | _, 0, _ => none
  | fuel + 1, depth + 1, cs =>
    if hasNames cs then
      (fields fuel depth cs).map fun (fs, rest) => (.table (OrderedMap.ofList fs).entries, rest)
    else (items ')' fuel depth cs).map fun (ts, rest) => (.list ts, rest)

/-- The fields of a structure up to the closing parenthesis. A comma stands between two of them and
may stand behind the last. -/
def fields : Nat → Nat → List Char → Taken (List (String × Tree))
  | 0, _, _ => none
  | fuel + 1, depth, cs =>
    match cs with
    | ')' :: rest => some ([], rest)
    | cs =>
      match name cs with
      | none => none
      | some (key, rest) =>
        match skipSpace rest with
        | ':' :: rest =>
          match value fuel depth (skipSpace rest) with
          | none => none
          | some (t, rest) =>
            match skipSpace rest with
            | ',' :: rest => (fields fuel depth (skipSpace rest)).map fun (fs, rest) =>
              ((String.ofList key, t) :: fs, rest)
            | ')' :: rest => some ([(String.ofList key, t)], rest)
            | _ => none
        | _ => none

/-- The entries of a map up to the closing brace. Their keys are texts, and no options of texts. -/
def entries : Nat → Nat → List Char → Taken (List (String × Tree))
  | 0, _, _ => none
  | fuel + 1, depth, cs =>
    match cs with
    | '}' :: rest => some ([], rest)
    | cs =>
      match if (afterWord? "Some" cs).isSome then none else value fuel depth cs with
      | some (.text key, rest) =>
        match skipSpace rest with
        | ':' :: rest =>
          match value fuel depth (skipSpace rest) with
          | none => none
          | some (t, rest) =>
            match skipSpace rest with
            | ',' :: rest => (entries fuel depth (skipSpace rest)).map fun (fs, rest) =>
              ((key, t) :: fs, rest)
            | '}' :: rest => some ([(key, t)], rest)
            | _ => none
        | _ => none
      | _ => none

/-- The items of a list or tuple up to the closing bracket. A comma stands between two of them and
may stand behind the last. -/
def items (close : Char) : Nat → Nat → List Char → Taken (List Tree)
  | 0, _, _ => none
  | fuel + 1, depth, cs =>
    if cs.head? = some close then some ([], cs.drop 1)
    else
      match value fuel depth cs with
      | none => none
      | some (t, rest) =>
        match skipSpace rest with
        | ',' :: rest => (items close fuel depth (skipSpace rest)).map fun (ts, rest) =>
          (t :: ts, rest)
        | rest => if rest.head? = some close then some ([t], rest.drop 1) else none

end

/-! ## Documents -/

/-- The names of the extensions that a document can ask for. None of them changes what is read
here. -/
def extensions : List String :=
  ["unwrap_newtypes", "implicit_some", "unwrap_variant_newtypes", "explicit_struct_names"]

/-- What follows the names of extensions and the marks that close their list. -/
def afterExtensions? : Nat → List Char → Option (List Char)
  | 0, _ => none
  | fuel + 1, cs =>
    match name cs with
    | none => none
    | some (extension, rest) =>
      if extensions.contains (String.ofList extension) then
        match skipSpace rest with
        | ',' :: rest =>
          match closed (skipSpace rest) with
          | some rest => some rest
          | none => afterExtensions? fuel (skipSpace rest)
        | rest => closed rest
      else none
where
  /-- Takes the marks that close the list. -/
  closed : List Char → Option (List Char)
    | ')' :: rest =>
      match skipSpace rest with
      | ']' :: rest => some (skipSpace rest)
      | _ => none
    | _ => none

/-- A text without the lists of extensions at its front, of which there are at most `fuel`. -/
def skipExtensions : Nat → List Char → Option (List Char)
  | 0, cs => some cs
  | fuel + 1, cs =>
    match cs with
    | '#' :: rest =>
      match skipSpace rest with
      | '!' :: rest =>
        match skipSpace rest with
        | '[' :: rest =>
          match afterWord? "enable" (skipSpace rest) with
          | some rest =>
            match skipSpace rest with
            | '(' :: rest =>
              (afterExtensions? rest.length (skipSpace rest)).bind (skipExtensions fuel)
            | _ => none
          | none => none
        | _ => none
      | _ => none
    | cs => some cs

/-- The fields of the structure or map that a document is. -/
def read (cs : List Char) : Option (List (String × Tree)) :=
  (skipExtensions cs.length (skipSpace cs)).bind fun cs =>
    match value (cs.length + 1) greatestDepth cs with
    | some (.table fields, rest) => if (skipSpace rest).isEmpty then some fields else none
    | _ => none

end BeanKit.Settings.Ron
