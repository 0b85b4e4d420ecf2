import BeanKit.Settings.Yaml.Scalar
/-!
# Tokens of YAML

The tokens of a text, with marks where tables and lists open and close by indentation. A table opens
in front of its first key, which is known to be one only when its colon comes: until then the key is
a candidate, and its place among the tokens is kept. A candidate outside of brackets has its colon
on its own line.
-/

namespace BeanKit.Settings.Yaml

open BeanKit.Text

/-- A token. Tags have a handle and a suffix, and a plain scalar stands without quotes. -/
inductive Token where
  | version
  | tagRule (handle start : String)
  | documentStart
  | documentEnd
  | blockList
  | blockTable
  | blockEnd
  | flowList
  | flowListEnd
  | flowTable
  | flowTableEnd
  | blockEntry
  | flowEntry
  | key
  | value
  | alias (name : String)
  | anchor (name : String)
  | tag (handle suffix : String)
  | scalar ( isPlain : Bool) (text : String)
  deriving Repr, DecidableEq

/-! ## Directives, tags and anchors -/

/-- The character that a percent sign and hexadecimal digits write by their bytes. -/
def uriEscape? (cs : List Char) : Taken Char :=
  let byte? (cs : List Char) : Option Nat :=
    match cs with
    | '%' :: a :: b :: _ => digits? 16 [a, b]
    | _ => none
  match byte? cs with
  | none => none
  | some first =>
    let more := if first < 0x80 then some 0
      else if 0xC0 ≤ first ∧ first < 0xE0 then some 1
      else if 0xE0 ≤ first ∧ first < 0xF0 then some 2
      else if 0xF0 ≤ first ∧ first < 0xF8 then some 3
      else none
    more.bind fun more =>
      let high := if more = 0 then first else first % Nat.pow 2 (6 - more)
      let bytes := (List.range more).map fun k => byte? (cs.drop (3 * (k + 1)))
      let joined := bytes.foldlM (fun n byte => byte.bind fun b =>
        if 0x80 ≤ b ∧ b < 0xC0 then some (n * 64 + (b - 0x80)) else none) high
      (joined.bind codePoint?).map fun c => (c, cs.drop (3 * (more + 1)))

/-- The characters of a resource name, with escapes. -/
def uriText (allowed : Char → Bool) : Nat → List Char → Taken (List Char)
  | 0, cs => some ([], cs)
  | fuel + 1, cs =>
    match cs with
    | '%' :: _ =>
      match uriEscape? cs with
      | some (c, rest) => consTaken c (uriText allowed fuel rest)
      | none => none
    | c :: rest => if allowed c then consTaken c (uriText allowed fuel rest) else some ([], cs)
    | [] => some ([], [])

/-- A resource name at a cursor. -/
def Cursor.uri? (c : Cursor) (allowed : Char → Bool) : Option (List Char × Cursor) :=
  (uriText allowed c.rest.length c.rest).map fun (text, rest) =>
    (text, c.pass (c.rest.length - rest.length))

/-- The handle of a tag: an exclamation mark, and a word with another one behind it where they
follow. -/
def Cursor.handle? (c : Cursor) : Option (List Char × Cursor) :=
  if c.next ≠ '!' then none
  else
    let word := (c.pass 1).run isWord
    let c := c.pass (1 + word.length)
    if c.next = '!' then some ('!' :: word ++ ['!'], c.pass 1) else some ('!' :: word, c)

/-- Whether a handle has exclamation marks at both ends. -/
def isNamedHandle (handle : List Char) : Bool := 2 ≤ handle.length && handle.getLast? = some '!'

/-- A tag. -/
def Cursor.tag? (c : Cursor) (inFlow : Bool) : Option (Token × Cursor) := do
  let (handle, suffix, c) ←
    if c.peek 1 = '<' then do
      let (suffix, c) ← (c.pass 2).uri? isUriChar
      if c.next = '>' then some ([], suffix, c.pass 1) else none
    else do
      let (handle, c) ← c.handle?
      let (suffix, c) ← c.uri? isTagChar
      if isNamedHandle handle then some (handle, suffix, c)
      else if handle.length = 1 ∧ suffix.isEmpty then some ([], ['!'], c)
      else some (['!'], handle.drop 1 ++ suffix, c)
  if isGap c.next || (inFlow && isFlow c.next) then
    return (.tag (String.ofList handle) (String.ofList suffix), c)
  else none

/-- The name of an anchor or an alias behind its mark. -/
def Cursor.anchorName? (c : Cursor) : Option (String × Cursor) :=
  let name := c.run isAnchorChar
  if name.isEmpty then none else some (String.ofList name, c.pass name.length)

/-- The value of a directive that states a version: two numbers with a point between them. -/
def Cursor.version? (c : Cursor) : Option (Token × Cursor) :=
  let c := c.passBlanks (c.run isSpace).length
  let number? (c : Cursor) : Option Cursor :=
    let digits := c.run isDigit
    if digits.isEmpty || 9 < digits.length then none else some (c.pass digits.length)
  (number? c).bind fun c =>
    if c.next = '.' then (number? (c.pass 1)).map fun c => (.version, c) else none

/-- The value of a directive that gives a handle its meaning. -/
def Cursor.tagRule? (c : Cursor) : Option (Token × Cursor) := do
  let (handle, c) ← (c.passBlanks (c.run isSpace).length).handle?
  if !(isNamedHandle handle || handle = ['!']) then none
  else
    let c := c.passBlanks (c.run isSpace).length
    if !(c.next = '!' || isTagChar c.next) then none
    else
      let (start, c) ← c.uri? isUriChar
      if isGap c.next then return (.tagRule (String.ofList handle) (String.ofList start), c)
      else none

/-- A directive behind its percent sign, with its line. Unknown ones say nothing. -/
def Cursor.directive? (c : Cursor) : Option (Token × Cursor) := do
  let name := c.run isWord
  let c := c.pass name.length
  if name.isEmpty || !isGap c.next then none
  else
    let (token, c) ←
      if name = "YAML".toList then c.version?
      else if name = "TAG".toList then c.tagRule?
      else some (.tagRule "" "", c.passWhile (!endsLine ·))
    let c ← c.passGap? isSpace
    if endsLine c.next then return (token, c.passBreak) else none

/-! ## Scanners -/

/-- The start of a token that is a key if a colon follows. A key in the column of its table is the
only thing that can stand there, so its colon is `required`. -/
structure KeyCandidate where
  possible : Bool := false
  required : Bool := false
  place : Nat := 0
  index : Nat := 0
  line : Nat := 0
  column : Nat := 0

/-- A column to come back to when a level of indentation ends, and whether the level is that of a
list or table of its own. -/
structure Level where
  outer : Int
  isBlock : Bool

/-- A text as far as its tokens are known. `candidates` has one entry for the text outside of
brackets and one for each open bracket, the innermost first. -/
structure Scanner where
  cursor : Cursor
  tokens : List Token := []
  candidates : List KeyCandidate := [{}]
  indent : Int := -1
  levels : List Level := []
  flow : Nat := 0
  allowsKey : Bool := true
  adjacentAt : Nat := 0
  seenTable : Bool := false
  inPair : Bool := false
  afterMarginProperty : Bool := false

namespace Scanner

/-- Whether the scanner is inside of brackets. -/
def inFlow (s : Scanner) : Bool := 0 < s.flow

/-- Adds a token. -/
def push (s : Scanner) (t : Token) : Scanner :=
  { s with tokens := s.tokens ++ [t], afterMarginProperty := false }

/-- Adds a token at a place among the others. -/
def insert (s : Scanner) (place : Nat) (t : Token) : Scanner :=
  { s with tokens := s.tokens.take place ++ t :: s.tokens.drop place }

/-- Goes back to a column: every level that is further in ends. -/
def unroll (s : Scanner) (column : Int) : Scanner :=
  if s.inFlow then s else go s.levels s
where
  /-- Ends the levels, the innermost first. -/
  go : List Level → Scanner → Scanner
    | [], s => { s with levels := [] }
    | l :: rest, s =>
      if column < s.indent then
        let s := { s with indent := l.outer }
        go rest (if l.isBlock then s.push .blockEnd else s)
      else { s with levels := l :: rest }

/-- Opens a list or table in a column that is further in; the mark goes to a place among the tokens,
or to their end. -/
def roll (s : Scanner) (column : Nat) (place : Option Nat) (t : Token) : Scanner :=
  if s.inFlow then s
  else
    let s := match s.levels with
      | l :: rest =>
        if s.indent ≤ (column : Int) ∧ !l.isBlock then { s with indent := l.outer, levels := rest }
        else s
      | [] => s
    if s.indent < (column : Int) then
      let s := { s with levels := ⟨s.indent, true⟩ :: s.levels, indent := column }
      match place with
      | some place => s.insert place t
      | none => s.push t
    else s

/-- Opens a level one column further in that is no list or table. -/
def rollOne (s : Scanner) : Scanner :=
  match s.levels with
  | l :: _ =>
    if !s.inFlow ∧ l.isBlock then
      { s with levels := ⟨s.indent, false⟩ :: s.levels, indent := s.indent + 1 }
    else s
  | [] => s

/-- Ends the levels that are no lists or tables. -/
def unrollOnes (s : Scanner) : Scanner :=
  match s.levels.dropWhile (!·.isBlock), (s.levels.takeWhile (!·.isBlock)).getLast? with
  | levels, some l => { s with levels, indent := l.outer }
  | _, none => s

/-- Gives up the candidates whose line is over. -/
def stale (s : Scanner) : Option Scanner :=
  let isStale (k : KeyCandidate) : Bool :=
    k.possible && !s.inFlow && (k.line < s.cursor.line || k.index + 1024 < s.cursor.index)
  let given (k : KeyCandidate) : KeyCandidate :=
    if isStale k then { k with possible := false } else k
  if s.candidates.any (fun k => isStale k && k.required) then none
  else some { s with candidates := s.candidates.map given }

/-- Makes the next token a candidate, where a key may stand. -/
def saveKey (s : Scanner) : Scanner :=
  if s.allowsKey then
    let candidate : KeyCandidate := {
      possible := true
      required := !s.inFlow && s.indent = s.cursor.column && s.levels.head?.any (·.isBlock)
      place := s.tokens.length
      index := s.cursor.index
      line := s.cursor.line
      column := s.cursor.column }
    { s with candidates := candidate :: s.candidates.drop 1 }
  else s

/-- Gives up the innermost candidate. -/
def dropKey (s : Scanner) : Option Scanner :=
  match s.candidates with
  | k :: rest =>
    if k.possible ∧ k.required then none
    else some { s with candidates := { k with possible := false } :: rest }
  | [] => some s

/-- Ends a pair that stands without braces in a list. -/
def endPair (s : Scanner) : Scanner :=
  if s.inPair then { s with inPair := false, seenTable := false }.push .flowTableEnd else s

/-- Passes over the gap behind a mark on its line. -/
def passGap (s : Scanner) : Option Scanner :=
  (s.cursor.passGap? isSpace).map fun cursor => { s with cursor }

/-- Goes to the next token. A key may start on a new line. -/
def toToken : Nat → Scanner → Option Scanner
  | 0, s => some s
  | fuel + 1, s =>
    let c := s.cursor
    if c.next = '\t' ∧ !s.levels.isEmpty ∧ c.inMargin ∧ (c.column : Int) < s.indent then
      match c.passGap? isSpace with
      | some cursor => if endsLine cursor.next then toToken fuel { s with cursor } else none
      | none => none
    else if isSpace c.next then toToken fuel { s with cursor := c.passBlanks 1 }
    else if isBreak c.next then
      toToken fuel { s with cursor := c.passBreak, allowsKey := s.allowsKey || !s.inFlow }
    else if c.next = '#' then toToken fuel { s with cursor := c.passComment }
    else some s

/-- Goes to the next token from wherever the scanner is. -/
def skipToToken (s : Scanner) : Option Scanner := toToken (s.cursor.rest.length + 1) s

/-! ## One token -/

/-- Takes a bracket that opens a list or a table. -/
def openFlow (s : Scanner) (t : Token) : Option Scanner :=
  let s := s.saveKey.rollOne
  if s.flow = 255 then none
  else
    let s := { s with
      candidates := {} :: s.candidates
      flow := s.flow + 1
      allowsKey := true
      seenTable := s.seenTable || t = Token.flowTable
      cursor := s.cursor.pass 1 }
    s.passGap.map (·.push t)

/-- Takes a bracket that closes a list or a table. -/
def closeFlow (s : Scanner) (t : Token) : Option Scanner := do
  let s ← s.dropKey
  let s := if s.inFlow then { s with flow := s.flow - 1, candidates := s.candidates.drop 1 } else s
  let s := { s with allowsKey := false }.endPair
  let s ← { s with cursor := s.cursor.pass 1 }.passGap
  let s := if s.inFlow then { s with adjacentAt := s.cursor.index } else s
  return s.push t

/-- Takes a comma between the items of a list or the fields of a table. -/
def flowEntry (s : Scanner) : Option Scanner := do
  let s ← s.dropKey
  let s := { s with allowsKey := true }.endPair
  let s ← { s with cursor := s.cursor.pass 1 }.passGap
  return s.push .flowEntry

/-- Takes the dash of a list item. -/
def blockEntry (s : Scanner) : Option Scanner := do
  if s.inFlow || !s.allowsKey then none
  else if s.afterMarginProperty && s.cursor.column = 0 && 0 ≤ s.indent then none
  else
    let column := s.cursor.column
    let s := { s with cursor := s.cursor.pass 1 }.roll column none .blockList
    let hadTab := (s.cursor.run isSpace).contains '\t'
    let s ← s.passGap
    if hadTab && s.cursor.next = '-' && isGap (s.cursor.peek 1) then none
    else
      let s := if isBreak s.cursor.next || isFlow s.cursor.next then s.rollOne else s
      let s ← s.dropKey
      return { s with allowsKey := true }.push .blockEntry

/-- Passes over the spaces, line breaks and comments behind the mark of a long key; the second part
of the answer says whether there were any. -/
def passKeyGap : Nat → Scanner → Bool → Scanner × Bool
  | 0, s, found => (s, found)
  | fuel + 1, s, found =>
    let c := s.cursor
    if c.next = ' ' then passKeyGap fuel { s with cursor := c.passBlanks 1 } true
    else if isBreak c.next then
      passKeyGap fuel { s with cursor := c.passBreak, allowsKey := s.allowsKey || !s.inFlow } true
    else if c.next = '#' then passKeyGap fuel { s with cursor := c.passComment } found
    else (s, found)

/-- Takes the question mark in front of a long key. -/
def longKey (s : Scanner) : Option Scanner := do
  if !s.inFlow && !s.allowsKey then none
  else
    let s := if s.inFlow then { s with seenTable := true }
      else s.roll s.cursor.column none .blockTable
    let s ← s.dropKey
    let s := { s with allowsKey := !s.inFlow, cursor := s.cursor.pass 1 }
    let (s, found) := passKeyGap (s.cursor.rest.length + 1) s false
    if !found || s.cursor.next = '\t' then none else return s.push .key

/-- Takes the colon behind a key, and makes the candidate a key where there is one. -/
def keyValue (s : Scanner) : Option Scanner := do
  let column := s.cursor.column
  let line := s.cursor.line
  let s := { s with inPair := s.inFlow && !s.seenTable, cursor := s.cursor.pass 1 }
  let s ←
    if s.cursor.next = '\t' then do
      let hadSpace := (s.cursor.run isSpace).contains ' '
      let s ← s.passGap
      if !hadSpace && isWord s.cursor.next then none else some s
    else some s
  let candidate := s.candidates.headD {}
  if candidate.possible then
    let s := s.insert candidate.place .key
    if s.inPair && candidate.line < line then none
    else
      let s := if s.inPair then s.insert candidate.place .flowTable else s
      let s := (s.roll candidate.column (some candidate.place) .blockTable).rollOne
      return { s with
          candidates := { candidate with possible := false } :: s.candidates.drop 1
          allowsKey := false }.push .value
  else
    let s := if s.inPair then s.push .flowTable else s
    if s.inFlow then return { s.rollOne with allowsKey := false }.push .value
    else if !s.allowsKey then none
    else return { (s.roll column none .blockTable).rollOne with allowsKey := true }.push .value

/-- Takes an anchor, an alias or a tag. -/
def property (s : Scanner) (read : Cursor → Option (Token × Cursor)) : Option Scanner :=
  let s := { s.saveKey with allowsKey := false }
  let atMargin := s.cursor.column = 0
  (read s.cursor).map fun (t, cursor) =>
    let isAlias := match t with
      | .alias _ => true
      | _ => false
    { { s with cursor }.push t with afterMarginProperty := atMargin && !isAlias }

/-- Takes a text without quotes. -/
def plain (s : Scanner) : Option Scanner :=
  let s := { s.saveKey with allowsKey := false }.unrollOnes
  let least := s.indent + 1
  if s.inFlow && (s.cursor.column : Int) < least then none
  else
    (plainText s.inFlow least s.cursor).map fun (text, cursor) =>
      { s with cursor, allowsKey := s.allowsKey || cursor.inMargin }.push
        (.scalar true (String.ofList text))

/-- Whether a character may follow a text in quotes that starts on a given line. -/
def mayFollowQuoted (s : Scanner) (line : Nat) : Bool :=
  let c := s.cursor.next
  endsLine c ||
    (if s.inFlow then c = ',' || c = '}' || c = ']' || c = ':' else c = ':' && s.cursor.line = line)

/-- Takes a text in quotes. -/
def quoted (s : Scanner) (q : Char) : Option Scanner := do
  let s := { s.saveKey with allowsKey := false }
  let line := s.cursor.line
  let (text, cursor) ← quotedText q s.indent s.cursor
  let s ← { s with cursor }.passGap
  if !s.mayFollowQuoted line then none
  else
    let s ← s.skipToToken
    return { s with adjacentAt := s.cursor.index }.push (.scalar false (String.ofList text))

/-- Takes a block of lines. -/
def block (s : Scanner) ( isLiteral : Bool) : Option Scanner :=
  let s := { s.saveKey with allowsKey := true }.unrollOnes
  (blockText isLiteral s.indent (s.cursor.pass 1)).map fun (text, cursor) =>
    { s with cursor }.push (.scalar false (String.ofList text))

/-- Takes a mark between documents, or a directive. -/
def betweenDocuments (s : Scanner) (read : Cursor → Option (Token × Cursor)) : Option Scanner := do
  let s ← (s.unroll (-1)).dropKey
  let (t, cursor) ← read s.cursor
  return { s with cursor, allowsKey := false }.push t

/-- Ends the text. -/
def finish (s : Scanner) : Option Scanner :=
  if s.candidates.any (fun k => k.required && k.possible) then none
  else some (s.unroll (-1))

/-- Takes the token at the cursor. -/
def takeToken (s : Scanner) : Option Scanner :=
  let c := s.cursor.next
  let followed := isGap (s.cursor.peek 1)
  let isColon := followed || (s.inFlow &&
    (isFlow (s.cursor.peek 1) || s.cursor.index = s.adjacentAt))
  if c = '%' ∧ s.cursor.column = 0 then
    s.betweenDocuments fun c => (c.pass 1).directive?
  else if s.cursor.atDocumentMark then do
    let t := if c = '-' then Token.documentStart else .documentEnd
    let s ← s.betweenDocuments fun c => some (t, c.pass 3)
    if c = '-' then some s
    else
      let s ← s.passGap
      if endsLine s.cursor.next then some s else none
  else if (s.cursor.column : Int) < s.indent then none
  else if c = '[' then s.openFlow .flowList
  else if c = '{' then s.openFlow .flowTable
  else if c = ']' then s.closeFlow .flowListEnd
  else if c = '}' then s.closeFlow .flowTableEnd
  else if c = ',' then s.flowEntry
  else if c = '-' ∧ followed then s.blockEntry
  else if c = '?' ∧ followed then s.longKey
  else if c = ':' ∧ isColon then s.keyValue
  else if c = '*' then
    s.property fun c => ((c.pass 1).anchorName?).map fun (name, c) => (.alias name, c)
  else if c = '&' then
    s.property fun c => ((c.pass 1).anchorName?).map fun (name, c) => (.anchor name, c)
  else if c = '!' then s.property (·.tag? s.inFlow)
  else if c = '|' ∧ !s.inFlow then s.block true
  else if c = '>' ∧ !s.inFlow then s.block false
  else if c = '\'' ∨ c = '"' then s.quoted c
  else if c = '%' ∨ c = '@' ∨ c = '\x60' then none
  else s.plain

/-- Takes all tokens. Each takes at least one character, so the length of the text is fuel
enough. -/
def takeAll : Nat → Scanner → Option (List Token)
  | 0, _ => none
  | fuel + 1, s => do
    let s ← s.skipToToken
    let s ← s.stale
    let s := s.unroll s.cursor.column
    if s.cursor.atEnd then s.finish.map (·.tokens)
    else
      let s ← s.takeToken
      takeAll fuel s

end Scanner

/-- The tokens of a text. -/
def tokens? (cs : List Char) : Option (List Token) :=
  Scanner.takeAll (cs.length + 2) { cursor := { rest := cs } }

end BeanKit.Settings.Yaml
