import BeanKit.Settings.Yaml.Cursor
/-!
# Texts of YAML

A text stands without quotes, in either quotes, or as a block of lines. Line breaks inside a text
are folded: one alone becomes a blank, and of several the first is dropped. Each reader starts in
front of the text and gives the text with the place behind it, or finds it not well formed.
-/

namespace BeanKit.Settings.Yaml

open BeanKit.Text

/-! ## Folding -/

/-- The line breaks seen since the last visible character: whether there was one, and how many
followed it. -/
structure Breaks where
  first : Bool := false
  later : Nat := 0

namespace Breaks

/-- What the breaks put between two parts of a text. -/
def folded (b : Breaks) : List Char :=
  if b.first ∧ b.later = 0 then [' '] else List.replicate b.later '\n'

end Breaks

/-! ## Texts without quotes -/

/-- Whether the next character may belong to a text without quotes. A colon in front of a gap does
not, and in brackets neither do the marks of their own. -/
def Cursor.continuesPlain (c : Cursor) (inFlow : Bool) : Bool :=
  if c.next = ':' then !(isGap (c.peek 1) || (inFlow && isFlow (c.peek 1)))
  else !(inFlow && isFlow c.next)

/-- How many characters of a text without quotes come next, without a gap between them. -/
def plainLength (inFlow : Bool) : List Char → Nat
  | [] => 0
  | c :: rest =>
    if isGap c || !(Cursor.continuesPlain { rest := c :: rest } inFlow) then 0
    else plainLength inFlow rest + 1

/-- A text without quotes as far as it is read. `blanks` stand behind it on its line. -/
structure Plain where
  cursor : Cursor
  text : List Char := []
  blanks : List Char := []
  breaks : Breaks := {}

namespace Plain

/-- Takes the visible characters that come next. -/
def takeVisible (p : Plain) (inFlow : Bool) : Plain :=
  let n := plainLength inFlow p.cursor.rest
  if n = 0 then p
  else
    let between := if p.cursor.inMargin then p.breaks.folded else p.blanks
    { cursor := p.cursor.pass n, text := p.text ++ between ++ p.cursor.rest.take n }

/-- Takes the gap that comes next. A tab in front of the column `least` stands only in a line
without content. -/
def takeGap (least : Int) : Nat → Plain → Option Plain
  | 0, p => some p
  | fuel + 1, p =>
    if isSpace p.cursor.next then
      if !p.cursor.inMargin then
        takeGap least fuel
          { p with cursor := p.cursor.passBlanks 1, blanks := p.blanks ++ [p.cursor.next] }
      else if p.cursor.next = '\t' ∧ (p.cursor.column : Int) < least then
        match p.cursor.passGap? isSpace with
        | some cursor => if endsLine cursor.next then takeGap least fuel { p with cursor } else none
        | none => none
      else takeGap least fuel { p with cursor := p.cursor.passBlanks 1 }
    else if isBreak p.cursor.next then
      let breaks := if p.cursor.inMargin then { p.breaks with later := p.breaks.later + 1 }
        else { p.breaks with first := true }
      takeGap least fuel { p with cursor := p.cursor.passBreak, blanks := [], breaks }
    else some p

/-- Takes the parts of a text, which stand from the column `least` on where they are not in
brackets. -/
def takeAll (inFlow : Bool) (least : Int) : Nat → Plain → Option Plain
  | 0, p => some p
  | fuel + 1, p =>
    if p.cursor.atDocumentMark || p.cursor.next = '#' then some p
    else if inFlow && p.cursor.next = '-' && isFlow (p.cursor.peek 1) then none
    else
      let p := p.takeVisible inFlow
      if !(isSpace p.cursor.next || isBreak p.cursor.next) then some p
      else
        match p.takeGap least p.cursor.rest.length with
        | none => none
        | some p =>
          if !inFlow && (p.cursor.column : Int) < least then some p
          else takeAll inFlow least fuel p

end Plain

/-- A text without quotes. -/
def plainText (inFlow : Bool) (least : Int) (c : Cursor) : Option (List Char × Cursor) :=
  (Plain.takeAll inFlow least (c.rest.length + 1) { cursor := c }).map fun p => (p.text, p.cursor)

/-! ## Texts in quotes -/

/-- The character of an escape that needs no digits. -/
def escaped? : Char → Option Char
  | '0' => some '\x00'
  | 'a' => some '\x07'
  | 'b' => some '\x08'
  | 't' | '\t' => some '\t'
  | 'n' => some '\n'
  | 'v' => some '\x0b'
  | 'f' => some '\x0c'
  | 'r' => some '\r'
  | 'e' => some '\x1b'
  | ' ' => some ' '
  | '"' => some '"'
  | '/' => some '/'
  | '\\' => some '\\'
  | 'N' => some '\u0085'
  | '_' => some '\u00a0'
  | 'L' => some '\u2028'
  | 'P' => some '\u2029'
  | _ => none

/-- How many hexadecimal digits an escape has. -/
def escapeWidth? : Char → Option Nat
  | 'x' => some 2
  | 'u' => some 4
  | 'U' => some 8
  | _ => none

/-- A text in quotes as far as it is read. -/
structure Quoted where
  cursor : Cursor
  text : List Char := []

namespace Quoted

/-- Takes the visible characters that come next, up to a gap or the closing quote `q`. The answer
says whether an escaped line break ended them. -/
def takeVisible (q : Char) : Nat → Quoted → Option (Quoted × Bool)
  | 0, t => some (t, false)
  | fuel + 1, t =>
    let c := t.cursor.next
    if isGap c then some (t, false)
    else if q = '\'' ∧ c = q ∧ t.cursor.peek 1 = q then
      takeVisible q fuel { cursor := t.cursor.pass 2, text := t.text ++ [q] }
    else if c = q then some (t, false)
    else if c = '\\' ∧ q = '"' then
      let e := t.cursor.peek 1
      if isBreak e then some ({ t with cursor := (t.cursor.pass 1).passBreak }, true)
      else
        match escaped? e, escapeWidth? e with
        | some c, _ => takeVisible q fuel { cursor := t.cursor.pass 2, text := t.text ++ [c] }
        | none, some width =>
          match hexEscape? width (t.cursor.rest.drop 2) with
          | some (c, _) =>
            takeVisible q fuel { cursor := t.cursor.pass (2 + width), text := t.text ++ [c] }
          | none => none
        | none, none => none
    else takeVisible q fuel { cursor := t.cursor.pass 1, text := t.text ++ [c] }

/-- Takes the gap that comes next; `folding` says whether a line break is behind it already. The
answer is what the gap puts into the text. -/
def takeGap (indent : Int) : Nat → Cursor → Bool → List Char → Breaks →
    Option (Cursor × List Char)
  | 0, c, _, _, _ => some (c, [])
  | fuel + 1, c, folding, blanks, breaks =>
    if isSpace c.next then
      if !folding then takeGap indent fuel (c.passBlanks 1) folding (blanks ++ [c.next]) breaks
      else if c.next = '\t' ∧ (c.column : Int) < indent then none
      else takeGap indent fuel (c.passBlanks 1) folding blanks breaks
    else if isBreak c.next then
      if folding then
        takeGap indent fuel c.passBreak folding blanks { breaks with later := breaks.later + 1 }
      else takeGap indent fuel c.passBreak true [] { breaks with first := true }
    else some (c, if folding then breaks.folded else blanks)

/-- Takes the parts of a text up to the closing quote. No line of it stands left of the column
`indent`. -/
def takeAll (q : Char) (indent : Int) : Nat → Quoted → Option Quoted
  | 0, _ => none
  | fuel + 1, t =>
    if t.cursor.atDocumentMark || t.cursor.atEnd || (t.cursor.column : Int) < indent then none
    else
      match takeVisible q t.cursor.rest.length t with
      | none => none
      | some (t, folding) =>
        if t.cursor.next = q then some { t with cursor := t.cursor.pass 1 }
        else
          match takeGap indent (t.cursor.rest.length + 1) t.cursor folding [] {} with
          | none => none
          | some (cursor, between) => takeAll q indent fuel { cursor, text := t.text ++ between }

end Quoted

/-- A text in quotes. -/
def quotedText (q : Char) (indent : Int) (c : Cursor) : Option (List Char × Cursor) :=
  (Quoted.takeAll q indent (c.rest.length + 1) { cursor := c.pass 1 }).map fun t =>
    (t.text, t.cursor)

/-! ## Blocks of lines -/

/-- What becomes of the line breaks at the end of a block. -/
inductive Chomping where
  | clip
  | strip
  | keep
  deriving Repr, DecidableEq

namespace Chomping

/-- The chomping that a mark stands for. -/
def ofMark? : Char → Option Chomping
  | '+' => some .keep
  | '-' => some .strip
  | _ => none

end Chomping

/-- The header of a block: its chomping, and the indentation that it states, in either order. -/
def blockHeader? (c : Cursor) : Option (Chomping × Nat × Cursor) :=
  let digit? (c : Char) : Option Nat := if isDigit c then some (digitsValue [c]) else none
  let nonzero (chomping : Chomping) (n : Nat) (c : Cursor) : Option (Chomping × Nat × Cursor) :=
    if n = 0 then none else some (chomping, n, c)
  match Chomping.ofMark? c.next, digit? c.next with
  | some chomping, _ =>
    match digit? (c.peek 1) with
    | some n => nonzero chomping n (c.pass 2)
    | none => some (chomping, 0, c.pass 1)
  | none, some n =>
    match Chomping.ofMark? (c.peek 1) with
    | some chomping => nonzero chomping n (c.pass 2)
    | none => nonzero .clip n (c.pass 1)
  | none, none => some (.clip, 0, c)

/-- Passes over the indentation of a block and its empty lines, of which the count is the second
part of the answer. -/
def passIndent (indent : Nat) : Nat → Cursor → Nat → Cursor × Nat
  | 0, c, breaks => (c, breaks)
  | fuel + 1, c, breaks =>
    let c := c.passBlanks (min (indent - c.column) (c.run (· = ' ')).length)
    if isBreak c.next then passIndent indent fuel c.passBreak (breaks + 1) else (c, breaks)

/-- Passes over the empty lines in front of a block that states no indentation: the place, the
number of lines, and the widest indentation seen. -/
def passFirstIndent : Nat → Cursor → Nat → Nat → Cursor × Nat × Nat
  | 0, c, breaks, widest => (c, breaks, widest)
  | fuel + 1, c, breaks, widest =>
    let c := c.passBlanks (c.run (· = ' ')).length
    let widest := max widest c.column
    if isBreak c.next then passFirstIndent fuel c.passBreak (breaks + 1) widest
    else (c, breaks, widest)

/-- A block as far as it is read: its text, the line break behind it that is not yet part of it, the
empty lines behind that, and whether its last line started with a blank. -/
structure Block where
  cursor : Cursor
  text : List Char := []
  hasBreak : Bool := false
  breaks : Nat := 0
  afterBlank : Bool := false

namespace Block

/-- What the breaks in front of a line put into the text. Between two lines of a folded block that
start without a blank they are folded. -/
def between (b : Block) ( isLiteral : Bool) : List Char :=
  let lines := List.replicate b.breaks '\n'
  if !isLiteral && b.hasBreak && !b.afterBlank && !isSpace b.cursor.next then
    if b.breaks = 0 then [' '] else lines
  else if b.hasBreak then '\n' :: lines
  else lines

/-- Takes the lines of a block that stand in its column. -/
def takeLines ( isLiteral : Bool) (indent : Nat) : Nat → Block → Block
  | 0, b => b
  | fuel + 1, b =>
    if b.cursor.column ≠ indent || b.cursor.atEnd || (indent = 0 && b.cursor.atDocumentMark) then b
    else
      let line := b.cursor.run (!endsLine ·)
      let text := b.text ++ b.between isLiteral ++ line
      let afterBlank := isSpace b.cursor.next
      let c := b.cursor.passBlanks line.length
      if c.atEnd then { cursor := c, text, afterBlank }
      else
        let (c, breaks) := passIndent indent (c.rest.length + 1) c.passBreak 0
        takeLines isLiteral indent fuel { cursor := c, text, hasBreak := true, breaks, afterBlank }

/-- The whole text of a block. -/
def chomped (b : Block) (chomping : Chomping) (indent : Nat) : List Char :=
  let last := if chomping = .strip then []
    else (if b.hasBreak then ['\n'] else []) ++
      if b.cursor.atEnd && max indent 1 ≤ b.cursor.column then ['\n'] else []
  b.text ++ last ++ if chomping = .keep then List.replicate b.breaks '\n' else []

end Block

/-- A block of lines behind its mark, in a table or list of the column `parent`. -/
def blockText ( isLiteral : Bool) (parent : Int) (c : Cursor) : Option (List Char × Cursor) := do
  let start := c.line
  let (chomping, stated, c) ← blockHeader? c
  let c ← c.passGap? isSpace
  if !endsLine c.next then none
  else
    let opened := isBreak c.next
    let c := c.passBreak
    if c.next = '\t' then none
    else
      let (c, breaks, indent) :=
        if stated = 0 then
          let (c, breaks, widest) := passFirstIndent (c.rest.length + 1) c 0 0
          let least := max widest (parent + 1).toNat
          (c, breaks, if 0 < parent then max least 1 else least)
        else
          let indent := stated + parent.toNat
          let (c, breaks) := passIndent indent (c.rest.length + 1) c 0
          (c, breaks, indent)
      if c.atEnd then
        let text := match chomping with
          | .strip => []
          | _ =>
            if c.line = start then []
            else if chomping = .keep ∧ breaks ≠ 0 then List.replicate breaks '\n'
            else if opened then ['\n'] else []
        return (text, c)
      else if c.column < indent ∧ parent < c.column then none
      else
        let b := Block.takeLines isLiteral indent (c.rest.length + 1) { cursor := c, breaks }
        return (b.chomped chomping indent, b.cursor)

end BeanKit.Settings.Yaml
