import BeanKit.Settings.Basic
import BeanKit.Settings.Tree
/-!
# From trees to settings

A tree fits the settings in one of two manners. The strict manner takes texts and truth values as
what they are. The lenient manner, for files and the environment, also takes numbers and truth
values where a text belongs, and numbers and certain words where a truth value belongs. Either way a
missing key leaves its default, an unknown key is passed over, and a list stands for the fields in
their order.
-/

namespace BeanKit.Settings

/-- How a tree is made to fit. -/
inductive Manner where
  | strict
  | lenient
  deriving Repr, DecidableEq

/-- The words that stand for a truth value. -/
def truthWord? (s : String) : Option Bool :=
  let word := Text.lowerText s
  if ["1", "true", "on", "yes"].contains word then some true
  else if ["0", "false", "off", "no"].contains word then some false
  else none

/-- A tree as a truth value. -/
def Manner.bool? : Manner → Tree → Option Bool
  | _, .bool b => some b
  | .lenient, .int n => some (n ≠ 0)
  | .lenient, .float x => some !x.isZero
  | .lenient, .text s => truthWord? s
  | _, _ => none

/-- A tree as a text. -/
def Manner.text? : Manner → Tree → Option String
  | _, .text s => some s
  | .lenient, .bool b => some (if b then "true" else "false")
  | .lenient, .int n => some (toString n)
  | .lenient, .float x => some (Number.plainText x)
  | _, _ => none

/-- A part of a structure: what the tree has for it, or the default. -/
def part? {α : Type} (decode : Tree → Option α) (missing : α) : Option Tree → Option α
  | some t => decode t
  | none => some missing

/-- A tree as a structure of two fields. A list that goes on behind the second field does not fit in
the strict manner. -/
def Manner.pair? {α β γ : Type} (m : Manner) (first second : String) (decodeFirst : Tree → Option α)
    (decodeSecond : Tree → Option β) (missing : α × β) (build : α → β → γ) : Tree → Option γ
  | .table fields => do
    let a ← part? decodeFirst missing.1 (Tree.lookup first fields)
    let b ← part? decodeSecond missing.2 (Tree.lookup second fields)
    return build a b
  | .list items => do
    let a ← part? decodeFirst missing.1 items[0]?
    let b ← part? decodeSecond missing.2 items[1]?
    if m = .strict ∧ 2 < items.length then none else return build a b
  | _ => none

/-- A tree as scan settings. -/
def Manner.scan? (m : Manner) : Tree → Option ScanSettings :=
  m.pair? "namespace" "include_builtins" m.text? m.bool? ("", true) ScanSettings.mk

/-- A tree as log settings. -/
def Manner.logging? (m : Manner) : Tree → Option LogSettings :=
  m.pair? "level" "json" m.text? m.bool? ("info", false) LogSettings.mk

/-- A tree as settings. -/
def Manner.settings? (m : Manner) : Tree → Option Settings :=
  m.pair? "scan" "logging" m.scan? m.logging? ({}, {}) Settings.mk

end BeanKit.Settings
