import BeanKit.Declaration.Attribute
import BeanKit.Declaration.TypeGrammar
import BeanKit.Expansion.Error
/-!
# Arguments of attributes

The arguments of an attribute are read one by one, by name. Which names there are, and what belongs
to each of them, is up to the attribute, and so is what an unknown name means.
-/

namespace BeanKit.Expansion

open BeanKit.Declaration

/-- Reads arguments, which can be unreadable or not be meant for the attribute. -/
abbrev ArgumentReader (α : Type) := StateT (List Lexeme) (Except ExpansionError) α

/-- Reads arguments by a reader of source text. -/
def reading {α : Type} (p : Parse α) : ArgumentReader α := fun ls =>
  (p.run ls).mapError .unreadable

/-- Reads named arguments with commas between them, the last of which can have one behind it.
Each takes a lexeme at least. -/
def readNamed {σ : Type} (step : σ → List String → ArgumentReader σ) : Nat → σ → ArgumentReader σ
  | 0, s => return s
  | fuel + 1, s => do
    let s ← step s (← reading readName)
    if isAtEnd (← get) then return s
    reading (takeMark ',')
    if isAtEnd (← get) then return s
    readNamed step fuel s

/-- What the arguments of an attribute come to. Without any there is nothing to read. -/
def Arguments.fold {σ : Type} (step : σ → List String → ArgumentReader σ) (s : σ) (a : Attribute) :
    Except ExpansionError σ := do
  match ← a.arguments.mapError .unreadable with
  | none | some [] => return s
  | some arguments => return (← (readNamed step (arguments.length + 1) s).run arguments).1

end BeanKit.Expansion
