import BeanKit.Settings.Yaml.Token
/-!
# Nodes of YAML

What the tokens of a document make up: scalars, lists and tables. A scalar without quotes and
without a tag is what it looks like: nothing, a truth value, an integer, a number or a text. An
anchor names a node, an alias stands for the node that has the name.
-/

namespace BeanKit.Settings.Yaml

open BeanKit.Text

/-- A node. A number keeps its text. `nothing` is what a tag finds in a text that it does not fit,
and what an alias finds inside of the node that it names. -/
inductive Node where
  | nothing
  | null
  | bool (b : Bool)
  | int (n : Int)
  | number (written : String)
  | text (s : String)
  | list (items : List Node)
  | table (fields : List (Node × Node))
  deriving BEq

namespace Node

/-! ## Scalars -/

/-- The integer of sixty-four bits that digits of a base write, with or without a sign. -/
def based? (base : Nat) (cs : List Char) : Option Int :=
  let (negative, digits) := Number.takeSign cs
  (digits? base digits).bind (Number.signed? negative)

/-- The integer that a text writes: in base sixteen or eight behind the marks of these bases, and
otherwise in base ten, where a plus sign may stand in front of another sign. -/
def integer? (cs : List Char) : Option Int :=
  let marked := match cs with
    | '0' :: 'x' :: rest => based? 16 rest
    | '0' :: 'o' :: rest => based? 8 rest
    | '+' :: rest => Number.int64? rest
    | _ => none
  marked.orElse fun _ => Number.int64? cs

/-- The words for infinity and for no number. -/
def numberWords : List String :=
  [".inf", ".Inf", ".INF", "+.inf", "+.Inf", "+.INF", "-.inf", "-.Inf", "-.INF",
   ".nan", "NaN", ".NAN"]

/-- Whether a text is a number. -/
def isNumber (s : String) : Bool := numberWords.contains s || (Number.double? s.toList).isSome

/-- What a text without quotes stands for. -/
def ofPlain (s : String) : Node :=
  match integer? s.toList with
  | some n => .int n
  | none =>
    if s = "~" ∨ s = "null" then .null
    else if s = "true" then .bool true
    else if s = "false" then .bool false
    else if isNumber s then .number s
    else .text s

/-- What a text without quotes stands for under a tag of the core types. -/
def ofTagged (type s : String) : Node :=
  match type with
  | "bool" => if s = "true" then .bool true else if s = "false" then .bool false else .nothing
  | "int" => ((Number.int64? s.toList).map .int).getD .nothing
  | "float" => if isNumber s then .number s else .nothing
  | "null" => if s = "~" ∨ s = "null" then .null else .nothing
  | _ => .text s

/-- What the handles of the core types stand for. -/
def coreTypes : String := "tag:yaml.org,2002:"

/-- A scalar. The tag of a text in quotes says nothing. -/
def scalar ( isPlain : Bool) (tag : Option (String × String)) (s : String) : Node :=
  if !isPlain then .text s
  else
    match tag with
    | none => ofPlain s
    | some (handle, suffix) => if handle = coreTypes then ofTagged suffix s else .text s

/-! ## Tables -/

/-- The table of nodes that are keys and values in turn. Where `nothing` stands for a key, the next
node is taken for it. No key is given twice. -/
def tableOf (done : List (Node × Node)) (key : Option Node) : List Node → Option Node
  | [] => some (.table done)
  | n :: rest =>
    match key with
    | none => tableOf done (if n == .nothing then none else some n) rest
    | some k => if done.any (·.1 == k) then none else tableOf (done ++ [(k, n)]) none rest

end Node

/-! ## Reading nodes -/

/-- The tokens that are left, what the tags of the document stand for, and its anchors: each name
with the number of its node, and the nodes that are complete. -/
structure Reader where
  tokens : List Token
  rules : List (String × String) := []
  names : List (String × Nat) := []
  nodes : List (Nat × Node) := []
  count : Nat := 0

namespace Reader

/-- The next token. -/
def next? (r : Reader) : Option Token := r.tokens.head?

/-- The tokens behind the next one. -/
def skip (r : Reader) : Reader := { r with tokens := r.tokens.drop 1 }

/-- Whether one of some tokens is next. -/
def isAt (r : Reader) (ts : List Token) : Bool := r.next?.any ts.contains

/-- The newest entry of a name. -/
def find {α : Type} (entries : List (String × α)) (name : String) : Option α :=
  (entries.find? (·.1 = name)).map (·.2)

/-- The tag that a handle and a suffix make. A handle with marks at both ends has to have a rule. -/
def tag? (r : Reader) (handle suffix : String) : Option (String × String) :=
  match find r.rules handle with
  | some start => some (start, suffix)
  | none =>
    if handle = "!!" then some (Node.coreTypes, suffix)
    else if isNamedHandle handle.toList then none
    else some (handle, suffix)

/-- Takes the tag and the anchor in front of a node: the tag, and the number of the anchor. -/
def properties (r : Reader) : Option (Option (String × String) × Option Nat × Reader) :=
  let named (r : Reader) (name : String) : Nat × Reader :=
    (r.count, { r.skip with names := (name, r.count) :: r.names, count := r.count + 1 })
  match r.next? with
  | some (.anchor name) =>
    let (id, r) := named r name
    match r.next? with
    | some (.tag handle suffix) => (r.tag? handle suffix).map fun t => (some t, some id, r.skip)
    | _ => some (none, some id, r)
  | some (.tag handle suffix) =>
    (r.tag? handle suffix).map fun t =>
      let r := r.skip
      match r.next? with
      | some (.anchor name) => let (id, r) := named r name; (some t, some id, r)
      | _ => (some t, none, r)
  | _ => some (none, none, r)

/-- Completes a node with an anchor. -/
def complete (id : Option Nat) (n : Node) (r : Reader) : Node × Reader :=
  match id with
  | some id => (n, { r with nodes := (id, n) :: r.nodes })
  | none => (n, r)

/-- The node of an alias. -/
def aliased? (r : Reader) (name : String) : Option Node :=
  (find r.names name).map fun id => ((r.nodes.find? (·.1 = id)).map (·.2)).getD .nothing

mutual

/-- A node. Lists and tables by indentation stand only where `isBlock` says so, and a list without
an indentation of its own where `isLoose` does. Every call takes a token or goes one step further
down, of which there are at most three between two tokens. -/
def node : Nat → Bool → Bool → Reader → Option (Node × Reader)
  | 0, _, _, _ => none
  | fuel + 1, isBlock, isLoose, r =>
    match r.next? with
    | some (.alias name) => (r.aliased? name).map fun n => (n, r.skip)
    | _ =>
      match r.properties with
      | none => none
      | some (tag, id, r) =>
        let done (result : Option (Node × Reader)) : Option (Node × Reader) :=
          result.map fun (n, r) => r.complete id n
        match r.next? with
        | some (.scalar isPlain text) => some (r.skip.complete id (.scalar isPlain tag text))
        | some .flowList => done (flowItems fuel true r.skip [])
        | some .flowTable => done (flowFields fuel true r.skip [])
        | t =>
          if isLoose && t = some .blockEntry then done (looseItems fuel r [])
          else if isBlock && t = some .blockList then done (blockItems fuel r.skip [])
          else if isBlock && t = some .blockTable then done (blockFields fuel r.skip [])
          else if tag.isSome || id.isSome then some (r.complete id (.scalar true tag ""))
          else none

/-- A node, or none at all in front of certain tokens. -/
def nodeUnless : Nat → List Token → Bool → Bool → Reader → Option (Node × Reader)
  | 0, _, _, _, _ => none
  | fuel + 1, ends, isBlock, isLoose, r =>
    if r.isAt ends then some (.null, r) else node fuel isBlock isLoose r

/-- The value behind a key, where there is one. -/
def valueUnless : Nat → List Token → Bool → Reader → Option (Node × Reader)
  | 0, _, _, _ => none
  | fuel + 1, ends, isBlock, r =>
    if r.next? = some .value then nodeUnless fuel ends isBlock isBlock r.skip else some (.null, r)

/-- The fields of a table by indentation, behind the nodes that are `done`. -/
def blockFields : Nat → Reader → List Node → Option (Node × Reader)
  | 0, _, _ => none
  | fuel + 1, r, done =>
    let ends := [.key, .value, .blockEnd]
    let key : Option (Node × Reader) :=
      if r.next? = some .key then nodeUnless fuel ends true true r.skip
      else if r.next? = some .value then some (.null, r)
      else none
    match key with
    | none =>
      if r.next? = some .blockEnd then (Node.tableOf [] none done).map (·, r.skip) else none
    | some (k, r) =>
      match valueUnless fuel ends true r with
      | some (v, r) => blockFields fuel r (done ++ [k, v])
      | none => none

/-- The items of a list by indentation, behind those that are `done`. -/
def blockItems : Nat → Reader → List Node → Option (Node × Reader)
  | 0, _, _ => none
  | fuel + 1, r, done =>
    if r.next? = some .blockEnd then some (.list done, r.skip)
    else if r.next? = some .blockEntry then
      match nodeUnless fuel [.blockEntry, .blockEnd] true false r.skip with
      | some (n, r) => blockItems fuel r (done ++ [n])
      | none => none
    else none

/-- The items of a list in the column of its table, behind those that are `done`. -/
def looseItems : Nat → Reader → List Node → Option (Node × Reader)
  | 0, _, _ => none
  | fuel + 1, r, done =>
    if r.next? = some .blockEntry then
      match nodeUnless fuel [.blockEntry, .key, .value, .blockEnd] true false r.skip with
      | some (n, r) => looseItems fuel r (done ++ [n])
      | none => none
    else some (.list done, r)

/-- The items of a list in brackets, behind those that are `done`. A comma stands between two of
them. An item can be a pair without braces. -/
def flowItems : Nat → Bool → Reader → List Node → Option (Node × Reader)
  | 0, _, _, _ => none
  | fuel + 1, isFirst, r, done =>
    if r.next? = some .flowListEnd then some (.list done, r.skip)
    else if !isFirst && r.next? ≠ some .flowEntry then none
    else
      let r := if isFirst then r else r.skip
      if r.next? = some .flowListEnd then some (.list done, r.skip)
      else
        let item : Option (Node × Reader) :=
          if r.next? = some .key then flowPair fuel r.skip else node fuel false false r
        match item with
        | some (n, r) => flowItems fuel false r (done ++ [n])
        | none => none

/-- A pair without braces behind its mark. A mark that stands right there is passed over. -/
def flowPair : Nat → Reader → Option (Node × Reader)
  | 0, _ => none
  | fuel + 1, r =>
    let key : Option (Node × Reader) :=
      if r.isAt [.value, .flowEntry, .flowListEnd] then some (.null, r.skip)
      else node fuel false false r
    match key with
    | none => none
    | some (k, r) =>
      match valueUnless fuel [.flowEntry, .flowListEnd] false r with
      | some (v, r) => (Node.tableOf [] none [k, v]).map (·, r)
      | none => none

/-- The fields of a table in braces, behind the nodes that are `done`. A comma stands between two of
them. A key can stand without a value. -/
def flowFields : Nat → Bool → Reader → List Node → Option (Node × Reader)
  | 0, _, _, _ => none
  | fuel + 1, isFirst, r, done =>
    if r.next? = some .flowTableEnd then (Node.tableOf [] none done).map (·, r.skip)
    else if !isFirst && r.next? ≠ some .flowEntry then none
    else
      let r := if isFirst then r else r.skip
      if r.next? = some .flowTableEnd then (Node.tableOf [] none done).map (·, r.skip)
      else
        let key : Option (Node × Reader) :=
          if r.next? = some .key then
            nodeUnless fuel [.value, .flowEntry, .flowTableEnd] false false r.skip
          else if r.next? = some .value then some (.null, r)
          else node fuel false false r
        let hasValue := r.next? = some .key ∨ r.next? = some .value
        match key with
        | none => none
        | some (k, r) =>
          let value := if hasValue then valueUnless fuel [.flowEntry, .flowTableEnd] false r
            else some (.null, r)
          match value with
          | some (v, r) => flowFields fuel false r (done ++ [k, v])
          | none => none

end

/-! ## Documents -/

/-- Takes the directives in front of a document: what the last of them says about tags, and the
tokens behind them. There is one version at most, which says nothing about tags. -/
def directives : List Token → Bool → List (String × String) →
    Option (List (String × String) × List Token)
  | .version :: rest, seen, _ => if seen then none else directives rest true []
  | .tagRule handle start :: rest, seen, _ => directives rest seen [(handle, start)]
  | rest, _, rules => some (rules, rest)

/-- Whether a token is a directive. -/
def isDirective : Token → Bool
  | .version | .tagRule _ _ => true
  | _ => false

/-- Takes the documents, behind those that are `done`. A document that follows another one without
an end mark, or has directives, starts with its mark. -/
def documents : Nat → Bool → Reader → List Node → Option (List Node)
  | 0, _, _, _ => none
  | fuel + 1, isOpen, r, done =>
    match r.tokens.dropWhile (· = .documentEnd) with
    | [] => some done
    | t :: rest =>
      let size := 4 * rest.length + 4
      let content : Option (Node × Reader) :=
        if isOpen && !isDirective t && t ≠ .documentStart then
          node size true false { r with tokens := t :: rest }
        else
          match directives (t :: rest) false [] with
          | some (rules, .documentStart :: rest) =>
            let r := { r with tokens := rest, rules }
            let isEmpty := r.next?.all fun t =>
              isDirective t || t = .documentStart || t = .documentEnd
            if isEmpty then some (.null, r) else node size true false r
          | _ => none
      match content with
      | none => none
      | some (n, r) =>
        let r := { r with names := [], rules := [] }
        if r.next? = some .documentEnd then documents fuel true r.skip (done ++ [n])
        else if r.next?.any isDirective then none
        else documents fuel false r (done ++ [n])

end Reader

/-- The documents of a text. -/
def documents? (cs : List Char) : Option (List Node) :=
  (tokens? cs).bind fun tokens => Reader.documents (tokens.length + 1) true { tokens } []

end BeanKit.Settings.Yaml
