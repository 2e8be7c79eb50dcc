import Uplift.Yaml.Node
import Uplift.Yaml.Plain
import Uplift.Value.Decode
/-! # Reading YAML

The meaning of a document: its nodes become document values. Aliases are replaced by what they stand
for, at most a hundred times for each event of the document. A mapping has no two equal keys, and
collections nest at most 128 deep.

* `Yaml.read?` reads the value of a whole text.
* `Node.record?` looks a node up as a record directly, where every scalar counts as a text.
-/

namespace Uplift.Yaml

/-- The namespace of the tags that YAML defines. -/
def coreTag (name : String) : String := "tag:yaml.org,2002:" ++ name

/-- A tag of the document's own, as it is shown: with one exclamation mark in front. -/
def localTag? (tag : Option String) : Option String :=
  match tag.map String.toList with
  | some ('!' :: c :: rest) =>
    match c, rest with
    | '!', d :: more => some ("!" ++ String.ofList (d :: more))
    | _, _ => some ("!" ++ String.ofList (c :: rest))
  | _ => none

/-- What a scalar with one of the tags of YAML means. -/
def coreValue? (tag : String) (text : String) (style : Style) : Option Value :=
  if tag = coreTag "bool" then (truth? text).map .bool
  else if tag = coreTag "int" then
    match int? text.toList with
    | some n => if -(Int.pow 2 63) ≤ n ∧ n < Int.pow 2 64 then some (.int n) else none
    | none => none
  else if tag = coreTag "float" then (float? text.toList).map .float
  else if tag = coreTag "null" then if isNullText text && text ≠ "" then some .null else none
  else if tag = "!" && style = .plain then plainValue? text
  else some (.str text)

/-- What a scalar means, tags of the document's own aside. -/
def scalarValue? (tag : Option String) (text : String) (style : Style) : Option Value :=
  match tag with
  | some t =>
    match localTag? tag with
    | some name =>
      (if style = .plain then plainValue? text else some (.str text)).map (.tagged name)
    | none => coreValue? t text style
  | none => if style = .plain then plainValue? text else some (.str text)

/-- A value under its local tag, if there is one. -/
def underTag (tag : Option String) (v : Value) : Value :=
  match localTag? tag with
  | some name => .tagged name v
  | none => v

namespace Node

mutual

/-- The value of a node. `depth` collections may still open inside each other, and `budget` aliases
may still be replaced. -/
def value? (depth budget : Nat) : Node → Option (Value × Nat)
  | .scalar tag text style => (scalarValue? tag text style).map fun v => (v, budget)
  | .seq tag items =>
    if depth = 0 then none
    else do
      let (vs, budget) ← values? (depth - 1) budget items
      some (underTag tag (.seq vs), budget)
  | .map tag entries =>
    if depth = 0 then none
    else do
      let (es, budget) ← entryValues? (depth - 1) budget [] entries
      some (underTag tag (.map es), budget)
  | .alias none => none
  | .alias (some n) => if budget = 0 then none else value? depth (budget - 1) n

/-- The values of items. -/
def values? (depth budget : Nat) : List Node → Option (List Value × Nat)
  | [] => some ([], budget)
  | n :: rest => do
    let (v, budget) ← value? depth budget n
    let (vs, budget) ← values? depth budget rest
    some (v :: vs, budget)

/-- The values of entries; `seen` holds the keys before them. -/
def entryValues? (depth budget : Nat) (seen : List Value) :
    List (Node × Node) → Option (List (Value × Value) × Nat)
  | [] => some ([], budget)
  | (k, n) :: rest => do
    let (k, budget) ← value? depth budget k
    if seen.contains k then none
    else
      let (v, budget) ← value? depth budget n
      let (es, budget) ← entryValues? depth budget (k :: seen) rest
      some ((k, v) :: es, budget)

end

/-- The node that an alias stands for. -/
def target? : Node → Option Node
  | .alias none => none
  | .alias (some n) => target? n
  | n => some n

/-- The text of a scalar, whatever it would mean. -/
def text? (n : Node) : Option String :=
  match n.target? with
  | some (.scalar _ text _) => some text
  | _ => none

/-- The items of a sequence, for which an empty scalar stands too. -/
def items? (n : Node) : Option (List Node) :=
  match n.target? with
  | some (.seq _ items) => some items
  | some (.scalar _ "" .plain) => some []
  | _ => none

/-- The entries of a mapping under the names of a record's fields, if no name comes twice. Entries
under other names are passed over. -/
def fields? (names : List String) : List (Node × Node) → Option (List (String × Node))
  | [] => some []
  | (k, n) :: rest => do
    let key ← k.text?
    let more ← fields? names rest
    if names.contains key then
      if more.any (·.1 = key) then none else some ((key, n) :: more)
    else some more

/-- A node as a record. -/
def record? (names : List String) (n : Node) : Option (List (String × Node)) :=
  match n.target? with
  | some (.map _ entries) => fields? names entries
  | some (.scalar _ "" .plain) => some []
  | _ => none

end Node

/-- The only document of a text, and how many aliases may be replaced in it. -/
def document? (text : List Char) : Option (Node × Nat) := do
  let tokens ← tokens? text
  let (n, events) ← Node.ofTokens? tokens
  some (n, 100 * events)

/-- How deep collections may nest. -/
def maxDepth : Nat := 128

/-- The value of a text. -/
def read? (text : String) : Option Value := do
  let (n, budget) ← document? text.toList
  let (v, _) ← n.value? maxDepth budget
  some v

end Uplift.Yaml
