import Uplift.Fault
import Uplift.Yaml.Reader
import Uplift.Yaml.Writer
/-! # Recipes

A recipe of the build tool: a name with options. In a document it is an entry: its name alone, or a
mapping from its name to its options. A composite recipe is a document that lists entries.

* `Recipe.toEntry`, `Recipe.ofEntry`: the two directions.
* `Composite.toYaml`, `Composite.ofYaml`: a composite recipe and its text.
-/

namespace Uplift

/-- A recipe with its options in order. -/
structure Recipe where
  name : String
  options : List (String × Value) := []
deriving DecidableEq

namespace Recipe

/-- The option that carries a match id. -/
def matchIdOption : String := "matchId"

/-- The recipe with one more option. -/
def withOption (r : Recipe) (key : String) (v : Value) : Recipe :=
  { r with options := r.options ++ [(key, v)] }

/-- The first option under a key. -/
def option? (r : Recipe) (key : String) : Option Value := r.options.lookup key

/-- The match id, if it is a text. -/
def matchId? (r : Recipe) : Option String := (r.option? matchIdOption).bind Value.asStr?

/-- Puts an option into a mapping: in place of one with the same key, or at the end. -/
def insert (key : String) (v : Value) : List (String × Value) → List (String × Value)
  | [] => [(key, v)]
  | (k, w) :: rest => if k = key then (k, v) :: rest else (k, w) :: insert key v rest

/-- The options with each key once: at its first place, with its last value. -/
def distinct (options : List (String × Value)) : List (String × Value) :=
  options.foldl (fun acc (k, v) => insert k v acc) []

/-- The entry of a recipe. -/
def toEntry (r : Recipe) : Value :=
  if r.options.isEmpty then .str r.name
  else .record [(r.name, .record (distinct r.options))]

/-- The options of an entry. -/
def optionsOf (name : String) : List (Value × Value) → Except Fault (List (String × Value))
  | [] => .ok []
  | (k, v) :: rest =>
    match k.asStr? with
    | some key => do .ok ((key, v) :: (← optionsOf name rest))
    | none => .error (.configuration (.optionKeyNotText name))

/-- The recipe of an entry. -/
def ofEntry : Value → Except Fault Recipe
  | .str name => .ok ⟨name, []⟩
  | .map [(.str name, options)] =>
    match options with
    | .null => .ok ⟨name, []⟩
    | .map entries => do .ok ⟨name, ← optionsOf name entries⟩
    | _ => .error (.configuration (.optionsNotMapping name))
  | .map [_] => .error (.configuration .recipeNameNotText)
  | _ => .error (.configuration .notRecipeEntry)

end Recipe

/-- A document that lists recipes. -/
structure Composite where
  type : String := "specs.openrewrite.org/v1beta/recipe"
  name : String
  displayName : String
  description : String
  preconditions : List Value := []
  recipeList : List Value := []
deriving DecidableEq

namespace Composite

/-- The type that every document of this kind has. -/
def documentType : String := "specs.openrewrite.org/v1beta/recipe"

/-- The recipes of the list. -/
def recipes (c : Composite) : Except Fault (List Recipe) := c.recipeList.mapM Recipe.ofEntry

/-- The document value. -/
def toValue (c : Composite) : Value :=
  .record ([("type", .str c.type), ("name", .str c.name), ("displayName", .str c.displayName),
    ("description", .str c.description)] ++
    (if c.preconditions.isEmpty then [] else [("preconditions", .seq c.preconditions)]) ++
    [("recipeList", .seq c.recipeList)])

/-- The text of the document. -/
def toYaml (c : Composite) : String := Yaml.write c.toValue

/-- The text of the document, if it can be written. -/
def document (c : Composite) : Except Fault String :=
  if Yaml.tagsApart c.toValue then .ok c.toYaml
  else .error (.configuration (.unwritableRecipe c.name))

/-- A list of values under a field of a document, empty if the field is missing. -/
def listField? (budget : Nat) (fields : List (String × Yaml.Node)) (name : String) :
    Option (List Value) :=
  match fields.lookup name with
  | none => some []
  | some n => do
    let items ← n.items?
    let (vs, _) ← Yaml.Node.values? (Yaml.maxDepth - 2) budget items
    some vs

/-- The document that a text holds, of whatever type. -/
def read? (text : String) : Option Composite := do
  let (n, budget) ← Yaml.document? text.toList
  let fields ← n.record?
    ["type", "name", "displayName", "description", "preconditions", "recipeList"]
  let textField (name : String) : Option String := (fields.lookup name).bind Yaml.Node.text?
  some
    { type := ← textField "type", name := ← textField "name"
      displayName := ← textField "displayName", description := ← textField "description"
      preconditions := ← listField? budget fields "preconditions"
      recipeList := ← listField? budget fields "recipeList" }

/-- The composite recipe that a text holds. -/
def ofYaml (text : String) : Except Fault Composite :=
  match read? text with
  | none => .error (.configuration .recipeDocument)
  | some c =>
    if c.type = documentType then .ok c else .error (.configuration (.recipeDocumentType c.type))

end Composite

end Uplift
