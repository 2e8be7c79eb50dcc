import Uplift.Condition.Reader
import Uplift.Value.Decode
/-! # Rules

A rule says when it applies and what to do then. Its condition and its precondition are kept as
texts and read when they are needed; its instructions address each provider.
-/

namespace Uplift

/-- What must hold for a rule to be looked at. -/
structure Precondition where
  name : String
  pattern : String
deriving DecidableEq, Repr

/-- Tasks for an assistant, under a prompt. -/
structure AiInstruction where
  prompt : String
  tasks : List String
deriving DecidableEq, Repr

/-- Recipes for the build tool. -/
structure RecipeInstruction where
  name : String
  description : String
  gav : List String
  preconditions : List Value
  recipeList : List Value
deriving DecidableEq

/-- What to do about a rule, for each provider. -/
structure Instructions where
  ai : List AiInstruction := []
  openRewrite : List RecipeInstruction := []
  manual : List String := []
deriving DecidableEq

namespace Instructions

/-- There is nothing to do for anybody. -/
def isEmpty (i : Instructions) : Bool := i.ai.isEmpty && i.openRewrite.isEmpty && i.manual.isEmpty

end Instructions

/-- A rule of a catalog. -/
structure Rule where
  id : String
  order : Int := 0
  category : String := ""
  effort : Nat := 0
  labels : List String := []
  description : String := ""
  precondition : Option Precondition := none
  condition : String
  instructions : Instructions := {}
deriving DecidableEq

namespace Rule

/-- The condition, read. -/
def query (r : Rule) : Except Fault Condition := Condition.parse r.condition

/-- The precondition, read, if the rule has one. -/
def preconditionQuery (r : Rule) : Except Fault (Option Query) :=
  match r.precondition with
  | none => .ok none
  | some p => do .ok (some (← Query.parsePrecondition p.name p.pattern))

/-- The label of the technology that a rule leads away from. -/
def sourceLabel : String := "konveyor.io/source"

/-- The label of the technology that a rule leads to. -/
def targetLabel : String := "konveyor.io/target"

/-- The values of a label, which is written with an equals sign before them. -/
def labelValues (r : Rule) (key : String) : List String :=
  r.labels.filterMap fun label =>
    match Text.splitOnce '=' label.toList with
    | some (k, v) =>
      if Text.trim k = key.toList then some (String.ofList (Text.trim v)) else none
    | none => none

/-- A rule names both technologies. -/
def hasTechnologies (r : Rule) : Bool :=
  !(r.labelValues sourceLabel).isEmpty && !(r.labelValues targetLabel).isEmpty

/-- A rule leads from one technology to the other; a rule's value may say more than is asked. -/
def leads (r : Rule) (source target : String) : Bool :=
  let has (key tech : String) : Bool := (r.labelValues key).any fun v =>
    (tech.toList.map Char.toLower).isPrefixOf (v.toList.map Char.toLower)
  has sourceLabel source && has targetLabel target

/-- The field of a list, left out if it is empty. -/
def listField (name : String) (items : List Value) : List (String × Value) :=
  if items.isEmpty then [] else [(name, .seq items)]

end Rule

namespace AiInstruction

/-- Reads an instruction. -/
def decode (f : Format) : Decoder AiInstruction := fun v => do
  let r ← Record.of? f ["prompt", "tasks"] v
  some ⟨← r.withDefault "prompt" "" Decoder.text,
    ← r.withDefault "tasks" [] (Decoder.list f Decoder.text)⟩

/-- An instruction as a document value. -/
def encode (i : AiInstruction) : Value :=
  .record [("prompt", .str i.prompt), ("tasks", .strings i.tasks)]

end AiInstruction

namespace RecipeInstruction

/-- Reads an instruction. -/
def decode (f : Format) : Decoder RecipeInstruction := fun v => do
  let r ← Record.of? f ["name", "description", "gav", "preconditions", "recipeList"] v
  some ⟨← r.withDefault "name" "" Decoder.text, ← r.withDefault "description" "" Decoder.text,
    ← r.withDefault "gav" [] (Decoder.list f Decoder.text),
    ← r.withDefault "preconditions" [] (Decoder.list f Decoder.document),
    ← r.withDefault "recipeList" [] (Decoder.list f Decoder.document)⟩

/-- An instruction as a document value. -/
def encode (i : RecipeInstruction) : Value :=
  .record [("name", .str i.name), ("description", .str i.description), ("gav", .strings i.gav),
    ("preconditions", .seq i.preconditions), ("recipeList", .seq i.recipeList)]

end RecipeInstruction

namespace Instructions

/-- Reads a manual step. -/
def decodeTodo (f : Format) : Decoder String := fun v => do
  let r ← Record.of? f ["todo"] v
  r.required "todo" Decoder.text

/-- Reads instructions. -/
def decode (f : Format) : Decoder Instructions := fun v => do
  let r ← Record.of? f ["ai", "openrewrite", "manual"] v
  some ⟨← r.withDefault "ai" [] (Decoder.list f (AiInstruction.decode f)),
    ← r.withDefault "openrewrite" [] (Decoder.list f (RecipeInstruction.decode f)),
    ← r.withDefault "manual" [] (Decoder.list f (decodeTodo f))⟩

/-- Instructions as a document value. -/
def encode (i : Instructions) : Value :=
  .record (Rule.listField "ai" (i.ai.map AiInstruction.encode) ++
    Rule.listField "openrewrite" (i.openRewrite.map RecipeInstruction.encode) ++
    Rule.listField "manual" (i.manual.map fun t => .record [("todo", .str t)]))

end Instructions

namespace Precondition

/-- Reads a precondition. -/
def decode (f : Format) : Decoder Precondition := fun v => do
  let r ← Record.of? f ["name", "pattern"] v
  some ⟨← r.required "name" Decoder.text, ← r.required "pattern" Decoder.text⟩

/-- A precondition as a document value. -/
def encode (p : Precondition) : Value :=
  .record [("name", .str p.name), ("pattern", .str p.pattern)]

end Precondition

namespace Rule

/-- Reads the part of a rule that holds its condition. -/
def decodeWhen (f : Format) : Decoder String := fun v => do
  let r ← Record.of? f ["condition"] v
  r.required "condition" Decoder.text

/-- Reads a rule. -/
def decode (f : Format) : Decoder Rule := fun v => do
  let r ← Record.of? f ["ruleID", "order", "category", "effort", "labels", "description",
    "precondition", "when", "instructions"] v
  some
    { id := ← r.required "ruleID" Decoder.text
      order := ← r.withDefault "order" 0 Decoder.int32
      category := ← r.withDefault "category" "" Decoder.text
      effort := ← r.withDefault "effort" 0 Decoder.nat32
      labels := ← r.withDefault "labels" [] (Decoder.list f Decoder.text)
      description := ← r.withDefault "description" "" Decoder.text
      precondition := ← r.optional "precondition" (Precondition.decode f)
      condition := ← r.required "when" (decodeWhen f)
      instructions := ← r.withDefault "instructions" {} (Instructions.decode f) }

/-- A rule as a document value. -/
def encode (r : Rule) : Value :=
  .record ([("ruleID", .str r.id), ("order", .int r.order), ("category", .str r.category),
    ("effort", .int r.effort), ("labels", .strings r.labels),
    ("description", .str r.description)] ++
    (match r.precondition with
      | some p => [("precondition", p.encode)]
      | none => []) ++
    [("when", .record [("condition", .str r.condition)]), ("instructions", r.instructions.encode)])

end Rule

end Uplift
