import Uplift.Rule
import Uplift.Match
/-! # Migration tasks

A task is a rule with what its scan found, the provider that is to carry it out, and the result once
it was.
-/

namespace Uplift

/-- What became of a rule's precondition. -/
inductive PreconditionStatus where
  | notDeclared | satisfied | notSatisfied
deriving DecidableEq, Repr

namespace PreconditionStatus

/-- The name in reports. -/
def id : PreconditionStatus → String
  | notDeclared => "not_declared"
  | satisfied => "satisfied"
  | notSatisfied => "not_satisfied"

/-- The status with exactly this name. -/
def ofId? (s : String) : Option PreconditionStatus :=
  [notDeclared, satisfied, notSatisfied].find? (·.id = s)

end PreconditionStatus

/-- What came of carrying a task out. -/
structure Outcome where
  success : Bool
  message : String
  details : List String := []
  error : Option String := none
deriving DecidableEq, Repr

namespace Outcome

/-- A failure that an error explains. -/
def failed (message : String) (details : List String) (error : Option String := none) : Outcome :=
  ⟨false, message, details, error⟩

/-- A success. -/
def succeeded (message : String) (details : List String) : Outcome := ⟨true, message, details, none⟩

/-- Reads an outcome. -/
def decode : Decoder Outcome := fun v => do
  let r ← Record.of? .json ["success", "message", "details", "error"] v
  some ⟨← r.required "success" Decoder.truth, ← r.required "message" Decoder.text,
    ← r.withDefault "details" [] (Decoder.list .json Decoder.text),
    ← r.optional "error" Decoder.text⟩

/-- An outcome as a document value. -/
def encode (o : Outcome) : Value :=
  .record ([("success", .bool o.success), ("message", .str o.message),
    ("details", .strings o.details)] ++
    (match o.error with
      | some e => [("error", Value.str e)]
      | none => []))

end Outcome

/-- A rule on its way from scan to migration. -/
structure Task where
  rule : Rule
  provider : ProviderKind
  found : List Match := []
  precondition : PreconditionStatus := .notDeclared
  result : Option Outcome := none
deriving DecidableEq

namespace Task

/-- The scan found something. -/
def isMatched (t : Task) : Bool := !t.found.isEmpty

/-- Reads a task. -/
def decode : Decoder Task := fun v => do
  let r ← Record.of? .json ["rule", "provider", "matches", "precondition", "result"] v
  some
    { rule := ← r.required "rule" (Rule.decode .json)
      provider := ← r.required "provider" (Decoder.name ProviderKind.ofId?)
      found := ← r.withDefault "matches" [] (Decoder.list .json Match.decode)
      precondition := ← r.withDefault "precondition" .notDeclared
        (Decoder.name PreconditionStatus.ofId?)
      result := ← r.optional "result" Outcome.decode }

/-- A task as a document value. -/
def encode (t : Task) : Value :=
  .record ([("rule", t.rule.encode), ("provider", .str t.provider.id),
    ("matches", .seq (t.found.map Match.encode)), ("precondition", .str t.precondition.id)] ++
    (match t.result with
      | some o => [("result", o.encode)]
      | none => []))

end Task

end Uplift
