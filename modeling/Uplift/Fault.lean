import Uplift.Kind
/-! # Faults of rules and queries

What can be wrong with a rule, a query or the setup before anything is scanned. Each fault is a
cause; its wording is in one place.

* `SyntaxFault`: why a condition is not well formed.
* `Misconfiguration`: why a setup cannot work.
* `Fault`: all of them, with `Fault.message`.
-/

namespace Uplift

/-- Why the text of a condition or of a precondition is refused. -/
inductive SyntaxFault where
  | unopenedParenthesis
  | unclosedParenthesis
  | unclosedQuote
  | mixedConnectives
  | emptyTerm
  | noArguments (term : String)
  | badHead (head : String)
  | noIs (head : String)
  | notKeyValue (part : String)
  | emptyKey
  | noParameters
  | emptyValue
deriving DecidableEq, Repr

namespace SyntaxFault

/-- The wording of a cause. -/
def reason : SyntaxFault → String
  | unopenedParenthesis => "unbalanced ')'"
  | unclosedParenthesis => "unbalanced '('"
  | unclosedQuote => "unterminated quote"
  | mixedConnectives => "AND and OR cannot be mixed in one condition"
  | emptyTerm => "empty term"
  | noArguments term => "'" ++ term ++ "' has no arguments"
  | badHead head => "'" ++ head ++ "' is not kind.symbol"
  | noIs head => "expected 'is' after '" ++ head ++ "'"
  | notKeyValue part => "parameter '" ++ part ++ "' is not key=value"
  | emptyKey => "parameter with empty key"
  | noParameters => "empty parameter list"
  | emptyValue => "empty value"

end SyntaxFault

/-- Why a setup cannot work. -/
inductive Misconfiguration where
  | noRoute (key : String)
  | noMapper (shape : Shape) (scanner : ScannerKind)
  | unmappedRoute (description : String) (shape : Shape) (scanner : ScannerKind)
  | noSearchRecipe (key : String)
  | recipeNameNotText
  | optionKeyNotText (recipe : String)
  | optionsNotMapping (recipe : String)
  | notRecipeEntry
  | recipeDocument
  | recipeDocumentType (type : String)
  | unwritableRecipe (name : String)
  | unknownProvider (name : String)
  | duplicateRule (id : String)
deriving DecidableEq, Repr

namespace Misconfiguration

/-- The wording of a cause. -/
def reason : Misconfiguration → String
  | noRoute key => "no routing entry for '" ++ key ++ "' and no default"
  | noMapper shape scanner =>
    "no mapper for " ++ shape.id ++ " queries on the " ++ scanner.id ++ " scanner"
  | unmappedRoute description shape scanner =>
    "routing entry '" ++ description ++ "' uses " ++ shape.id ++ " on " ++ scanner.id ++
      ", which has no mapper"
  | noSearchRecipe key => "no search recipe for '" ++ key ++ "'"
  | recipeNameNotText => "recipe entry name must be a string"
  | optionKeyNotText recipe => "recipe '" ++ recipe ++ "' has a non-string option key"
  | optionsNotMapping recipe => "options of recipe '" ++ recipe ++ "' must be a mapping"
  | notRecipeEntry => "recipe entry must be a name or a single-key mapping"
  | recipeDocument => "invalid recipe document: <detail>"
  | recipeDocumentType type => "unexpected recipe document type '" ++ type ++ "'"
  | unwritableRecipe name =>
    "cannot serialize recipe '" ++ name ++
      "': serializing nested enums in YAML is not supported yet"
  | unknownProvider name => "unknown provider '" ++ name ++ "'"
  | duplicateRule id => "duplicate ruleID '" ++ id ++ "'"

end Misconfiguration

/-- What is wrong with a rule, a query or a setup. -/
inductive Fault where
  | configuration (cause : Misconfiguration)
  | missingParameter (key query : String)
  | unsupportedScanner (text : String)
  | sequenceExhausted (rule : String)
  | invalidQuery (input : String) (cause : SyntaxFault)
deriving DecidableEq, Repr

namespace Fault

/-- The largest number of match ids that a rule can draw. -/
def maxSequence : Nat := 999

/-- The wording of a fault. -/
def message : Fault → String
  | configuration cause => "configuration error: " ++ cause.reason
  | missingParameter key query =>
    "query " ++ query ++ " is missing required parameter '" ++ key ++ "'"
  | unsupportedScanner text => "unsupported scanner type '" ++ text ++ "'"
  | sequenceExhausted rule =>
    "match id sequence exhausted for rule '" ++ rule ++ "' (maximum " ++ toString maxSequence ++ ")"
  | invalidQuery input cause => "invalid query '" ++ input ++ "': " ++ cause.reason

/-- The name of a fault's kind. -/
def kind : Fault → String
  | configuration _ => "Configuration"
  | missingParameter _ _ => "MissingParameter"
  | unsupportedScanner _ => "UnsupportedScannerType"
  | sequenceExhausted _ => "SequenceExhausted"
  | invalidQuery _ _ => "InvalidQuery"

end Fault

/-- The scanner that a text names. -/
def ScannerKind.parse (s : String) : Except Fault ScannerKind :=
  match named? s with
  | some kind => .ok kind
  | none => .error (.unsupportedScanner s)

/-- The provider that a text names, in any letter case and with blanks around it. -/
def ProviderKind.parse (s : String) : Except Fault ProviderKind :=
  let name := String.ofList ((Text.trim s.toList).map Char.toLower)
  match ofId? name with
  | some kind => .ok kind
  | none => .error (.configuration (.unknownProvider name))

end Uplift
