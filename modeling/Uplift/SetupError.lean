import Uplift.Fault
import Uplift.Files.Tree
/-! # Errors of configurations, catalogs and reports

The wording of what a parser found is not kept; it is shown as `<detail>`.
-/

namespace Uplift

/-- Why an option has no valid value. -/
inductive OptionFault where
  | empty
  | emptyProgram
  | notPositive
deriving DecidableEq, Repr

/-- The wording of a cause. -/
def OptionFault.reason : OptionFault → String
  | empty => "must not be empty"
  | emptyProgram => "program must not be empty"
  | notPositive => "must be positive"

/-- Why a configuration, a catalog or a report could not be read or written. -/
inductive SetupError where
  | notFileOrDir (path : String)
  | option (name : String) (cause : OptionFault)
  | io (path : String) (cause : Files.FileError)
  | json
  | yaml (path : String)
  | rule (fault : Fault)
deriving DecidableEq, Repr

namespace SetupError

/-- The wording of an error. -/
def message : SetupError → String
  | notFileOrDir path => "invalid path '" ++ path ++ "': not a file or directory"
  | option name cause => "invalid configuration option '" ++ name ++ "': " ++ cause.reason
  | io path cause => "failed to read " ++ path ++ ": " ++ cause.message
  | json => "failed to parse configuration: <detail>"
  | yaml path => "failed to parse rules in " ++ path ++ ": <detail>"
  | rule fault => fault.message

/-- The name of an error's kind. -/
def kind : SetupError → String
  | notFileOrDir _ => "InvalidPath"
  | option _ _ => "InvalidOption"
  | io _ _ => "Io"
  | json => "Json"
  | yaml _ => "Yaml"
  | rule _ => "Rule"

end SetupError

end Uplift
