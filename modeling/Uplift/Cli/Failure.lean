import Uplift.Scan.Error
import Uplift.SetupError
/-! # Failures of commands

A failed command explains itself by a chain of messages, from what was attempted to what went wrong
in the end.

* `Failure.chain` is that chain.
-/

namespace Uplift

/-- The messages of an error and of what is behind it. -/
def SetupError.chain (e : SetupError) : List String :=
  match e with
  | .io _ cause => [e.message, cause.message]
  | e => [e.message]

/-- The messages of an error and of what is behind it. -/
def ScanError.chain (e : ScanError) : List String :=
  match e with
  | .spawn _ cause => [e.message, cause]
  | .read _ cause => [e.message, cause.message]
  | .write _ cause => [e.message, cause.message]
  | e => [e.message]

namespace Cli

/-- Why a command failed. -/
inductive Failure where
  | config (path : String) (e : SetupError)
  | notDirectory (path : String)
  | rules (path : String) (e : SetupError)
  | server (e : ScanError)
  | service (e : ScanError)
  | report (path : String) (e : SetupError)
  | transformations (count : Nat)
deriving DecidableEq, Repr

/-- The messages of a failure. -/
def Failure.chain : Failure → List String
  | config path e => ("Failed to load configuration " ++ path) :: e.chain
  | notDirectory path => ["Project path is not a directory: " ++ path]
  | rules path e => ("Failed to load rules from " ++ path) :: e.chain
  | server e => "Failed to start the symbol server" :: e.chain
  | service e => ["Failed to create scanner service: " ++ e.message]
  | report path e => ("Failed to write report " ++ path) :: e.chain
  | transformations count => [toString count ++ " rule(s) failed to transform"]

end Cli

end Uplift
