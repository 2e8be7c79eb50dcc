import Uplift.Fault
import Uplift.Files.Tree
/-! # Errors of migrations

Each error is a cause; the wording is in `ProviderError.message`. A conversation with an assistant
survives a refused tool call and a file that cannot be used; everything else ends a task.
-/

namespace Uplift.Migration

/-- Why a tool call was refused. -/
inductive ToolFault where
  | emptyPath
  | outside (path : String)
  | unread (path : String)
  | missingArgument (tool key : String)
  | unknownTool (name : String)
deriving DecidableEq, Repr

/-- The wording of a cause. -/
def ToolFault.reason : ToolFault → String
  | emptyPath => "empty path"
  | outside path => "path escapes the project: " ++ path
  | unread path => "read " ++ path ++ " with read_file before writing it"
  | missingArgument tool key => tool ++ " requires a '" ++ key ++ "' string argument"
  | unknownTool name => "unknown tool '" ++ name ++ "'"

/-- What an assistant did wrong. -/
inductive AssistantFault where
  | noCommand
  | silent
  | unexpected (line : String)
  | noFinalReply (calls : Nat)
  | reported (text : String)
deriving DecidableEq, Repr

/-- The wording of a cause. -/
def AssistantFault.reason : AssistantFault → String
  | noCommand => "no assistant command configured"
  | silent => "assistant closed its output without replying"
  | unexpected line => "unexpected reply '" ++ line ++ "': <detail>"
  | noFinalReply calls => "no final reply after " ++ toString calls ++ " tool calls"
  | reported text => text

/-- Why a task, or a step of it, failed. -/
inductive ProviderError where
  | notRegistered (kind : ProviderKind)
  | noConsole
  | spawn (program cause : String)
  | io (path : String) (cause : Files.FileError)
  | timeout (what : String) (seconds : Nat) (lines : List String)
  | assistant (cause : AssistantFault)
  | toolCall (cause : ToolFault)
  | recipeDocument (cause : Fault)
deriving DecidableEq, Repr

namespace ProviderError

/-- The wording of an error. -/
def message : ProviderError → String
  | notRegistered kind => "no provider registered for '" ++ kind.id ++ "'"
  | noConsole => "no interactive console available; the AI provider cannot run unattended"
  | spawn program cause => "failed to start " ++ program ++ ": " ++ cause
  | io path cause => "failed to access " ++ path ++ ": " ++ cause.message
  | timeout what seconds _ => what ++ " timed out after " ++ toString seconds ++ "s"
  | assistant cause => "assistant error: " ++ cause.reason
  | toolCall cause => "rejected tool call: " ++ cause.reason
  | recipeDocument cause => "invalid recipe document: " ++ cause.message

/-- The name of an error's kind. -/
def kind : ProviderError → String
  | notRegistered _ => "NotRegistered"
  | noConsole => "ConsoleUnavailable"
  | spawn _ _ => "Spawn"
  | io _ _ => "Io"
  | timeout _ _ _ => "Timeout"
  | assistant _ => "Assistant"
  | toolCall _ => "ToolCall"
  | recipeDocument _ => "RecipeDocument"

/-- A conversation can go on after the error. -/
def isRecoverable : ProviderError → Bool
  | toolCall _ => true
  | io _ _ => true
  | _ => false

/-- The lines that were printed before the time was up. -/
def output : ProviderError → List String
  | timeout _ _ lines => lines
  | _ => []

end ProviderError

end Uplift.Migration
