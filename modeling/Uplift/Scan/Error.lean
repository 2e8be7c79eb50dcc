import Uplift.Mapping
import Uplift.Files.Tree
/-! # Errors of scans

Each error is a cause; the wording is in `ScanError.message`. Only a file that cannot be read leaves
the rest of a scan usable.
-/

namespace Uplift.Scan

/-- A state that a scanner should never meet. -/
inductive StateFault where
  | notDirectory (path : String)
  | foreignRequest (scanner : ScannerKind)
  | noMatchId (recipe : String)
  | noFilePattern
  | noLocationCode (symbol : String)
deriving DecidableEq, Repr

/-- The wording of a cause. -/
def StateFault.reason : StateFault → String
  | notDirectory path => "project root is not a directory: " ++ path
  | foreignRequest scanner => scanner.id ++ " scanner cannot execute a request of another scanner"
  | noMatchId recipe => "recipe " ++ recipe ++ " has no match id"
  | noFilePattern => "file query has neither a name nor a content pattern"
  | noLocationCode symbol => "symbol '" ++ symbol ++ "' has no location code on the symbol server"

/-- Why the configured scanner does not serve a query. -/
inductive Skipped where
  | incapable (kind : ScannerKind)
  | unregistered (kind : ScannerKind)
deriving DecidableEq, Repr

/-- The wording of a cause. -/
def Skipped.reason : Skipped → String
  | incapable kind => "configured scanner " ++ kind.id ++ " does not support it"
  | unregistered kind => "configured scanner " ++ kind.id ++ " is not registered"

/-- What went wrong between a client and a symbol server. -/
inductive ServerFault where
  | streamNotUtf8
  | streamTooShort
  | io (cause : String)
  | closed
  | badHeader (line : String)
  | noLength
  | tooLong (length : Nat)
  | badMessage
  | badResponse
  | refused (method : String) (code : Int) (message : String)
  | noResponse (method : String) (limit : Nat)
  | noCommand
  | reported (text : String)
deriving DecidableEq, Repr

/-- The wording of a cause. -/
def ServerFault.reason : ServerFault → String
  | streamNotUtf8 => "transport failed: stream did not contain valid UTF-8"
  | streamTooShort => "transport failed: failed to fill whole buffer"
  | io cause => "transport failed: " ++ cause
  | closed => "connection closed while reading headers"
  | badHeader line => "invalid header '" ++ line ++ "'"
  | tooLong length => "no memory for " ++ toString length ++ " bytes"
  | noLength => "missing Content-Length header"
  | badMessage => "invalid message: <detail>"
  | badResponse => "unexpected response: <detail>"
  | refused method code message => method ++ " failed (" ++ toString code ++ "): " ++ message
  | noResponse method limit =>
    "no response to " ++ method ++ " after " ++ toString limit ++ " messages"
  | noCommand => "no symbol server command configured"
  | reported text => text

/-- Why a data table cannot be used. -/
inductive TableFault where
  | unclosedQuote
deriving DecidableEq, Repr

/-- The wording of a cause. -/
def TableFault.reason : TableFault → String
  | unclosedQuote => "unterminated quoted field"

end Scan

/-- Why a scan failed. -/
inductive ScanError where
  | fault (cause : Fault)
  | noScanner (query : String) (skipped : Option Scan.Skipped) (registered : List ScannerKind)
  | state (cause : Scan.StateFault)
  | spawn (program cause : String)
  | exited (program : String) (status : Int) (lines : List String)
  | timeout (program : String) (seconds : Nat) (lines : List String)
  | table (path : String) (cause : Scan.TableFault)
  | server (cause : Scan.ServerFault)
  | walk
  | read (path : String) (cause : Files.FileError)
  | write (path : String) (cause : Files.FileError)
  | pattern (text : String)
  | nonUtf8Path (path : String)
deriving DecidableEq, Repr

namespace ScanError

/-- Names in a listing. -/
def listing (kinds : List ScannerKind) : String :=
  "(registered: [" ++ ", ".intercalate (kinds.map ScannerKind.id) ++ "])"

/-- The wording of an error. -/
def message : ScanError → String
  | fault cause => cause.message
  | noScanner query (some skipped) registered =>
    "no scanner available for " ++ query ++ ": " ++ skipped.reason ++ "; no other scanner does " ++
      listing registered
  | noScanner query none registered =>
    "no scanner available for " ++ query ++ ": no registered scanner supports it " ++
      listing registered
  | state cause => "illegal state: " ++ cause.reason
  | spawn program cause => "failed to start " ++ program ++ ": " ++ cause
  | exited program status _ => program ++ " exited with status " ++ toString status
  | timeout program seconds _ => program ++ " timed out after " ++ toString seconds ++ "s"
  | table path cause => "invalid report " ++ path ++ ": " ++ cause.reason
  | server cause => "symbol server error: " ++ cause.reason
  | walk => "failed to walk directory: <detail>"
  | read path cause => "failed to read file " ++ path ++ ": " ++ cause.message
  | write path cause => "failed to write " ++ path ++ ": " ++ cause.message
  | pattern text => "invalid pattern '" ++ text ++ "': <detail>"
  | nonUtf8Path path => "path is not valid UTF-8: " ++ Files.shown path

/-- The name of an error's kind. -/
def kind : ScanError → String
  | fault cause => cause.kind
  | noScanner _ _ _ => "NoScannerAvailable"
  | state _ => "IllegalState"
  | spawn _ _ => "Spawn"
  | exited _ _ _ => "Tool"
  | timeout _ _ _ => "Timeout"
  | table _ _ => "Report"
  | server _ => "SymbolServer"
  | walk => "Walk"
  | read _ _ => "Read"
  | write _ _ => "Write"
  | pattern _ => "InvalidPattern"
  | nonUtf8Path _ => "NonUtf8Path"

/-- Nothing more can be scanned. -/
def isFatal : ScanError → Bool
  | read _ _ => false
  | _ => true

/-- The lines that an outside program printed before the error. -/
def output : ScanError → List String
  | exited _ _ lines => lines
  | timeout _ _ lines => lines
  | _ => []

end ScanError

end Uplift
