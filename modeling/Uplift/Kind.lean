import Uplift.Text.Blank
/-! # Kinds

The names by which rules and configurations choose a scanner, the shape of what a query looks for,
and a provider of migrations.
-/

namespace Uplift

/-- The back end that answers a query. -/
inductive ScannerKind where
  | openRewrite | jdtls | maven | file
deriving DecidableEq, Repr, Inhabited

namespace ScannerKind

/-- The name in rules and configurations. -/
def id : ScannerKind → String
  | openRewrite => "openrewrite"
  | jdtls => "jdtls"
  | maven => "maven"
  | file => "file"

/-- The name in listings. -/
def label : ScannerKind → String
  | openRewrite => "OpenRewrite"
  | jdtls => "Jdtls"
  | maven => "Maven"
  | file => "File"

/-- Every kind. -/
def all : List ScannerKind := [openRewrite, jdtls, maven, file]

/-- The kind with exactly this name. -/
def ofId? (s : String) : Option ScannerKind := all.find? (·.id = s)

/-- The kind that a text names, in any letter case and with blanks around it. -/
def named? (s : String) : Option ScannerKind := all.find? (Text.sameAscii ·.id (Text.trimmed s))

end ScannerKind

/-- What a query looks for. -/
inductive Shape where
  | annotationUse | method | classDecl | symbol | dependency | file | content
deriving DecidableEq, Repr, Inhabited

namespace Shape

/-- The name in configurations. -/
def id : Shape → String
  | annotationUse => "annotation"
  | method => "method"
  | classDecl => "class"
  | symbol => "symbol"
  | dependency => "dependency"
  | file => "file"
  | content => "content"

/-- Every shape. -/
def all : List Shape := [annotationUse, method, classDecl, symbol, dependency, file, content]

/-- The shape with exactly this name. -/
def ofId? (s : String) : Option Shape := all.find? (·.id = s)

end Shape

/-- Who carries a migration out. -/
inductive ProviderKind where
  | openRewrite | ai | manual
deriving DecidableEq, Repr, Inhabited

namespace ProviderKind

/-- The name in rules and configurations. -/
def id : ProviderKind → String
  | openRewrite => "openrewrite"
  | ai => "ai"
  | manual => "manual"

/-- Every kind. -/
def all : List ProviderKind := [openRewrite, ai, manual]

/-- The kind with exactly this name. -/
def ofId? (s : String) : Option ProviderKind := all.find? (·.id = s)

end ProviderKind

end Uplift
