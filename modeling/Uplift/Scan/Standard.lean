import Uplift.Scan.Dependencies
import Uplift.Scan.FileSearch
import Uplift.Scan.RecipeSearch
import Uplift.Scan.Registry
import Uplift.Scan.SymbolSearch
/-! # The scanners that are built in -/

namespace Uplift.Scan

variable {σ : Type}

/-- The scanner of a kind. -/
def builtin (o : Outside σ) : ScannerKind → Scanner σ
  | .maven => Dependencies.scanner
  | .file => FileSearch.scanner
  | .jdtls => SymbolSearch.scanner o
  | .openRewrite => RecipeSearch.scanner o

/-- Every built-in scanner; the symbol search only if there is a server. -/
def Registry.standard (o : Outside σ) (server : Bool) : Registry σ :=
  Registry.ofList ((if server then [.maven, .file, .jdtls, .openRewrite]
    else [.maven, .file, .openRewrite] : List ScannerKind).map (builtin o))

end Uplift.Scan
