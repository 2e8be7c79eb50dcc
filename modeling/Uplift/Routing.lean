import Uplift.Fault
import Uplift.Value.Decode
/-! # Routing

Which scanner answers which queries: one entry for each key that is known, and perhaps one for all
the others.
-/

namespace Uplift

/-- Where a query goes, and what it looks for there. -/
structure Route where
  scanner : ScannerKind
  shape : Shape
  description : String := ""
deriving DecidableEq, Repr

/-- The routes by query key. -/
structure RoutingTable where
  entries : List (String × Route) := []
  fallback : Option Route := none
deriving DecidableEq, Repr

namespace RoutingTable

/-- The routes that hold where nothing else is configured. -/
def builtin : RoutingTable where
  entries :=
    [("java.annotation", ⟨.openRewrite, .annotationUse, "Find annotation usages"⟩),
      ("java.method", ⟨.openRewrite, .method, "Find method declarations and calls"⟩),
      ("java.class", ⟨.jdtls, .classDecl, "Find class declarations"⟩),
      ("pom.dependency", ⟨.maven, .dependency, "Find declared Maven dependencies"⟩),
      ("file.name", ⟨.file, .file, "Find files by name"⟩),
      ("file.content", ⟨.file, .content, "Find lines matching a pattern"⟩)]
  fallback := some ⟨.jdtls, .symbol, "Java symbol lookup"⟩

/-- The route of a query. -/
def resolve (t : RoutingTable) (kind symbol : String) : Except Fault Route :=
  let key := kind ++ "." ++ symbol
  match (t.entries.lookup key).or t.fallback with
  | some r => .ok r
  | none => .error (.configuration (.noRoute key))

/-- Every route of a table. -/
def routes (t : RoutingTable) : List Route := t.entries.map (·.2) ++ t.fallback.toList

end RoutingTable

namespace Route

/-- Reads a route. -/
def decode : Decoder Route := fun v => do
  let r ← Record.of? .json ["scanner", "shape", "description"] v
  some ⟨← r.required "scanner" (Decoder.name ScannerKind.ofId?),
    ← r.required "shape" (Decoder.name Shape.ofId?), ← r.withDefault "description" "" Decoder.text⟩

/-- A route as a document value. -/
def encode (r : Route) : Value :=
  .record [("scanner", .str r.scanner.id), ("shape", .str r.shape.id),
    ("description", .str r.description)]

end Route

namespace RoutingTable

/-- Reads a table; of equal keys the last stays. -/
def decode : Decoder RoutingTable := fun v => do
  let r ← Record.of? .json ["entries", "default"] v
  let entries ← r.withDefault "entries" [] (Decoder.entries Route.decode)
  let fallback ← r.optional "default" Route.decode
  let distinct := entries.foldl (fun acc (k, e) => (k, e) :: acc.filter (·.1 ≠ k)) []
  some ⟨distinct.reverse, fallback⟩

/-- A table as a document value. -/
def encode (t : RoutingTable) : Value :=
  .record [("entries", .record (t.entries.map fun (k, r) => (k, r.encode))),
    ("default", (t.fallback.map Route.encode).getD .null)]

end RoutingTable

end Uplift
