import Uplift.Scan.Scanner
/-! # Registries of scanners

The scanners that are at hand, one of each kind, in the order in which their kinds came first.

* `Registry.insert` replaces a scanner of the same kind in place.
* `Registry.resolve` finds the scanner of a query: the configured one if it can answer, else the
  first other that can.
-/

namespace Uplift.Scan

/-- The scanners that are at hand. -/
structure Registry (σ : Type) where
  scanners : List (Scanner σ) := []

namespace Registry

variable {σ : Type}

/-- Puts a scanner in place of one of its kind, or at the end. -/
def insertInto (s : Scanner σ) : List (Scanner σ) → List (Scanner σ)
  | [] => [s]
  | x :: rest => if x.kind = s.kind then s :: rest else x :: insertInto s rest

/-- The registry with a scanner more, or another one of its kind. -/
def insert (r : Registry σ) (s : Scanner σ) : Registry σ := ⟨insertInto s r.scanners⟩

/-- A registry of scanners that come one after the other. -/
def ofList (ss : List (Scanner σ)) : Registry σ := ss.foldl insert {}

/-- The kinds, in order. -/
def kinds (r : Registry σ) : List ScannerKind := r.scanners.map (·.kind)

/-- The scanner of a kind. -/
def get? (r : Registry σ) (kind : ScannerKind) : Option (Scanner σ) :=
  r.scanners.find? (·.kind = kind)

/-- The scanner of a kind that must be there. -/
def get (r : Registry σ) (kind : ScannerKind) : Except Fault (Scanner σ) :=
  match r.get? kind with
  | some s => .ok s
  | none => .error (.unsupportedScanner kind.id)

/-- Why the configured scanner does not answer, if it does not. -/
def skipped (r : Registry σ) (configured : ScannerKind) : Skipped :=
  if (r.get? configured).isSome then .incapable configured else .unregistered configured

/-- The first scanner, not of the given kind, that can answer. -/
def other? (r : Registry σ) (q : Query) (but : Option ScannerKind) : Option (Scanner σ) :=
  r.scanners.find? fun s => some s.kind ≠ but && s.supports q

/-- The scanner of a query. -/
def resolve (r : Registry σ) (q : Query) (configured : Option ScannerKind) :
    Except ScanError (Scanner σ) :=
  match (configured.bind r.get?).filter (·.supports q) with
  | some s => .ok s
  | none =>
    match r.other? q configured with
    | some s => .ok s
    | none => .error (.noScanner q.text (configured.map r.skipped) r.kinds)

end Registry

end Uplift.Scan
