import Uplift.Fault
/-! # Queries

A query asks for a symbol of a resource kind, with parameters. The parameters are a map in the order
of first insertion.

* `Query.set` replaces in place or appends; `Query.param?` finds the first entry under a key.
-/

namespace Uplift

/-- What to look for. -/
structure Query where
  kind : String
  symbol : String
  params : List (String × String) := []
deriving DecidableEq, Repr, Inhabited

namespace Query

/-- A query without parameters. -/
def of (kind symbol : String) : Query := ⟨kind, symbol, []⟩

/-- Puts a value under a key: in place of the one that is there, or at the end. -/
def setIn (key value : String) : List (String × String) → List (String × String)
  | [] => [(key, value)]
  | (k, v) :: rest => if k = key then (k, value) :: rest else (k, v) :: setIn key value rest

/-- The query with a parameter set. -/
def set (q : Query) (key value : String) : Query := { q with params := setIn key value q.params }

/-- The query with parameters set one after the other. -/
def setAll (q : Query) (params : List (String × String)) : Query :=
  params.foldl (fun q (k, v) => q.set k v) q

/-- The value of a parameter. -/
def param? (q : Query) (key : String) : Option String := q.params.lookup key

/-- The kind and the symbol. -/
def key (q : Query) : String := q.kind ++ "." ++ q.symbol

/-- The value of a parameter that must be there. -/
def require (q : Query) (key : String) : Except Fault String :=
  match q.param? key with
  | some v => .ok v
  | none => .error (.missingParameter key q.key)

/-- The query asks for this symbol of this kind. -/
def asks (q : Query) (kind symbol : String) : Bool := q.kind = kind && q.symbol = symbol

/-- The text of a query. -/
def text (q : Query) : String :=
  q.key ++ " is (" ++ ", ".intercalate (q.params.map fun (k, v) => k ++ "='" ++ v ++ "'") ++ ")"

theorem lookup_setIn (key value k : String) (ps : List (String × String)) :
    (setIn key value ps).lookup k = if k = key then some value else ps.lookup k := by
  induction ps with
  | nil =>
    by_cases h : k = key
    · simp [setIn, h]
    · simp [setIn, List.lookup_cons, h, beq_eq_false_iff_ne.2 h]
  | cons p ps ih =>
    obtain ⟨l, v⟩ := p
    by_cases h : l = key
    · subst h
      by_cases hk : k = l
      · simp [setIn, hk]
      · simp [setIn, List.lookup_cons, hk, beq_eq_false_iff_ne.2 hk]
    · by_cases hk : k = l
      · subst hk
        simp [setIn, h]
      · simp [setIn, h, List.lookup_cons, beq_eq_false_iff_ne.2 hk, ih]

@[simp] theorem param?_set (q : Query) (key value k : String) :
    (q.set key value).param? k = if k = key then some value else q.param? k :=
  lookup_setIn key value k q.params

@[simp] theorem kind_set (q : Query) (key value : String) : (q.set key value).kind = q.kind := rfl

@[simp] theorem symbol_set (q : Query) (key value : String) :
    (q.set key value).symbol = q.symbol := rfl

end Query

end Uplift
