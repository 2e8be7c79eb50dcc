import Uplift.Query
/-! # Conditions

A rule's condition: one query, all of several, or any of several.
-/

namespace Uplift

/-- When a rule applies. -/
inductive Condition where
  | one (query : Query)
  | all (queries : List Query)
  | any (queries : List Query)
deriving DecidableEq, Repr

namespace Condition

/-- The queries of a condition, in order. -/
def queries : Condition → List Query
  | one q => [q]
  | all qs | any qs => qs

end Condition

/-- How the terms of a condition are joined. -/
inductive Connective where
  | and | or
deriving DecidableEq, Repr

namespace Connective

/-- The word in lower case. -/
def word : Connective → List Char
  | and => ['a', 'n', 'd']
  | or => ['o', 'r']

/-- The condition that joins queries. -/
def join : Connective → List Query → Condition
  | and => .all
  | or => .any

end Connective

end Uplift
