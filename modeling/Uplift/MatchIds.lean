import Uplift.Fault
/-! # Match ids

Every search that an external tool carries out gets an id of its own: the rule's id, a dash and a
number of three digits, counted from one for each rule up to 999.

* `MatchIds.draw` counts up; a draw that fails leaves the counters as they are.
* `current_put`: what setting one rule's counter does to each counter.
-/

namespace Uplift

/-- How many ids each rule has drawn. -/
structure MatchIds where
  counters : List (String × Nat) := []
deriving Repr, DecidableEq, Inhabited

namespace MatchIds

/-- How many ids a rule has drawn. -/
def current (ids : MatchIds) (rule : String) : Nat := (ids.counters.lookup rule).getD 0

/-- Forgets a rule's ids. -/
def reset (ids : MatchIds) (rule : String) : MatchIds :=
  ⟨ids.counters.filter (·.1 ≠ rule)⟩

/-- Forgets all ids. -/
def resetAll (_ : MatchIds) : MatchIds := ⟨[]⟩

/-- Sets a rule's counter. -/
def put (ids : MatchIds) (rule : String) (n : Nat) : MatchIds :=
  ⟨(rule, n) :: ids.counters.filter (·.1 ≠ rule)⟩

/-- A number with zeros before it, up to three digits. -/
def threeDigits (n : Nat) : String :=
  let ds := Nat.toDigits 10 n
  String.ofList (List.replicate (3 - ds.length) '0' ++ ds)

/-- The id with a given number. -/
def format (rule : String) (n : Nat) : String := rule ++ "-" ++ threeDigits n

/-- Draws the next id of a rule. -/
def draw (ids : MatchIds) (rule : String) : Except Fault (String × MatchIds) :=
  let n := ids.current rule
  if n < Fault.maxSequence then .ok (format rule (n + 1), ids.put rule (n + 1))
  else .error (.sequenceExhausted rule)

theorem lookup_filter_ne (rule other : String) (cs : List (String × Nat)) (h : other ≠ rule) :
    (cs.filter (·.1 ≠ rule)).lookup other = cs.lookup other := by
  induction cs with
  | nil => rfl
  | cons c cs ih =>
    obtain ⟨k, n⟩ := c
    by_cases hk : k = rule
    · subst hk
      simpa [List.lookup_cons, beq_eq_false_iff_ne.2 h] using ih
    · by_cases ho : other = k
      · subst ho
        simp [hk]
      · simpa [hk, List.lookup_cons, beq_eq_false_iff_ne.2 ho] using ih

@[simp] theorem current_put (ids : MatchIds) (rule other : String) (n : Nat) :
    (ids.put rule n).current other = if other = rule then n else ids.current other := by
  by_cases h : other = rule
  · subst h
    simp [current, put]
  · simp only [current, put, List.lookup_cons, beq_eq_false_iff_ne.2 h, if_neg h]
    rw [lookup_filter_ne rule other ids.counters h]

end MatchIds

end Uplift
