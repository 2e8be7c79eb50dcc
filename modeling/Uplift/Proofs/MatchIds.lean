import Mathlib
import Uplift.MatchIds

/-!
# Match ids of a run

One supply of match ids serves a whole run: any number of rules draw from it, look at their
counters and are forgotten, in any order.

* The number of an id is told by the history alone: it is how often its rule has drawn since it was
  last forgotten (`Counted.performAll`).
* The rule and the number can be told from the text of an id (`format_inj`), also if the id of one
  rule is the name of another.
* `performAll_numbered` has both for whole runs: until something is forgotten, no id is given twice,
  and the ids of a rule go up.
-/

namespace Uplift.MatchIds

/-! ## The text of an id -/

/-- The digits of a number below a thousand, with zeros before them. -/
def digits (n : Nat) : List Char :=
  [Nat.digitChar (n / 100), Nat.digitChar (n / 10 % 10), Nat.digitChar (n % 10)]

variable {ids : MatchIds} {rule other : String} {m n : Nat}

theorem threeDigits_eq (small : n ≤ Fault.maxSequence) :
    threeDigits n = String.ofList (digits n) := by
  have bound : n ≤ 999 := small
  -- The number has one, two or three digits of its own; zeros make up for the others.
  have own : List.replicate (3 - (Nat.toDigits 10 n).length) '0' ++ Nat.toDigits 10 n =
      digits n := by
    have first : Nat.digitChar 0 = '0' := rfl
    by_cases one : n < 10
    · have tens : n / 10 = 0 := Nat.div_eq_of_lt one
      have hundreds : n / 100 = 0 := Nat.div_eq_of_lt (by omega)
      simp [digits, Nat.toDigits_of_lt_base one, tens, hundreds, Nat.mod_eq_of_lt one, first]
    · have split := Nat.toDigits_of_base_le (by decide : 1 < 10) (Nat.le_of_not_lt one)
      by_cases two : n < 100
      · have tens : n / 10 < 10 := by omega
        have hundreds : n / 100 = 0 := Nat.div_eq_of_lt two
        rw [split, Nat.toDigits_of_lt_base tens]
        simp [digits, hundreds, Nat.mod_eq_of_lt tens, first]
      · have tens : 10 ≤ n / 10 := by omega
        have hundreds : n / 10 / 10 < 10 := by omega
        rw [split, Nat.toDigits_of_base_le (by decide) tens, Nat.toDigits_of_lt_base hundreds]
        simp [digits, Nat.div_div_eq_div_mul]
  simp only [threeDigits, own]

theorem toList_format (small : n ≤ Fault.maxSequence) :
    (format rule n).toList = rule.toList ++ '-' :: digits n := by
  simp [format, threeDigits_eq small]

theorem digitChar_inj (hm : m < 10) (hn : n < 10) (same : Nat.digitChar m = Nat.digitChar n) :
    m = n := by
  have codes := congrArg Char.toNat same
  rw [Nat.toNat_digitChar_of_lt_ten hm, Nat.toNat_digitChar_of_lt_ten hn] at codes
  omega

theorem digits_inj (hm : m ≤ Fault.maxSequence) (hn : n ≤ Fault.maxSequence)
    (same : digits m = digits n) : m = n := by
  have hm' : m ≤ 999 := hm
  have hn' : n ≤ 999 := hn
  simp only [digits, List.cons.injEq, and_true] at same
  obtain ⟨hundreds, tens, ones⟩ := same
  have hundreds := digitChar_inj (by omega) (by omega) hundreds
  have tens := digitChar_inj (by omega) (by omega) tens
  have ones := digitChar_inj (by omega) (by omega) ones
  omega

/-- An id tells its rule and its number: the number has a fixed length. -/
theorem format_inj (hm : m ≤ Fault.maxSequence) (hn : n ≤ Fault.maxSequence)
    (same : format rule m = format other n) : rule = other ∧ m = n := by
  have chars := congrArg String.toList same
  rw [toList_format hm, toList_format hn] at chars
  obtain ⟨rules, numbers⟩ := List.append_inj' chars rfl
  exact ⟨String.toList_inj.mp rules, digits_inj hm hn (List.cons.inj numbers).2⟩

theorem digitChar_lt (hn : n < 10) (less : m < n) : Nat.digitChar m < Nat.digitChar n := by
  have codes : (Nat.digitChar m).toNat < (Nat.digitChar n).toNat := by
    rw [Nat.toNat_digitChar_of_lt_ten hn, Nat.toNat_digitChar_of_lt_ten (less.trans hn)]
    omega
  exact codes

theorem digits_lt (hn : n ≤ Fault.maxSequence) (less : m < n) : digits m < digits n := by
  have hn' : n ≤ 999 := hn
  simp only [digits, List.cons_lt_cons_iff]
  -- The first digit that differs decides.
  by_cases hundreds : m / 100 < n / 100
  · exact .inl (digitChar_lt (by omega) hundreds)
  · have sameHundreds : m / 100 = n / 100 := by omega
    refine .inr ⟨congrArg _ sameHundreds, ?_⟩
    by_cases tens : m / 10 % 10 < n / 10 % 10
    · exact .inl (digitChar_lt (by omega) tens)
    · have sameTens : m / 10 % 10 = n / 10 % 10 := by omega
      exact .inr ⟨congrArg _ sameTens, .inl (digitChar_lt (by omega) (by omega))⟩

/-- Ids of one rule are ordered as their numbers are. -/
theorem format_lt (hn : n ≤ Fault.maxSequence) (less : m < n) : format rule m < format rule n := by
  rw [String.lt_iff_toList_lt, toList_format (less.le.trans hn), toList_format hn]
  exact List.append_left_lt (List.cons_lt_cons_iff.mpr (.inr ⟨rfl, digits_lt hn less⟩))

/-! ## One use -/

/-- One use of a supply of match ids. -/
inductive Use where
  | draw (rule : String)
  | current (rule : String)
  | reset (rule : String)
  | resetAll
deriving DecidableEq

/-- What a use answers. -/
inductive Answer where
  | id (text : String)
  | refused (fault : Fault)
  | count (n : Nat)
  | done
deriving DecidableEq

namespace Use

/-- The use is about the rule. -/
def concerns : Use → String → Prop
  | draw r, rule => r = rule
  | current r, rule => r = rule
  | reset r, rule => r = rule
  | resetAll, _ => True

/-- The use forgets the ids of a rule. -/
def forgets : Use → String → Bool
  | reset r, rule => r = rule
  | resetAll, _ => true
  | _, _ => false

end Use

/-- Carries out a use. -/
def perform (ids : MatchIds) : Use → Answer × MatchIds
  | .draw rule =>
    match ids.draw rule with
    | .ok (id, next) => (.id id, next)
    | .error f => (.refused f, ids)
  | .current rule => (.count (ids.current rule), ids)
  | .reset rule => (.done, ids.reset rule)
  | .resetAll => (.done, ids.resetAll)

/-- Carries out uses one after the other, and gives each with its answer. -/
def performAll (ids : MatchIds) : List Use → List (Use × Answer) × MatchIds
  | [] => ([], ids)
  | u :: rest =>
    let (answer, next) := ids.perform u
    let (history, last) := next.performAll rest
    ((u, answer) :: history, last)

@[simp] theorem current_reset (ids : MatchIds) (rule other : String) :
    (ids.reset rule).current other = if other = rule then 0 else ids.current other := by
  by_cases same : other = rule
  · subst same
    have gone : (ids.reset other).counters.lookup other = none := by
      rw [List.lookup_eq_none_iff]
      intro e member
      have kept : e.1 ≠ other := of_decide_eq_true (List.mem_filter.mp member).2
      exact bne_iff_ne.mpr (Ne.symm kept)
    simp [current, gone]
  · simp only [current, reset, if_neg same]
    rw [lookup_filter_ne rule other ids.counters same]

theorem current_resetAll (ids : MatchIds) (rule : String) : ids.resetAll.current rule = 0 := rfl

theorem perform_draw (room : ids.current rule < Fault.maxSequence) :
    ids.perform (.draw rule) =
      (.id (format rule (ids.current rule + 1)), ids.put rule (ids.current rule + 1)) := by
  simp [perform, draw, room]

theorem perform_draw_exhausted (full : Fault.maxSequence ≤ ids.current rule) :
    ids.perform (.draw rule) = (.refused (.sequenceExhausted rule), ids) := by
  simp [perform, draw, Nat.not_lt.mpr full]

/-- A use changes the counters of no other rules than those it is about. -/
theorem current_perform {u : Use} (foreign : ¬ u.concerns rule) :
    (ids.perform u).2.current rule = ids.current rule := by
  cases u with
  | draw r =>
    have other : rule ≠ r := fun same => foreign same.symm
    by_cases room : ids.current r < Fault.maxSequence
    · simp [perform_draw room, other]
    · simp [perform_draw_exhausted (Nat.le_of_not_lt room)]
  | current r => rfl
  | reset r =>
    have other : rule ≠ r := fun same => foreign same.symm
    simp [perform, other]
  | resetAll => exact absurd trivial foreign

/-! ## Histories -/

/-- A rule drew an id. -/
def isDrawOf (rule : String) : Use × Answer → Bool
  | (.draw r, .id _) => r = rule
  | _ => false

/-- How many ids a rule has drawn since it was last forgotten. -/
def drawnOf (history : List (Use × Answer)) (rule : String) : Nat :=
  (history.reverse.takeWhile fun e => !e.1.forgets rule).countP (isDrawOf rule)

/-- The counters are what a history says. -/
def Counted (history : List (Use × Answer)) (ids : MatchIds) : Prop :=
  ∀ rule, ids.current rule = drawnOf history rule

variable {history : List (Use × Answer)} {u : Use}

theorem drawnOf_append (history : List (Use × Answer)) (e : Use × Answer) (rule : String) :
    drawnOf (history ++ [e]) rule =
      if e.1.forgets rule then 0
      else drawnOf history rule + if isDrawOf rule e then 1 else 0 := by
  by_cases forgotten : e.1.forgets rule <;> by_cases drew : isDrawOf rule e <;>
    simp [drawnOf, forgotten, drew]

/-- One use keeps the counters in step with the history. -/
theorem Counted.perform (counted : Counted history ids) (u : Use) :
    Counted (history ++ [(u, (ids.perform u).1)]) (ids.perform u).2 := by
  intro rule
  rw [drawnOf_append]
  cases u with
  | draw r =>
    by_cases room : ids.current r < Fault.maxSequence
    · rw [perform_draw room]
      by_cases same : rule = r
      · subst same
        simp [Use.forgets, isDrawOf, counted rule]
      · simp [Use.forgets, isDrawOf, counted rule, same, Ne.symm same]
    · rw [perform_draw_exhausted (Nat.le_of_not_lt room)]
      simp [Use.forgets, isDrawOf, counted rule]
  | current r => simpa [Use.forgets, isDrawOf, MatchIds.perform] using counted rule
  | reset r =>
    by_cases same : rule = r
    · simp [Use.forgets, MatchIds.perform, same]
    · simp [Use.forgets, isDrawOf, MatchIds.perform, same, Ne.symm same, counted rule]
  | resetAll => simp [Use.forgets, MatchIds.perform, current_resetAll]

/-- The counters follow the history through a whole run. -/
theorem Counted.performAll (counted : Counted history ids) (uses : List Use) :
    Counted (history ++ (ids.performAll uses).1) (ids.performAll uses).2 := by
  induction uses generalizing history ids with
  | nil => simpa [MatchIds.performAll] using counted
  | cons u uses ih =>
    have further := ih (counted.perform u)
    rwa [List.append_assoc] at further

/-! ## The ids of a run -/

/-- The id that a rule drew, with the rule. -/
def issuedBy : Use × Answer → Option (String × String)
  | (.draw rule, .id text) => some (rule, text)
  | _ => none

/-- The ids that were drawn, each with its rule. -/
def issued (history : List (Use × Answer)) : List (String × String) := history.filterMap issuedBy

theorem issued_performAll_cons (ids : MatchIds) (u : Use) (uses : List Use) :
    issued (ids.performAll (u :: uses)).1 = (issuedBy (u, (ids.perform u).1)).toList ++
      issued ((ids.perform u).2.performAll uses).1 := by
  cases drawn : issuedBy (u, (ids.perform u).1) <;> simp [issued, performAll, drawn]

/-- Nothing is forgotten. -/
def Lasting (uses : List Use) : Prop := ∀ u ∈ uses, ∀ rule, u.forgets rule = false

/-- The id of a rule has a number above its counter. -/
def NumberedAbove (ids : MatchIds) (e : String × String) : Prop :=
  ∃ n, ids.current e.1 < n ∧ n ≤ Fault.maxSequence ∧ e.2 = format e.1 n

variable {e : String × String}

/-- An id that is drawn has the number after the counter, and the counter comes to that number. -/
theorem issuedBy_perform (drawn : issuedBy (u, (ids.perform u).1) = some e) :
    ids.current e.1 < Fault.maxSequence ∧ e.2 = format e.1 (ids.current e.1 + 1) ∧
      (ids.perform u).2.current e.1 = ids.current e.1 + 1 := by
  cases u with
  | draw rule =>
    by_cases room : ids.current rule < Fault.maxSequence
    · rw [perform_draw room] at drawn ⊢
      obtain rfl := Option.some.inj drawn
      exact ⟨room, rfl, by simp⟩
    · rw [perform_draw_exhausted (Nat.le_of_not_lt room)] at drawn
      cases drawn
  | current rule => cases drawn
  | reset rule => cases drawn
  | resetAll => cases drawn

/-- While nothing is forgotten, the counters only go up. -/
theorem current_le_perform (lasting : ∀ rule, u.forgets rule = false) (rule : String) :
    ids.current rule ≤ (ids.perform u).2.current rule := by
  cases u with
  | draw r =>
    by_cases room : ids.current r < Fault.maxSequence
    · rw [perform_draw room, current_put]
      split
      · next same =>
        subst same
        exact Nat.le_succ _
      · exact Nat.le_refl _
    · rw [perform_draw_exhausted (Nat.le_of_not_lt room)]
  | current r => exact Nat.le_refl _
  | reset r => simpa [Use.forgets] using lasting r
  | resetAll => simpa [Use.forgets] using lasting rule

theorem NumberedAbove.mono {next : MatchIds}
    (up : ∀ rule, ids.current rule ≤ next.current rule) (above : NumberedAbove next e) :
    NumberedAbove ids e := by
  obtain ⟨n, more, small, text⟩ := above
  exact ⟨n, (up e.1).trans_lt more, small, text⟩

/-- The ids that are drawn while nothing is forgotten have numbers above the counters. -/
theorem numberedAbove_of_issued {uses : List Use} (lasting : Lasting uses)
    (member : e ∈ issued (ids.performAll uses).1) : NumberedAbove ids e := by
  induction uses generalizing ids with
  | nil => cases member
  | cons u uses ih =>
    rw [issued_performAll_cons] at member
    rcases List.mem_append.mp member with first | later
    · obtain ⟨room, text, -⟩ := issuedBy_perform (Option.mem_toList.mp first)
      exact ⟨_, Nat.lt_succ_self _, room, text⟩
    · have above := ih (fun v among => lasting v (List.mem_cons_of_mem _ among)) later
      exact above.mono (current_le_perform (lasting u (List.mem_cons_self ..)))

/-- Of two ids, the second is another one, and a greater one if both are of one rule. -/
def Precedes (a b : String × String) : Prop := a.2 ≠ b.2 ∧ (a.1 = b.1 → a.2 < b.2)

/-- An id that is drawn precedes those with numbers above the counters after it. -/
theorem precedes_of_numberedAbove {later : String × String}
    (drawn : issuedBy (u, (ids.perform u).1) = some e)
    (above : NumberedAbove (ids.perform u).2 later) : Precedes e later := by
  obtain ⟨room, text, counter⟩ := issuedBy_perform drawn
  obtain ⟨n, more, small, text'⟩ := above
  constructor
  · intro same
    rw [text, text'] at same
    obtain ⟨sameRule, sameNumber⟩ := format_inj room small same
    rw [← sameRule, counter] at more
    omega
  · intro sameRule
    rw [← sameRule, counter] at more
    rw [text, text', ← sameRule]
    exact format_lt small more

theorem pairwise_issued {uses : List Use} (lasting : Lasting uses) :
    (issued (ids.performAll uses).1).Pairwise Precedes := by
  induction uses generalizing ids with
  | nil => exact List.Pairwise.nil
  | cons u uses ih =>
    have lasting' : Lasting uses := fun v among => lasting v (List.mem_cons_of_mem _ among)
    have rest : (issued ((ids.perform u).2.performAll uses).1).Pairwise Precedes := ih lasting'
    rw [issued_performAll_cons]
    cases drawn : issuedBy (u, (ids.perform u).1) with
    | none => exact rest
    | some e =>
      exact .cons (fun later member =>
        precedes_of_numberedAbove drawn (numberedAbove_of_issued lasting' member)) rest

/-- What a supply answers after a history. -/
structure Answers (history : List (Use × Answer)) (ids : MatchIds) : Prop where
  current : ∀ rule, ids.perform (.current rule) = (.count (drawnOf history rule), ids)
  /-- The next id is the rule, a dash and three digits. -/
  draw : ∀ rule, drawnOf history rule < 999 → (ids.perform (.draw rule)).1 =
    .id (rule ++ "-" ++ String.ofList (digits (drawnOf history rule + 1)))
  /-- After 999 ids there are no more, and nothing is changed. -/
  exhausted : ∀ rule, 999 ≤ drawnOf history rule →
    ids.perform (.draw rule) = (.refused (.sequenceExhausted rule), ids)
  foreign : ∀ u : Use, ∀ rule, ¬ u.concerns rule →
    (ids.perform u).2.current rule = ids.current rule

theorem Counted.answers (counted : Counted history ids) : Answers history ids where
  current rule := by rw [MatchIds.perform, counted rule]
  draw rule room := by
    rw [← counted rule] at room ⊢
    rw [perform_draw room, format, threeDigits_eq room]
  exhausted rule full := perform_draw_exhausted ((counted rule).symm ▸ full)
  foreign _ _ foreign := current_perform foreign

/-- After any uses of a new supply, the number of the next id is how often its rule has drawn since
it was last forgotten; and of what is drawn then, until something is forgotten again, no id is given
twice, and the ids of a rule go up. -/
theorem performAll_numbered (before stretch : List Use) (lasting : Lasting stretch) :
    let past := ({} : MatchIds).performAll before
    let ids := issued (past.2.performAll stretch).1
    Answers past.1 past.2 ∧ (ids.map (·.2)).Nodup ∧
      ∀ rule, ((ids.filter (·.1 = rule)).map (·.2)).Pairwise (· < ·) := by
  intro past ids
  have new : Counted [] {} := fun rule => rfl
  have pairwise : ids.Pairwise Precedes := pairwise_issued lasting
  refine ⟨(new.performAll before).answers, ?_, fun rule => ?_⟩
  · exact List.pairwise_map.mpr (pairwise.imp And.left)
  · rw [List.pairwise_map]
    refine (pairwise.filter _).imp_of_mem fun {a b} ha hb precedes => precedes.2 ?_
    have ruleA := (List.mem_filter.mp ha).2
    have ruleB := (List.mem_filter.mp hb).2
    exact (of_decide_eq_true ruleA).trans (of_decide_eq_true ruleB).symm

/-- Two rules, of which one has the name of the other's first id. -/
theorem performAll_numbered_sample :
    let past := ({} : MatchIds).performAll [.draw "a", .draw "b", .reset "a"]
    let stretch : List Use := [.draw "a", .draw "a-001", .current "a", .draw "a", .draw "a-001"]
    let ids := issued (past.2.performAll stretch).1
    ids = [("a", "a-001"), ("a-001", "a-001-001"), ("a", "a-002"), ("a-001", "a-001-002")] ∧
      Lasting stretch ∧ Answers past.1 past.2 ∧ (ids.map (·.2)).Nodup ∧
      ∀ rule, ((ids.filter (·.1 = rule)).map (·.2)).Pairwise (· < ·) := by
  intro past stretch ids
  have lasting : Lasting stretch := by simp [stretch, Lasting, Use.forgets]
  exact ⟨by decide, lasting, performAll_numbered [.draw "a", .draw "b", .reset "a"] stretch lasting⟩

end Uplift.MatchIds
