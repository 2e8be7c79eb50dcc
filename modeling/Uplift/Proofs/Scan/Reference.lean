import Uplift.Proofs.Except
import Uplift.Scan.Service

/-!
# What the scan of a rule means

The reference semantics of a rule's scan, as relations between the world before it, the queries that
are asked, the result, and the world after it. Nothing is assumed of the answers: each may depend on
the world and change it, and each may be a failure.

* `Asks`: queries that are asked in order and answered.
* `Finds`: what a condition finds.
* `Scans`: what the scan of a rule gives.

The evaluation gives what the relations say (`Finds.run`, `Scans.run`), they leave no case out
(`exists_finds`, `exists_scans`), and the queries that they list are the ones that are asked
(`Scans.logged`).
-/

namespace Uplift.RuleScan

section Relations

variable {ε ω : Type}

/-- Queries are asked in order, and each answer lets the asking go on. -/
inductive Asks (ask : Query → ExceptT ε (StateM ω) (List Match)) (goes : List Match → Prop) :
    ω → List Query → List (List Match) → ω → Prop
  | nil {w} : Asks ask goes w [] [] w
  | cons {q qs found founds w₀ w₁ w₂} : ask q w₀ = (.ok found, w₁) → goes found →
      Asks ask goes w₁ qs founds w₂ → Asks ask goes w₀ (q :: qs) (found :: founds) w₂

/-- What a condition finds: `Finds ask c w asked result w'` says that, in the world `w`, the queries
`asked` are asked in this order, with this result, and the world is `w'` after them. -/
inductive Finds (ask : Query → ExceptT ε (StateM ω) (List Match)) :
    Condition → ω → List Query → Except ε (List Match) → ω → Prop
  | one {q w result w'} : ask q w = (result, w') → Finds ask (.one q) w [q] result w'
  /-- All parts find something. -/
  | all {qs w founds w'} : Asks ask (· ≠ []) w qs founds w' →
      Finds ask (.all qs) w qs (.ok founds.flatten) w'
  /-- A part finds nothing, and those after it are not asked. -/
  | allEmpty {before q after w founds w₁ w₂} : Asks ask (· ≠ []) w before founds w₁ →
      ask q w₁ = (.ok [], w₂) →
      Finds ask (.all (before ++ q :: after)) w (before ++ [q]) (.ok []) w₂
  | allFails {before q after w founds w₁ w₂ e} : Asks ask (· ≠ []) w before founds w₁ →
      ask q w₁ = (.error e, w₂) →
      Finds ask (.all (before ++ q :: after)) w (before ++ [q]) (.error e) w₂
  | any {qs w founds w'} : Asks ask (fun _ => True) w qs founds w' →
      Finds ask (.any qs) w qs (.ok founds.flatten) w'
  | anyFails {before q after w founds w₁ w₂ e} : Asks ask (fun _ => True) w before founds w₁ →
      ask q w₁ = (.error e, w₂) →
      Finds ask (.any (before ++ q :: after)) w (before ++ [q]) (.error e) w₂

/-- A rule's precondition lets its condition be looked at, in the world `start`. -/
inductive Opens (ask : Query → ExceptT ε (StateM ω) (List Match)) (r : Rule) (w : ω) :
    List Query → PreconditionStatus → ω → Prop
  | undeclared : r.preconditionQuery = .ok none → Opens ask r w [] .notDeclared w
  | satisfied {p found start} : r.preconditionQuery = .ok (some p) →
      ask p w = (.ok found, start) → (∃ x ∈ found, x.isSentinel = false) →
      Opens ask r w [p] .satisfied start

/-- What the scan of a rule gives. -/
inductive Scans (ask : Query → ExceptT ScanError (StateM ω) (List Match)) (r : Rule) (w : ω) :
    List Query → Except ScanError RuleScan → ω → Prop
  | badCondition {f} : r.query = .error f → Scans ask r w [] (.error (.fault f)) w
  | badPrecondition {c f} : r.query = .ok c → r.preconditionQuery = .error f →
      Scans ask r w [] (.error (.fault f)) w
  | preconditionFails {c p e w'} : r.query = .ok c → r.preconditionQuery = .ok (some p) →
      ask p w = (.error e, w') → Scans ask r w [p] (.error e) w'
  | notSatisfied {c p found w'} : r.query = .ok c → r.preconditionQuery = .ok (some p) →
      ask p w = (.ok found, w') → (∀ x ∈ found, x.isSentinel = true) →
      Scans ask r w [p] (.ok ⟨r.id, .notSatisfied, []⟩) w'
  | evaluated {c before status start asked result w'} : r.query = .ok c →
      Opens ask r w before status start → Finds ask c start asked result w' →
      Scans ask r w (before ++ asked) (result.map fun found => ⟨r.id, status, found⟩) w'

end Relations

/-! ## Runs of the evaluation -/

section Runs

variable {ε ω α β : Type} {ask : Query → ExceptT ε (StateM ω) (List Match)}

/-- One computation after another, in a world. -/
theorem bind_run (x : ExceptT ε (StateM ω) α) (f : α → ExceptT ε (StateM ω) β) (w : ω) :
    (x >>= f) w = match x w with
      | (.ok a, w') => f a w'
      | (.error e, w') => (.error e, w') := by
  change (match x w with | (a, w') => ExceptT.bindCont f a w') = _
  rcases x w with ⟨a | a, w'⟩ <;> rfl

theorem bind_run_ok {x : ExceptT ε (StateM ω) α} {w w' : ω} {a : α}
    (ran : x w = (.ok a, w')) (f : α → ExceptT ε (StateM ω) β) : (x >>= f) w = f a w' := by
  rw [bind_run, ran]

theorem bind_run_error {x : ExceptT ε (StateM ω) α} {w w' : ω} {e : ε}
    (ran : x w = (.error e, w')) (f : α → ExceptT ε (StateM ω) β) :
    (x >>= f) w = (.error e, w') := by
  rw [bind_run, ran]

/-- Parts that find something are added up. -/
theorem evalAll_append {w w' : ω} {qs : List Query} {founds : List (List Match)}
    (asks : Asks ask (· ≠ []) w qs founds w') (sofar : List Match) (rest : List Query) :
    evalAll ask sofar (qs ++ rest) w = evalAll ask (sofar ++ founds.flatten) rest w' := by
  induction asks generalizing sofar with
  | nil => simp
  | cons answered goes _ ih =>
    rw [List.cons_append, evalAll, bind_run_ok answered, if_neg (by simpa using goes), ih]
    simp

theorem evalAny_append {w w' : ω} {qs : List Query} {founds : List (List Match)}
    (asks : Asks ask (fun _ => True) w qs founds w') (rest : List Query) :
    evalAny ask (qs ++ rest) w = match evalAny ask rest w' with
      | (result, w'') => (result.map (founds.flatten ++ ·), w'') := by
  induction asks with
  | nil =>
    rw [List.nil_append]
    rcases evalAny ask rest _ with ⟨a | a, w''⟩ <;> rfl
  | cons answered _ _ ih =>
    rw [List.cons_append, evalAny, bind_run_ok answered, bind_run, ih]
    rcases evalAny ask rest _ with ⟨a | a, w''⟩
    · rfl
    · simp [pure, ExceptT.pure, ExceptT.mk, StateT.pure, Except.map]

/-- The evaluation of a condition gives what the reference semantics says. -/
theorem Finds.run {c : Condition} {w w' : ω} {asked : List Query}
    {result : Except ε (List Match)} (finds : Finds ask c w asked result w') :
    evalCondition ask c w = (result, w') := by
  cases finds with
  | one answered => exact answered
  | all asks =>
    have run := evalAll_append asks [] []
    rw [List.append_nil] at run
    exact run
  | allEmpty asks answered =>
    rw [evalCondition, evalAll_append asks, evalAll, bind_run_ok answered]
    rfl
  | allFails asks answered =>
    rw [evalCondition, evalAll_append asks, evalAll, bind_run_error answered]
  | any asks =>
    have run := evalAny_append asks []
    rw [List.append_nil] at run
    rw [evalCondition, run]
    simp [evalAny, pure, ExceptT.pure, ExceptT.mk, StateT.pure, Except.map]
  | anyFails asks answered =>
    rw [evalCondition, evalAny_append asks, evalAny, bind_run_error answered]
    rfl

/-! ## Every run is one of the reference semantics -/

/-- Either all queries are asked, or there is a first one whose answer ends the asking. -/
theorem asks_or_stops (ask : Query → ExceptT ε (StateM ω) (List Match))
    (goes : List Match → Prop) (qs : List Query) (w : ω) :
    (∃ founds w', Asks ask goes w qs founds w') ∨
    ∃ before q after founds w₁ result w₂, qs = before ++ q :: after ∧
      Asks ask goes w before founds w₁ ∧ ask q w₁ = (result, w₂) ∧
      ∀ found, result = .ok found → ¬ goes found := by
  induction qs generalizing w with
  | nil => exact .inl ⟨[], w, .nil⟩
  | cons q qs ih =>
    -- The first answer ends the asking, or it is put before what the rest gives.
    rcases answered : ask q w with ⟨e | found, w₁⟩
    · exact .inr ⟨[], q, qs, [], w, _, w₁, rfl, .nil, answered, by simp⟩
    · by_cases more : goes found
      · rcases ih w₁ with ⟨founds, w', asks⟩ |
          ⟨before, q', after, founds, w₂, result, w₃, rfl, asks, answered', stops⟩
        · exact .inl ⟨found :: founds, w', .cons answered more asks⟩
        · exact .inr ⟨q :: before, q', after, found :: founds, w₂, result, w₃, rfl,
            .cons answered more asks, answered', stops⟩
      · refine .inr ⟨[], q, qs, [], w, _, w₁, rfl, .nil, answered, fun found' same => ?_⟩
        obtain rfl := Except.ok.inj same
        exact more

theorem exists_finds (ask : Query → ExceptT ε (StateM ω) (List Match)) (c : Condition) (w : ω) :
    ∃ asked result w', Finds ask c w asked result w' := by
  cases c with
  | one q => exact ⟨[q], _, _, .one rfl⟩
  | all qs =>
    rcases asks_or_stops ask (· ≠ []) qs w with ⟨founds, w', asks⟩ |
      ⟨before, q, after, founds, w₁, result, w₂, rfl, asks, answered, stops⟩
    · exact ⟨_, _, _, .all asks⟩
    · cases result with
      | error e => exact ⟨_, _, _, .allFails asks answered⟩
      | ok found =>
        have empty : found = [] := not_not.mp (stops found rfl)
        exact ⟨_, _, _, .allEmpty asks (empty ▸ answered)⟩
  | any qs =>
    rcases asks_or_stops ask (fun _ => True) qs w with ⟨founds, w', asks⟩ |
      ⟨before, q, after, founds, w₁, result, w₂, rfl, asks, answered, stops⟩
    · exact ⟨_, _, _, .any asks⟩
    · cases result with
      | error e => exact ⟨_, _, _, .anyFails asks answered⟩
      -- No answer ends the asking here, only a failure does.
      | ok found => exact absurd trivial (stops found rfl)

theorem Asks.length_eq {goes : List Match → Prop} {w w' : ω} {qs : List Query}
    {founds : List (List Match)} (asks : Asks ask goes w qs founds w') :
    founds.length = qs.length := by
  induction asks with
  | nil => rfl
  | cons _ _ _ ih => simp [ih]

end Runs

/-! ## Rules -/

section Rules

variable {ω : Type}

/-- The scan of a rule, for any way of answering queries. -/
def ofRule (ask : Query → ExceptT ScanError (StateM ω) (List Match)) (r : Rule) :
    ExceptT ScanError (StateM ω) RuleScan :=
  match r.query with
  | .error f => fun w => (.error (.fault f), w)
  | .ok condition =>
    match r.preconditionQuery with
    | .error f => fun w => (.error (.fault f), w)
    | .ok precondition => evaluate ask r.id precondition condition

variable {ask : Query → ExceptT ScanError (StateM ω) (List Match)} {r : Rule}

theorem holds_iff {found : List Match} :
    holds found = true ↔ ∃ x ∈ found, x.isSentinel = false := by
  simp [holds]

theorem Scans.run {w w' : ω} {asked : List Query} {result : Except ScanError RuleScan}
    (scans : Scans ask r w asked result w') : ofRule ask r w = (result, w') := by
  cases scans with
  | badCondition condition => simp only [ofRule, condition]
  | badPrecondition condition precondition => simp only [ofRule, condition, precondition]
  | preconditionFails condition precondition answered =>
    simp only [ofRule, condition, precondition, evaluate]
    rw [bind_run_error answered]
  | notSatisfied condition precondition answered sentinels =>
    have fails : ¬ holds _ = true := fun h => by
      obtain ⟨x, member, real⟩ := holds_iff.mp h
      rw [sentinels x member] at real
      cases real
    simp only [ofRule, condition, precondition, evaluate]
    rw [bind_run_ok answered, if_neg fails]
    rfl
  | @evaluated c before status start asked result w' condition opens finds =>
    cases opens with
    | undeclared precondition =>
      simp only [ofRule, condition, precondition, evaluate]
      rw [bind_run, finds.run]
      cases result <;> rfl
    | satisfied precondition answered real =>
      simp only [ofRule, condition, precondition, evaluate]
      rw [bind_run_ok answered, if_pos (holds_iff.mpr real), bind_run, finds.run]
      cases result <;> rfl

theorem exists_scans (ask : Query → ExceptT ScanError (StateM ω) (List Match)) (r : Rule)
    (w : ω) : ∃ asked result w', Scans ask r w asked result w' := by
  cases condition : r.query with
  | error f => exact ⟨_, _, _, .badCondition condition⟩
  | ok c =>
    cases precondition : r.preconditionQuery with
    | error f => exact ⟨_, _, _, .badPrecondition condition precondition⟩
    | ok p? =>
      cases p? with
      | none =>
        obtain ⟨asked, result, w', finds⟩ := exists_finds ask c w
        exact ⟨_, _, _, .evaluated condition (.undeclared precondition) finds⟩
      | some p =>
        rcases answered : ask p w with ⟨e | found, start⟩
        · exact ⟨_, _, _, .preconditionFails condition precondition answered⟩
        · by_cases real : ∃ x ∈ found, x.isSentinel = false
          · obtain ⟨asked, result, w', finds⟩ := exists_finds ask c start
            exact ⟨_, _, _, .evaluated condition (.satisfied precondition answered real) finds⟩
          · refine ⟨_, _, _, .notSatisfied condition precondition answered fun x member => ?_⟩
            by_contra sentinel
            exact real ⟨x, member, by simpa using sentinel⟩

end Rules

/-! ## The queries that are asked -/

section Log

variable {ε ω α : Type}

/-- Answers in the same way, and writes the query down. -/
def logged (ask : Query → ExceptT ε (StateM ω) α) (q : Query) :
    ExceptT ε (StateM (ω × List Query)) α := fun (w, log) =>
  match ask q w with
  | (result, w') => (result, w', log ++ [q])

theorem logged_run {ask : Query → ExceptT ε (StateM ω) α} {q : Query} {w w' : ω}
    {result : Except ε α} (answered : ask q w = (result, w')) (log : List Query) :
    logged ask q (w, log) = (result, w', log ++ [q]) := by
  simp only [logged, answered]

theorem Asks.logged {ask : Query → ExceptT ε (StateM ω) (List Match)} {goes : List Match → Prop}
    {w w' : ω} {qs : List Query} {founds : List (List Match)}
    (asks : Asks ask goes w qs founds w') (log : List Query) :
    Asks (logged ask) goes (w, log) qs founds (w', log ++ qs) := by
  induction asks generalizing log with
  | nil => simpa using Asks.nil
  | @cons q qs found founds w₀ w₁ w₂ answered more _ ih =>
    have rest := ih (log ++ [q])
    rw [List.append_assoc, List.singleton_append] at rest
    exact .cons (logged_run answered log) more rest

theorem Finds.logged {ask : Query → ExceptT ε (StateM ω) (List Match)} {c : Condition} {w w' : ω}
    {asked : List Query} {result : Except ε (List Match)}
    (finds : Finds ask c w asked result w') (log : List Query) :
    Finds (logged ask) c (w, log) asked result (w', log ++ asked) := by
  cases finds with
  | one answered => exact .one (logged_run answered log)
  | all asks => exact .all (asks.logged log)
  | allEmpty asks answered =>
    rw [← List.append_assoc]
    exact .allEmpty (asks.logged log) (logged_run answered _)
  | allFails asks answered =>
    rw [← List.append_assoc]
    exact .allFails (asks.logged log) (logged_run answered _)
  | any asks => exact .any (asks.logged log)
  | anyFails asks answered =>
    rw [← List.append_assoc]
    exact .anyFails (asks.logged log) (logged_run answered _)

/-- The queries of the reference semantics are those that are written down. -/
theorem Scans.logged {ask : Query → ExceptT ScanError (StateM ω) (List Match)} {r : Rule}
    {w w' : ω} {asked : List Query} {result : Except ScanError RuleScan}
    (scans : Scans ask r w asked result w') :
    Scans (logged ask) r (w, []) asked result (w', asked) := by
  cases scans with
  | badCondition condition => exact .badCondition condition
  | badPrecondition condition precondition => exact .badPrecondition condition precondition
  | preconditionFails condition precondition answered =>
    exact .preconditionFails condition precondition (logged_run answered [])
  | notSatisfied condition precondition answered sentinels =>
    exact .notSatisfied condition precondition (logged_run answered []) sentinels
  | evaluated condition opens finds =>
    cases opens with
    | undeclared precondition =>
      exact .evaluated condition (.undeclared precondition) (finds.logged [])
    | @satisfied p found start precondition answered real =>
      exact .evaluated condition (.satisfied precondition (logged_run answered []) real)
        (finds.logged [p])

end Log

end Uplift.RuleScan
