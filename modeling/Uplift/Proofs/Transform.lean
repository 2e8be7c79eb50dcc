import Mathlib
import Uplift.Transform

/-!
# Transformations

The tasks of a transformation are those of the rules whose scan succeeded. Each of them is carried
out once if its scan found something, in the order of the rules, and all of them are in the report
in the end, with the outcome if there is one (`Transform.carryOut_completed`) and otherwise as the
scans have left them (`Transform.Completed.kept`).

A report is a list of tasks sorted by id, from which a rule's task is looked up and in which it is
replaced while the rules are gone through in another order. The loop is described by what the
entries are up to their order: `Report.insertTask_perm` for one task, `Transform.carryOut_perm` for
a run.
-/

namespace Uplift

/-- A task under the id of its rule. -/
def Task.entry (t : Task) : String × Task := (t.rule.id, t)

namespace Report

variable {id : String} {t : Task} {ts : List (String × Task)}

/-- The entries are in the order of their ids, and no two have the same. -/
def Sorted (ts : List (String × Task)) : Prop := ts.Pairwise fun a b => a.1 < b.1

theorem Sorted.lookup_of_mem (sorted : Sorted ts) (member : (id, t) ∈ ts) :
    ts.lookup id = some t := by
  obtain ⟨before, after, rfl⟩ := List.append_of_mem member
  refine List.lookup_eq_some_iff.mpr ⟨before, after, rfl, ?_⟩
  intro e earlier
  have less := (List.pairwise_append.mp sorted).2.2 e earlier (id, t) List.mem_cons_self
  exact bne_iff_ne.mpr less.ne'

theorem lookup_of_absent (absent : ∀ e ∈ ts, e.1 ≠ id) : ts.lookup id = none := by
  refine List.lookup_eq_none_iff.mpr fun e member => ?_
  exact bne_iff_ne.mpr (absent e member).symm

/-- A task that is put in stands beside those under other ids. -/
theorem insertTask_perm (sorted : Sorted ts) :
    (insertTask id t ts).Perm ((id, t) :: ts.filter fun e => e.1 ≠ id) := by
  induction ts with
  | nil => exact .refl _
  | cons e ts ih =>
    obtain ⟨k, u⟩ := e
    obtain ⟨first, rest⟩ := List.pairwise_cons.mp sorted
    have kept (later : id ≤ k) : ts.filter (fun e => e.1 ≠ id) = ts := by
      rw [List.filter_eq_self]
      intro e member
      exact decide_eq_true (later.trans_lt (first e member)).ne'
    unfold insertTask
    by_cases same : id = k
    · rw [if_pos same, List.filter_cons_of_neg (by simp [same]), kept same.le]
    · rw [if_neg same, List.filter_cons_of_pos (by simpa using Ne.symm same)]
      by_cases before : id < k
      · rw [if_pos before, kept before.le]
      · rw [if_neg before]
        exact ((ih rest).cons (k, u)).trans (.swap ..)

theorem insertTask_sorted (sorted : Sorted ts) : Sorted (insertTask id t ts) := by
  induction ts with
  | nil => exact List.pairwise_singleton ..
  | cons e ts ih =>
    obtain ⟨k, u⟩ := e
    obtain ⟨first, rest⟩ := List.pairwise_cons.mp sorted
    unfold insertTask
    by_cases same : id = k
    · rw [if_pos same]
      exact List.pairwise_cons.mpr ⟨fun e member => same ▸ first e member, rest⟩
    · rw [if_neg same]
      by_cases before : id < k
      · rw [if_pos before]
        refine List.pairwise_cons.mpr ⟨?_, sorted⟩
        intro e member
        rcases List.mem_cons.mp member with rfl | later
        · exact before
        · exact before.trans (first e later)
      · rw [if_neg before]
        refine List.pairwise_cons.mpr ⟨?_, ih rest⟩
        intro e member
        rcases List.mem_cons.mp ((insertTask_perm rest).mem_iff.mp member) with rfl | old
        · exact lt_of_le_of_ne (not_lt.mp before) (Ne.symm same)
        · exact first e (List.mem_of_mem_filter old)

theorem filter_of_others {es : List (String × Task)} (others : ∀ e ∈ es, e.1 ≠ id) :
    es.filter (fun e => e.1 ≠ id) = es := by
  rw [List.filter_eq_self]
  intro e member
  exact decide_eq_true (others e member)

/-- A task is added if none is under its id. -/
theorem insertTask_adds (sorted : Sorted ts) (others : ∀ e ∈ ts, e.1 ≠ id) :
    (insertTask id t ts).Perm ((id, t) :: ts) := by
  have inserted : (insertTask id t ts).Perm ((id, t) :: ts.filter fun e => e.1 ≠ id) :=
    insertTask_perm sorted
  rw [filter_of_others others] at inserted
  exact inserted

/-- A task takes the place of the one under its id. -/
theorem insertTask_replaces {u : Task} {before after : List (String × Task)} (sorted : Sorted ts)
    (entries : ts.Perm (before ++ (id, u) :: after)) (others : ∀ e ∈ before ++ after, e.1 ≠ id) :
    (insertTask id t ts).Perm (before ++ (id, t) :: after) := by
  have rest : (ts.filter fun e => e.1 ≠ id).Perm (before ++ after) := by
    have filtered := entries.filter fun e => e.1 ≠ id
    rw [List.filter_append, List.filter_cons_of_neg (by simp), ← List.filter_append,
      filter_of_others others] at filtered
    exact filtered
  calc (insertTask id t ts).Perm ((id, t) :: ts.filter fun e => e.1 ≠ id) := insertTask_perm sorted
    List.Perm _ ((id, t) :: (before ++ after)) := rest.cons _
    List.Perm _ (before ++ (id, t) :: after) := List.perm_middle.symm

end Report

namespace Transform

open Report (Sorted)

variable {σ : Type} {execute : Task → σ → Outcome × σ} {provider : ProviderKind}

/-- The task of a rule whose scan succeeded: with what was found and how the precondition came out,
and without a result. -/
def taskOf? (provider : ProviderKind) (scan : Rule × Except ScanError RuleScan) : Option Task :=
  match scan.2 with
  | .ok s => some
      { rule := scan.1, provider, found := s.found, precondition := s.precondition, result := none }
  | .error _ => none

/-- The tasks that scans lead to, in order. -/
def tasksOf (provider : ProviderKind) (scans : List (Rule × Except ScanError RuleScan)) :
    List Task := scans.filterMap (taskOf? provider)

/-- Tasks are gone through in order: one whose scan found something is carried out and keeps its
outcome, and another stays as it is. -/
inductive Processed (execute : Task → σ → Outcome × σ) :
    σ → List Task → List (Task × Outcome) → List Task → σ → Prop
  | nil {w} : Processed execute w [] [] [] w
  | carried {t ts o calls done w w₁ w₂} : t.found ≠ [] → execute t w = (o, w₁) →
      Processed execute w₁ ts calls done w₂ →
      Processed execute w (t :: ts) ((t, o) :: calls) ({ t with result := some o } :: done) w₂
  | kept {t ts calls done w w₁} : t.found = [] → Processed execute w ts calls done w₁ →
      Processed execute w (t :: ts) calls (t :: done) w₁

/-- Tasks are carried out one after the other. -/
inductive Executed (execute : Task → σ → Outcome × σ) : σ → List (Task × Outcome) → σ → Prop
  | nil {w} : Executed execute w [] w
  | cons {t o calls w w₁ w₂} : execute t w = (o, w₁) → Executed execute w₁ calls w₂ →
      Executed execute w ((t, o) :: calls) w₂

theorem Executed.outcome {w w' : σ} {calls : List (Task × Outcome)}
    (executed : Executed execute w calls w') :
    ∀ call ∈ calls, ∃ v, call.2 = (execute call.1 v).1 := by
  induction executed with
  | nil => simp
  | cons ran _ ih => exact List.forall_mem_cons.mpr ⟨⟨_, by rw [ran]⟩, ih⟩

namespace Processed

variable {w w' : σ} {tasks done : List Task} {calls : List (Task × Outcome)}

theorem executed (processed : Processed execute w tasks calls done w') :
    Executed execute w calls w' := by
  induction processed with
  | nil => exact .nil
  | carried _ ran _ ih => exact .cons ran ih
  | kept _ _ ih => exact ih

theorem called (processed : Processed execute w tasks calls done w') :
    calls.map (·.1) = tasks.filter fun t => t.found ≠ [] := by
  induction processed with
  | nil => rfl
  | carried matched _ _ ih => simp [ih, matched]
  | kept unmatched _ ih => simp [ih, unmatched]

theorem ids (processed : Processed execute w tasks calls done w') :
    done.map (·.rule.id) = tasks.map (·.rule.id) := by
  induction processed with
  | nil => rfl
  | carried _ _ _ ih => rw [List.map_cons, List.map_cons, ih]
  | kept _ _ ih => rw [List.map_cons, List.map_cons, ih]

theorem mem_done_of_call (processed : Processed execute w tasks calls done w') :
    ∀ call ∈ calls, { call.1 with result := some call.2 } ∈ done := by
  induction processed with
  | nil => simp
  | carried _ _ _ ih =>
    refine List.forall_mem_cons.mpr ⟨List.mem_cons_self, fun call member => ?_⟩
    exact List.mem_cons_of_mem _ (ih call member)
  | kept _ _ ih => exact fun call member => List.mem_cons_of_mem _ (ih call member)

theorem mem_done_of_unmatched (processed : Processed execute w tasks calls done w') :
    ∀ t ∈ tasks, t.found = [] → t ∈ done := by
  induction processed with
  | nil => simp
  | carried matched _ _ ih =>
    refine List.forall_mem_cons.mpr ⟨fun unmatched => ?_, fun t member unmatched => ?_⟩
    · exact absurd unmatched matched
    · exact List.mem_cons_of_mem _ (ih t member unmatched)
  | kept _ _ ih =>
    refine List.forall_mem_cons.mpr ⟨fun _ => List.mem_cons_self, fun t member unmatched => ?_⟩
    exact List.mem_cons_of_mem _ (ih t member unmatched)

/-- As many tasks fail as calls are without success. -/
theorem failed (processed : Processed execute w tasks calls done w')
    (fresh : ∀ t ∈ tasks, t.result = none) :
    (done.filter Report.hasFailed).length = (calls.filter fun call => !call.2.success).length := by
  induction processed with
  | nil => rfl
  | @carried t ts o calls done w w₁ w₂ _ _ _ ih =>
    have rest := ih (List.forall_mem_cons.mp fresh).2
    have here : Report.hasFailed { t with result := some o } = !o.success := rfl
    rw [List.filter_cons, List.filter_cons, here]
    cases o.success with
    | true => exact rest
    | false => exact congrArg Nat.succ rest
  | @kept t ts calls done w w₁ _ _ ih =>
    obtain ⟨none, fresh⟩ := List.forall_mem_cons.mp fresh
    have here : Report.hasFailed t = false := by rw [Report.hasFailed, none]; rfl
    rw [List.filter_cons_of_neg (by rw [here]; exact Bool.false_ne_true)]
    exact ih fresh

end Processed

/-! ## Scans -/

theorem mem_tasksOf {scans : List (Rule × Except ScanError RuleScan)} {t : Task} :
    t ∈ tasksOf provider scans ↔
      ∃ rule s, (rule, .ok s) ∈ scans ∧ t = ⟨rule, provider, s.found, s.precondition, none⟩ := by
  unfold tasksOf
  rw [List.mem_filterMap]
  constructor
  · rintro ⟨⟨rule, e | s⟩, member, made⟩
    · cases made
    · exact ⟨rule, s, member, (Option.some.inj made).symm⟩
  · rintro ⟨rule, s, member, rfl⟩
    exact ⟨(rule, .ok s), member, rfl⟩

theorem result_of_mem_tasksOf {scans : List (Rule × Except ScanError RuleScan)} {t : Task}
    (member : t ∈ tasksOf provider scans) : t.result = none := by
  obtain ⟨rule, s, -, rfl⟩ := mem_tasksOf.mp member
  rfl

theorem id_of_mem_tasksOf {scans : List (Rule × Except ScanError RuleScan)} {t : Task}
    (member : t ∈ tasksOf provider scans) : t.rule.id ∈ scans.map (·.1.id) := by
  obtain ⟨rule, s, among, rfl⟩ := mem_tasksOf.mp member
  exact List.mem_map.mpr ⟨(rule, .ok s), among, rfl⟩

/-- The tasks of scans are put beside those that were there. -/
theorem scanned_perm (provider : ProviderKind) {r : Report}
    {scans : List (Rule × Except ScanError RuleScan)}
    (sorted : Sorted r.tasks) (distinct : (scans.map (·.1.id)).Nodup)
    (fresh : ∀ e ∈ r.tasks, e.1 ∉ scans.map (·.1.id)) :
    ∃ ts, scanned provider r scans = { r with tasks := ts } ∧ Sorted ts ∧
      ts.Perm (r.tasks ++ (tasksOf provider scans).map Task.entry) := by
  induction scans generalizing r with
  | nil =>
    refine ⟨r.tasks, rfl, sorted, ?_⟩
    rw [tasksOf, List.filterMap_nil, List.map_nil, List.append_nil]
  | cons scan scans ih =>
    rw [List.map_cons, List.nodup_cons] at distinct
    obtain ⟨rule, e | s⟩ := scan
    · refine ih sorted distinct.2 fun e member => ?_
      exact fun among => fresh e member (List.mem_cons_of_mem _ among)
    · have others : ∀ e ∈ r.tasks, e.1 ≠ rule.id := by
        intro e member same
        exact fresh e member (same ▸ List.mem_cons_self)
      have inserted := Report.insertTask_adds (t := s.toTask rule provider) sorted others
      obtain ⟨ts, made, sorted', perm⟩ := ih (r := r.insert (s.toTask rule provider))
        (Report.insertTask_sorted sorted) distinct.2 (by
          intro e member
          rcases List.mem_cons.mp (inserted.mem_iff.mp member) with rfl | old
          · exact distinct.1
          · exact fun among => fresh e old (List.mem_cons_of_mem _ among))
      refine ⟨ts, made, sorted', perm.trans ?_⟩
      exact (inserted.append_right _).trans List.perm_middle.symm

/-! ## Runs -/

theorem step_absent {rule : Rule} {r : Report} {w : σ} (absent : r.tasks.lookup rule.id = none) :
    step execute rule r w = (none, r, w) := by
  unfold step
  rw [absent]

theorem step_unmatched {rule : Rule} {r : Report} {t : Task} {w : σ}
    (found : r.tasks.lookup rule.id = some t) (unmatched : t.found = []) :
    step execute rule r w = (none, r, w) := by
  have bare : t.isMatched = false := by rw [Task.isMatched, unmatched]; rfl
  simp only [step, found, bare, Bool.false_eq_true, if_false]

theorem step_matched {rule : Rule} {r : Report} {t : Task} {w w' : σ} {o : Outcome}
    (found : r.tasks.lookup rule.id = some t) (matched : t.found ≠ [])
    (ran : execute t w = (o, w')) :
    step execute rule r w = (some o, r.insert { t with result := some o }, w') := by
  have due : t.isMatched = true := by simp [Task.isMatched, matched]
  simp only [step, found, due, if_true, ran]

theorem carryOut_cons {rule : Rule} {rest : List Rule} {r r₁ r₂ : Report} {w w₁ w₂ : σ}
    {o : Option Outcome} {os : List (Rule × Outcome)}
    (stepped : step execute rule r w = (o, r₁, w₁))
    (ran : carryOut execute rest r₁ w₁ = (os, r₂, w₂)) :
    carryOut execute (rule :: rest) r w = (o.toList.map (rule, ·) ++ os, r₂, w₂) := by
  simp only [carryOut, stepped, ran]
  cases o <;> rfl

/-- A report while its rules are gone through: the entries are those of the tasks that were gone
through, `earlier`, and those of the tasks of the scans that are left. -/
structure Halfway (provider : ProviderKind) (earlier : List (String × Task))
    (left : List (Rule × Except ScanError RuleScan)) (r : Report) : Prop where
  sorted : Sorted r.tasks
  distinct : (left.map (·.1.id)).Nodup
  apart : ∀ e ∈ earlier, e.1 ∉ left.map (·.1.id)
  entries : r.tasks.Perm (earlier ++ (tasksOf provider left).map Task.entry)

namespace Halfway

variable {earlier : List (String × Task)} {scan : Rule × Except ScanError RuleScan} {rule : Rule}
  {s : RuleScan} {e : ScanError} {left : List (Rule × Except ScanError RuleScan)} {r : Report}

/-- Apart from the task of a scan, no entry is under its rule's id. -/
theorem others (half : Halfway provider earlier (scan :: left) r) :
    ∀ x ∈ earlier ++ (tasksOf provider left).map Task.entry, x.1 ≠ scan.1.id := by
  have distinct := half.distinct
  rw [List.map_cons, List.nodup_cons] at distinct
  intro x member same
  rcases List.mem_append.mp member with before | after
  · exact half.apart x before (same ▸ List.mem_cons_self)
  · obtain ⟨t, among, rfl⟩ := List.mem_map.mp after
    exact distinct.1 (same ▸ id_of_mem_tasksOf among)

theorem absent (half : Halfway provider earlier ((rule, .error e) :: left) r) :
    r.tasks.lookup rule.id = none :=
  Report.lookup_of_absent fun x member => half.others x (half.entries.mem_iff.mp member)

theorem found (half : Halfway provider earlier ((rule, .ok s) :: left) r) :
    r.tasks.lookup rule.id = some (s.toTask rule provider) := by
  refine half.sorted.lookup_of_mem (half.entries.mem_iff.mpr ?_)
  exact List.mem_append_right _ List.mem_cons_self

/-- A rule whose scan failed is passed over. -/
theorem pass (half : Halfway provider earlier ((rule, .error e) :: left) r) :
    Halfway provider earlier left r where
  sorted := half.sorted
  distinct := (List.nodup_cons.mp half.distinct).2
  apart x member among := half.apart x member (List.mem_cons_of_mem _ among)
  entries := half.entries

/-- The task of the next scan may take another form. -/
theorem advance (half : Halfway provider earlier ((rule, .ok s) :: left) r) {u : Task}
    {after : Report} (sameRule : u.rule.id = rule.id) (sorted : Sorted after.tasks)
    (entries : after.tasks.Perm
      (earlier ++ u.entry :: (tasksOf provider left).map Task.entry)) :
    Halfway provider (earlier ++ [u.entry]) left after where
  sorted := sorted
  distinct := (List.nodup_cons.mp half.distinct).2
  apart x member among := by
    rcases List.mem_append.mp member with before | here
    · exact half.apart x before (List.mem_cons_of_mem _ among)
    · rw [List.mem_singleton.mp here, Task.entry, sameRule] at among
      exact (List.nodup_cons.mp half.distinct).1 among
  entries := by
    rw [List.append_assoc]
    exact entries

theorem keep (half : Halfway provider earlier ((rule, .ok s) :: left) r) :
    Halfway provider (earlier ++ [(s.toTask rule provider).entry]) left r :=
  half.advance rfl half.sorted half.entries

theorem replace (half : Halfway provider earlier ((rule, .ok s) :: left) r) {u : Task}
    (sameRule : u.rule.id = rule.id) :
    Halfway provider (earlier ++ [u.entry]) left (r.insert u) := by
  have others := half.others
  have entries : r.tasks.Perm (earlier ++ (rule.id, s.toTask rule provider) ::
      (tasksOf provider left).map Task.entry) := half.entries
  rw [← sameRule] at others entries
  refine half.advance sameRule (Report.insertTask_sorted half.sorted) ?_
  exact Report.insertTask_replaces half.sorted entries others

end Halfway

/-- A run goes through the tasks of the rules in their order. The induction is on the scans that are
left, and a step moves the first of their tasks to those that were gone through. -/
theorem carryOut_perm (execute : Task → σ → Outcome × σ)
    {scans : List (Rule × Except ScanError RuleScan)} {r : Report}
    {earlier : List (String × Task)} (half : Halfway provider earlier scans r) (w : σ) :
    ∃ calls done ts w',
      carryOut execute (scans.map (·.1)) r w =
        (calls.map fun call => (call.1.rule, call.2), { r with tasks := ts }, w') ∧
      Processed execute w (tasksOf provider scans) calls done w' ∧ Sorted ts ∧
      ts.Perm (earlier ++ done.map Task.entry) := by
  induction scans generalizing r earlier w with
  | nil => exact ⟨[], [], r.tasks, w, rfl, .nil, half.sorted, half.entries⟩
  | cons scan scans ih =>
    obtain ⟨rule, e | s⟩ := scan
    · obtain ⟨calls, done, ts, w', ran, processed⟩ := ih half.pass w
      exact ⟨calls, done, ts, w', carryOut_cons (step_absent half.absent) ran, processed⟩
    · let t : Task := s.toTask rule provider
      by_cases matched : t.found ≠ []
      · rcases ran : execute t w with ⟨o, w₁⟩
        let u : Task := { t with result := some o }
        have next : Halfway provider (earlier ++ [u.entry]) scans (r.insert u) := half.replace rfl
        obtain ⟨calls, done, ts, w', rest, processed, sorted, perm⟩ := ih next w₁
        rw [List.append_assoc] at perm
        exact ⟨(t, o) :: calls, u :: done, ts, w',
          carryOut_cons (step_matched half.found matched ran) rest,
          .carried matched ran processed, sorted, perm⟩
      · have unmatched : t.found = [] := not_not.mp matched
        obtain ⟨calls, done, ts, w', rest, processed, sorted, perm⟩ := ih half.keep w
        rw [List.append_assoc] at perm
        exact ⟨calls, t :: done, ts, w',
          carryOut_cons (step_unmatched half.found unmatched) rest,
          .kept unmatched processed, sorted, perm⟩

/-- What a transformation comes to, given the tasks of its scans: the calls of the provider and
their outcomes, the report, and the world after it. -/
structure Completed (execute : Task → σ → Outcome × σ) (before : Report) (tasks : List Task) (w : σ)
    (calls : List (Task × Outcome)) (after : Report) (w' : σ) : Prop where
  /-- The provider is called once for each task whose scan found something, in order. -/
  called : calls.map (·.1) = tasks.filter fun t => t.found ≠ []
  executed : Executed execute w calls w'
  /-- The report holds one task for each that there was, under its id. -/
  ids : (after.tasks.map (·.1)).Perm (tasks.map (·.rule.id))
  sorted : Sorted after.tasks
  /-- A task that was carried out has its outcome and is otherwise as it was. -/
  carried : ∀ call ∈ calls, (call.1.rule.id, { call.1 with result := some call.2 }) ∈ after.tasks
  left : ∀ t ∈ tasks, t.found = [] → (t.rule.id, t) ∈ after.tasks
  header : after = { before with tasks := after.tasks }
  failures : after.failureCount = (calls.filter fun call => !call.2.success).length

/-- Carrying out the rules of scans, in a report that begins without tasks, leaves no task out and
carries none out twice. -/
theorem carryOut_completed (before : Report) {scans : List (Rule × Except ScanError RuleScan)}
    (execute : Task → σ → Outcome × σ) (provider : ProviderKind) (empty : before.tasks = [])
    (distinct : (scans.map (·.1.id)).Nodup) (w : σ) :
    ∃ calls after w', carryOut execute (scans.map (·.1)) (scanned provider before scans) w =
        (calls.map fun call => (call.1.rule, call.2), after, w') ∧
      Completed execute before (tasksOf provider scans) w calls after w' := by
  have bare : Sorted before.tasks := empty ▸ List.Pairwise.nil
  have fresh : ∀ e ∈ before.tasks, e.1 ∉ scans.map (·.1.id) := by
    rw [empty]
    simp
  obtain ⟨ts, scan, sorted, entries⟩ := scanned_perm provider bare distinct fresh
  rw [empty] at entries
  obtain ⟨calls, done, ts', w', ran, processed, sorted', perm⟩ :=
    carryOut_perm execute (r := { before with tasks := ts }) ⟨sorted, distinct, by simp, entries⟩ w
  rw [List.nil_append] at perm
  refine ⟨calls, { before with tasks := ts' }, w', by rw [scan]; exact ran, ?_⟩
  constructor
  case called => exact processed.called
  case executed => exact processed.executed
  case ids =>
    have ids := perm.map (·.1)
    rw [List.map_map] at ids
    exact ids.trans (.of_eq processed.ids)
  case sorted => exact sorted'
  case carried =>
    intro call member
    exact perm.mem_iff.mpr (List.mem_map_of_mem (processed.mem_done_of_call call member))
  case left =>
    intro t member unmatched
    exact perm.mem_iff.mpr
      (List.mem_map_of_mem (processed.mem_done_of_unmatched t member unmatched))
  case header => rfl
  case failures =>
    rw [← processed.failed fun t => result_of_mem_tasksOf, Report.failureCount,
      (perm.filter _).length_eq, List.filter_map, List.length_map]
    rfl

/-- A task of the report failed exactly if an outcome is without success. -/
theorem Completed.failureCount_pos_iff {before after : Report} {tasks : List Task} {w w' : σ}
    {calls : List (Task × Outcome)} (completed : Completed execute before tasks w calls after w') :
    0 < after.failureCount ↔ ∃ call ∈ calls, call.2.success = false := by
  rw [completed.failures, List.length_pos_iff_exists_mem]
  constructor
  · rintro ⟨call, member⟩
    obtain ⟨among, failed⟩ := List.mem_filter.mp member
    exact ⟨call, among, by simpa using failed⟩
  · rintro ⟨call, among, failed⟩
    exact ⟨call, List.mem_filter.mpr ⟨among, by rw [failed]; rfl⟩⟩

/-- What a report keeps of scans. -/
structure Kept (scans : List (Rule × Except ScanError RuleScan)) (calls : List (Task × Outcome))
    (after : Report) : Prop where
  /-- Of a scan that succeeded, the report has what was found and how the precondition came out, and
  a result exactly if something was found: that of the call for this rule. -/
  succeeded : ∀ rule s, (rule, .ok s) ∈ scans → ∃ t, after.tasks.lookup rule.id = some t ∧
    t.rule = rule ∧ t.found = s.found ∧ t.precondition = s.precondition ∧
    (t.result ≠ none ↔ s.found ≠ []) ∧
    ∀ o, t.result = some o → ∃ call ∈ calls, call.1.rule = rule ∧ call.2 = o
  /-- Of a scan that failed, it has nothing. -/
  failed : ∀ rule e, (rule, .error e) ∈ scans → after.tasks.lookup rule.id = none

theorem Completed.kept {before after : Report} {scans : List (Rule × Except ScanError RuleScan)}
    {w w' : σ} {calls : List (Task × Outcome)}
    (completed : Completed execute before (tasksOf provider scans) w calls after w')
    (distinct : (scans.map (·.1.id)).Nodup) : Kept scans calls after where
  succeeded rule s member := by
    let t : Task := ⟨rule, provider, s.found, s.precondition, none⟩
    have among : t ∈ tasksOf provider scans := mem_tasksOf.mpr ⟨rule, s, member, rfl⟩
    by_cases nothing : s.found = []
    · have entry := completed.left t among nothing
      refine ⟨t, completed.sorted.lookup_of_mem entry, rfl, rfl, rfl, ?_, ?_⟩
      · exact ⟨fun result => absurd rfl result, fun found => absurd nothing found⟩
      · intro o result
        cases result
    · have called : t ∈ calls.map (·.1) := by
        rw [completed.called]
        exact List.mem_filter.mpr ⟨among, decide_eq_true nothing⟩
      obtain ⟨call, here, same⟩ := List.mem_map.mp called
      have entry := completed.carried call here
      rw [same] at entry
      refine ⟨{ t with result := some call.2 }, completed.sorted.lookup_of_mem entry, rfl, rfl, rfl,
        ?_, ?_⟩
      · exact ⟨fun _ => nothing, fun _ => Option.some_ne_none _⟩
      · intro o result
        exact ⟨call, here, by rw [same], Option.some.inj result⟩
  failed rule e member := by
    refine Report.lookup_of_absent fun entry held same => ?_
    have id := completed.ids.mem_iff.mp (List.mem_map_of_mem held)
    obtain ⟨t, among, sameId⟩ := List.mem_map.mp id
    obtain ⟨rule', s, member', rfl⟩ := mem_tasksOf.mp among
    have equal := List.inj_on_of_nodup_map distinct member' member (sameId.trans same)
    cases equal

end Transform

end Uplift
