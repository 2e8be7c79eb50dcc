import Uplift.Proofs.Scan.Mapping
import Uplift.Proofs.Scan.Requests

/-!
# Batches of rules

Rules that are scanned one after the other share the project, the programs outside and one supply of
match ids. Where each scanner goes by the project and by the ids of the rule that it works for, no
rule is influenced by those before it.

* `Isolated`: a computation for a rule that depends on nothing else, and leaves to the other rules
  what they depend on. It is closed under what the evaluation of rules is made of, and the requests
  of scanners are of this kind (`isolated_request`).
* `scanRules_eq_map`: the outcomes of a batch are those that its rules have alone.
* `scanRules_independent` has also what follows for other orders, for batches without one of the
  rules, and for the groups of matches.
-/

namespace Uplift.Scan

variable {σ P α β : Type} {project : World σ → P} {rule : String}

/-- Two worlds are the same to the scans for a rule: the project looks the same in both, and the
rule has drawn as many match ids. -/
structure Alike (project : World σ → P) (rule : String) (w₁ w₂ : World σ) : Prop where
  sameProject : project w₁ = project w₂
  sameCurrent : w₁.ids.current rule = w₂.ids.current rule

theorem Alike.refl (w : World σ) : Alike project rule w w := ⟨rfl, rfl⟩

/-- A computation for a rule that depends on the project and the rule's own match ids alone. It
leaves the project as it is, and draws no ids of other rules. -/
structure Isolated (project : World σ → P) (rule : String) (m : ScanM σ α) : Prop where
  alike : ∀ {w₁ w₂}, Alike project rule w₁ w₂ →
    (m w₁).1 = (m w₂).1 ∧ (m w₁).2.ids.current rule = (m w₂).2.ids.current rule
  keeps : ∀ w, project (m w).2 = project w
  spares : ∀ w {other}, other ≠ rule → (m w).2.ids.current other = w.ids.current other

namespace Isolated

theorem ofExcept (result : Except ScanError α) :
    Isolated project rule (ScanM.ofExcept result : ScanM σ α) where
  alike same := ⟨rfl, same.sameCurrent⟩
  keeps _ := rfl
  spares _ _ _ := rfl

theorem pure (a : α) : Isolated project rule (Pure.pure a : ScanM σ α) := ofExcept (.ok a)

/-- Worlds that are the same to a rule stay so. -/
theorem after {m : ScanM σ α} (isolated : Isolated project rule m) {w₁ w₂ : World σ}
    (same : Alike project rule w₁ w₂) : Alike project rule (m w₁).2 (m w₂).2 where
  sameProject := by rw [isolated.keeps, isolated.keeps, same.sameProject]
  sameCurrent := (isolated.alike same).2

/-- One after the other. The second need only be isolated for what the first can give. -/
theorem bind {m : ScanM σ α} {f : α → ScanM σ β} (first : Isolated project rule m)
    (second : ∀ a, (∃ w, (m w).1 = .ok a) → Isolated project rule (f a)) :
    Isolated project rule (m >>= f) := by
  constructor
  · intro w₁ w₂ same
    obtain ⟨result, current⟩ := first.alike same
    have later := first.after same
    rw [RuleScan.bind_run, RuleScan.bind_run]
    rcases run₁ : m w₁ with ⟨e | a, v₁⟩ <;> rcases run₂ : m w₂ with ⟨e' | a', v₂⟩ <;>
      rw [run₁, run₂] at result later
    · obtain rfl := Except.error.inj result
      exact ⟨rfl, later.sameCurrent⟩
    · cases result
    · cases result
    · obtain rfl := Except.ok.inj result
      exact (second a ⟨w₁, by rw [run₁]⟩).alike later
  · intro w
    have here := first.keeps w
    rw [RuleScan.bind_run]
    rcases run : m w with ⟨e | a, v⟩ <;> rw [run] at here
    · exact here
    · exact ((second a ⟨w, by rw [run]⟩).keeps v).trans here
  · intro w other foreign
    have here := first.spares w foreign
    rw [RuleScan.bind_run]
    rcases run : m w with ⟨e | a, v⟩ <;> rw [run] at here
    · exact here
    · exact ((second a ⟨w, by rw [run]⟩).spares v foreign).trans here

end Isolated

/-! ## Rules -/

section Rules

variable {ask : Query → ScanM σ (List Match)} (isolated : ∀ q, Isolated project rule (ask q))
include isolated

theorem isolated_evalAll (sofar : List Match) (qs : List Query) :
    Isolated project rule (RuleScan.evalAll ask sofar qs) := by
  induction qs generalizing sofar with
  | nil => exact .pure sofar
  | cons q qs ih =>
    refine (isolated q).bind fun found _ => ?_
    split
    · exact .pure []
    · exact ih (sofar ++ found)

theorem isolated_evalAny (qs : List Query) :
    Isolated project rule (RuleScan.evalAny ask qs) := by
  induction qs with
  | nil => exact .pure []
  | cons q qs ih =>
    refine (isolated q).bind fun found _ => ?_
    exact ih.bind fun more _ => .pure (found ++ more)

theorem isolated_evalCondition (c : Condition) :
    Isolated project rule (RuleScan.evalCondition ask c) := by
  cases c with
  | one q => exact isolated q
  | all qs => exact isolated_evalAll isolated [] qs
  | any qs => exact isolated_evalAny isolated qs

theorem isolated_evaluate (id : String) (precondition : Option Query) (c : Condition) :
    Isolated project rule (RuleScan.evaluate ask id precondition c) := by
  have condition := isolated_evalCondition isolated c
  cases precondition with
  | none => exact condition.bind fun found _ => .pure _
  | some q =>
    refine (isolated q).bind fun found _ => ?_
    split
    · exact condition.bind fun found _ => .pure _
    · exact .pure _

end Rules

namespace Service

variable {s : Service σ} (isolated : ∀ x ∈ s.registry.scanners, ∀ c q,
  Isolated project c.rule (x.scan c q))
include isolated

theorem isolated_scanQuery (rule : String) (q : Query) :
    Isolated project rule (s.scanQuery rule q) := by
  unfold scanQuery
  split
  · exact .ofExcept _
  · refine (Isolated.ofExcept _).bind fun scanner resolved => ?_
    obtain ⟨w, resolved⟩ := resolved
    exact isolated scanner (Registry.of_resolve resolved).1 (s.context rule) q

theorem isolated_scanRule (r : Rule) : Isolated project r.id (s.scanRule r) := by
  unfold scanRule
  split
  · exact .ofExcept _
  · split
    · exact .ofExcept _
    · exact isolated_evaluate (isolated_scanQuery isolated r.id) r.id _ _

omit isolated in
theorem scanRules_cons (s : Service σ) (r : Rule) (rest : List Rule) (w : World σ) :
    (s.scanRules (r :: rest) w).1 =
      (r.id, (s.scanRule r w).1) :: (s.scanRules rest (s.scanRule r w).2).1 := rfl

/-- The outcomes of a batch are those that its rules have alone, each in a world that is the same to
it as the world before the batch. The induction is on the batch: the scan of a rule leaves the world
as it was to the rules after it, since these have other ids. -/
theorem scanRules_eq_map {rules : List Rule} (distinct : (rules.map (·.id)).Nodup)
    {w w₀ : World σ} (same : ∀ r ∈ rules, Alike project r.id w w₀) :
    (s.scanRules rules w).1 = rules.map fun r => (r.id, (s.scanRule r w₀).1) := by
  induction rules generalizing w with
  | nil => rfl
  | cons r rules ih =>
    rw [List.map_cons, List.nodup_cons] at distinct
    rw [List.forall_mem_cons] at same
    have here := isolated_scanRule isolated r
    have later : ∀ r' ∈ rules, Alike project r'.id (s.scanRule r w).2 w₀ := by
      intro r' member
      have foreign : r'.id ≠ r.id := by
        intro sameId
        exact distinct.1 (sameId ▸ List.mem_map_of_mem member)
      have before := same.2 r' member
      constructor
      · rw [here.keeps, before.sameProject]
      · rw [here.spares w foreign, before.sameCurrent]
    rw [scanRules_cons, List.map_cons, ih distinct.2 later, (here.alike same.1).1]

omit isolated

/-- The group of a rule that found something. -/
def group? (outcome : String × Except ScanError RuleScan) : Option (String × List Match) :=
  match outcome.2 with
  | .ok scan => if scan.isMatched then some (outcome.1, scan.found) else none
  | .error _ => none

theorem mem_of_group? {outcome : String × Except ScanError RuleScan} {id : String}
    {found : List Match} (grouped : group? outcome = some (id, found)) :
    ∃ scan, outcome = (id, .ok scan) ∧ scan.found = found ∧ found ≠ [] := by
  obtain ⟨id', result⟩ := outcome
  cases result with
  | error e => cases grouped
  | ok scan =>
    by_cases matched : scan.isMatched = true
    · simp only [group?, matched, if_true, Option.some.injEq, Prod.mk.injEq] at grouped
      obtain ⟨rfl, rfl⟩ := grouped
      exact ⟨scan, rfl, rfl, by simpa [RuleScan.isMatched] using matched⟩
    · simp [group?, matched] at grouped

theorem groups_append (outcomes : List (String × Except ScanError RuleScan))
    (last : String × Except ScanError RuleScan) :
    groups (outcomes ++ [last]) = match group? last with
      | some g => (groups outcomes).filter (·.1 ≠ g.1) ++ [g]
      | none => groups outcomes := by
  obtain ⟨id, result⟩ := last
  rw [groups, List.foldl_append]
  cases result with
  | error e => rfl
  | ok scan =>
    show (if scan.isMatched then _ else _) = _
    cases matched : scan.isMatched <;> simp [group?, matched, groups]

/-- Of rules with different ids, each that found something has its group. The induction is from the
end of the batch, where the last group is put. -/
theorem groups_eq_filterMap {outcomes : List (String × Except ScanError RuleScan)}
    (distinct : (outcomes.map (·.1)).Nodup) : groups outcomes = outcomes.filterMap group? := by
  induction outcomes using List.reverseRecOn with
  | nil => rfl
  | append_singleton outcomes last ih =>
    rw [List.map_append, List.nodup_append] at distinct
    obtain ⟨earlier, -, apart⟩ := distinct
    rw [groups_append, ih earlier, List.filterMap_append]
    cases grouped : group? last with
    | none => simp [grouped]
    | some g =>
      obtain ⟨scan, rfl, -⟩ := mem_of_group? grouped
      have kept : (outcomes.filterMap group?).filter (·.1 ≠ g.1) = outcomes.filterMap group? := by
        rw [List.filter_eq_self]
        rintro ⟨id, found⟩ member
        obtain ⟨outcome, among, groupOf⟩ := List.mem_filterMap.mp member
        obtain ⟨scan', rfl, -⟩ := mem_of_group? groupOf
        have other := apart id (List.mem_map_of_mem among) g.1 (by simp)
        simpa using other
      show (outcomes.filterMap group?).filter (·.1 ≠ g.1) ++ [g] = _
      rw [kept, List.filterMap_cons_some grouped, List.filterMap_nil]

/-- The group of a rule is what it found, and there is none if it found nothing. -/
theorem lookup_groups {outcomes : List (String × Except ScanError RuleScan)}
    (distinct : (outcomes.map (·.1)).Nodup) {id : String} {found : List Match} :
    (groups outcomes).lookup id = some found ↔
      ∃ scan, (id, .ok scan) ∈ outcomes ∧ scan.found = found ∧ found ≠ [] := by
  rw [groups_eq_filterMap distinct, List.lookup_eq_some_iff]
  constructor
  · rintro ⟨before, after, split, -⟩
    have member : (id, found) ∈ outcomes.filterMap group? := by simp [split]
    obtain ⟨outcome, among, grouped⟩ := List.mem_filterMap.mp member
    obtain ⟨scan, rfl, same, filled⟩ := mem_of_group? grouped
    exact ⟨scan, among, same, filled⟩
  · rintro ⟨scan, member, rfl, filled⟩
    obtain ⟨before, after, rfl⟩ := List.append_of_mem member
    have grouped : group? (id, .ok scan) = some (id, scan.found) := by
      simp [group?, RuleScan.isMatched, filled]
    refine ⟨before.filterMap group?, after.filterMap group?, ?_, ?_⟩
    · rw [List.filterMap_append, List.filterMap_cons_some grouped]
    · -- A group before this one is that of a rule with another id.
      rintro ⟨id', found'⟩ earlier
      obtain ⟨outcome, among, groupOf⟩ := List.mem_filterMap.mp earlier
      obtain ⟨scan', rfl, -⟩ := mem_of_group? groupOf
      rw [List.map_append, List.nodup_append] at distinct
      have other := distinct.2.2 id' (List.mem_map_of_mem among) id (by simp)
      simpa using Ne.symm other

/-- **Rules of a batch do not influence each other.** They have different ids, and each scanner goes
by what `project` shows of a world and by the match ids of the rule that it works for.

* The outcome of a rule is the one that it has alone, in any world that is the same to it as the
  world before the batch: another service for the same project, with the supply of ids as it was.
* In another order, the rules have the same outcomes.
* Without one of the rules, whatever came of it, the others have the same outcomes.
* The groups of matches are those of the rules that were scanned without an error and found
  something, and each group is what the rule found. -/
theorem scanRules_independent {s : Service σ} {project : World σ → P}
    (isolated : ∀ x ∈ s.registry.scanners, ∀ c q, Isolated project c.rule (x.scan c q))
    {rules : List Rule} (distinct : (rules.map (·.id)).Nodup) {w w₀ : World σ}
    (same : ∀ r ∈ rules, Alike project r.id w w₀) :
    (s.scanRules rules w).1 = rules.map (fun r => (r.id, (s.scanRule r w₀).1)) ∧
    (∀ rules', rules'.Perm rules → (s.scanRules rules' w).1.Perm (s.scanRules rules w).1) ∧
    (∀ before r after, rules = before ++ r :: after →
      ∃ earlier later, earlier.length = before.length ∧
        (s.scanRules rules w).1 = earlier ++ (r.id, (s.scanRule r w₀).1) :: later ∧
        (s.scanRules (before ++ after) w).1 = earlier ++ later) ∧
    ∀ id found, (groups (s.scanRules rules w).1).lookup id = some found ↔
      ∃ r ∈ rules, r.id = id ∧
        ∃ scan, (s.scanRule r w₀).1 = .ok scan ∧ scan.found = found ∧ found ≠ [] := by
  have whole := scanRules_eq_map isolated distinct same
  refine ⟨whole, ?_, ?_, ?_⟩
  · intro rules' permuted
    have distinct' : (rules'.map (·.id)).Nodup := (permuted.map _).nodup_iff.mpr distinct
    have same' : ∀ r ∈ rules', Alike project r.id w w₀ :=
      fun r member => same r (permuted.mem_iff.mp member)
    rw [whole, scanRules_eq_map isolated distinct' same']
    exact permuted.map _
  · rintro before r after rfl
    have fewer : (before ++ after).Sublist (before ++ r :: after) :=
      List.Sublist.append_left (List.sublist_cons_self r after) before
    have distinct' : ((before ++ after).map (·.id)).Nodup := distinct.sublist (fewer.map _)
    have same' : ∀ r ∈ before ++ after, Alike project r.id w w₀ :=
      fun r member => same r (fewer.subset member)
    refine ⟨before.map fun r => (r.id, (s.scanRule r w₀).1),
      after.map fun r => (r.id, (s.scanRule r w₀).1), List.length_map _, ?_, ?_⟩
    · rw [whole, List.map_append, List.map_cons]
    · rw [scanRules_eq_map isolated distinct' same', List.map_append]
  · intro id found
    have keys : ((s.scanRules rules w).1.map (·.1)).Nodup := by
      rw [whole, List.map_map]
      exact distinct
    rw [lookup_groups keys, whole]
    simp only [List.mem_map, Prod.mk.injEq]
    constructor
    · rintro ⟨scan, ⟨r, member, sameId, outcome⟩, grouped⟩
      exact ⟨r, member, sameId, scan, outcome, grouped⟩
    · rintro ⟨r, member, sameId, scan, outcome, grouped⟩
      exact ⟨scan, ⟨r, member, sameId, outcome⟩, grouped⟩

end Service

/-! ## Scanners that go by the project alone -/

section Scanners

/-- A step that depends on files alone, where the project is the files. -/
theorem isolated_read (f : Files.Tree → Except ScanError α) :
    Isolated World.tree rule (ScanM.read f : ScanM σ α) where
  alike {w₁ w₂} same := by
    have sameTree : w₁.tree = w₂.tree := same.sameProject
    refine ⟨?_, same.sameCurrent⟩
    show f w₁.tree = f w₂.tree
    rw [sameTree]
  keeps _ := rfl
  spares _ _ _ := rfl

/-- A step that draws the rule's next match id, and fails if there is none left: whether there is,
and which one it is, is told by the rule's counter. -/
theorem isolated_draw {m : ScanM σ α} (make : String → α) (e : ScanError)
    (drawn : ∀ w : World σ, w.ids.current rule < Fault.maxSequence →
      m w = (.ok (make (MatchIds.format rule (w.ids.current rule + 1))),
        { w with ids := w.ids.put rule (w.ids.current rule + 1) }))
    (exhausted : ∀ w : World σ, ¬ w.ids.current rule < Fault.maxSequence → m w = (.error e, w)) :
    Isolated World.tree rule m := by
  constructor
  · intro w₁ w₂ same
    have sameCurrent := same.sameCurrent
    by_cases room : w₂.ids.current rule < Fault.maxSequence
    · rw [drawn w₂ room, drawn w₁ (sameCurrent ▸ room), sameCurrent]
      simp
    · rw [exhausted w₂ room, exhausted w₁ (sameCurrent ▸ room)]
      exact ⟨rfl, sameCurrent⟩
  · intro w
    by_cases room : w.ids.current rule < Fault.maxSequence
    · rw [drawn w room]
    · rw [exhausted w room]
  · intro w other foreign
    by_cases room : w.ids.current rule < Fault.maxSequence
    · rw [drawn w room, MatchIds.current_put, if_neg foreign]
    · rw [exhausted w room]

/-- Making a request draws no ids of other rules, and of the rule's own at most one. -/
theorem isolated_request (c : Context) (kind : ScannerKind) (q : Query) :
    Isolated World.tree c.rule (c.request kind q : ScanM σ Request) := by
  unfold Context.request
  cases c.routing.resolve q.kind q.symbol with
  | error f => exact .ofExcept (.error (.fault f))
  | ok route =>
    rcases c.mappers.map_draws route.shape kind q c.rule with ⟨result, made⟩ | ⟨make, made⟩
    · simp only [made]
      cases result with
      | error f => exact .ofExcept (.error (.fault f))
      | ok request => exact .ofExcept (.ok request)
    · refine isolated_draw make (.fault (.sequenceExhausted c.rule)) ?_ ?_
      · intro w room
        simp only [made, MatchIds.draw, room, if_true, Except.map]
      · intro w full
        simp only [made, MatchIds.draw, full, if_false, Except.map]

/-- The search for dependencies goes by the files. -/
theorem isolated_dependencies (o : Outside σ) (c : Context) (q : Query) :
    Isolated World.tree c.rule ((builtin o .maven).scan c q) := by
  refine (isolated_request c .maven q).bind fun request _ => ?_
  cases request with
  | dependency gavs => exact isolated_read (Dependencies.search c.config.scan c.root gavs)
  | _ => exact .ofExcept _

/-- The search in files goes by the files. -/
theorem isolated_files (o : Outside σ) (c : Context) (q : Query) :
    Isolated World.tree c.rule ((builtin o .file).scan c q) := by
  refine (isolated_request c .file q).bind fun request _ => ?_
  cases request with
  | file name content =>
    exact isolated_read (FileSearch.search FileSearch.engine c.config.scan c.root name content)
  | _ => exact .ofExcept _

end Scanners

namespace Service

/-- A scanner that reports the match id under which it would search. -/
def numbering : Scanner Unit where
  kind := .openRewrite
  supports q := (SearchRecipe.of? q.key).isSome
  scan c q := do
    match ← c.request .openRewrite q with
    | .recipe recipe => pure [⟨recipe.name, .openRewrite, .row ⟨recipe.matchId?.getD "", []⟩⟩]
    | _ => pure []

theorem isolated_numbering (c : Context) (q : Query) :
    Isolated World.tree c.rule (numbering.scan c q) := by
  refine (isolated_request c .openRewrite q).bind fun request _ => ?_
  cases request with
  | recipe recipe => exact .pure _
  | _ => exact .pure _

/-- A service that reports match ids, dependencies and files. -/
def numberingService : Service Unit where
  root := "app"
  config := {}
  registry := ⟨[numbering, builtin idle .maven, builtin idle .file]⟩
  mappers := .builtin

/-- A rule that draws two match ids, one that cannot be read, and one whose name is like an id of
the first. -/
def batch : List Rule :=
  [{ id := "a", condition := "java.method is 'x' OR java.method is 'y'" },
    { id := "b", condition := "java.method" },
    { id := "a-001", condition := "java.method is 'x'" }]

/-- The last rule gets its first id, as it does alone. -/
theorem scanRules_independent_sample :
    (∀ x ∈ numberingService.registry.scanners, ∀ c q,
      Isolated World.tree c.rule (x.scan c q)) ∧
    (batch.map (·.id)).Nodup ∧
    (∀ r ∈ batch, Alike World.tree r.id (⟨{}, {}, ()⟩ : World Unit) ⟨{}, {}, ()⟩) ∧
    (groups (numberingService.scanRules batch ⟨{}, {}, ()⟩).1).lookup "a-001" =
      some [⟨"dev.snowdrop.openrewrite.java.search.FindMethods", .openRewrite,
        .row ⟨"a-001-001", []⟩⟩] := by
  have isolated : ∀ x ∈ numberingService.registry.scanners, ∀ c q,
      Isolated World.tree c.rule (x.scan c q) := by
    intro x member c q
    rcases List.mem_cons.mp member with rfl | member
    · exact isolated_numbering c q
    · rcases List.mem_cons.mp member with rfl | member
      · exact isolated_dependencies idle c q
      · obtain rfl := List.mem_singleton.mp member
        exact isolated_files idle c q
  have distinct : (batch.map (·.id)).Nodup := by decide
  have same : ∀ r ∈ batch, Alike World.tree r.id (⟨{}, {}, ()⟩ : World Unit) ⟨{}, {}, ()⟩ :=
    fun r _ => .refl _
  obtain ⟨-, -, -, grouped⟩ := scanRules_independent isolated distinct same
  refine ⟨isolated, distinct, same, (grouped _ _).mpr ?_⟩
  refine ⟨{ id := "a-001", condition := "java.method is 'x'" }, by simp [batch], rfl, ?_⟩
  exact ⟨⟨"a-001", .notDeclared, _⟩, by decide +kernel, rfl, by simp⟩

end Service

end Uplift.Scan
