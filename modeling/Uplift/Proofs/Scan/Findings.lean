import Uplift.Proofs.Pom.Descriptions
import Uplift.Proofs.Scan.Mapping
import Uplift.Proofs.Scan.Rules

/-!
# Findings and sentinels

A part of a query that names no dependency is answered by a sentinel, which is no finding. Only the
search for dependencies reports sentinels, and it does so whatever the project declares
(`Dependencies.onlySentinels_iff`); what the other scanners report are findings.

A precondition is not met by sentinels alone. A condition is: `Service.scanRule_sentinels` says
which of its queries contribute nothing but sentinels, and when nothing else is found at all.
-/

namespace Uplift

namespace Scan

variable {σ α : Type}

/-! ## The search for dependencies -/

namespace Dependencies

variable {config : ScanConfig} {root gavs : String} {t : Files.Tree} {found : List Match}

/-- A project description that can be read declares a dependency that is looked for. -/
def Declares (config : ScanConfig) (root : String) (t : Files.Tree) (asked : Coordinate) : Prop :=
  ∃ w poms names text d, walker config t root = .ok w ∧ w.collect t = .ok poms ∧ names ∈ poms ∧
    t.readText (w.pathOf names) = .ok text ∧ d ∈ Pom.dependencies text ∧ asked.isMatch d = true

theorem mem_sentinels_iff {ps : List Part} {x : Match} :
    x ∈ sentinels ps ↔ ∃ text, .malformed text ∈ ps ∧ x = .sentinel text := by
  unfold sentinels
  rw [List.mem_filterMap]
  constructor
  · rintro ⟨part, member, made⟩
    cases part with
    | wanted c => cases made
    | malformed text => exact ⟨text, member, (Option.some.inj made).symm⟩
  · rintro ⟨text, member, rfl⟩
    exact ⟨.malformed text, member, rfl⟩

theorem mem_inPom_iff {searches : List Coordinate} {source text : String} {x : Match} :
    x ∈ inPom searches source text ↔ ∃ d ∈ Pom.dependencies text,
      (∃ c ∈ searches, c.isMatch d = true) ∧ x = ⟨source, .maven, .dependency d⟩ := by
  unfold inPom
  simp only [List.mem_map, List.mem_filter, List.any_eq_true]
  constructor
  · rintro ⟨d, ⟨declared, asked⟩, rfl⟩
    exact ⟨d, declared, asked, rfl⟩
  · rintro ⟨d, declared, asked, rfl⟩
    exact ⟨d, ⟨declared, asked⟩, rfl⟩

/-- What a search reports: a sentinel for each malformed part, and what the project declares. -/
theorem search_eq_ok (ran : search config root gavs t = .ok found) :
    ∃ declared, found = sentinels (parts gavs) ++ declared ∧
      (∀ x ∈ declared, x.isSentinel = false) ∧
      (declared ≠ [] ↔ ∃ c ∈ wanted (parts gavs), Declares config root t c) := by
  unfold search at ran
  by_cases none : (wanted (parts gavs)).isEmpty = true
  · simp only [none, if_true, Except.ok.injEq] at ran
    refine ⟨[], by rw [← ran, List.append_nil], by simp, by simp, ?_⟩
    rintro ⟨c, member, -⟩
    rw [List.isEmpty_iff.mp none] at member
    cases member
  · simp only [none] at ran
    obtain ⟨w, walked, ran⟩ := bind_eq_ok_iff.mp ran
    obtain ⟨poms, collected, ran⟩ := bind_eq_ok_iff.mp ran
    refine ⟨_, (Except.ok.inj ran).symm, ?_, ?_⟩
    · intro x member
      obtain ⟨names, -, here⟩ := List.mem_flatMap.mp member
      split at here
      · obtain ⟨d, declared, -, rfl⟩ := mem_inPom_iff.mp here
        exact Pom.isEmpty_of_mem_dependencies declared
      · cases here
    · constructor
      · intro filled
        obtain ⟨x, member⟩ := List.exists_mem_of_ne_nil _ filled
        obtain ⟨names, pom, here⟩ := List.mem_flatMap.mp member
        split at here
        · next text read =>
          obtain ⟨d, declared, ⟨c, asked, fits⟩, -⟩ := mem_inPom_iff.mp here
          exact ⟨c, asked, w, poms, names, text, d, walked, collected, pom, read, declared, fits⟩
        · cases here
      · rintro ⟨c, asked, w', poms', names, text, d, walked', collected', pom, read, declared, fits⟩
        obtain rfl := Except.ok.inj (walked.symm.trans walked')
        obtain rfl := Except.ok.inj (collected.symm.trans collected')
        have here : ⟨Files.relative names, .maven, .dependency d⟩ ∈
            inPom (wanted (parts gavs)) (Files.relative names) text :=
          mem_inPom_iff.mpr ⟨d, declared, ⟨c, asked, fits⟩, rfl⟩
        intro empty
        have nothing := List.flatMap_eq_nil_iff.mp empty names pom
        simp only [read] at nothing
        rw [nothing] at here
        cases here

/-- A search reports sentinels and nothing else exactly if a part is malformed and the project
declares none of the others. -/
theorem onlySentinels_iff (ran : search config root gavs t = .ok found) :
    (found ≠ [] ∧ ∀ x ∈ found, x.isSentinel = true) ↔
      (∃ text, .malformed text ∈ parts gavs) ∧
        ∀ c ∈ wanted (parts gavs), ¬ Declares config root t c := by
  obtain ⟨declared, rfl, real, declares⟩ := search_eq_ok ran
  have nothing : (∀ c ∈ wanted (parts gavs), ¬ Declares config root t c) ↔ declared = [] := by
    rw [← not_iff_not, ← ne_eq, declares]
    push Not
    rfl
  rw [nothing]
  constructor
  · rintro ⟨filled, all⟩
    have empty : declared = [] := by
      rw [List.eq_nil_iff_forall_not_mem]
      intro x member
      have sentinel := all x (List.mem_append_right _ member)
      cases (real x member).symm.trans sentinel
    rw [empty, List.append_nil] at filled
    obtain ⟨x, member⟩ := List.exists_mem_of_ne_nil _ filled
    obtain ⟨text, malformed, -⟩ := mem_sentinels_iff.mp member
    exact ⟨⟨text, malformed⟩, empty⟩
  · rintro ⟨⟨text, malformed⟩, rfl⟩
    rw [List.append_nil]
    constructor
    · exact List.ne_nil_of_mem (mem_sentinels_iff.mpr ⟨text, malformed, rfl⟩)
    · intro x member
      obtain ⟨text', -, rfl⟩ := mem_sentinels_iff.mp member
      rfl

end Dependencies

/-! ## The other scanners -/

/-- There are no sentinels among the matches. -/
def AllFindings (found : List Match) : Prop := ∀ x ∈ found, x.isSentinel = false

/-- A computation that reports findings only, in any world. -/
def ReportsFindings (m : ScanM σ (List Match)) : Prop :=
  ∀ w found w', m w = (.ok found, w') → AllFindings found

namespace ReportsFindings

theorem bind {m : ScanM σ α} {f : α → ScanM σ (List Match)} (later : ∀ a, ReportsFindings (f a)) :
    ReportsFindings (m >>= f) := by
  intro w found w' ran
  rcases run : m w with ⟨e | a, v⟩
  · rw [RuleScan.bind_run_error run] at ran
    cases (Prod.mk.inj ran).1
  · rw [RuleScan.bind_run_ok run] at ran
    exact later a v found w' ran

theorem ofExcept {x : Except ScanError (List Match)}
    (real : ∀ found, x = .ok found → AllFindings found) :
    ReportsFindings (ScanM.ofExcept x : ScanM σ (List Match)) :=
  fun _ found _ ran => real found (Prod.mk.inj ran).1

theorem read {f : Files.Tree → Except ScanError (List Match)}
    (real : ∀ t found, f t = .ok found → AllFindings found) :
    ReportsFindings (ScanM.read f : ScanM σ (List Match)) :=
  fun w found _ ran => real w.tree found (Prod.mk.inj ran).1

theorem andThen {m : ScanM σ (List Match)} (real : ReportsFindings m)
    (change : Files.Tree → Files.Tree) : ReportsFindings (m.andThen change) :=
  fun w found _ ran => real w found _ (Prod.ext (Prod.mk.inj ran).1 rfl)

/-- A request that is not the scanner's own is an error. -/
theorem foreign (kind : ScannerKind) :
    ReportsFindings (ScanM.ofExcept (.error (.state (.foreignRequest kind))) :
      ScanM σ (List Match)) :=
  .ofExcept (by simp)

end ReportsFindings

theorem AllFindings.map {β : Type} {f : β → Match} (real : ∀ b, (f b).isSentinel = false)
    (xs : List β) : AllFindings (xs.map f) := by
  intro x member
  obtain ⟨b, -, rfl⟩ := List.mem_map.mp member
  exact real b

theorem FileSearch.findings_search {compile : Engine} {config : ScanConfig} {root : String}
    {name content : Option String} {t : Files.Tree} {found : List Match}
    (ran : search compile config root name content t = .ok found) : AllFindings found := by
  have real (l : Location) : (located l).isSentinel = false := rfl
  cases content with
  | some content =>
    obtain ⟨lines, -, same⟩ := bind_eq_ok_iff.mp ran
    rw [← Except.ok.inj same]
    exact .map real lines
  | none =>
    cases name with
    | none => cases ran
    | some name =>
      obtain ⟨files, -, same⟩ := bind_eq_ok_iff.mp ran
      rw [← Except.ok.inj same]
      exact .map real files

theorem SymbolSearch.findings_matches {answer : Value} {found : List Match}
    (ran : matches' answer = .ok found) : AllFindings found := by
  unfold matches' at ran
  split at ran
  · rw [← Except.ok.inj ran]
    intro x member
    cases member
  · split at ran
    · rw [← Except.ok.inj ran]
      exact .map (fun s => rfl) _
    · cases ran

theorem RecipeSearch.findings_newMatches {c : Context} {id : String} {before : List String}
    {t : Files.Tree} {found : List Match} (ran : newMatches c id before t = .ok found) :
    AllFindings found := by
  obtain ⟨tables, -, ran⟩ := bind_eq_ok_iff.mp ran
  obtain ⟨founds, each, same⟩ := bind_eq_ok_iff.mp ran
  rw [← Except.ok.inj same]
  intro x member
  obtain ⟨some, among, here⟩ := List.mem_flatten.mp member
  obtain ⟨table, -, read⟩ := exists_of_mem_mapM each among
  obtain ⟨rows, -, same⟩ := bind_eq_ok_iff.mp read
  rw [← Except.ok.inj same] at here
  exact AllFindings.map (fun r => rfl) rows x here

theorem RecipeSearch.findings_runSearch (o : Outside σ) (c : Context) (id : String) :
    ReportsFindings (runSearch o c id) := by
  refine .bind fun before => .bind fun finished => ?_
  split
  · exact .read fun t found => findings_newMatches
  · exact .ofExcept (by simp)

/-- A built-in scanner other than the search for dependencies reports findings only. -/
theorem findings_builtin (o : Outside σ) {kind : ScannerKind} (other : kind ≠ .maven) (c : Context)
    (q : Query) : ReportsFindings ((builtin o kind).scan c q) := by
  cases kind with
  | maven => exact absurd rfl other
  | file =>
    refine .bind fun request => ?_
    cases request with
    | file name content => exact .read fun t found => FileSearch.findings_search
    | _ => exact .foreign .file
  | jdtls =>
    refine .bind fun request => ?_
    cases request with
    | symbol symbol query =>
      dsimp only
      split
      · exact .ofExcept (by simp)
      · exact .bind fun answer => .ofExcept fun found => SymbolSearch.findings_matches
    | _ => exact .foreign .jdtls
  | openRewrite =>
    refine .bind fun request => ?_
    cases request with
    | recipe recipe =>
      dsimp only
      split
      · exact .ofExcept (by simp)
      · exact .bind fun _ => (RecipeSearch.findings_runSearch o c _).andThen _
    | _ => exact .foreign .openRewrite

/-! ## Queries -/

theorem Mapper.run_dependency_ok {q : Query} (rule : String) {ids ids' : MatchIds}
    {request : Request} (ran : Mapper.dependency.run q rule ids = .ok (request, ids')) :
    ∃ gavs, Mapper.coordinates q = .ok gavs ∧ request = .dependency gavs := by
  obtain ⟨gavs, read, same⟩ := bind_eq_ok_iff.mp ran
  exact ⟨gavs, read, (congrArg Prod.fst (Except.ok.inj same)).symm⟩

/-- A query is put to the search for dependencies as a list of coordinates, and no file changes. -/
theorem Context.request_maven_ok {c : Context} {q : Query} {w w' : World σ} {request : Request}
    (mappers : c.mappers = .builtin) (ran : c.request .maven q w = (.ok request, w')) :
    w'.tree = w.tree ∧ ∃ gavs, Mapper.coordinates q = .ok gavs ∧ request = .dependency gavs := by
  obtain ⟨route, left, -, mapped, rfl⟩ := c.exists_map_of_request ran
  refine ⟨rfl, ?_⟩
  rw [mappers] at mapped
  -- Only dependencies have a mapper on this scanner.
  cases shape : route.shape with
  | dependency =>
    rw [shape] at mapped
    exact Mapper.run_dependency_ok c.rule mapped
  | _ =>
    rw [shape] at mapped
    cases mapped

/-- What the search for dependencies does with a query. -/
theorem Dependencies.scan_ok {c : Context} {q : Query} {w w' : World σ} {found : List Match}
    (mappers : c.mappers = .builtin) (ran : Dependencies.scanner.scan c q w = (.ok found, w')) :
    ∃ gavs, Mapper.coordinates q = .ok gavs ∧
      search c.config.scan c.root gavs w.tree = .ok found := by
  change (c.request .maven q >>= _) w = _ at ran
  rcases made : c.request .maven q w with ⟨e | request, w₁⟩
  · rw [RuleScan.bind_run_error made] at ran
    cases (Prod.mk.inj ran).1
  · obtain ⟨unchanged, gavs, read, rfl⟩ := c.request_maven_ok mappers made
    rw [RuleScan.bind_run_ok made] at ran
    have result := (Prod.mk.inj ran).1
    rw [unchanged] at result
    exact ⟨gavs, read, result⟩

namespace Service

variable {o : Outside σ} {kinds : List ScannerKind} {root : String} {config : Config}
  {s : Service σ} {rule : String} {q : Query} {w w' : World σ} {found : List Match}

/-- A query that is answered has a route, and a scanner that answers it. -/
theorem exists_scanner_of_ok (ran : s.scanQuery rule q w = (.ok found, w')) :
    ∃ route scanner, s.config.routes.resolve q.kind q.symbol = .ok route ∧
      s.registry.resolve q (some (s.config.scan.defaultScanner.getD route.scanner)) =
        .ok scanner ∧ scanner.scan (s.context rule) q w = (.ok found, w') := by
  cases routed : s.config.routes.resolve q.kind q.symbol with
  | error f =>
    simp only [scanQuery, routed] at ran
    cases (Prod.mk.inj ran).1
  | ok route =>
    cases resolved : s.registry.resolve q
        (some (s.config.scan.defaultScanner.getD route.scanner)) with
    | ok scanner => exact ⟨route, scanner, rfl, resolved, scanQuery_eq routed resolved ▸ ran⟩
    | error e =>
      have run : (ScanM.ofExcept (s.registry.resolve q
          (some (s.config.scan.defaultScanner.getD route.scanner))) : ScanM σ (Scanner σ)) w =
            (.error e, w) := by
        rw [ScanM.ofExcept, resolved]
      simp only [scanQuery, routed] at ran
      cases (Prod.mk.inj ((RuleScan.bind_run_error run _).symm.trans ran)).1

/-- A query is answered by the search for dependencies, a part of it is malformed, and the project
declares none of the others. -/
def OnlyMalformed (s : Service σ) (q : Query) (t : Files.Tree) : Prop :=
  ∃ route scanner gavs, s.config.routes.resolve q.kind q.symbol = .ok route ∧
    s.registry.resolve q (some (s.config.scan.defaultScanner.getD route.scanner)) = .ok scanner ∧
    scanner.kind = .maven ∧ Mapper.coordinates q = .ok gavs ∧
    (∃ text, .malformed text ∈ Dependencies.parts gavs) ∧
    ∀ c ∈ Dependencies.wanted (Dependencies.parts gavs),
      ¬ Dependencies.Declares s.config.scan s.root t c

/-- When a query that is answered finds sentinels and nothing else. -/
theorem onlySentinels_iff
    (built : Service.of root config (.ofList (kinds.map (builtin o))) .builtin = .ok s)
    (ran : s.scanQuery rule q w = (.ok found, w')) :
    (found ≠ [] ∧ ∀ x ∈ found, x.isSentinel = true) ↔ s.OnlyMalformed q w.tree := by
  obtain ⟨-, rfl⟩ := of_eq_ok_iff.mp built
  obtain ⟨route, scanner, routed, resolved, scanned⟩ := exists_scanner_of_ok ran
  have isBuiltin := Registry.eq_builtin_of_mem (Registry.of_resolve resolved).1
  rw [isBuiltin] at scanned
  by_cases maven : scanner.kind = .maven
  · rw [maven] at scanned
    obtain ⟨gavs, read, searched⟩ := Dependencies.scan_ok rfl scanned
    rw [Dependencies.onlySentinels_iff searched]
    constructor
    · rintro ⟨malformed, absent⟩
      exact ⟨route, scanner, gavs, routed, resolved, maven, read, malformed, absent⟩
    · rintro ⟨_, _, gavs', -, -, -, read', malformed, absent⟩
      obtain rfl := Except.ok.inj (read.symm.trans read')
      exact ⟨malformed, absent⟩
  · constructor
    · rintro ⟨filled, sentinels⟩
      obtain ⟨x, member⟩ := List.exists_mem_of_ne_nil _ filled
      have real := findings_builtin o maven _ q w found w' scanned x member
      cases real.symm.trans (sentinels x member)
    · rintro ⟨route', scanner', -, routed', resolved', maven', -⟩
      obtain rfl := Except.ok.inj (routed.symm.trans routed')
      obtain rfl := Except.ok.inj (resolved.symm.trans resolved')
      exact absurd maven' maven

end Service

/-! ## Rules -/

end Scan

namespace RuleScan

variable {ω ε : Type}

/-- A query that was asked, the world before it, and what it found. -/
structure Answer (ω : Type) where
  query : Query
  before : ω
  found : List Match

/-- Queries are asked one after the other, each in the world that the one before it left. -/
inductive Answered (ask : Query → ExceptT ε (StateM ω) (List Match)) :
    ω → List (Answer ω) → ω → Prop
  | nil {w} : Answered ask w [] w
  | cons {q w found w₁ rest w₂} : ask q w = (.ok found, w₁) → Answered ask w₁ rest w₂ →
      Answered ask w (⟨q, w, found⟩ :: rest) w₂

variable {ask : Query → ExceptT ε (StateM ω) (List Match)} {w w' : ω}

theorem Asks.answered {goes : List Match → Prop} {qs : List Query} {founds : List (List Match)}
    (asks : Asks ask goes w qs founds w') :
    ∃ answers, Answered ask w answers w' ∧ answers.map (·.query) = qs ∧
      answers.map (·.found) = founds ∧ ∀ a ∈ answers, goes a.found := by
  induction asks with
  | nil => exact ⟨[], .nil, rfl, rfl, by simp⟩
  | @cons q qs found founds w₀ w₁ w₂ answer more _ ih =>
    obtain ⟨answers, rest, queries, finds, go⟩ := ih
    refine ⟨⟨q, w₀, found⟩ :: answers, .cons answer rest, ?_, ?_, ?_⟩
    · rw [List.map_cons, queries]
    · rw [List.map_cons, finds]
    · exact List.forall_mem_cons.mpr ⟨more, go⟩

theorem Answered.answer {answers : List (Answer ω)} (answered : Answered ask w answers w') :
    ∀ a ∈ answers, ∃ after, ask a.query a.before = (.ok a.found, after) := by
  induction answered with
  | nil => simp
  | cons answer _ ih => exact List.forall_mem_cons.mpr ⟨⟨_, answer⟩, ih⟩

/-- A condition that finds something has asked all its queries, and found what they found. If it is
a condition on all parts, each of them found something. -/
theorem Finds.answered {c : Condition} {asked : List Query} {found : List Match}
    (finds : Finds ask c w asked (.ok found) w') (some : found ≠ []) :
    ∃ answers, Answered ask w answers w' ∧ answers.map (·.query) = c.queries ∧
      found = answers.flatMap (·.found) ∧ ∀ qs, c = .all qs → ∀ a ∈ answers, a.found ≠ [] := by
  generalize same : Except.ok found = result at finds
  cases finds with
  | @one q w result w' answer =>
    subst same
    refine ⟨[⟨q, w, found⟩], .cons answer .nil, rfl, ?_, ?_⟩
    · simp
    · intro qs all
      cases all
  | all asks =>
    obtain ⟨answers, answered, queries, finds, go⟩ := asks.answered
    refine ⟨answers, answered, queries, ?_, fun _ _ => go⟩
    rw [Except.ok.inj same, ← finds, List.flatMap]
  | allEmpty => exact absurd (Except.ok.inj same) some
  | allFails => cases same
  | any asks =>
    obtain ⟨answers, answered, queries, finds, -⟩ := asks.answered
    refine ⟨answers, answered, queries, ?_, ?_⟩
    · rw [Except.ok.inj same, ← finds, List.flatMap]
    · intro qs all
      cases all
  | anyFails => cases same

/-- A rule that is matched was let through by its precondition, and its condition found
something. -/
theorem Scans.of_matched {ask : Query → ExceptT ScanError (StateM ω) (List Match)} {r : Rule}
    {asked : List Query} {scan : RuleScan} (scans : Scans ask r w asked (.ok scan) w')
    (matched : scan.isMatched = true) :
    ∃ c before start asked', r.query = .ok c ∧ Opens ask r w before scan.precondition start ∧
      Finds ask c start asked' (.ok scan.found) w' ∧ scan.found ≠ [] := by
  have some : scan.found ≠ [] := by
    intro none
    rw [isMatched, none] at matched
    cases matched
  generalize same : Except.ok scan = result at scans
  cases scans with
  | badCondition | badPrecondition | preconditionFails => cases same
  | notSatisfied =>
    obtain rfl := Except.ok.inj same
    exact absurd rfl some
  | @evaluated c before status start asked' result w' condition opens finds =>
    cases result with
    | error e => cases same
    | ok found =>
      obtain rfl := Except.ok.inj same
      exact ⟨c, before, start, asked', condition, opens, finds, some⟩

end RuleScan

namespace Scan.Service

open RuleScan

variable {o : Outside σ} {kinds : List ScannerKind} {root : String} {config : Config}
  {s : Service σ} {r : Rule} {scan : RuleScan} {w w' : World σ}

/-- What makes a rule match: every query of its condition was answered, and one that is answered by
sentinels alone names malformed coordinates and none that the project declares. Such a query passes
for a part of a condition on all parts, and a rule may match with no finding at all. -/
theorem scanRule_sentinels
    (built : Service.of root config (.ofList (kinds.map (builtin o))) .builtin = .ok s)
    (ran : s.scanRule r w = (.ok scan, w')) (matched : scan.isMatched = true) :
    ∃ c before start answers, r.query = .ok c ∧
      Opens (s.scanQuery r.id) r w before scan.precondition start ∧
      Answered (s.scanQuery r.id) start answers w' ∧ answers.map (·.query) = c.queries ∧
      scan.found = answers.flatMap (·.found) ∧
      (∀ a ∈ answers, (a.found ≠ [] ∧ ∀ x ∈ a.found, x.isSentinel = true) ↔
        s.OnlyMalformed a.query a.before.tree) ∧
      (∀ qs, c = .all qs → ∀ a ∈ answers, a.found ≠ []) ∧
      ((∀ x ∈ scan.found, x.isSentinel = true) ↔
        ∀ a ∈ answers, a.found = [] ∨ s.OnlyMalformed a.query a.before.tree) := by
  have scans := (scans_iff s r w w' _ _).mpr ⟨ran, rfl⟩
  obtain ⟨c, before, start, asked', condition, opens, finds, some⟩ := scans.of_matched matched
  obtain ⟨answers, answered, queries, all, each⟩ := finds.answered some
  have only : ∀ a ∈ answers, (a.found ≠ [] ∧ ∀ x ∈ a.found, x.isSentinel = true) ↔
      s.OnlyMalformed a.query a.before.tree := by
    intro a member
    obtain ⟨after, answer⟩ := answered.answer a member
    exact onlySentinels_iff built answer
  refine ⟨c, before, start, answers, condition, opens, answered, queries, all, only, each, ?_⟩
  rw [all]
  constructor
  · intro sentinels a member
    by_cases empty : a.found = []
    · exact .inl empty
    · refine .inr ((only a member).mp ⟨empty, fun x here => ?_⟩)
      exact sentinels x (List.mem_flatMap.mpr ⟨a, member, here⟩)
  · intro either x found
    obtain ⟨a, member, here⟩ := List.mem_flatMap.mp found
    rcases either a member with empty | malformed
    · rw [empty] at here
      cases here
    · exact ((only a member).mpr malformed).2 x here

/-- A rule whose condition is a malformed coordinate. -/
def malformedRule : Rule where
  id := "r1"
  condition := "pom.dependency is (gavs='lombok')"

/-- It matches in an empty project, on the coordinate alone. -/
theorem scanRule_sentinels_sample :
    ∃ s scan w', Service.of "app" {} (.ofList ([.maven].map (builtin idle))) .builtin = .ok s ∧
      s.scanRule malformedRule ⟨{}, {}, ()⟩ = (.ok scan, w') ∧ scan.isMatched = true ∧
      (∀ x ∈ scan.found, x.isSentinel = true) ∧
      s.OnlyMalformed ⟨"pom", "dependency", [("gavs", "lombok")]⟩ {} := by
  let registry := Registry.ofList ([ScannerKind.maven].map (builtin idle))
  let s : Service Unit := ⟨"app", {}, registry, .builtin⟩
  let scan : RuleScan := ⟨"r1", .notDeclared, [.sentinel "lombok"]⟩
  have built : Service.of "app" {} registry .builtin = .ok s :=
    of_eq_ok_iff.mpr ⟨by decide, rfl⟩
  have scanned : (s.scanRule malformedRule ⟨{}, {}, ()⟩).1 = .ok scan := by decide +kernel
  obtain ⟨w', ran⟩ : ∃ w', s.scanRule malformedRule ⟨{}, {}, ()⟩ = (.ok scan, w') :=
    ⟨_, Prod.ext scanned rfl⟩
  have sentinels : ∀ x ∈ scan.found, x.isSentinel = true := by decide
  refine ⟨s, scan, w', built, ran, rfl, sentinels, ?_⟩
  obtain ⟨c, before, start, answers, condition, opens, answered, queries, all, -, -, only⟩ :=
    scanRule_sentinels built ran rfl
  have read : malformedRule.query =
      .ok (.one ⟨"pom", "dependency", [("gavs", "lombok")]⟩) := by decide +kernel
  obtain rfl := Except.ok.inj (condition.symm.trans read)
  -- Nothing is asked before the query, and it is the only one.
  have first : start = ⟨{}, {}, ()⟩ := by
    cases opens with
    | undeclared => rfl
  subst first
  cases answered with
  | nil => cases queries
  | @cons q w found w₁ rest w₂ answer more =>
    obtain ⟨rfl, last⟩ := List.cons.inj queries
    obtain rfl := List.map_eq_nil_iff.mp last
    rcases only.mp sentinels _ List.mem_cons_self with empty | malformed
    · rw [List.flatMap_singleton, empty] at all
      cases all
    · exact malformed

end Scan.Service

end Uplift
