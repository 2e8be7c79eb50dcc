import Uplift.Proofs.Files.Spelled
import Uplift.Proofs.Files.Proper
import Uplift.Proofs.Scan.Findings
import Uplift.Proofs.Scan.Walker

/-!
# The search for dependencies

What the search answers, said without the search: a sentinel for each part of the query that is no
coordinate, and then the declared dependencies that the other parts ask for, file by file
(`report`). Where the walk succeeds, the search answers that and nothing else (`search_eq_report`);
where it fails, so does the search (`search_of_failed`), unless the query names no coordinate and
there is no walk (`search_of_noCoordinate`). `scan_reports` collects what follows for a query, for
two queries that ask for the same, and for a rule whose precondition is such a query.

That the project descriptions can be read is not enough for an answer: a link that leads nowhere
spoils a walk that follows links (`scan_reports_exception`).
-/

namespace Uplift.Scan.Dependencies

open Files

variable {σ : Type} {gavs gavs' : String} {d : Coordinate} {k : Walker} {t : Tree}
  {poms : List (List String)}

/-! ## The parts of a query -/

/-- What stands between commas, unless it is blank. -/
def partTexts (gavs : String) : List (List Char) :=
  (gavs.toList.splitOn ',').filter fun s => !Text.isBlankText s

def malformed (gavs : String) : List String :=
  ((partTexts gavs).filter fun s => (Coordinate.parse? (String.ofList s)).isNone).map fun s =>
    String.ofList (Text.trim s)

def wellFormed (gavs : String) : List Coordinate :=
  (partTexts gavs).filterMap fun s => Coordinate.parse? (String.ofList s)

theorem sentinels_parts (gavs : String) :
    sentinels (parts gavs) = (malformed gavs).map .sentinel := by
  unfold sentinels parts malformed
  rw [List.filterMap_map, ← partTexts, List.map_map]
  induction partTexts gavs with
  | nil => rfl
  | cons s ss ih =>
    cases h : Coordinate.parse? (String.ofList s) with
    | none => simpa [h] using ih
    | some c => simpa [h] using ih

theorem wanted_parts (gavs : String) : wanted (parts gavs) = wellFormed gavs := by
  unfold wanted parts wellFormed
  rw [List.filterMap_map, ← partTexts]
  refine List.filterMap_congr fun s _ => ?_
  cases h : Coordinate.parse? (String.ofList s) with
  | none => simp [h]
  | some c => simp [h]

/-- A part of the query asks for a dependency. -/
def isAsked (gavs : String) (d : Coordinate) : Bool := (wellFormed gavs).any (·.isMatch d)

theorem isAsked_iff : isAsked gavs d = true ↔ ∃ c ∈ wellFormed gavs, c.group = d.group ∧
    c.artifact = d.artifact ∧ ∀ v, c.version = some v → d.version = some v := by
  unfold isAsked
  rw [List.any_eq_true]
  refine exists_congr fun c => and_congr_right fun _ => ?_
  unfold Coordinate.isMatch
  rw [Bool.and_eq_true, Bool.and_eq_true, decide_eq_true_iff, decide_eq_true_iff, and_assoc]
  refine and_congr_right fun _ => and_congr_right fun _ => ?_
  cases c.version with
  | none => simp
  | some v => simp [eq_comm]

/-- Order and repetition of the coordinates that are asked for do not matter. -/
theorem isAsked_congr (same : ∀ c, c ∈ wellFormed gavs ↔ c ∈ wellFormed gavs') :
    isAsked gavs = isAsked gavs' := by
  funext d
  rw [Bool.eq_iff_iff, isAsked_iff, isAsked_iff]
  exact exists_congr fun c => and_congr_left' (same c)

/-! ## The report of a search -/

/-- What a project description declares; nothing, if it cannot be read. -/
def declaredIn (k : Walker) (t : Tree) (names : List String) : List Coordinate :=
  match t.readText (k.pathOf names) with
  | .ok text => Pom.dependencies text
  | .error _ => []

/-- The declared dependencies that are asked for, each once, in order. -/
def declared (k : Walker) (t : Tree) (poms : List (List String)) (gavs : String) : List Match :=
  poms.flatMap fun names => ((declaredIn k t names).filter (isAsked gavs)).map fun d =>
    ⟨relative names, .maven, .dependency d⟩

def report (k : Walker) (t : Tree) (poms : List (List String)) (gavs : String) : List Match :=
  (malformed gavs).map .sentinel ++ declared k t poms gavs

/-- A project description declares a dependency that is asked for. -/
def Finds (k : Walker) (t : Tree) (poms : List (List String)) (gavs : String) : Prop :=
  ∃ names ∈ poms, ∃ d ∈ declaredIn k t names, isAsked gavs d = true

theorem mem_declared_iff {x : Match} : x ∈ declared k t poms gavs ↔ ∃ names ∈ poms,
    ∃ d ∈ declaredIn k t names, isAsked gavs d = true ∧
      x = ⟨relative names, .maven, .dependency d⟩ := by
  unfold declared
  simp only [List.mem_flatMap, List.mem_map, List.mem_filter]
  constructor
  · rintro ⟨names, pom, d, ⟨here, asked⟩, rfl⟩
    exact ⟨names, pom, d, here, asked, rfl⟩
  · rintro ⟨names, pom, d, here, asked, rfl⟩
    exact ⟨names, pom, d, ⟨here, asked⟩, rfl⟩

theorem isSentinel_of_mem_declared {x : Match} (member : x ∈ declared k t poms gavs) :
    x.isSentinel = false := by
  obtain ⟨names, -, d, here, -, rfl⟩ := mem_declared_iff.mp member
  unfold declaredIn at here
  split at here
  · exact Pom.isEmpty_of_mem_dependencies here
  · cases here

/-- The sentinels of a report are those of the malformed parts. -/
theorem isSentinel_iff {x : Match} (member : x ∈ report k t poms gavs) :
    x.isSentinel = true ↔ x ∈ (malformed gavs).map .sentinel := by
  rcases List.mem_append.mp member with sentinel | real
  · obtain ⟨text, -, rfl⟩ := List.mem_map.mp sentinel
    exact iff_of_true rfl sentinel
  · have not := isSentinel_of_mem_declared real
    refine iff_of_false (by simp [not]) fun sentinel => ?_
    obtain ⟨text, -, rfl⟩ := List.mem_map.mp sentinel
    cases not

theorem filter_sentinels (texts : List String) :
    ((texts.map Match.sentinel).filter fun x => !x.isSentinel) = [] := by
  rw [List.filter_eq_nil_iff]
  intro x member
  obtain ⟨text, -, rfl⟩ := List.mem_map.mp member
  simp [Match.sentinel, Match.isSentinel, Coordinate.empty, Coordinate.isEmpty]

theorem filter_report (k : Walker) (t : Tree) (poms : List (List String)) (gavs : String) :
    ((report k t poms gavs).filter fun x => !x.isSentinel) = declared k t poms gavs := by
  rw [report, List.filter_append, filter_sentinels, List.nil_append, List.filter_eq_self]
  intro x member
  simp [isSentinel_of_mem_declared member]

theorem holds_report : RuleScan.holds (report k t poms gavs) = true ↔ Finds k t poms gavs := by
  have found : (∃ x, x ∈ declared k t poms gavs) ↔ Finds k t poms gavs := by
    constructor
    · rintro ⟨x, member⟩
      obtain ⟨names, pom, d, here, asked, -⟩ := mem_declared_iff.mp member
      exact ⟨names, pom, d, here, asked⟩
    · rintro ⟨names, pom, d, here, asked⟩
      exact ⟨_, mem_declared_iff.mpr ⟨names, pom, d, here, asked, rfl⟩⟩
  rw [← found, ← filter_report]
  simp [RuleScan.holds, List.mem_filter]

/-! ## The search -/

/-- The walk over a project, and the files that it gives. -/
def walked (config : ScanConfig) (t : Tree) (root : String) :
    Except ScanError (Walker × List (List String)) := do
  let k ← walker config t root
  let poms ← k.collect t
  .ok (k, poms)

section Search

variable {config : ScanConfig} {root : String}

theorem walked_eq_ok_iff : walked config t root = .ok (k, poms) ↔
    walker config t root = .ok k ∧ k.collect t = .ok poms := by
  constructor
  · intro done
    obtain ⟨k', walks, rest⟩ := bind_eq_ok_iff.mp done
    obtain ⟨poms', collected, same⟩ := bind_eq_ok_iff.mp rest
    obtain ⟨rfl, rfl⟩ := Prod.mk.inj (Except.ok.inj same)
    exact ⟨walks, collected⟩
  · rintro ⟨walks, collected⟩
    exact bind_eq_ok_iff.mpr ⟨k, walks, bind_eq_ok_iff.mpr ⟨poms, collected, rfl⟩⟩

/-- A query that names no coordinate is answered without a walk. -/
theorem search_of_noCoordinate (none : wellFormed gavs = []) :
    search config root gavs t = .ok ((malformed gavs).map .sentinel) := by
  rw [← sentinels_parts]
  refine if_pos ?_
  rw [wanted_parts, none]
  rfl

/-- Any other query is answered by what is declared in the files of the walk. -/
theorem search_eq (some' : wellFormed gavs ≠ []) : search config root gavs t =
    (walked config t root >>= fun (k, poms) => .ok (report k t poms gavs)) := by
  have real (k : Walker) (poms : List (List String)) : (poms.flatMap fun names =>
      match t.readText (k.pathOf names) with
      | .ok text => inPom (wellFormed gavs) (relative names) text
      | .error _ => []) = declared k t poms gavs := by
    unfold declared
    congr 1
    funext names
    unfold declaredIn
    cases t.readText (k.pathOf names) with
    | ok text => rfl
    | error e => rfl
  unfold search walked
  dsimp only
  rw [wanted_parts, sentinels_parts, if_neg (by simpa using some')]
  cases walker config t root with
  | error e => rfl
  | ok k =>
    show (k.collect t >>= _) = ((k.collect t >>= _) >>= _)
    cases k.collect t with
    | error e => rfl
    | ok poms => exact congrArg Except.ok (congrArg _ (real k poms))

theorem search_of_failed {e : ScanError} (some' : wellFormed gavs ≠ [])
    (failed : walked config t root = .error e) : search config root gavs t = .error e := by
  rw [search_eq some', failed]
  rfl

/-- Where the walk succeeds, the search answers with the report. -/
theorem search_eq_report (done : walked config t root = .ok (k, poms)) (gavs : String) :
    search config root gavs t = .ok (report k t poms gavs) := by
  by_cases none : wellFormed gavs = []
  · -- The files are not looked at, and none of them declares what is not asked for.
    have empty : declared k t poms gavs = [] := by
      rw [List.eq_nil_iff_forall_not_mem]
      intro x member
      obtain ⟨names, -, d, -, asked, -⟩ := mem_declared_iff.mp member
      rw [isAsked, none] at asked
      cases asked
    rw [search_of_noCoordinate none, report, empty, List.append_nil]
  · rw [search_eq none, done]
    rfl

end Search

theorem scan_eq_search {c : Context} {q : Query} {w : World σ}
    (asks : c.request .maven q w = (.ok (.dependency gavs), w)) :
    scanner.scan c q w = (search c.config.scan c.root gavs w.tree, w) := by
  change (c.request .maven q >>= _) w = _
  rw [RuleScan.bind_run_ok asks]
  rfl

/-- The walk is one over files that are called `pom.xml`. -/
theorem path_of_mem_poms {config : ScanConfig} {root : String}
    (walks : walker config t root = .ok k) (collected : k.collect t = .ok poms)
    {names : List String} (member : names ∈ poms) :
    relative names = "pom.xml" ∨ ∃ lead, relative names = lead ++ "/pom.xml" := by
  obtain ⟨w, -, globbed⟩ := bind_eq_ok_iff.mp walks
  let name : List Char := ['p', 'o', 'm', '.', 'x', 'm', 'l']
  have glob : k.glob = some [{ glob := .manyNamesFirst :: name.map .exactly }] := by
    have read : Pattern.parse false "pom.xml".toList =
        .pattern { glob := .manyNamesFirst :: name.map .exactly } := by cbv
    rw [Walker.withGlob, read] at globbed
    rw [← Except.ok.inj globbed]
  rcases Walker.path_of_wants (by simp [name]) (by simp [name]) glob
    (Walker.wants_of_mem_collect collected member) with whole | ⟨lead, ending⟩
  · exact .inl whole
  · refine .inr ⟨String.ofList lead, ?_⟩
    rw [ending, ← String.toList_inj]
    simp [name]

/-! ## Preconditions -/

/-- A rule whose precondition is answered by this search is scanned by what the search gives. -/
theorem scanRule_of_precondition {s : Service σ} {r : Rule} {c : Condition} {p : Query}
    {route : Route} {w : World σ}
    (condition : r.query = .ok c) (precondition : r.preconditionQuery = .ok (some p))
    (routed : s.config.routes.resolve p.kind p.symbol = .ok route)
    (resolved : s.registry.resolve p (some (s.config.scan.defaultScanner.getD route.scanner)) =
      .ok scanner)
    (asks : (s.context r.id).request .maven p w = (.ok (.dependency gavs), w)) :
    s.scanRule r w =
      match search s.config.scan s.root gavs w.tree with
      | .error e => (.error e, w)
      | .ok answer =>
        if RuleScan.holds answer then
          (RuleScan.evalCondition (s.scanQuery r.id) c >>= fun found =>
            pure ⟨r.id, .satisfied, found⟩) w
        else (.ok ⟨r.id, .notSatisfied, []⟩, w) := by
  have answered : s.scanQuery r.id p w = (search s.config.scan s.root gavs w.tree, w) := by
    rw [Service.scanQuery_eq routed resolved]
    exact scan_eq_search asks
  unfold Service.scanRule
  rw [condition, precondition]
  cases gave : search s.config.scan s.root gavs w.tree with
  | error e =>
    rw [gave] at answered
    exact RuleScan.bind_run_error answered _
  | ok answer =>
    rw [gave] at answered
    refine (RuleScan.bind_run_ok answered _).trans ?_
    dsimp only
    split <;> rfl

/-- **A dependency query reports the declared dependencies that it asks for.** A query that names no
coordinate is answered by its sentinels alone, and a precondition that is such a query is not
satisfied. Any other fails with the walk over the project, if that fails. Where the walk succeeds:

* the walk's files are called `pom.xml`, and they come in the order of their paths;
* the answer is one sentinel for each part that is no coordinate, in order, and then, file by file,
  each declaration that a coordinate of the query asks for, once;
* a coordinate asks for a declaration with its group, its artifact and, if it has one, its version;
* a match is a sentinel if and only if it is the answer to a malformed part;
* queries that ask for the same coordinates, in any order and however often, have the same findings;
* a precondition that is such a query is satisfied if and only if a file declares something that is
  asked for. -/
theorem scan_reports (c : Context) (w : World σ) :
    (∀ q gavs, c.request .maven q w = (.ok (.dependency gavs), w) → wellFormed gavs = [] →
      scanner.scan c q w = (.ok ((malformed gavs).map .sentinel), w)) ∧
    (∀ q gavs e, c.request .maven q w = (.ok (.dependency gavs), w) → wellFormed gavs ≠ [] →
      walked c.config.scan w.tree c.root = .error e → scanner.scan c q w = (.error e, w)) ∧
    (∀ gavs d, isAsked gavs d = true ↔ ∃ a ∈ wellFormed gavs, a.group = d.group ∧
      a.artifact = d.artifact ∧ ∀ v, a.version = some v → d.version = some v) ∧
    (∀ k poms, walked c.config.scan w.tree c.root = .ok (k, poms) →
      (poms.Pairwise fun a b => namesLe a b = true) ∧
      (∀ names ∈ poms,
        relative names = "pom.xml" ∨ ∃ lead, relative names = lead ++ "/pom.xml") ∧
      (∀ q gavs, c.request .maven q w = (.ok (.dependency gavs), w) →
        scanner.scan c q w = (.ok ((malformed gavs).map .sentinel ++
          poms.flatMap fun names => ((declaredIn k w.tree names).filter (isAsked gavs)).map fun d =>
            ⟨relative names, .maven, .dependency d⟩), w)) ∧
      (∀ gavs, ∀ x ∈ report k w.tree poms gavs,
        x.isSentinel = true ↔ x ∈ (malformed gavs).map .sentinel) ∧
      (∀ gavs gavs', (∀ a, a ∈ wellFormed gavs ↔ a ∈ wellFormed gavs') →
        ((report k w.tree poms gavs).filter fun x => !x.isSentinel) =
          (report k w.tree poms gavs').filter fun x => !x.isSentinel)) ∧
    (∀ (s : Service σ) (r : Rule) condition p route gavs, s.context r.id = c →
      r.query = .ok condition → r.preconditionQuery = .ok (some p) →
      s.config.routes.resolve p.kind p.symbol = .ok route →
      s.registry.resolve p (some (s.config.scan.defaultScanner.getD route.scanner)) =
        .ok scanner →
      c.request .maven p w = (.ok (.dependency gavs), w) →
      (wellFormed gavs = [] → s.scanRule r w = (.ok ⟨r.id, .notSatisfied, []⟩, w)) ∧
      (∀ e, wellFormed gavs ≠ [] → walked c.config.scan w.tree c.root = .error e →
        s.scanRule r w = (.error e, w)) ∧
      ∀ k poms, walked c.config.scan w.tree c.root = .ok (k, poms) →
        (Finds k w.tree poms gavs → s.scanRule r w =
          (RuleScan.evalCondition (s.scanQuery r.id) condition >>= fun found =>
            pure ⟨r.id, .satisfied, found⟩) w) ∧
        (¬ Finds k w.tree poms gavs → s.scanRule r w = (.ok ⟨r.id, .notSatisfied, []⟩, w))) := by
  refine ⟨fun q gavs asks none => ?_, fun q gavs e asks some' failed => ?_,
    fun gavs d => isAsked_iff, fun k poms done => ?_, ?_⟩
  · rw [scan_eq_search asks, search_of_noCoordinate none]
  · rw [scan_eq_search asks, search_of_failed some' failed]
  · obtain ⟨walks, collected⟩ := walked_eq_ok_iff.mp done
    refine ⟨Walker.sorted_collect collected, fun names => path_of_mem_poms walks collected,
      fun q gavs asks => ?_, fun gavs x => isSentinel_iff, fun gavs gavs' same => ?_⟩
    · rw [scan_eq_search asks, search_eq_report done]
      rfl
    · rw [filter_report, filter_report, declared, declared, isAsked_congr same]
  · rintro s r condition p route gavs rfl read precondition routed resolved asks
    have scanned := scanRule_of_precondition read precondition routed resolved asks
    refine ⟨fun none => ?_, fun e some' failed => ?_, fun k poms done => ?_⟩
    · have unmet : RuleScan.holds ((malformed gavs).map .sentinel) = false := by
        simpa [RuleScan.holds, List.filter_eq_nil_iff] using filter_sentinels (malformed gavs)
      rw [scanned, search_of_noCoordinate none]
      simp only [unmet, Bool.false_eq_true, if_false]
    · have failed' : walked s.config.scan w.tree s.root = .error e := failed
      rw [scanned, search_of_failed some' failed']
    · have done' : walked s.config.scan w.tree s.root = .ok (k, poms) := done
      rw [← holds_report, scanned, search_eq_report done']
      constructor
      · intro holds
        simp only [holds, if_true]
      · intro fails
        simp only [fails, Bool.false_eq_true, if_false]

/-- A project that is one project description. -/
def pomTree (text : String) : Tree where
  entries := [(["pom.xml"], .file (Text.toBytes text) false)]

def pomWalker : Walker where
  root := "/"
  skipDirs := ({} : ScanConfig).skipDirs
  glob := some [{ glob := .manyNamesFirst :: "pom.xml".toList.map .exactly }]

def pomContext : Context := ⟨{}, "/", "r1", .builtin, .builtin⟩

variable (text : String)

theorem pomTree_proper : (pomTree text).Proper := by
  refine .of_entries (List.nodup_singleton _) ?_ (fun _ => List.not_mem_nil.elim)
  have names : ProperNames ["pom.xml"] := by decide
  simpa [pomTree, Tree.get?] using names

theorem pomTree_readText : (pomTree text).readText "/pom.xml" = .ok text :=
  Tree.readText_of_located (p := ["pom.xml"]) (x := false)
    (Tree.locate_of_spells (by decide +kernel) (pomTree_proper text).sound (by simp) rfl (by simp))
    rfl

theorem pomTree_ignoreFiles : Walker.ignoreFiles (pomTree text) [] = [{}, {}, {}] := by
  have sound := (pomTree_proper text).sound
  have own : (pomTree text).locate "/.ignore" = .ok [".ignore"] :=
    Tree.resolve_of_spells (by decide +kernel) sound (by simp) rfl fun _ link => by cases link
  have git : (pomTree text).locate "/.gitignore" = .ok [".gitignore"] :=
    Tree.resolve_of_spells (by decide +kernel) sound (by simp) rfl fun _ link => by cases link
  have excluded : (pomTree text).locate "/.git/info/exclude" = .error .notFound := by
    have spells : Spells "/.git/info/exclude" [".git", "info", "exclude"] := by decide +kernel
    have root : (pomTree text).get? [] = some .dir := rfl
    have nothing : (pomTree text).get? [".git"] = none := rfl
    rw [Tree.locate, Tree.resolve_eq_walk spells.plain, if_pos spells.absolute, spells.spelled]
    have short : ".git".utf8ByteSize ≤ 255 := by decide
    simp [Tree.walk, Tree.maxName, root, nothing, short]
  have ownPath : Tree.pathOf ([] ++ [".ignore"]) = "/.ignore" := by decide +kernel
  have gitPath : Tree.pathOf ([] ++ [".gitignore"]) = "/.gitignore" := by decide +kernel
  have excludedPath : Tree.pathOf ([] ++ [".git", "info", "exclude"]) = "/.git/info/exclude" := by
    decide +kernel
  have noOwn : (pomTree text).get? [".ignore"] = none := rfl
  have noGit : (pomTree text).get? [".gitignore"] = none := rfl
  simp only [Walker.ignoreFiles, Walker.ignoreNames, List.map_cons, List.map_nil, Tree.readBytes,
    ownPath, gitPath, excludedPath, own, git, excluded, bind, Except.bind, noOwn, noGit]

theorem pomWalker_walks : walker {} (pomTree text) "/" = .ok pomWalker := by
  unfold walker Walker.of
  rw [if_pos (Tree.isDir_slash (pomTree_proper text).sound)]
  rfl

theorem pomWalker_collected : pomWalker.collect (pomTree text) = .ok [["pom.xml"]] := by
  have children : (pomTree text).children [] = [("pom.xml", .file (Text.toBytes text) false)] := rfl
  have admitted : pomWalker.admits [{ files := [{}, {}, {}] }] ["pom.xml"] false = true := by
    decide +kernel
  have wanted : pomWalker.wants ["pom.xml"] = true := by decide +kernel
  have found : Walker.below pomWalker (pomTree text) 9 [] [[]] [] [] = .ok [["pom.xml"]] := by
    rw [Walker.below, children, pomTree_ignoreFiles text]
    refine bind_eq_ok_iff.mpr ⟨[[["pom.xml"]]], mapM_eq_ok_iff.mpr (.cons ?_ .nil), rfl⟩
    refine bind_eq_ok_iff.mpr ⟨_, rfl, ?_⟩
    show (if !pomWalker.admits [{ files := [{}, {}, {}] }] ["pom.xml"] false then _ else _) = _
    rw [admitted]
    show Except.ok (if pomWalker.wants ["pom.xml"] then _ else _) = _
    rw [wanted]
    rfl
  have located : (pomTree text).locate pomWalker.root = .ok [] :=
    (Tree.rootDir_slash (pomTree_proper text).sound).located
  rw [Walker.collect, located]
  show (Walker.below pomWalker (pomTree text) 9 [] [[]] [] [] >>= _) = _
  rw [found]
  show Except.ok ([["pom.xml"]].mergeSort namesLe) = _
  rw [List.mergeSort_singleton]

/-- A project description with two declarations that are asked for and one that is not. -/
def samplePom : String :=
  "<dependency><groupId>g</groupId><artifactId>a</artifactId><version>1</version></dependency>" ++
  "<dependency><groupId>h</groupId><artifactId>b</artifactId></dependency>" ++
  "<dependency><groupId>g</groupId><artifactId>a</artifactId></dependency>"

theorem samplePom_dependencies :
    Pom.dependencies samplePom = [⟨"g", "a", some "1"⟩, ⟨"h", "b", none⟩, ⟨"g", "a", none⟩] := by
  unfold Pom.dependencies samplePom
  simp only [String.toList_append, String.reduceToList]
  decide +kernel

/-- One declaration is asked for by two parts, one by one of them, and one part is malformed. -/
theorem scan_reports_sample :
    walked pomContext.config.scan (pomTree samplePom) pomContext.root =
      .ok (pomWalker, [["pom.xml"]]) ∧
    scanner.scan pomContext ⟨"pom", "dependency", [("gavs", "lombok, g:a, ,g:a:1")]⟩
        ⟨pomTree samplePom, {}, ()⟩ =
      (.ok [.sentinel "lombok", ⟨"pom.xml", .maven, .dependency ⟨"g", "a", some "1"⟩⟩,
        ⟨"pom.xml", .maven, .dependency ⟨"g", "a", none⟩⟩], ⟨pomTree samplePom, {}, ()⟩) := by
  have done : walked pomContext.config.scan (pomTree samplePom) pomContext.root =
      .ok (pomWalker, [["pom.xml"]]) :=
    walked_eq_ok_iff.mpr ⟨pomWalker_walks samplePom, pomWalker_collected samplePom⟩
  refine ⟨done, ?_⟩
  obtain ⟨-, -, -, reports, -⟩ := scan_reports pomContext ⟨pomTree samplePom, {}, ()⟩
  obtain ⟨-, -, scanned, -⟩ := reports _ _ done
  rw [scanned _ "lombok, g:a, ,g:a:1" rfl]
  have path : pomWalker.pathOf ["pom.xml"] = "/pom.xml" := by decide +kernel
  have here : declaredIn pomWalker (pomTree samplePom) ["pom.xml"] =
      [⟨"g", "a", some "1"⟩, ⟨"h", "b", none⟩, ⟨"g", "a", none⟩] := by
    rw [declaredIn, path, pomTree_readText samplePom]
    exact samplePom_dependencies
  have parts : malformed "lombok, g:a, ,g:a:1" = ["lombok"] ∧
      wellFormed "lombok, g:a, ,g:a:1" = [⟨"g", "a", none⟩, ⟨"g", "a", some "1"⟩] := by
    decide +kernel
  rw [List.flatMap_singleton, here, parts.1]
  simp [isAsked, parts.2, Coordinate.isMatch, relative]

/-- The project of one description with a link that leads nowhere. -/
def danglingTree : Tree where
  entries := (["x"], .link "missing") :: (pomTree samplePom).entries

/-- A link to a place where nothing is cannot be followed. -/
theorem child_dangling {w : Walker} {t : Tree} {dir target : Place} {name link : String}
    (follows : w.followLinks = true) (leads : t.locate (Tree.pathOf (dir ++ [name])) = .ok target)
    (absent : t.get? target = none) : w.child t dir name (.link link) = .error .walk := by
  simp only [Walker.child, if_pos follows, leads, absent]

theorem danglingTree_proper : danglingTree.Proper := by
  refine .of_entries (by simp [danglingTree, pomTree]) ?_ (fun _ => List.not_mem_nil.elim)
  have names : ProperNames ["x"] ∧ ProperNames ["pom.xml"] := by decide
  simpa [danglingTree, pomTree, Tree.get?] using names

/-- The link leads to a place of the root. -/
theorem danglingTree_locate : danglingTree.locate "/x" = .ok ["missing"] := by
  have names : segments "/x" = ["", "x"] := by decide +kernel
  have target : segments "missing" ++ [] = ["missing"] := by decide +kernel
  have link : danglingTree.get? ([] ++ ["x"]) = some (.link "missing") := rfl
  refine Tree.locate_of_leads ⟨by decide, by simp, by decide⟩ ?_
  rw [names]
  refine .blank rfl (.inl rfl)
    (.follow rfl ⟨by decide, by decide, by decide⟩ (by decide) link (.inr rfl) ?_)
  rw [target]
  exact .fresh rfl ⟨by decide, by decide, by decide⟩ (by decide) rfl

/-- A walk that follows links fails at the one that leads nowhere. -/
theorem danglingTree_walked :
    walked { followLinks := true } danglingTree "/" = .error .walk := by
  let k : Walker := { pomWalker with followLinks := true }
  have walks : walker { followLinks := true } danglingTree "/" = .ok k := by
    unfold walker Walker.of
    rw [if_pos (Tree.isDir_slash danglingTree_proper.sound)]
    rfl
  have located : danglingTree.locate k.root = .ok [] :=
    (Tree.rootDir_slash danglingTree_proper.sound).located
  have path : Tree.pathOf ([] ++ ["x"]) = "/x" := by decide +kernel
  have link : k.child danglingTree [] "x" (.link "missing") = .error .walk :=
    child_dangling rfl (path ▸ danglingTree_locate) rfl
  have none : k.below danglingTree (Walker.maxDepth danglingTree) [] [[]] [] [] =
      .error .walk := by
    have children : danglingTree.children [] =
        ("x", .link "missing") :: (pomTree samplePom).children [] := rfl
    refine bind_eq_error_iff.mpr (.inl ?_)
    rw [children, List.mapM_cons]
    exact bind_eq_error_iff.mpr (.inl (bind_eq_error_iff.mpr (.inl link)))
  have failed : k.collect danglingTree = .error .walk := by
    rw [Walker.collect, located]
    exact bind_eq_error_iff.mpr (.inl none)
  exact bind_eq_error_iff.mpr (.inr ⟨k, walks, bind_eq_error_iff.mpr (.inl failed)⟩)

/-- The project description can be read and declares what is asked for, but there is no answer: the
walk follows links, and fails. -/
theorem scan_reports_exception :
    danglingTree.Proper ∧ danglingTree.readText "/pom.xml" = .ok samplePom ∧
    ⟨"h", "b", none⟩ ∈ Pom.dependencies samplePom ∧
    scanner.scan { pomContext with config := { scan := { followLinks := true } } }
        ⟨"pom", "dependency", [("gavs", "h:b")]⟩ ⟨danglingTree, {}, ()⟩ =
      (.error .walk, ⟨danglingTree, {}, ()⟩) := by
  have located : danglingTree.locate "/pom.xml" = .ok ["pom.xml"] :=
    Tree.locate_of_spells (by decide +kernel) danglingTree_proper.sound (by simp) rfl (by simp)
  have asked : wellFormed "h:b" ≠ [] := by decide +kernel
  refine ⟨danglingTree_proper, Tree.readText_of_located (x := false) located rfl,
    by simp [samplePom_dependencies], ?_⟩
  exact (scan_eq_search rfl).trans
    (congrArg (fun answer => (answer, _)) (search_of_failed asked danglingTree_walked))

end Uplift.Scan.Dependencies
