import Uplift.Proofs.Files.Spelled
import Uplift.Proofs.Scan.Executable
import Uplift.Proofs.Table.Files
import Uplift.Proofs.Table.Rows
import Uplift.Scan.RecipeSearch

/-!
# What a search by recipe gives

Nothing is assumed of the build tool but that it leaves a file tree: it may make and change any
files, end with any status, or not end at all.

* `NewTables`: the tables that a run left behind and that were not there before it.
* `Gives`: what comes of a run. If it succeeds, these are the rows of the search in the new tables.
* `Searches`: what a search gives and leaves. Its document is removed in every case.

A query that maps to a recipe is answered so (`scan_searches`). One thing spoils a search that found
its rows: a file below the directory of tables whose names are no text; and a row's own source
counts only under two spellings (`scan_searches_exceptions`).
-/

namespace Uplift

namespace Scan

open Files Table

/-- A request for a recipe is made under the next match id of the rule. -/
theorem Context.request_recipe {σ : Type} {c : Context} {scanner : ScannerKind} {q : Query}
    {recipe : Recipe} {w w' : World σ}
    (mapped : c.request scanner q w = (.ok (.recipe recipe), w')) :
    recipe.matchId? = some (MatchIds.format c.rule (w.ids.current c.rule + 1)) ∧
      w' = { w with ids := w.ids.put c.rule (w.ids.current c.rule + 1) } := by
  obtain ⟨route, left, -, made, rfl⟩ := c.exists_map_of_request mapped
  obtain ⟨m, -, ran⟩ := MapperTable.exists_run_of_map made
  obtain ⟨matchId, rfl⟩ := Mapper.run_recipe ran
  exact ⟨matchId, rfl⟩

namespace RecipeSearch

/-- The path of a table as a match shows it: from the project on, if the table is there. -/
def shownFrom (root path : String) : String :=
  if parts root <+: parts path then ofSteps ((parts path).drop (parts root).length) else path

/-- The matches in the records of a table, which stands for the source of a row without one. -/
def matchesIn (id source : String) : List (List String) → List Match
  | [] => []
  | header :: rows =>
    (rows.filter fun row => matchIdOf header row = some id).map fun row =>
      let columns := header.zip row
      ⟨((columns.lookup "Source path").or (columns.lookup "sourcePath")).getD source, .openRewrite,
        .row ⟨id, columns⟩⟩

/-- The tables that are below a directory after a run and were not there before it, in the order of
their paths, each once. -/
structure NewTables (dir : String) (t t' : Tree) (tables : List (List String)) : Prop where
  sorted : tables.Pairwise fun a b => namesLe a b = true
  nodup : tables.Nodup
  mem_iff : ∀ names, names ∈ tables ↔ IsTable t' dir names ∧ ¬ IsTable t dir names
  /-- If the run removed and replaced nothing but files, there was nothing where a new table is. -/
  gone : t.KeepsDirs t' → ∀ names ∈ tables, t.Gone (joinNames dir names)

/-- What a search gives after a run that made a tree into another. -/
inductive Gives (c : Context) (id : String) (t t' : Tree) :
    Except RunFailure Finished → Except ScanError (List Match) → Prop
  | notStarted {cause} :
      Gives c id t t' (.error (.spawn cause)) (.error (.spawn (command c id).program cause))
  | stopped {lines} : Gives c id t t' (.error (.timeout lines))
      (.error (.timeout (command c id).program (command c id).timeoutSecs lines))
  | exited {status lines} : status ≠ 0 → Gives c id t t' (.ok ⟨status, lines⟩)
      (.error (.exited (command c id).program status lines))
  /-- Every new table is read. -/
  | found {lines tables} {records : List String → List (List String)} :
      (∀ names, ¬ IsForeign t' (tablesDir c) names) → NewTables (tablesDir c) t t' tables →
      (∀ names ∈ tables, Records t' (joinNames (tablesDir c) names) (records names)) →
      Gives c id t t' (.ok ⟨0, lines⟩) (.ok (tables.flatMap fun names =>
        matchesIn id (shownFrom c.root (joinNames (tablesDir c) names)) (records names)))
  /-- The names of a file below the directory of tables are no text. -/
  | foreign {lines names} : IsForeign t' (tablesDir c) names →
      Gives c id t t' (.ok ⟨0, lines⟩) (.error (.nonUtf8Path (joinNames (tablesDir c) names)))
  /-- A new table is not read, but those before it are. -/
  | unread {lines before names after e} : (∀ names, ¬ IsForeign t' (tablesDir c) names) →
      NewTables (tablesDir c) t t' (before ++ names :: after) →
      (∀ other ∈ before, ∃ records, Records t' (joinNames (tablesDir c) other) records) →
      Unread t' (joinNames (tablesDir c) names) e → Gives c id t t' (.ok ⟨0, lines⟩) (.error e)

/-- A path is cleared: unless it led to a directory, it leads to nothing, and all else stays. -/
structure Cleared (path : String) (t t' : Tree) : Prop where
  gone : (∀ p, t.locateLink path = .ok p → t.get? p ≠ some .dir) → t'.Gone path
  others : ∀ p, t.locateLink path ≠ .ok p → t'.get? p = t.get? p

/-- What the search for a recipe under a match id gives, and the world after it. -/
inductive Searches {σ : Type} (o : Outside σ) (c : Context) (recipe : Recipe) (q : Query)
    (id : String) (w : World σ) : Except ScanError (List Match) → World σ → Prop
  /-- The document is not written, and no program runs. -/
  | unwritten {failed e t} :
      w.tree.writeTextIn (some (recipeDir c)) (recipePath c id) (document recipe q id) =
        (.error (failed, e), t) →
      Searches o c recipe q id w (.error (.write failed e)) { w with tree := t }
  /-- The document is written and removed, but no program runs, since the names of a file below the
  directory of tables are no text. -/
  | unlisted {t names cleared} :
      w.tree.writeTextIn (some (recipeDir c)) (recipePath c id) (document recipe q id) =
        (.ok (), t) →
      IsForeign t (tablesDir c) names → Cleared (recipePath c id) t cleared →
      Searches o c recipe q id w (.error (.nonUtf8Path (joinNames (tablesDir c) names)))
        { w with tree := cleared }
  /-- The document is written, the program runs in the tree with it, and the document is removed. -/
  | run {t ran t' outside result cleared} :
      w.tree.writeTextIn (some (recipeDir c)) (recipePath c id) (document recipe q id) =
        (.ok (), t) →
      (∀ names, ¬ IsForeign t (tablesDir c) names) →
      o.run (command c id) t w.outside = (ran, t', outside) →
      Gives c id t t' ran result → Cleared (recipePath c id) t' cleared →
      Searches o c recipe q id w result { w with tree := cleared, outside }

section Run

variable {c : Context} {id path : String} {t t' : Tree}

theorem strip_eq (above steps : List Step) : relativePath.strip above steps =
    if above <+: steps then some (steps.drop above.length) else none := by
  induction above generalizing steps with
  | nil => simp [relativePath.strip]
  | cons step above ih =>
    cases steps with
    | nil => simp [relativePath.strip]
    | cons step' steps =>
      by_cases same : step = step'
      · simp [relativePath.strip, same, ih]
      · simp [relativePath.strip, same]

theorem relativePath_eq (root path : String) : relativePath root path = shownFrom root path := by
  by_cases inside : parts root <+: parts path <;> simp [relativePath, shownFrom, strip_eq, inside]

theorem inTable_eq_ok_iff {root : String} {found : List Match} :
    inTable root id t path = .ok found ↔
      ∃ records, Records t path records ∧
        found = matchesIn id (shownFrom root path) records := by
  have rows (records : List (List String)) :
      (rowsOf id records).map (rowMatch (relativePath root path)) =
        matchesIn id (shownFrom root path) records := by
    rw [relativePath_eq]
    cases records with
    | nil => rfl
    | cons header rows =>
      rw [rowsOf_eq, List.map_map]
      rfl
  rw [inTable, bind_eq_ok_iff]
  constructor
  · rintro ⟨found', read, same⟩
    obtain ⟨records, there, rfl⟩ := readRows_eq_ok_iff.mp read
    exact ⟨records, there, by rw [← rows, ← Except.ok.inj same]⟩
  · rintro ⟨records, there, rfl⟩
    exact ⟨_, readRows_eq_ok_iff.mpr ⟨records, there, rfl⟩, by rw [rows]⟩

theorem inTable_eq_error_iff {root : String} {e : ScanError} :
    inTable root id t path = .error e ↔ Unread t path e := by
  rw [inTable, bind_eq_error_iff, readRows_eq_error_iff]
  constructor
  · rintro (unread | ⟨rows, -, done⟩)
    · exact unread
    · cases done
  · exact .inl

theorem exists_newTables {dir : String} {before after : List (List String)} (proper : t.Proper)
    (proper' : t'.Proper) (listing : Listing t dir before) (listing' : Listing t' dir after) :
    ∃ tables, NewTables dir t t' tables ∧ (after.map (joinNames dir)).filter
      (fun p => !(before.map (joinNames dir)).contains p) = tables.map (joinNames dir) := by
  have new (names : List String) : names ∈ after.filter (· ∉ before) ↔
      IsTable t' dir names ∧ ¬ IsTable t dir names := by
    rw [List.mem_filter, listing'.mem_iff, decide_eq_true_iff, listing.mem_iff]
  refine ⟨after.filter (· ∉ before), ⟨?_, ?_, new, ?_⟩, new_paths proper proper' listing listing'⟩
  · exact listing'.sorted.filter _
  · exact listing'.nodup.filter _
  · intro keeps names member
    obtain ⟨table, fresh⟩ := (new names).mp member
    exact table.gone_before proper proper' keeps fresh

/-- The matches in the new tables of a run that succeeded. -/
theorem newMatches_gives (c : Context) (id : String) (proper : t.Proper) (proper' : t'.Proper)
    {before : List (List String)} (listing : Listing t (tablesDir c) before) (lines : List String) :
    Gives c id t t' (.ok ⟨0, lines⟩)
      (newMatches c id (before.map (joinNames (tablesDir c))) t') := by
  rcases exists_listing proper' (tablesDir c) with
    ⟨texts, after, listing', listed⟩ | ⟨names, foreign, failed⟩
  · obtain ⟨tables, new, paths⟩ := exists_newTables proper proper' listing listing'
    have split : newMatches c id (before.map (joinNames (tablesDir c))) t' =
        ((tables.map (joinNames (tablesDir c))).mapM (inTable c.root id t')).map List.flatten := by
      rw [newMatches, listed]
      show (((after.map _).filter _).mapM (inTable c.root id t') >>= _) = _
      rw [paths]
      cases (tables.map (joinNames (tablesDir c))).mapM (inTable c.root id t') <;> rfl
    rw [split]
    cases ran : (tables.map (joinNames (tablesDir c))).mapM (inTable c.root id t') with
    | ok founds =>
      have all (names : List String) (member : names ∈ tables) :
          ∃ records, Records t' (joinNames (tablesDir c) names) records := by
        obtain ⟨found, here⟩ := exists_of_mapM_ok ran (List.mem_map_of_mem member)
        obtain ⟨records, there, -⟩ := inTable_eq_ok_iff.mp here
        exact ⟨records, there⟩
      choose! records there using all
      have read : (tables.map (joinNames (tablesDir c))).mapM (inTable c.root id t') =
          .ok (tables.map fun names => matchesIn id
            (shownFrom c.root (joinNames (tablesDir c) names)) (records names)) := by
        rw [mapM_eq_ok_iff, List.forall₂_map_left_iff, List.forall₂_map_right_iff,
          List.forall₂_same]
        exact fun names member => inTable_eq_ok_iff.mpr ⟨_, there names member, rfl⟩
      rw [← ran, read]
      exact .found texts new there
    | error e =>
      obtain ⟨front, path, back, paths, read, fails⟩ := exists_of_mapM_error ran
      obtain ⟨before, rest, rfl, rfl, tail⟩ := List.map_eq_append_iff.mp paths
      obtain ⟨names, after, rfl, rfl, rfl⟩ := List.map_eq_cons_iff.mp tail
      refine .unread texts new (fun other member => ?_) (inTable_eq_error_iff.mp fails)
      obtain ⟨found, there⟩ := read _ (List.mem_map_of_mem member)
      obtain ⟨records, there, -⟩ := inTable_eq_ok_iff.mp there
      exact ⟨records, there⟩
  · rw [newMatches, failed]
    exact .foreign foreign

theorem cleared_remove (path : String) (t : Tree) : Cleared path t (remove path t) := by
  rw [remove]
  cases removed : t.removeFile path with
  | ok t' =>
    refine ⟨fun _ => Tree.gone_of_removeFile removed, fun p elsewhere => ?_⟩
    obtain ⟨q, found, other, rfl⟩ := Tree.removeFile_ok removed
    rw [Tree.get?_erase t p (Tree.ne_nil_of_get?_ne_dir other), if_neg]
    rintro rfl
    exact elsewhere found
  | error e =>
    refine ⟨fun noDir => ?_, fun _ _ => rfl⟩
    rcases Tree.gone_or_dir_of_removeFile removed with gone | ⟨p, found, dir⟩
    · exact gone
    · exact absurd dir (noDir p found)

variable {σ : Type} {o : Outside σ}

/-- The run of a search in the tree with its document, where the tables can be listed. -/
theorem runSearch_gives {w : World σ} (proper : w.tree.Proper)
    (tool : ∀ run t s, t.Proper → (o.run run t s).2.1.Proper) {before : List (List String)}
    (listing : Listing w.tree (tablesDir c) before)
    (listed : Table.files w.tree (tablesDir c) = .ok (before.map (joinNames (tablesDir c))))
    {finished : Except RunFailure Finished} {s : σ}
    (ran : o.run (command c id) w.tree w.outside = (finished, t', s)) :
    ∃ result, runSearch o c id w = (result, { w with tree := t', outside := s }) ∧
      Gives c id w.tree t' finished result := by
  have proper' : t'.Proper := by
    have kept := tool (command c id) w.tree w.outside proper
    rwa [ran] at kept
  have gives := newMatches_gives c id proper proper' listing
  have first : ScanM.read (fun t => Table.files t (tablesDir c)) w =
      (.ok (before.map (joinNames (tablesDir c))), w) := by
    rw [ScanM.read, listed]
  have start := RuleScan.bind_run_ok first fun before => do
    let finished ← ScanM.execute o (command c id)
    if finished.success then ScanM.read (newMatches c id before)
    else ScanM.ofExcept (.error (.exited (command c id).program finished.status finished.lines))
  cases finished with
  | error failure =>
    cases failure with
    | spawn cause =>
      have executed : ScanM.execute o (command c id) w =
          (.error (.spawn (command c id).program cause), { w with tree := t', outside := s }) := by
        simp only [ScanM.execute, ran]
      exact ⟨_, start.trans (RuleScan.bind_run_error executed _), .notStarted⟩
    | timeout lines =>
      have executed : ScanM.execute o (command c id) w =
          (.error (.timeout (command c id).program (command c id).timeoutSecs lines),
            { w with tree := t', outside := s }) := by
        simp only [ScanM.execute, ran]
      exact ⟨_, start.trans (RuleScan.bind_run_error executed _), .stopped⟩
  | ok finished =>
    obtain ⟨status, lines⟩ := finished
    have executed : ScanM.execute o (command c id) w =
        (.ok ⟨status, lines⟩, { w with tree := t', outside := s }) := by
      simp only [ScanM.execute, ran]
    have rest := start.trans (RuleScan.bind_run_ok executed _)
    by_cases success : status = 0
    · subst success
      exact ⟨_, rest, gives lines⟩
    · rw [if_neg (by simpa [Finished.success] using success)] at rest
      exact ⟨_, rest, .exited success⟩

end Run

/-- A search whose document is written runs, and removes it. -/
theorem scan_of_written {σ : Type} {o : Outside σ} {c : Context} {q : Query} {recipe : Recipe}
    {id : String} {w w' : World σ} {t : Tree} (matchId : recipe.matchId? = some id)
    (mapped : c.request .openRewrite q w = (.ok (.recipe recipe), w'))
    (written : w'.tree.writeTextIn (some (recipeDir c)) (recipePath c id) (document recipe q id) =
      (.ok (), t)) :
    (scanner o).scan c q w =
      (runSearch o c id).andThen (remove (recipePath c id)) { w' with tree := t } := by
  have done : ScanM.write (recipeDir c) (recipePath c id) (document recipe q id) w' =
      (.ok (), { w' with tree := t }) := by
    simp only [ScanM.write, written]
  refine (RuleScan.bind_run_ok mapped _).trans ?_
  simp only [matchId]
  exact RuleScan.bind_run_ok done _

/-- **A search by recipe** gives the rows of its own run, and removes its document. -/
theorem scan_searches {σ : Type} {o : Outside σ} {c : Context} {q : Query} {recipe : Recipe}
    {w w' : World σ} (proper : w.tree.Proper)
    (tool : ∀ run t s, t.Proper → (o.run run t s).2.1.Proper)
    (mapped : c.request .openRewrite q w = (.ok (.recipe recipe), w')) :
    ∃ id result after, id = MatchIds.format c.rule (w.ids.current c.rule + 1) ∧
      recipe.matchId? = some id ∧ (scanner o).scan c q w = (result, after) ∧
      Searches o c recipe q id w' result after := by
  obtain ⟨matchId, same⟩ := Context.request_recipe mapped
  have tree : w'.tree = w.tree := by rw [same]
  generalize MatchIds.format c.rule (w.ids.current c.rule + 1) = id at matchId ⊢
  rcases written : w'.tree.writeTextIn (some (recipeDir c)) (recipePath c id)
    (document recipe q id) with ⟨⟨failed, e⟩ | ⟨⟩, t⟩
  · refine ⟨id, _, _, rfl, matchId, (RuleScan.bind_run_ok mapped _).trans ?_, .unwritten written⟩
    simp only [matchId]
    refine RuleScan.bind_run_error ?_ _
    simp only [ScanM.write, written]
  · have proper' : t.Proper := by
      have kept := (tree ▸ proper : w'.tree.Proper).writeTextIn (some (recipeDir c))
        (recipePath c id) (document recipe q id)
      rwa [written] at kept
    have rest := scan_of_written (o := o) matchId mapped written
    rcases exists_listing proper' (tablesDir c) with
      ⟨texts, before, listing, listed⟩ | ⟨names, foreign, failed⟩
    · rcases ran : o.run (command c id) t w'.outside with ⟨finished, t', s⟩
      obtain ⟨result, searched, gives⟩ :=
        runSearch_gives (w := { w' with tree := t }) proper' tool listing listed ran
      refine ⟨id, result, _, rfl, matchId, rest.trans ?_,
        .run written texts ran gives (cleared_remove _ _)⟩
      simp only [ScanM.andThen, searched]
    · have unlisted : runSearch o c id { w' with tree := t } =
          (.error (.nonUtf8Path (joinNames (tablesDir c) names)), { w' with tree := t }) := by
        refine RuleScan.bind_run_error ?_ _
        rw [ScanM.read, failed]
      refine ⟨id, _, _, rfl, matchId, rest.trans ?_,
        .unlisted written foreign (cleared_remove _ _)⟩
      simp only [ScanM.andThen, unlisted]

/-! ## A search in a small project -/

/-- The tree with a file more among the tables, unless something is in its place. -/
def leave (t : Tree) (file : String × String) : Tree :=
  if t.get? ["tables"] = some .dir ∧ t.get? ["tables", file.1] = none ∧ ProperName file.1 then
    t.put ["tables", file.1] (.file (Text.toBytes file.2) false)
  else t

/-- A build tool that leaves files among the tables. -/
def sampleTool (files : List (String × String)) : Outside Unit where
  run _ t outside := (.ok ⟨0, []⟩, files.foldl leave t, outside)
  ask _ _ outside := (.error .noCommand, outside)

def sampleContext : Context :=
  ⟨{ build := { scanRecipeDir := "recipes", datatablesDir := "tables" } }, "/", "r1", .builtin,
    .builtin⟩

def sampleSearch : Query := ⟨"java", "annotation", [("name", "Entity")]⟩

def sampleRecipe : Recipe :=
  ⟨"dev.snowdrop.openrewrite.java.search.FindAnnotations", [("pattern", .str "Entity"),
    ("matchId", .str "r1-001"), ("matchOnMetaAnnotations", .bool false)]⟩

/-- A project without files. -/
def sampleWorld : World Unit := ⟨{ entries := [(["recipes"], .dir), (["tables"], .dir)] }, {}, ()⟩

/-- The project with the document of the search. -/
def sampleTree : Tree :=
  sampleWorld.tree.put ["recipes", "scan-r1-001.yml"]
    (.file (Text.toBytes (document sampleRecipe sampleSearch "r1-001")) false)

section Sample

variable {t : Tree} {files : List (String × String)}

theorem proper_leave (proper : t.Proper) (file : String × String) : (leave t file).Proper := by
  rw [leave]
  split
  · next fits =>
    obtain ⟨dir, free, named⟩ := fits
    refine proper.put (by simp [free]) dir fun name member => ?_
    rcases List.mem_pair.mp member with rfl | rfl
    · decide
    · exact named
  · exact proper

theorem proper_sampleTool (files : List (String × String)) (run : Command) (outside : Unit)
    (proper : t.Proper) : ((sampleTool files).run run t outside).2.1.Proper := by
  show (files.foldl leave t).Proper
  induction files generalizing t with
  | nil => exact proper
  | cons file files ih => exact ih (proper_leave proper file)

theorem sampleWorld_proper : sampleWorld.tree.Proper :=
  .of_entries (by decide) (by decide) (by decide)

theorem sampleTree_proper : sampleTree.Proper :=
  sampleWorld_proper.put (by decide) rfl (by decide)

theorem recipePath_sampleContext :
    recipePath sampleContext "r1-001" = "/recipes/scan-r1-001.yml" := by
  decide +kernel

theorem tablesDir_sampleContext : tablesDir sampleContext = "/tables" := by decide +kernel

theorem sample_written : sampleWorld.tree.writeTextIn (some (recipeDir sampleContext))
    (recipePath sampleContext "r1-001") (document sampleRecipe sampleSearch "r1-001") =
      (.ok (), sampleTree) := by
  have dir (last : Bool) : sampleWorld.tree.resolve last "/recipes" = .ok ["recipes"] :=
    Tree.resolve_of_spells (by decide +kernel) sampleWorld_proper.sound (by simp) rfl
      fun _ link => by cases link
  have place : sampleWorld.tree.locate "/recipes/scan-r1-001.yml" =
      .ok ["recipes", "scan-r1-001.yml"] :=
    Tree.resolve_of_spells (by decide +kernel) sampleWorld_proper.sound (by simp) rfl
      fun _ link => by cases link
  have made : sampleWorld.tree.makeDir "/recipes" = .error .exists := by
    rw [Tree.makeDir, Tree.locateLink, dir]
    rfl
  have there : sampleWorld.tree.isDir "/recipes" = true := Tree.isDir_iff.mpr ⟨_, dir true, rfl⟩
  have ensured : sampleWorld.tree.ensureDirs "/recipes" = (.ok (), sampleWorld.tree) := by
    rw [Tree.ensureDirs, Tree.ensureDirs.go, made, there]
    rfl
  have directory : recipeDir sampleContext = "/recipes" := by decide +kernel
  rw [Tree.writeTextIn, directory, recipePath_sampleContext, ensured]
  show Tree.writeTextIn.finish .. = _
  rw [Tree.writeTextIn.finish, Tree.writeText, Tree.writeBytes, place]
  rfl

/-- What is below the directory of tables are files with these names and texts. -/
structure Left (t : Tree) (files : List (String × String)) : Prop where
  proper : t.Proper
  isDir : t.get? ["tables"] = some .dir
  holds : ∀ file ∈ files, t.get? ["tables", file.1] = some (.file (Text.toBytes file.2) false)
  only : ∀ names e, t.get? ("tables" :: names) = some e →
    names = [] ∨ ∃ file ∈ files, names = [file.1]

theorem left_sampleTree : Left sampleTree [] := by
  refine ⟨sampleTree_proper, rfl, by simp, fun names e found => .inl ?_⟩
  have member := (sampleTree_proper.get?_eq_some_iff (by simp)).mp found
  simp only [sampleTree, sampleWorld, Tree.put, List.mem_cons, List.mem_filter, Prod.mk.injEq,
    List.cons.injEq] at member
  exact (show names = [] ∧ e = .dir by simpa using member).1

theorem Left.leave (left : Left t files) {file : String × String} (named : ProperName file.1)
    (fresh : file.1 ∉ files.map (·.1)) : Left (leave t file) (file :: files) := by
  have free : t.get? ["tables", file.1] = none := by
    cases there : t.get? ["tables", file.1] with
    | none => rfl
    | some e =>
      rcases left.only _ e there with empty | ⟨file', among, same⟩
      · cases empty
      · exact absurd (List.mem_map.mpr ⟨file', among, (List.singleton_inj.mp same).symm⟩) fresh
  have put : RecipeSearch.leave t file =
      t.put ["tables", file.1] (.file (Text.toBytes file.2) false) :=
    if_pos ⟨left.isDir, free, named⟩
  refine ⟨proper_leave left.proper file, ?_, fun file' member => ?_, fun names e found => ?_⟩
  · rw [put, Tree.get?_put _ _ _ (by simp), if_neg (by simp)]
    exact left.isDir
  · rw [put, Tree.get?_put _ _ _ (by simp)]
    rcases List.mem_cons.mp member with rfl | before
    · rw [if_pos rfl]
    · have other : file'.1 ≠ file.1 := fun same => fresh (same ▸ List.mem_map_of_mem before)
      rw [if_neg (by simpa using other)]
      exact left.holds file' before
  · rw [put, Tree.get?_put _ _ _ (by simp)] at found
    split at found
    · next here => exact .inr ⟨file, List.mem_cons_self, (List.cons.inj here).2⟩
    · rcases left.only names e found with empty | ⟨file', among, same⟩
      · exact .inl empty
      · exact .inr ⟨file', List.mem_cons_of_mem _ among, same⟩

theorem left_foldl_leave (named : ∀ file ∈ files, ProperName file.1)
    (distinct : (files.map (·.1)).Nodup) : Left (files.foldl leave sampleTree) files.reverse := by
  induction files using List.reverseRecOn with
  | nil => exact left_sampleTree
  | append_singleton files file ih =>
    rw [List.map_append, List.nodup_append] at distinct
    have left := ih (fun file' among => named file' (List.mem_append_left _ among)) distinct.1
    rw [List.foldl_append, List.reverse_append]
    refine left.leave (named file (by simp)) fun again => ?_
    rw [List.map_reverse, List.mem_reverse] at again
    exact distinct.2.2 _ again _ (by simp) rfl

theorem Left.locate (left : Left t files) : t.locate "/tables" = .ok ["tables"] :=
  Tree.locate_of_spells (by decide +kernel) left.proper.sound (by simp) left.isDir (by simp)

theorem Left.isFile_iff (left : Left t files) {names : List String} :
    IsFile t "/tables" names ↔ ∃ file ∈ files, names = [file.1] := by
  constructor
  · rintro ⟨place, content, x, located, -, found⟩
    obtain rfl := Except.ok.inj (left.locate.symm.trans located)
    rcases left.only names _ found with rfl | among
    · cases left.isDir.symm.trans found
    · exact among
  · rintro ⟨file, among, rfl⟩
    exact ⟨_, _, _, left.locate, left.isDir, left.holds file among⟩

/-- The file can be left among the tables and read there as one of them. -/
def Readable (file : String × String) : Prop :=
  (isUtf8 [file.1] = true ∧ ".csv".toList.isSuffixOf file.1.toList = true) ∧
    Spells (joinNames "/tables" [file.1]) ["tables", file.1] ∧
    (Csv.parse? file.2.toList).isSome = true

instance (file : String × String) : Decidable (Readable file) :=
  inferInstanceAs (Decidable ((_ ∧ _) ∧ _ ∧ _))

theorem Readable.ending {file : String × String} (readable : Readable file) :
    ∃ lead, relative [file.1] = lead ++ ".csv" := by
  obtain ⟨lead, split⟩ := List.isSuffixOf_iff_suffix.mp readable.1.2
  refine ⟨String.ofList lead, String.toList_inj.mp ?_⟩
  have whole : relative [file.1] = file.1 := by simp [relative]
  rw [whole, ← split]
  simp

theorem Left.readText (left : Left t files) {file : String × String} (among : file ∈ files)
    (readable : Readable file) : t.readText (joinNames "/tables" [file.1]) = .ok file.2 := by
  have there := left.holds file among
  exact Tree.readText_of_located
    (Tree.locate_of_spells readable.2.1 left.proper.sound (by simp) there (by simp)) there

/-- What a search gives after files were left among the tables that can all be read. -/
theorem Left.result {result : Except ScanError (List Match)} {tables : List (String × String)}
    (left : Left t files) (gives : Gives sampleContext "r1-001" sampleTree t (.ok ⟨0, []⟩) result)
    (same : ∀ file, file ∈ tables ↔ file ∈ files)
    (sorted : (tables.map fun file => [file.1]).Pairwise (List.Lex (· < ·)))
    (readable : ∀ file ∈ tables, Readable file) :
    result = .ok (tables.flatMap fun file => matchesIn "r1-001"
      (shownFrom "/" (joinNames "/tables" [file.1])) ((Csv.parse? file.2.toList).getD [])) := by
  have read (file : String × String) (among : file ∈ tables) :=
    left.readText ((same file).mp among) (readable file among)
  have isTable (names : List String) : names ∈ tables.map (fun file => [file.1]) ↔
      IsTable t "/tables" names ∧ ¬ IsTable sampleTree "/tables" names := by
    rw [List.mem_map, IsTable, IsTable, left.isFile_iff, left_sampleTree.isFile_iff]
    constructor
    · rintro ⟨file, among, rfl⟩
      exact ⟨⟨⟨file, (same file).mp among, rfl⟩, (readable file among).ending⟩, by simp⟩
    · rintro ⟨⟨⟨file, among, rfl⟩, -⟩, -⟩
      exact ⟨file, (same file).mpr among, rfl⟩
  cases gives with
  | exited failed => exact absurd rfl failed
  | foreign foreign =>
    rw [tablesDir_sampleContext] at foreign
    obtain ⟨file, among, rfl⟩ := left.isFile_iff.mp foreign.1
    have text := (readable file ((same file).mpr among)).1.1
    exact absurd (text.symm.trans foreign.2) (by simp)
  | @found _ names records' _ new there =>
    rw [tablesDir_sampleContext] at new there ⊢
    have increasing : names.Pairwise (List.Lex (· < ·)) :=
      (new.sorted.and new.nodup).imp fun ⟨le, other⟩ => lex_of_namesLe le other
    obtain rfl : names = tables.map fun file => [file.1] :=
      increasing.eq_of_mem_iff sorted fun names => (new.mem_iff names).trans (isTable names).symm
    rw [List.flatMap_map]
    refine congrArg Except.ok (List.flatMap_congr fun file among => ?_)
    obtain ⟨text, read', parsed'⟩ := there [file.1] (List.mem_map_of_mem among)
    obtain rfl := Except.ok.inj ((read file among).symm.trans read')
    rw [parsed']
    rfl
  | @unread _ before names after e _ new _ failed =>
    rw [tablesDir_sampleContext] at new failed
    have table := (isTable names).mpr ((new.mem_iff names).mp (by simp))
    obtain ⟨file, among, rfl⟩ := List.mem_map.mp table
    cases failed with
    | file failed => cases (read file among).symm.trans failed
    | quote read' failed =>
      obtain rfl := Except.ok.inj ((read file among).symm.trans read')
      exact absurd failed (Option.isSome_iff_ne_none.mp (readable file among).2.2)

theorem sample_gives (files : List (String × String)) : ∃ result,
    Gives sampleContext "r1-001" sampleTree (files.foldl leave sampleTree) (.ok ⟨0, []⟩) result ∧
    (scanner (sampleTool files)).scan sampleContext sampleSearch sampleWorld =
      (result, ⟨remove (recipePath sampleContext "r1-001") (files.foldl leave sampleTree),
        ⟨[("r1", 1)]⟩, ()⟩) := by
  have mapped : sampleContext.request .openRewrite sampleSearch sampleWorld =
      (.ok (.recipe sampleRecipe), { sampleWorld with ids := ⟨[("r1", 1)]⟩ }) := rfl
  have matchId : sampleRecipe.matchId? = some "r1-001" := rfl
  have scanned := scan_of_written (o := sampleTool files) matchId mapped sample_written
  have texts (names : List String) : ¬ IsForeign sampleTree (tablesDir sampleContext) names := by
    rw [tablesDir_sampleContext]
    rintro ⟨file, -⟩
    simpa using left_sampleTree.isFile_iff.mp file
  rcases exists_listing sampleTree_proper (tablesDir sampleContext) with
    ⟨-, before, listing, listed⟩ | ⟨names, foreign, -⟩
  · have run : (sampleTool files).run (command sampleContext "r1-001") sampleTree () =
        (.ok ⟨0, []⟩, files.foldl leave sampleTree, ()) := rfl
    obtain ⟨result, ran, gives⟩ := runSearch_gives (w := ⟨sampleTree, ⟨[("r1", 1)]⟩, ()⟩)
      sampleTree_proper (fun run t s => proper_sampleTool files run s) listing listed run
    refine ⟨result, gives, scanned.trans ?_⟩
    show ScanM.andThen _ _ (⟨sampleTree, ⟨[("r1", 1)]⟩, ()⟩ : World Unit) = _
    simp only [ScanM.andThen, ran]
  · exact absurd foreign (texts names)

theorem get?_foldl_leave {p : Place} (elsewhere : ∀ name, p ≠ ["tables", name]) :
    (files.foldl leave t).get? p = t.get? p := by
  induction files generalizing t with
  | nil => rfl
  | cons file files ih =>
    rw [List.foldl_cons, ih, leave]
    split
    · rw [Tree.get?_put _ _ _ (by simp), if_neg (elsewhere file.1)]
    · rfl

end Sample

/-- Two tables that are left, the first of them last, with three rows. One row is of another search,
and one does not say where it comes from. -/
def sampleTables : List (String × String) :=
  [("B.csv", "matchId\nr1-001\n"),
    ("A.csv", "Source path,Match ID\nA.java,r1-001\nB.java,r1-002\n")]

def sampleMatches : List Match :=
  [⟨"A.java", .openRewrite, .row ⟨"r1-001", [("Source path", "A.java"), ("Match ID", "r1-001")]⟩⟩,
    ⟨"tables/B.csv", .openRewrite, .row ⟨"r1-001", [("matchId", "r1-001")]⟩⟩]

/-- The rows of the search come in the order of their tables, and its document is gone. -/
theorem scan_searches_sample : ∃ after,
    (scanner (sampleTool sampleTables)).scan sampleContext sampleSearch sampleWorld =
      (.ok sampleMatches, after) ∧
    Searches (sampleTool sampleTables) sampleContext sampleRecipe sampleSearch "r1-001"
      { sampleWorld with ids := ⟨[("r1", 1)]⟩ } (.ok sampleMatches) after ∧
    after.tree.Gone "/recipes/scan-r1-001.yml" := by
  have mapped : sampleContext.request .openRewrite sampleSearch sampleWorld =
      (.ok (.recipe sampleRecipe), { sampleWorld with ids := ⟨[("r1", 1)]⟩ }) := rfl
  obtain ⟨id, result, after, rfl, -, ran, searches⟩ := scan_searches sampleWorld_proper
    (fun run t s => proper_sampleTool sampleTables run s) mapped
  obtain ⟨result', gives, ran'⟩ := sample_gives sampleTables
  obtain ⟨rfl, rfl⟩ := Prod.mk.inj (ran.symm.trans ran')
  have left : Left (sampleTables.foldl leave sampleTree) sampleTables.reverse :=
    left_foldl_leave (by decide) (by decide)
  obtain rfl : result = .ok sampleMatches :=
    (left.result gives (fun _ => Iff.rfl) (by decide) (by decide +kernel)).trans (by decide +kernel)
  refine ⟨_, ran, searches, ?_⟩
  rw [← recipePath_sampleContext]
  refine (cleared_remove _ _).gone fun p located => ?_
  have there : (sampleTables.foldl leave sampleTree).get? ["recipes", "scan-r1-001.yml"] =
      some (.file (Text.toBytes (document sampleRecipe sampleSearch "r1-001")) false) := by
    rw [get?_foldl_leave (by simp)]
    rfl
  have spells : Spells (recipePath sampleContext "r1-001") ["recipes", "scan-r1-001.yml"] := by
    decide +kernel
  have found :
      (sampleTables.foldl leave sampleTree).locateLink (recipePath sampleContext "r1-001") =
        .ok ["recipes", "scan-r1-001.yml"] :=
    Tree.resolve_of_spells spells left.proper.sound (by simp)
      (left.proper.sound _ _ (by simp) there) (by simp [there])
  obtain rfl := Except.ok.inj (found.symm.trans located)
  simp [there]

/-- A table that can be read, and a file whose name is no text. -/
def strayTables : List (String × String) :=
  [("A.csv", "matchId\nr1-001\n"), ("\x00ÿ\x00.txt", "")]

/-- A table with its sources in a column that has another spelling. -/
def spelledTables : List (String × String) :=
  [("A.csv", "Source Path,Match ID\nA.java,r1-001\n")]

/-- A run that ends well and leaves only tables that can be read gives none of its rows, for the
sake of a file whose name is no text; and the source of a row that has one under another spelling is
the table's path. -/
theorem scan_searches_exceptions :
    ((∃ after, (scanner (sampleTool strayTables)).scan sampleContext sampleSearch sampleWorld =
        (.error (.nonUtf8Path "/tables/\x00ÿ\x00.txt"), after)) ∧
      ∀ names, IsTable (strayTables.foldl leave sampleTree) "/tables" names → ∃ records,
        Records (strayTables.foldl leave sampleTree) (joinNames "/tables" names) records) ∧
    ∃ after, (scanner (sampleTool spelledTables)).scan sampleContext sampleSearch sampleWorld =
      (.ok [⟨"tables/A.csv", .openRewrite,
        .row ⟨"r1-001", [("Source Path", "A.java"), ("Match ID", "r1-001")]⟩⟩], after) := by
  refine ⟨⟨?_, ?_⟩, ?_⟩
  · obtain ⟨result, gives, ran⟩ := sample_gives strayTables
    have left : Left (strayTables.foldl leave sampleTree) strayTables.reverse :=
      left_foldl_leave (by decide +kernel) (by decide)
    have stray : IsForeign (strayTables.foldl leave sampleTree) (tablesDir sampleContext)
        ["\x00ÿ\x00.txt"] := by
      rw [tablesDir_sampleContext]
      exact ⟨left.isFile_iff.mpr ⟨("\x00ÿ\x00.txt", ""), by decide, rfl⟩, by decide⟩
    cases gives with
    | exited failed => exact absurd rfl failed
    | found texts => exact absurd stray (texts _)
    | unread texts => exact absurd stray (texts _)
    | foreign foreign =>
      rw [tablesDir_sampleContext] at foreign ran
      obtain ⟨file, among, rfl⟩ := left.isFile_iff.mp foreign.1
      have only : ∀ file ∈ strayTables.reverse, isUtf8 [file.1] = false →
          joinNames "/tables" [file.1] = "/tables/\x00ÿ\x00.txt" := by decide +kernel
      rw [only file among foreign.2] at ran
      exact ⟨_, ran⟩
  · have left : Left (strayTables.foldl leave sampleTree) strayTables.reverse :=
      left_foldl_leave (by decide +kernel) (by decide)
    rintro names ⟨isFile, lead, ending⟩
    obtain ⟨file, among, rfl⟩ := left.isFile_iff.mp isFile
    have either : ∀ file ∈ strayTables.reverse,
        Readable file ∨ ¬ ".csv".toList <:+ (relative [file.1]).toList := by
      decide +kernel
    rcases either file among with readable | other
    · obtain ⟨records, parsed⟩ := Option.isSome_iff_exists.mp readable.2.2
      exact ⟨records, file.2, left.readText among readable, parsed⟩
    · exact absurd ⟨lead.toList, by rw [ending, String.toList_append]⟩ other
  · obtain ⟨result, gives, ran⟩ := sample_gives spelledTables
    have left : Left (spelledTables.foldl leave sampleTree) spelledTables.reverse :=
      left_foldl_leave (by decide +kernel) (by decide)
    obtain rfl : result = .ok [⟨"tables/A.csv", .openRewrite,
        .row ⟨"r1-001", [("Source Path", "A.java"), ("Match ID", "r1-001")]⟩⟩] :=
      (left.result gives (fun _ => Iff.rfl) (by decide) (by decide +kernel)).trans
        (by decide +kernel)
    exact ⟨_, ran⟩

end RecipeSearch

end Scan

end Uplift
