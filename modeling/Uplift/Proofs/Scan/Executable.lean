import Uplift.Proofs.Scan.Requests
import Uplift.Proofs.Scan.SearchRecipes

/-!
# Requests that scanners carry out

A mapper makes requests for one scanner (`Mapper.scanner`), and in the table of built-in mappers it
stands under that scanner whatever the shape is (`MapperTable.scanner_of_builtin`). So a built-in
scanner obtains requests that it carries out, and refuses none: `builtin_scan_executes` holds for
every routing table, also for one that a service would not be built with.
-/

namespace Uplift

open Scan

variable {q : Query} {rule : String} {ids left : MatchIds} {shape : Shape} {kind : ScannerKind}
  {m : Mapper} {r : Request}

theorem MatchIds.draw_eq_ok {id : String} (drawn : ids.draw rule = .ok (id, left)) :
    id = format rule (ids.current rule + 1) ∧ left = ids.put rule (ids.current rule + 1) := by
  simp only [draw] at drawn
  split at drawn
  · obtain ⟨rfl, rfl⟩ := Prod.mk.inj (Except.ok.inj drawn)
    exact ⟨rfl, rfl⟩
  · cases drawn

namespace Mapper

/-! ## What each mapper makes -/

/-- The scanner that a mapper makes requests for. -/
def scanner : Mapper → ScannerKind
  | recipe => .openRewrite
  | symbol => .jdtls
  | dependency => .maven
  | fileName | fileContent => .file

/-- A search that is made has a recipe, under an id that was drawn for it. -/
theorem exists_of_recipeRequest (made : recipeRequest q rule ids = .ok (r, left)) :
    ∃ t ∈ SearchRecipe.all, ∃ id, ids.draw rule = .ok (id, left) ∧
      r = .recipe (t.apply q.params id) := by
  have drawing {t : SearchRecipe} (member : t ∈ SearchRecipe.all)
      (last : (ids.draw rule >>= fun drawn =>
        .ok (Request.recipe (t.apply q.params drawn.1), drawn.2)) = .ok (r, left)) :
      ∃ t ∈ SearchRecipe.all, ∃ id, ids.draw rule = .ok (id, left) ∧
        r = .recipe (t.apply q.params id) := by
    obtain ⟨⟨id, next⟩, drawn, done⟩ := bind_eq_ok_iff.mp last
    obtain ⟨rfl, rfl⟩ := Prod.mk.inj (Except.ok.inj done)
    exact ⟨t, member, id, drawn, rfl⟩
  unfold recipeRequest at made
  cases found : SearchRecipe.of? q.key with
  | none => simp [found] at made
  | some t =>
    obtain ⟨member, -⟩ := SearchRecipe.of?_eq_some found
    simp only [found] at made
    split at made
    · split at made
      · cases made
      · exact drawing member made
    · obtain ⟨name, -, drawn⟩ := bind_eq_ok_iff.mp made
      exact drawing member drawn

/-- A mapper that makes a recipe puts the next match id of the rule in it. -/
theorem run_recipe {recipe : Recipe} (made : m.run q rule ids = .ok (.recipe recipe, left)) :
    recipe.matchId? = some (MatchIds.format rule (ids.current rule + 1)) ∧
      left = ids.put rule (ids.current rule + 1) := by
  cases m with
  | recipe =>
    obtain ⟨t, member, id, drawn, same⟩ := exists_of_recipeRequest made
    obtain rfl := Request.recipe.inj same
    obtain ⟨rfl, rfl⟩ := MatchIds.draw_eq_ok drawn
    exact ⟨SearchRecipe.matchId?_apply member _ _, rfl⟩
  | symbol | dependency | fileName | fileContent =>
    obtain ⟨text, -, done⟩ := bind_eq_ok_iff.mp made
    cases done

/-- A mapper makes requests that its scanner carries out. -/
theorem executable_of_run (made : m.run q rule ids = .ok (r, left)) : Executable m.scanner r := by
  cases m with
  | recipe =>
    obtain ⟨t, member, id, -, rfl⟩ := exists_of_recipeRequest made
    exact ⟨id, SearchRecipe.matchId?_apply member _ _⟩
  | symbol | dependency =>
    obtain ⟨text, -, done⟩ := bind_eq_ok_iff.mp made
    obtain ⟨rfl, -⟩ := Prod.mk.inj (Except.ok.inj done)
    trivial
  | fileName =>
    obtain ⟨name, -, done⟩ := bind_eq_ok_iff.mp made
    obtain ⟨rfl, -⟩ := Prod.mk.inj (Except.ok.inj done)
    exact .inl rfl
  | fileContent =>
    obtain ⟨pattern, -, done⟩ := bind_eq_ok_iff.mp made
    obtain ⟨rfl, -⟩ := Prod.mk.inj (Except.ok.inj done)
    exact .inr rfl

end Mapper

/-! ## Built-in mappers -/

namespace MapperTable

/-- A built-in mapper stands under the scanner that it makes requests for. -/
theorem scanner_of_builtin (found : builtin.lookup (shape, kind) = some m) : m.scanner = kind := by
  revert found
  cases kind <;> cases shape <;> cases m <;> decide

theorem exists_run_of_map {t : MapperTable} (made : t.map shape kind q rule ids = .ok (r, left)) :
    ∃ m, t.lookup (shape, kind) = some m ∧ m.run q rule ids = .ok (r, left) := by
  unfold map at made
  split at made
  · next m found => exact ⟨m, found, made⟩
  · cases made

theorem executable_of_map (made : builtin.map shape kind q rule ids = .ok (r, left)) :
    Executable kind r := by
  obtain ⟨m, found, ran⟩ := exists_run_of_map made
  rw [← scanner_of_builtin found]
  exact Mapper.executable_of_run ran

end MapperTable

namespace Scan

variable {σ : Type} {c : Context} {w w' : World σ}

theorem Context.executable_of_request (mappers : c.mappers = .builtin)
    (made : c.request kind q w = (.ok r, w')) : Executable kind r := by
  obtain ⟨route, left, -, mapped, -⟩ := c.exists_map_of_request made
  rw [mappers] at mapped
  exact MapperTable.executable_of_map mapped

/-- A request that is not made is a fault of the query or the setup. -/
theorem Context.exists_fault_of_request {e : ScanError}
    (failed : c.request kind q w = (.error e, w')) : ∃ f, e = .fault f := by
  unfold request at failed
  split at failed
  · exact ⟨_, (Except.error.inj (Prod.mk.inj failed).1).symm⟩
  · split at failed
    · exact ⟨_, (Except.error.inj (Prod.mk.inj failed).1).symm⟩
    · cases (Prod.mk.inj failed).1

/-- **No built-in scanner refuses a request.** With the built-in mappers, for every routing table,
rule, query and supply of match ids:

* the request that a scanner obtains, if there is one, is of the kind that it carries out; a recipe
  has a match id, and a search in files has a pattern for names or for contents;
* if the scanner reports a state that it should not be in, then that a directory is none or that the
  symbol server has no number for a symbol. So it reports no request of another scanner, no recipe
  without a match id, and no search in files without a pattern. -/
theorem builtin_scan_executes (o : Outside σ) (mappers : c.mappers = .builtin)
    (kind : ScannerKind) (q : Query) (w : World σ) :
    (∀ r w', c.request kind q w = (.ok r, w') → Executable kind r) ∧
    ∀ cause w', (builtin o kind).scan c q w = (.error (.state cause), w') →
      (∃ path, cause = .notDirectory path) ∨ ∃ symbol, cause = .noLocationCode symbol := by
  have executable : ∀ r w', c.request kind q w = (.ok r, w') → Executable kind r :=
    fun r w' made => Context.executable_of_request mappers made
  refine ⟨executable, fun cause w' ran => ?_⟩
  obtain ⟨work, same, carried⟩ := builtin_scan_eq o kind c q
  rw [same] at ran
  rcases made : c.request kind q w with ⟨e | r, w₁⟩
  · obtain ⟨f, rfl⟩ := Context.exists_fault_of_request made
    rw [RuleScan.bind_run_error made] at ran
    cases (Prod.mk.inj ran).1
  · rw [RuleScan.bind_run_ok made] at ran
    have ordinary : ScanError.IsOrdinary (.state cause) := by
      rcases carried r with ⟨-, ordinary⟩ | ⟨foreign, -⟩
      · exact ordinary w₁ _ (congrArg Prod.fst ran)
      · exact absurd (executable r w₁ made) foreign
    cases cause with
    | notDirectory path => exact .inl ⟨path, rfl⟩
    | noLocationCode symbol => exact .inr ⟨symbol, rfl⟩
    | foreignRequest _ | noMatchId _ | noFilePattern => exact ordinary.elim

/-- A table that sends searches for names to the search for contents. -/
def crossedContext : Context where
  config := {}
  root := "app"
  rule := "r1"
  routing := ⟨[("file.name", ⟨.maven, .content, ""⟩)], none⟩
  mappers := .builtin

def crossedQuery : Query := ⟨"file", "name", [("pattern", "x")]⟩

theorem builtin_scan_executes_sample :
    crossedContext.mappers = .builtin ∧
    crossedContext.request .file crossedQuery (World.mk {} {} ()) =
      (.ok (.file none (some "x")), ⟨{}, {}, ()⟩) ∧
    Executable .file (.file none (some "x")) ∧
    ∀ cause w', (builtin Service.idle .file).scan crossedContext crossedQuery ⟨{}, {}, ()⟩ =
        (.error (.state cause), w') →
      (∃ path, cause = .notDirectory path) ∨ ∃ symbol, cause = .noLocationCode symbol := by
  obtain ⟨executable, states⟩ :=
    builtin_scan_executes Service.idle (c := crossedContext) rfl .file crossedQuery ⟨{}, {}, ()⟩
  exact ⟨rfl, rfl, executable _ _ rfl, states⟩

end Scan

end Uplift
