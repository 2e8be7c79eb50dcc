import Uplift.Drawing
import Uplift.Proofs.Scan.Executable

/-!
# What a mapping leaves of the match ids

* `MapperTable.make_eq`: the mappers, carried out step by step, give what they give as functions,
  and a mapper that fails has left the supply as it was.
* `MapperTable.make_atomic`: what each outcome means for the counters of the rules.
-/

namespace Uplift

namespace Drawing

variable {α β : Type} {ids : MatchIds}

theorem ofExcept_bind (result : Except Fault α) (f : α → Drawing β) :
    (ofExcept result >>= f) ids = match result with
      | .ok a => f a ids
      | .error e => (.error e, ids) := by
  cases result with
  | ok a => exact RuleScan.bind_run_ok rfl f
  | error e => exact RuleScan.bind_run_error rfl f

/-- A draw as the last thing of a computation. -/
theorem next_bind (rule : String) (g : String → β) :
    (next rule >>= fun id => pure (g id)) ids =
      settled ids (ids.draw rule >>= fun drawn => .ok (g drawn.1, drawn.2)) := by
  cases drawn : ids.draw rule with
  | ok d =>
    have ran : next rule ids = (.ok d.1, d.2) := by rw [next, drawn, settled]
    exact RuleScan.bind_run_ok ran _
  | error f =>
    have ran : next rule ids = (.error f, ids) := by rw [next, drawn, settled]
    exact RuleScan.bind_run_error ran _

end Drawing

theorem Recipe.withOptions_eq (r : Recipe) (options : List (String × Value)) :
    r.withOptions options = ⟨r.name, r.options ++ options⟩ := by
  unfold withOptions
  induction options generalizing r with
  | nil => simp
  | cons entry rest ih =>
    rw [List.foldl_cons, ih]
    simp [withOption]

namespace Mapper

variable {q : Query} {rule : String} {ids : MatchIds}

theorem recipeUnder_eq (t : SearchRecipe) : recipeUnder t q rule ids =
    settled ids (ids.draw rule >>= fun drawn =>
      .ok (.recipe (t.apply q.params drawn.1), drawn.2)) := by
  rw [← Drawing.next_bind rule fun id => Request.recipe (t.apply q.params id)]
  simp only [recipeUnder, Recipe.withOptions_eq, Recipe.withOption, List.nil_append,
    SearchRecipe.apply]

theorem makeRecipe_eq : makeRecipe q rule ids = settled ids (recipeRequest q rule ids) := by
  unfold makeRecipe recipeRequest
  cases SearchRecipe.of? q.key with
  | none => rfl
  | some t =>
    dsimp only
    split
    · split
      · rfl
      · exact recipeUnder_eq t
    · rw [Drawing.ofExcept_bind]
      cases q.require "name" with
      | error f => rfl
      | ok name => exact recipeUnder_eq t

/-- A mapper that fails has left the supply as it was. -/
theorem make_eq (m : Mapper) : m.make q rule ids = settled ids (m.run q rule ids) := by
  cases m with
  | recipe => exact makeRecipe_eq
  | dependency =>
    refine (Drawing.ofExcept_bind _ _).trans ?_
    simp only [run]
    cases coordinates q <;> rfl
  | symbol | fileName =>
    refine (Drawing.ofExcept_bind _ _).trans ?_
    simp only [run]
    cases q.require "name" <;> rfl
  | fileContent =>
    refine (Drawing.ofExcept_bind _ _).trans ?_
    simp only [run]
    cases q.require "pattern" <;> rfl

end Mapper

namespace MapperTable

theorem make_eq (t : MapperTable) (shape : Shape) (scanner : ScannerKind) (q : Query)
    (rule : String) (ids : MatchIds) :
    t.make shape scanner q rule ids = settled ids (t.map shape scanner q rule ids) := by
  unfold make map
  cases t.lookup (shape, scanner) with
  | none => rfl
  | some m => exact m.make_eq

variable {shape : Shape} {kind : ScannerKind} {q : Query} {rule : String} {ids left : MatchIds}
  {r : Request}

/-- A search by recipe draws one id, and its recipe has that id. -/
theorem draws_of_map (mapped : builtin.map shape .openRewrite q rule ids = .ok (r, left)) :
    left = ids.put rule (ids.current rule + 1) ∧ ∃ recipe, r = .recipe recipe ∧
      recipe.matchId? = some (MatchIds.format rule (ids.current rule + 1)) := by
  obtain ⟨m, -, ran⟩ := exists_run_of_map mapped
  have executable := executable_of_map mapped
  cases r with
  | recipe recipe =>
    obtain ⟨matchId, rfl⟩ := Mapper.run_recipe ran
    exact ⟨rfl, recipe, rfl, matchId⟩
  | symbol | dependency | file => exact executable.elim

/-- The other mappers draw nothing. -/
theorem keeps_of_map (other : kind ≠ .openRewrite)
    (mapped : builtin.map shape kind q rule ids = .ok (r, left)) : left = ids := by
  obtain ⟨m, found, ran⟩ := exists_run_of_map mapped
  cases m with
  | recipe => exact absurd (scanner_of_builtin found).symm other
  | symbol | dependency | fileName | fileContent =>
    obtain ⟨text, -, done⟩ := bind_eq_ok_iff.mp ran
    exact (Prod.mk.inj (Except.ok.inj done)).2.symm

/-- **A mapping draws one id or none.** For every shape, scanner, query, rule and supply of match
ids, the built-in mapper, carried out step by step, gives what the mapping says, and:

* if it fails, for whatever reason, every rule's counter is what it was before;
* if it succeeds on the search by recipe, the counter of the rule has gone up by one and no other
  has changed, and the match id of the recipe is the one that the new counter stands for;
* if it succeeds on another scanner, no counter has changed. -/
theorem make_atomic (shape : Shape) (kind : ScannerKind) (q : Query) (rule : String)
    (ids : MatchIds) :
    ∃ result left, builtin.make shape kind q rule ids = (result, left) ∧
      builtin.map shape kind q rule ids = result.map (·, left) ∧
      (∀ f, result = .error f → ∀ other, left.current other = ids.current other) ∧
      (∀ r, result = .ok r → kind = .openRewrite →
        left.current rule = ids.current rule + 1 ∧
        (∀ other, other ≠ rule → left.current other = ids.current other) ∧
        ∃ recipe, r = .recipe recipe ∧
          recipe.matchId? = some (MatchIds.format rule (left.current rule))) ∧
      (∀ r, result = .ok r → kind ≠ .openRewrite →
        ∀ other, left.current other = ids.current other) := by
  have made := builtin.make_eq shape kind q rule ids
  rcases mapped : builtin.map shape kind q rule ids with f | ⟨r, left⟩
  · rw [mapped] at made
    exact ⟨_, _, made, rfl, by simp, by simp, by simp⟩
  · rw [mapped] at made
    refine ⟨_, _, made, rfl, by simp, ?_, ?_⟩
    · rintro _ ⟨⟩ rfl
      obtain ⟨rfl, recipe, rfl, matchId⟩ := draws_of_map mapped
      have drawn : (ids.put rule (ids.current rule + 1)).current rule = ids.current rule + 1 := by
        rw [MatchIds.current_put, if_pos rfl]
      refine ⟨drawn, fun other foreign => ?_, recipe, rfl, ?_⟩
      · rw [MatchIds.current_put, if_neg foreign]
      · rw [drawn, matchId]
    · rintro _ ⟨⟩ other rule'
      rw [keeps_of_map other mapped]

def methodSearch : Query := ⟨"java", "method", [("name", "add(..)")]⟩

def lastRecipe : Recipe :=
  ⟨"dev.snowdrop.openrewrite.java.search.FindMethods",
    [("methodPattern", .str "add(..)"), ("matchId", .str "r-999"), ("matchOverrides", .bool false)]⟩

/-- The last id of a rule is drawn, and a mapping that finds none left changes nothing. -/
theorem make_atomic_sample :
    builtin.make .method .openRewrite methodSearch "r" ⟨[("a", 3), ("r", 998)]⟩ =
      (.ok (.recipe lastRecipe), ⟨[("r", 999), ("a", 3)]⟩) ∧
    lastRecipe.matchId? = some "r-999" ∧
    ∃ left, builtin.make .method .openRewrite methodSearch "r" ⟨[("r", 999), ("a", 3)]⟩ =
      (.error (.sequenceExhausted "r"), left) ∧ left.current "r" = 999 ∧ left.current "a" = 3 := by
  obtain ⟨result, left, made, mapped, -, draws, -⟩ :=
    make_atomic .method .openRewrite methodSearch "r" ⟨[("a", 3), ("r", 998)]⟩
  obtain ⟨result', left', made', mapped', keeps, -⟩ :=
    make_atomic .method .openRewrite methodSearch "r" ⟨[("r", 999), ("a", 3)]⟩
  have last : builtin.map .method .openRewrite methodSearch "r" ⟨[("a", 3), ("r", 998)]⟩ =
      .ok (.recipe lastRecipe, ⟨[("r", 999), ("a", 3)]⟩) := by decide +kernel
  have none : builtin.map .method .openRewrite methodSearch "r" ⟨[("r", 999), ("a", 3)]⟩ =
      .error (.sequenceExhausted "r") := by decide +kernel
  rw [last] at mapped
  rw [none] at mapped'
  rcases result with f | r
  · cases mapped
  · obtain ⟨rfl, rfl⟩ := Prod.mk.inj (Except.ok.inj mapped)
    rcases result' with f | r
    · obtain rfl := Except.error.inj mapped'
      have kept := keeps _ rfl
      obtain ⟨-, -, recipe, same, matchId⟩ := draws _ rfl rfl
      obtain rfl := Request.recipe.inj same
      exact ⟨made, matchId, left', made', kept "r", kept "a"⟩
    · cases mapped'

end MapperTable

end Uplift
