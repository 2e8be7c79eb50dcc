import Mathlib
import Uplift.Scan.Scanner

/-!
# Requests and match ids

What becomes of the supply of match ids when a request is made of a query: nothing, or one id of the
rule is drawn, and that comes last (`MapperTable.map_draws`). In the second case the id is all that
the request owes to the supply.
-/

namespace Uplift

/-- A step that draws no match id, or one of the rule as the last thing it does. -/
def DrawsLast {α : Type} (rule : String) (step : MatchIds → Except Fault (α × MatchIds)) : Prop :=
  (∃ result : Except Fault α, ∀ ids, step ids = result.map (·, ids)) ∨
    ∃ make : String → α, ∀ ids,
      step ids = (ids.draw rule).map fun drawn => (make drawn.1, drawn.2)

namespace Mapper

variable {q : Query} {rule : String}

theorem draws_of_fault {α : Type} (f : Fault) :
    DrawsLast rule (fun _ => (.error f : Except Fault (α × MatchIds))) :=
  .inl ⟨.error f, fun _ => rfl⟩

theorem recipeRequest_draws (q : Query) (rule : String) :
    DrawsLast rule (recipeRequest q rule) := by
  have drawing (t : SearchRecipe) : DrawsLast rule fun ids =>
      (ids.draw rule >>= fun drawn =>
        .ok (Request.recipe (t.apply q.params drawn.1), drawn.2)) := by
    refine .inr ⟨fun id => .recipe (t.apply q.params id), fun ids => ?_⟩
    show (ids.draw rule >>= _) = _
    cases ids.draw rule <;> rfl
  unfold recipeRequest
  cases SearchRecipe.of? q.key with
  | none => exact draws_of_fault _
  | some t =>
    by_cases dependency : q.asks "pom" "dependency" = true
    · simp only [dependency, if_true]
      by_cases missing : ((q.param? "gavs").isNone && (q.param? "groupId").isNone) = true
      · simp only [missing, if_true]
        exact draws_of_fault _
      · simp only [missing]
        exact drawing t
    · simp only [dependency]
      cases q.require "name" with
      | error f => exact draws_of_fault f
      | ok name => exact drawing t

theorem run_draws (m : Mapper) (q : Query) (rule : String) : DrawsLast rule (m.run q rule) := by
  cases m with
  | recipe => exact recipeRequest_draws q rule
  | symbol =>
    refine .inl ⟨(q.require "name").map (.symbol q.symbol), fun ids => ?_⟩
    show (q.require "name" >>= _) = _
    cases q.require "name" <;> rfl
  | dependency =>
    refine .inl ⟨(coordinates q).map .dependency, fun ids => ?_⟩
    show (coordinates q >>= _) = _
    cases coordinates q <;> rfl
  | fileName =>
    refine .inl ⟨(q.require "name").map fun name => .file (some name) none, fun ids => ?_⟩
    show (q.require "name" >>= _) = _
    cases q.require "name" <;> rfl
  | fileContent =>
    refine .inl ⟨(q.require "pattern").map fun pattern =>
      .file (q.param? "filePattern") (some pattern), fun ids => ?_⟩
    show (q.require "pattern" >>= _) = _
    cases q.require "pattern" <;> rfl

end Mapper

/-- Making a request draws no match id, or one of the rule as the last thing. -/
theorem MapperTable.map_draws (t : MapperTable) (shape : Shape) (scanner : ScannerKind) (q : Query)
    (rule : String) : DrawsLast rule (t.map shape scanner q rule) := by
  unfold map
  cases t.lookup (shape, scanner) with
  | none => exact Mapper.draws_of_fault _
  | some m => exact m.run_draws q rule

end Uplift
