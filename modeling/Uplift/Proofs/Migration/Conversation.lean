import Uplift.Migration.Assistance
import Uplift.Proofs.Migration.Licence

/-!
# What conversations do to a project

`callsOf` lists the tool calls that a conversation carries out, and `usesOf` those of all the tasks
of a rule. While the assistant itself leaves the files alone, the project after the tasks is the one
that these calls make, carried out one after the other by the same tools (`runTasks_tools`).
-/

namespace Uplift.Migration

namespace FileTools

variable {f : FileTools} {t : Files.Tree}

/-- Uses that follow others go on with what those left. -/
theorem performAll_append (first second : List ToolUse) :
    (f.performAll t (first ++ second)).2 =
      ((f.performAll t first).2.1.performAll (f.performAll t first).2.2 second).2 := by
  induction first generalizing f t with
  | nil => rfl
  | cons u first ih => exact ih

/-- A use fails only in ways that a conversation survives. -/
theorem Performs.recoverable {u : ToolUse} {result : Except ProviderError String} {f' : FileTools}
    {t' : Files.Tree} {e : ProviderError} (performs : Performs f t u result f' t')
    (failed : result = .error e) : e.isRecoverable := by
  cases performs with
  | read | write => cases failed
  | writeFails | readFails | refused =>
    cases failed
    rfl

end FileTools

namespace Assistance

open FileTools

variable {σ : Type} {o : Outside σ} {c : Context}

/-- A call never ends a conversation, and does what the tools do. -/
theorem carryOut_eq (d : Talk) (name : String) (arguments : Value) (t : Files.Tree) :
    (d.carryOut name arguments t).1 = .ok () ∧
      ((d.carryOut name arguments t).2.1.tools, (d.carryOut name arguments t).2.2) =
        (d.tools.perform (.call name arguments) t).2 := by
  have performs := perform_performs d.tools t (.call name arguments)
  simp only [perform] at performs ⊢
  rcases called : d.tools.call name arguments t with ⟨⟨e⟩ | ⟨text⟩, tools, t'⟩
  · have survived : e.isRecoverable := performs.recoverable (by rw [called])
    simp [Talk.carryOut, called, report, survived]
  · simp [Talk.carryOut, called, report]

/-- The calls that a conversation carries out, if `left` may still be carried out. -/
def callsOf (o : Outside σ) (c : Context) : (left : Nat) → Talk → World σ → List ToolUse
  | 0, _, _ => []
  | left + 1, d, w =>
    let (answer, tree, outside) := o.chat ⟨d.messages, definitions⟩ w.tree w.outside
    match answer with
    | .ok (.toolCall name arguments) =>
      let (_, d, tree) := d.carryOut name arguments tree
      .call name arguments :: callsOf o c left d { tree, outside }
    | _ => []

/-- The calls that are carried out in all the tasks, up to one that fails. -/
def usesOf (o : Outside σ) (c : Context) : Progress → World σ → List (String × String) →
    List ToolUse
  | _, _, [] => []
  | p, w, (prompt, task) :: rest =>
    let d : Talk := ⟨opening prompt task, p.tools, p.log ++ ["task: " ++ task]⟩
    callsOf o c c.maxToolRounds d w ++
      match converse o c c.maxToolRounds d w with
      | (.error _, _, _) => []
      | (.ok response, d, w) =>
        usesOf o c ⟨d.tools, d.log ++ ["response: " ++ response], p.completed + 1⟩ w rest

/-- The assistant changes no files by itself. -/
def KeepsFiles (o : Outside σ) : Prop :=
  ∀ request tree outside, (o.chat request tree outside).2.1 = tree

/-- A conversation leaves the tools and the files as its calls do. -/
theorem converse_tools (keeps : KeepsFiles o) (left : Nat) (d : Talk) (w : World σ) :
    ((converse o c left d w).2.1.tools, (converse o c left d w).2.2.tree) =
      (d.tools.performAll w.tree (callsOf o c left d w)).2 := by
  induction left generalizing d w with
  | zero =>
    have kept := keeps ⟨d.messages, definitions⟩ w.tree w.outside
    rcases chat : o.chat ⟨d.messages, definitions⟩ w.tree w.outside with ⟨answer, tree, outside⟩
    obtain rfl : tree = w.tree := by rwa [chat] at kept
    rw [converse, callsOf]
    rcases answer with (_ | _) | (_ | _) <;> simp [chat, performAll]
  | succ left ih =>
    have kept := keeps ⟨d.messages, definitions⟩ w.tree w.outside
    rcases chat : o.chat ⟨d.messages, definitions⟩ w.tree w.outside with ⟨answer, tree, outside⟩
    obtain rfl : tree = w.tree := by rwa [chat] at kept
    rcases answer with (_ | _) | (⟨name, arguments⟩ | _)
    case ok.toolCall =>
      -- The call is carried out, and the conversation goes on from what it left.
      obtain ⟨goesOn, same⟩ := carryOut_eq d name arguments w.tree
      rcases carried : d.carryOut name arguments w.tree with ⟨result, d', t'⟩
      rw [carried] at goesOn same
      obtain rfl : result = .ok () := goesOn
      rw [converse, callsOf]
      simp only [chat, carried, performAll, ← same]
      exact ih d' ⟨t', outside⟩
    all_goals
      rw [converse, callsOf]
      simp [chat, performAll]

/-- Tasks leave the tools and the files as their calls do. -/
theorem runTasks_tools (keeps : KeepsFiles o) (tasks : List (String × String)) (p : Progress)
    (w : World σ) :
    ((runTasks o c p w tasks).2.1.tools, (runTasks o c p w tasks).2.2.tree) =
      (p.tools.performAll w.tree (usesOf o c p w tasks)).2 := by
  induction tasks generalizing p w with
  | nil => rfl
  | cons entry rest ih =>
    obtain ⟨prompt, task⟩ := entry
    have talked := converse_tools (c := c) keeps c.maxToolRounds
      ⟨opening prompt task, p.tools, p.log ++ ["task: " ++ task]⟩ w
    simp only [runTasks, usesOf, performAll_append, ← talked]
    rcases converse o c c.maxToolRounds _ w with ⟨⟨e⟩ | ⟨response⟩, d, w'⟩
    · rfl
    · exact ih _ w'

end Assistance

end Uplift.Migration
