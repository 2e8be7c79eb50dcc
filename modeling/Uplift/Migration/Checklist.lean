import Uplift.Migration.Provider
import Uplift.Text.Blank
/-! # Checklists

What only people can do is listed, and the project is left alone.
-/

namespace Uplift.Migration.Checklist

/-- The steps that a rule asks people for. -/
def steps (r : Rule) : List String :=
  (r.instructions.manual.map Text.trimmed).filter fun s => !s.isEmpty

/-- The provider of checklists. -/
def provider {σ : Type} : Provider σ where
  kind := .manual
  execute _ r w :=
    let summary := toString (steps r).length ++ " manual step(s) for rule " ++ r.id
    (Outcome.succeeded summary (steps r), w)

end Uplift.Migration.Checklist
