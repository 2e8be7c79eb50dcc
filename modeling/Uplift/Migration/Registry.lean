import Uplift.Migration.Assistance
import Uplift.Migration.Checklist
import Uplift.Migration.RecipeRun
/-! # Registries of providers

The providers that are at hand, one of each kind.

* `Registry.execute` carries a rule out with the provider of a kind.
-/

namespace Uplift.Migration

/-- The providers that are at hand. -/
structure Registry (σ : Type) where
  providers : List (Provider σ) := []

namespace Registry

variable {σ : Type}

/-- The registry with a provider more, in place of one of its kind. -/
def insert (r : Registry σ) (p : Provider σ) : Registry σ :=
  ⟨r.providers.filter (fun q => q.kind ≠ p.kind) ++ [p]⟩

/-- The built-in providers; assistance only if there is an assistant. -/
def standard (o : Outside σ) (assistant : Bool) : Registry σ :=
  let r : Registry σ := ({} : Registry σ).insert (RecipeRun.provider o) |>.insert Checklist.provider
  if assistant then r.insert (Assistance.provider o) else r

/-- The provider of a kind. -/
def get? (r : Registry σ) (kind : ProviderKind) : Option (Provider σ) :=
  r.providers.find? (·.kind = kind)

/-- The names of the kinds, sorted. -/
def ids (r : Registry σ) : List String :=
  (r.providers.map (·.kind.id)).mergeSort fun a b => a ≤ b

/-- Carries a rule out. -/
def execute (r : Registry σ) (c : Context) (kind : ProviderKind) (rule : Rule) (w : World σ) :
    Outcome × World σ :=
  match r.get? kind with
  | some p => p.execute c rule w
  | none => (failure ("cannot execute rule " ++ rule.id) [] (.notRegistered kind), w)

end Registry

end Uplift.Migration
