import Uplift.Migration.Chat
import Uplift.Migration.Context
import Uplift.Migration.Error
import Uplift.Process.Command
import Uplift.Task
/-! # Providers

A provider carries out what a rule asks for, in one of the ways that rules know. It never fails:
what goes wrong becomes a failed outcome, with what was done up to then as its details.

* `World` is what providers read and change; `Outside` are the programs that they deal with.
* `Provider` is one way of carrying rules out.
-/

namespace Uplift.Migration

/-- What providers read and change. -/
structure World (σ : Type) where
  tree : Files.Tree
  outside : σ

/-- Why an assistant gave no reply: it took too long, or something failed. -/
inductive ChatFailure where
  | stalled
  | failed (e : ProviderError)
deriving DecidableEq, Repr

/-- The programs outside: the build tool and the assistant, both of which may change files. -/
structure Outside (σ : Type) where
  run : Command → Files.Tree → σ → Except RunFailure Finished × Files.Tree × σ
  chat : ChatRequest → Files.Tree → σ → Except ChatFailure Reply × Files.Tree × σ
  /-- There is somebody to watch. -/
  console : Bool

/-- A way of carrying rules out. -/
structure Provider (σ : Type) where
  kind : ProviderKind
  execute : Context → Rule → World σ → Outcome × World σ

/-- The failure that an error makes. -/
def failure (message : String) (details : List String) (e : ProviderError) : Outcome :=
  Outcome.failed message details (some e.message)

/-- The error that a command's failure is. -/
def runError (c : Command) : RunFailure → ProviderError
  | .spawn cause => .spawn c.program cause
  | .timeout lines => .timeout c.program c.timeoutSecs lines

end Uplift.Migration
