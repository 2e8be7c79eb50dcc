import Uplift.Config
/-! # Migration contexts

What every provider is told about the run: where the project is, whether anything may be changed,
and the settings of the outside programs.
-/

namespace Uplift.Migration

/-- The circumstances of a run. The time limit is in milliseconds. -/
structure Context where
  projectRoot : String
  verbose : Bool := false
  dryRun : Bool
  provider : ProviderKind
  pluginVersion : String
  recipeName : String
  mavenCommand : String
  timeoutMillis : Nat
  maxToolRounds : Nat
deriving DecidableEq, Repr

namespace Context

/-- The circumstances that a configuration asks for. -/
def ofConfig (projectRoot : String) (c : Config) : Context where
  projectRoot := projectRoot
  dryRun := c.migration.dryRun
  provider := c.migration.provider
  pluginVersion := c.build.pluginVersion
  recipeName := c.migration.recipeName
  mavenCommand := c.build.mavenCommand
  timeoutMillis := 1000 * c.migration.timeoutSecs
  maxToolRounds := c.migration.maxToolRounds

/-- The time limit in whole seconds. -/
def timeoutSecs (c : Context) : Nat := c.timeoutMillis / 1000

end Context

end Uplift.Migration
