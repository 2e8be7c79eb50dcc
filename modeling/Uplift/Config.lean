import Uplift.Routing
import Uplift.SetupError
import Uplift.Json.Reader
/-! # Configurations

The settings of scans, of the build tool and of migrations. Every setting has a default.

* `Config.load` reads and validates a file.
-/

namespace Uplift

/-- Settings of scans. -/
structure ScanConfig where
  defaultScanner : Option ScannerKind := none
  skipDirs : List String := [".git", ".idea", ".mtool", "build", "node_modules", "target"]
  followLinks : Bool := false
  symbolServerCommand : List String := []
  symbolServerBundles : List String := []
deriving DecidableEq, Repr

/-- Settings of the build tool. -/
structure BuildConfig where
  mavenCommand : String := "mvn"
  pluginVersion : String := "6.1.4"
  searchRecipeArtifacts : List String := ["dev.snowdrop:openrewrite-recipes:1.0.0-SNAPSHOT"]
  datatablesDir : String := "target/rewrite/datatables"
  scanRecipeDir : String := ".mtool"
  timeoutSecs : Nat := 600
deriving DecidableEq, Repr

/-- Settings of migrations. -/
structure MigrationConfig where
  provider : ProviderKind := .manual
  dryRun : Bool := false
  recipeName : String := "dev.mtool.MigrationRecipe"
  timeoutSecs : Nat := 900
  maxToolRounds : Nat := 25
  assistantCommand : List String := []
deriving DecidableEq, Repr

/-- All settings. -/
structure Config where
  scan : ScanConfig := {}
  build : BuildConfig := {}
  migration : MigrationConfig := {}
  routing : Option RoutingTable := none
deriving DecidableEq, Repr

namespace ScanConfig

/-- Reads settings. -/
def decode : Decoder ScanConfig := fun v => do
  let r ← Record.of? .json ["default_scanner", "skip_dirs", "follow_links",
    "symbol_server_command", "symbol_server_bundles"] v
  let d : ScanConfig := {}
  let texts := Decoder.list .json Decoder.text
  some ⟨← r.optional "default_scanner" (Decoder.name ScannerKind.ofId?),
    ← r.withDefault "skip_dirs" d.skipDirs texts,
    ← r.withDefault "follow_links" d.followLinks Decoder.truth,
    ← r.withDefault "symbol_server_command" d.symbolServerCommand texts,
    ← r.withDefault "symbol_server_bundles" d.symbolServerBundles texts⟩

/-- Settings as a document value. -/
def encode (c : ScanConfig) : Value :=
  .record [("default_scanner", .optStr (c.defaultScanner.map ScannerKind.id)),
    ("skip_dirs", .strings c.skipDirs), ("follow_links", .bool c.followLinks),
    ("symbol_server_command", .strings c.symbolServerCommand),
    ("symbol_server_bundles", .strings c.symbolServerBundles)]

end ScanConfig

namespace BuildConfig

/-- Reads settings. -/
def decode : Decoder BuildConfig := fun v => do
  let r ← Record.of? .json ["maven_command", "plugin_version", "search_recipe_artifacts",
    "datatables_dir", "scan_recipe_dir", "timeout_secs"] v
  let d : BuildConfig := {}
  some ⟨← r.withDefault "maven_command" d.mavenCommand Decoder.text,
    ← r.withDefault "plugin_version" d.pluginVersion Decoder.text,
    ← r.withDefault "search_recipe_artifacts" d.searchRecipeArtifacts
      (Decoder.list .json Decoder.text),
    ← r.withDefault "datatables_dir" d.datatablesDir Decoder.text,
    ← r.withDefault "scan_recipe_dir" d.scanRecipeDir Decoder.text,
    ← r.withDefault "timeout_secs" d.timeoutSecs Decoder.nat64⟩

/-- Settings as a document value. -/
def encode (c : BuildConfig) : Value :=
  .record [("maven_command", .str c.mavenCommand), ("plugin_version", .str c.pluginVersion),
    ("search_recipe_artifacts", .strings c.searchRecipeArtifacts),
    ("datatables_dir", .str c.datatablesDir), ("scan_recipe_dir", .str c.scanRecipeDir),
    ("timeout_secs", .int c.timeoutSecs)]

end BuildConfig

namespace MigrationConfig

/-- Reads settings. -/
def decode : Decoder MigrationConfig := fun v => do
  let r ← Record.of? .json ["provider", "dry_run", "recipe_name", "timeout_secs",
    "max_tool_rounds", "assistant_command"] v
  let d : MigrationConfig := {}
  some ⟨← r.withDefault "provider" d.provider (Decoder.name ProviderKind.ofId?),
    ← r.withDefault "dry_run" d.dryRun Decoder.truth,
    ← r.withDefault "recipe_name" d.recipeName Decoder.text,
    ← r.withDefault "timeout_secs" d.timeoutSecs Decoder.nat64,
    ← r.withDefault "max_tool_rounds" d.maxToolRounds Decoder.nat32,
    ← r.withDefault "assistant_command" d.assistantCommand (Decoder.list .json Decoder.text)⟩

/-- Settings as a document value. -/
def encode (c : MigrationConfig) : Value :=
  .record [("provider", .str c.provider.id), ("dry_run", .bool c.dryRun),
    ("recipe_name", .str c.recipeName), ("timeout_secs", .int c.timeoutSecs),
    ("max_tool_rounds", .int c.maxToolRounds), ("assistant_command", .strings c.assistantCommand)]

end MigrationConfig

namespace Config

/-- Reads settings. -/
def decode : Decoder Config := fun v => do
  let r ← Record.of? .json ["scan", "rewrite", "migration", "routing"] v
  some ⟨← r.withDefault "scan" {} ScanConfig.decode,
    ← r.withDefault "rewrite" {} BuildConfig.decode,
    ← r.withDefault "migration" {} MigrationConfig.decode,
    ← r.optional "routing" RoutingTable.decode⟩

/-- Settings as a document value. -/
def encode (c : Config) : Value :=
  .record ([("scan", c.scan.encode), ("rewrite", c.build.encode),
    ("migration", c.migration.encode)] ++
    (match c.routing with
      | some t => [("routing", t.encode)]
      | none => []))

/-- The routing table, built in unless one is configured. -/
def routes (c : Config) : RoutingTable := c.routing.getD .builtin

/-- A text is blank. -/
def isBlank (s : String) : Bool := Text.isBlankText s.toList

/-- Fails at the first setting that cannot work. -/
def validate (c : Config) : Except SetupError Unit :=
  if isBlank c.build.mavenCommand then .error (.option "rewrite.maven_command" .empty)
  else if (c.scan.symbolServerCommand.head?.map isBlank).getD false then
    .error (.option "scan.symbol_server_command" .emptyProgram)
  else if c.build.timeoutSecs = 0 then .error (.option "rewrite.timeout_secs" .notPositive)
  else if c.migration.timeoutSecs = 0 then .error (.option "migration.timeout_secs" .notPositive)
  else if c.migration.maxToolRounds = 0 then
    .error (.option "migration.max_tool_rounds" .notPositive)
  else .ok ()

/-- The settings in a file. -/
def load (t : Files.Tree) (path : String) : Except SetupError Config :=
  match t.readText path with
  | .error e => .error (.io path e)
  | .ok text =>
    match (Json.parse? text).bind decode with
    | none => .error .json
    | some c => do
      c.validate
      .ok c

end Config

end Uplift
