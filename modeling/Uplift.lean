import Uplift.Catalog
import Uplift.Cli.Arguments
import Uplift.Cli.Failure
import Uplift.Cli.Listing
import Uplift.Cli.Run
import Uplift.Condition.Basic
import Uplift.Condition.Document
import Uplift.Condition.Reader
import Uplift.Config
import Uplift.Coordinate
import Uplift.Decimal.Reading
import Uplift.Decimal.Shortest
import Uplift.Drawing
import Uplift.Fault
import Uplift.Files.Glob
import Uplift.Files.Ignore
import Uplift.Files.Path
import Uplift.Files.Tree
import Uplift.Instant
import Uplift.Json.Printer
import Uplift.Json.Reader
import Uplift.Kind
import Uplift.Main
import Uplift.Mapping
import Uplift.Match
import Uplift.MatchIds
import Uplift.Migration.Assistance
import Uplift.Migration.Chat
import Uplift.Migration.Checklist
import Uplift.Migration.CommandAssistant
import Uplift.Migration.Context
import Uplift.Migration.Error
import Uplift.Migration.FileTools
import Uplift.Migration.Provider
import Uplift.Migration.RecipeRun
import Uplift.Migration.Registry
import Uplift.Pom
import Uplift.Process.Command
import Uplift.Proofs.Catalog
import Uplift.Proofs.Cli.Transform
import Uplift.Proofs.Condition.Cutting
import Uplift.Proofs.Condition.Display
import Uplift.Proofs.Condition.Division
import Uplift.Proofs.Condition.Precondition
import Uplift.Proofs.Condition.Quoting
import Uplift.Proofs.Condition.Reading
import Uplift.Proofs.Condition.RoundTrip
import Uplift.Proofs.Condition.Shape
import Uplift.Proofs.Condition.Terms
import Uplift.Proofs.Condition.WellFormed
import Uplift.Proofs.Condition.Written
import Uplift.Proofs.Coordinate
import Uplift.Proofs.Entries
import Uplift.Proofs.Except
import Uplift.Proofs.Files.Escape
import Uplift.Proofs.Files.Gone
import Uplift.Proofs.Files.Growth
import Uplift.Proofs.Files.Names
import Uplift.Proofs.Files.PlainDir
import Uplift.Proofs.Files.Proper
import Uplift.Proofs.Files.RootDir
import Uplift.Proofs.Files.Shape
import Uplift.Proofs.Files.Spelled
import Uplift.Proofs.Files.Steps
import Uplift.Proofs.Files.Walk
import Uplift.Proofs.Instant
import Uplift.Proofs.Json.RoundTrip
import Uplift.Proofs.MatchIds
import Uplift.Proofs.Migration.Confinement
import Uplift.Proofs.Migration.Conversation
import Uplift.Proofs.Migration.DryRun
import Uplift.Proofs.Migration.FileText
import Uplift.Proofs.Migration.Licence
import Uplift.Proofs.Migration.RecipeRun
import Uplift.Proofs.Migration.Spelling
import Uplift.Proofs.Migration.Transcript
import Uplift.Proofs.Pom.Descriptions
import Uplift.Proofs.Pom.Passing
import Uplift.Proofs.Query
import Uplift.Proofs.Recipe
import Uplift.Proofs.Recipe.Options
import Uplift.Proofs.Report
import Uplift.Proofs.Rpc.Headers
import Uplift.Proofs.Rpc.Messages
import Uplift.Proofs.Rpc.Pairing
import Uplift.Proofs.Rpc.Receiving
import Uplift.Proofs.Rpc.Streams
import Uplift.Proofs.Scan.Agreement
import Uplift.Proofs.Scan.Batch
import Uplift.Proofs.Scan.Coordinates
import Uplift.Proofs.Scan.Dependencies
import Uplift.Proofs.Scan.Draws
import Uplift.Proofs.Scan.Executable
import Uplift.Proofs.Scan.Faults
import Uplift.Proofs.Scan.FileSearch
import Uplift.Proofs.Scan.Findings
import Uplift.Proofs.Scan.Mapping
import Uplift.Proofs.Scan.PlainWalk
import Uplift.Proofs.Scan.Pruning
import Uplift.Proofs.Scan.RecipeSearch
import Uplift.Proofs.Scan.Reference
import Uplift.Proofs.Scan.Requests
import Uplift.Proofs.Scan.Resolution
import Uplift.Proofs.Scan.Rules
import Uplift.Proofs.Scan.SearchRecipes
import Uplift.Proofs.Scan.Unlinked
import Uplift.Proofs.Scan.Walker
import Uplift.Proofs.Table.Csv
import Uplift.Proofs.Table.Files
import Uplift.Proofs.Table.Rows
import Uplift.Proofs.Text.Bytes
import Uplift.Proofs.Text.Digits
import Uplift.Proofs.Text.Lines
import Uplift.Proofs.Text.Trim
import Uplift.Proofs.Transform
import Uplift.Proofs.Value.Records
import Uplift.Proofs.Yaml.Layout
import Uplift.Proofs.Yaml.Tags
import Uplift.Proofs.Yaml.Values
import Uplift.Query
import Uplift.Recipe
import Uplift.Regex.Basic
import Uplift.Regex.Binary
import Uplift.Regex.Breaks
import Uplift.Regex.Class
import Uplift.Regex.Property
import Uplift.Regex.Reader
import Uplift.Report
import Uplift.Routing
import Uplift.Rpc.Client
import Uplift.Rpc.Frame
import Uplift.Rpc.Session
import Uplift.Rule
import Uplift.Scan.Dependencies
import Uplift.Scan.Error
import Uplift.Scan.FileSearch
import Uplift.Scan.RecipeSearch
import Uplift.Scan.Registry
import Uplift.Scan.Scanner
import Uplift.Scan.Service
import Uplift.Scan.Standard
import Uplift.Scan.SymbolSearch
import Uplift.Scan.Walker
import Uplift.SetupError
import Uplift.Shell.Eval
import Uplift.Shell.Format
import Uplift.Shell.Launch
import Uplift.Shell.Machine
import Uplift.Shell.Peer
import Uplift.Shell.Reader
import Uplift.Shell.Script
import Uplift.Shell.Sum
import Uplift.Shell.Token
import Uplift.Shell.Tool
import Uplift.Table.Csv
import Uplift.Table.Rows
import Uplift.Task
import Uplift.Text.Age
import Uplift.Text.Blank
import Uplift.Text.CaseFold
import Uplift.Text.Category
import Uplift.Text.Lines
import Uplift.Text.Script
import Uplift.Transform
import Uplift.Value.Basic
import Uplift.Value.Decode
import Uplift.Yaml.Lexer
import Uplift.Yaml.Node
import Uplift.Yaml.Plain
import Uplift.Yaml.Reader
import Uplift.Yaml.Scalar
import Uplift.Yaml.Scalars
import Uplift.Yaml.Token
import Uplift.Yaml.Writer
