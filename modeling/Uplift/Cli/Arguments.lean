import Uplift.Fault
/-! # Arguments of the command line

The command line names one command, options for all commands before or after it, and options of its
own. An option that is not given may come from the environment.

* `Invocation.parse` reads the arguments.
* `level`: the options up to the command, or up to the end.
-/

namespace Uplift.Cli

/-- The name of the program. -/
def programName : String := "mtool"

/-- The version of the program. -/
def version : String := "0.1.0"

/-- Variables of the environment. -/
abbrev Environment := List (String × String)

/-- An option. One without a value is true if it is given. -/
structure Opt where
  name : String
  short : Option Char := none
  env : Option String := none
  takesValue : Bool := true
  accepts : String → Bool := fun _ => true

/-- Why there is no command to run. -/
inductive Stop where
  | help
  | version (name : String)
  | misuse
deriving DecidableEq, Repr

/-- The options that are given, with their values. -/
abbrev Given := List (String × String)

/-- Adds an option, which must not be given twice. -/
def give (o : Opt) (value : String) (g : Given) : Except Stop Given :=
  if o.accepts value && (g.lookup o.name).isNone then .ok ((o.name, value) :: g) else .error .misuse

/-- Reads letters after one dash. The other result is an option whose value must follow. -/
def cluster (opts : List Opt) (owner : String) :
    Given → List Char → Except Stop (Given × Option Opt)
  | g, [] => .ok (g, none)
  | g, c :: rest =>
    match opts.find? (·.short = some c) with
    | none => .error (if c = 'h' then .help else if c = 'V' then .version owner else .misuse)
    | some o =>
      if !o.takesValue then do cluster opts owner (← give o "true" g) rest
      else match rest with
        | [] => .ok (g, some o)
        | '=' :: value => do .ok (← give o (String.ofList value) g, none)
        | value => do .ok (← give o (String.ofList value) g, none)

/-- Reads a name after two dashes. The other result is an option whose value must follow. -/
def long (opts : List Opt) (owner : String) (g : Given) (s : List Char) :
    Except Stop (Given × Option Opt) :=
  let (name, value) : List Char × Option (List Char) := match Text.splitOnce '=' s with
    | some (name, value) => (name, some value)
    | none => (s, none)
  match opts.find? (·.name = String.ofList name), value with
  | some o, some value =>
    if o.takesValue then do .ok (← give o (String.ofList value) g, none) else .error .misuse
  | some o, none => if o.takesValue then .ok (g, some o) else do .ok (← give o "true" g, none)
  | none, some _ => .error .misuse
  | none, none =>
    let name := String.ofList name
    .error (if name = "help" then .help else if name = "version" then .version owner else .misuse)

/-- An argument that can be the value of the option before it. -/
def isValue (arg : String) : Bool := !arg.startsWith "-" || arg = "-"

/-- Reads options up to a command or up to the end. -/
def level (opts : List Opt) (commands : List String) (owner : String) :
    Given → List String → Except Stop (Given × Option (String × List String))
  | g, [] => .ok (g, none)
  | g, arg :: rest =>
    if commands.contains arg then .ok (g, some (arg, rest))
    else if arg = "--" then if rest.isEmpty then .ok (g, none) else .error .misuse
    else
      let read := match arg.toList with
        | '-' :: '-' :: name => long opts owner g name
        | '-' :: c :: letters => cluster opts owner g (c :: letters)
        | _ => .error .misuse
      match read with
      | .error e => .error e
      | .ok (g, none) => level opts commands owner g rest
      -- An option that takes a value was the last thing in its argument.
      | .ok (g, some o) =>
        match rest with
        | [] => .error .misuse
        | value :: rest =>
          if isValue value then
            match give o value g with
            | .ok g => level opts commands owner g rest
            | .error e => .error e
          else .error .misuse

/-- Adds what the environment says about options that are not given. -/
def fromEnvironment (env : Environment) : List Opt → Given → Except Stop Given
  | [], g => .ok g
  | o :: rest, g =>
    match (if (g.lookup o.name).isSome then none else o.env.bind fun v => env.lookup v) with
    | none => fromEnvironment env rest g
    | some value =>
      if o.takesValue || value = "true" || value = "false" then do
        fromEnvironment env rest (← give o value g)
      else .error .misuse

/-- The options of all commands. -/
def commonOptions : List Opt :=
  [{ name := "path", short := some 'p', env := some "MTOOL_PATH" },
    { name := "rules", short := some 'r', env := some "MTOOL_RULES" },
    { name := "config", short := some 'c', env := some "MTOOL_CONFIG" },
    { name := "verbose", short := some 'v', takesValue := false },
    { name := "no-color", takesValue := false }]

/-- The options that select rules. -/
def selectionOptions : List Opt :=
  [{ name := "source", env := some "MTOOL_SOURCE" },
    { name := "target", env := some "MTOOL_TARGET" }]

/-- The options of scans. -/
def scanOptions : List Opt :=
  [{ name := "scanner", env := some "MTOOL_SCANNER"
     accepts := fun s => (ScannerKind.parse s).toOption.isSome },
    { name := "output", short := some 'o' }]

/-- The options of transformations. -/
def providerOptions : List Opt :=
  [{ name := "provider", env := some "MTOOL_PROVIDER"
     accepts := fun s => (ProviderKind.parse s).toOption.isSome },
    { name := "dry-run", env := some "MTOOL_DRY_RUN", takesValue := false }]

/-- Which rules are selected: those that lead from one technology to another, or all. -/
abbrev Selection := Option (String × String)

/-- What a scan is told. -/
structure ScanOptions where
  selection : Selection
  scanner : Option ScannerKind
  output : Option String
deriving DecidableEq, Repr

/-- What is to be done. -/
inductive Action where
  | scan (o : ScanOptions)
  | transform (o : ScanOptions) (provider : Option ProviderKind) (dryRun : Bool)
  | rules (selection : Selection)
deriving DecidableEq, Repr

/-- A command line. -/
structure Invocation where
  path : String
  rules : String
  config : Option String
  verbose : Bool
  action : Action
deriving DecidableEq, Repr

/-- The commands and the options of each. -/
def commands : List (String × List Opt) :=
  [("scan", selectionOptions ++ scanOptions),
    ("transform", selectionOptions ++ scanOptions ++ providerOptions),
    ("rules", selectionOptions)]

/-- The name of the command that shows how to use the others. -/
def helpCommand : String := "help"

namespace Invocation

/-- The selection; one technology cannot be given without the other. -/
def selection (g : Given) : Except Stop Selection :=
  match g.lookup "source", g.lookup "target" with
  | some s, some t => .ok (some (s, t))
  | none, none => .ok none
  | _, _ => .error .misuse

/-- What a scan is told. -/
def scanOf (g : Given) : Except Stop ScanOptions := do
  .ok ⟨← selection g, (g.lookup "scanner").bind fun s => (ScannerKind.parse s).toOption,
    g.lookup "output"⟩

/-- What a command is to do. -/
def actionOf (command : String) (g : Given) : Except Stop Action := do
  if command = "scan" then .ok (.scan (← scanOf g))
  else if command = "transform" then
    .ok (.transform (← scanOf g)
      ((g.lookup "provider").bind fun s => (ProviderKind.parse s).toOption)
      (g.lookup "dry-run" = some "true"))
  else .ok (.rules (← selection g))

/-- Reads the arguments. -/
def parse (env : Environment) (args : List String) : Except Stop Invocation := do
  let names := commands.map (·.1) ++ [helpCommand]
  match ← level commonOptions names programName [] args with
  | (_, none) => .error .misuse
  | (g, some (command, rest)) =>
    match commands.lookup command with
    | none =>
      match rest with
      | [] => .error .help
      | [name] => .error (if names.contains name then .help else .misuse)
      | _ => .error .misuse
    | some own =>
      let opts := own ++ commonOptions
      let (inner, _) ← level opts [] (programName ++ "-" ++ command) [] rest
      -- What is given after the command counts before what is given in front of it.
      let outer := g.filter fun (name, _) => (inner.lookup name).isNone
      let g ← fromEnvironment env opts (inner ++ outer)
      .ok
        { path := (g.lookup "path").getD "."
          rules := (g.lookup "rules").getD "rules"
          config := g.lookup "config"
          verbose := (g.lookup "verbose").isSome
          action := ← actionOf command g }

end Invocation

end Uplift.Cli
