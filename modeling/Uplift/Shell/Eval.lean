import Uplift.Shell.Reader
import Uplift.Shell.Sum
import Uplift.Shell.Tool
/-! # Running scripts

* `eval` runs a script on a machine.
* `call` runs a program by its name, or the file of a path.

Both take fuel; a script without an end runs out of it, which counts as running out of time.
-/

namespace Uplift.Shell

/-- The number that the process of a machine is known by. -/
def processId : Nat := 4321

/-- The value of a parameter. -/
def parameter (m : Machine) (name : String) : String :=
  match name with
  | "#" => toString m.args.length
  | "?" => toString m.last
  | "$" => toString processId
  | "!" | "-" => ""
  | "@" | "*" => " ".intercalate m.args
  | "0" => m.name
  | "PWD" => m.dir
  | name =>
    match name.toNat? with
    | some n => (m.args[n - 1]?).getD ""
    | none => m.var name

/-- The fields that a word becomes, as far as it is expanded: those that are finished, backwards,
and the one at the end. -/
structure Fields where
  done : List String := []
  open' : Option (List Char) := none

namespace Fields

/-- Adds a text that is not cut. -/
def solid (f : Fields) (s : String) : Fields :=
  { f with open' := some (f.open'.getD [] ++ s.toList) }

/-- Ends the field at the end. -/
def finish (f : Fields) : Fields :=
  match f.open' with
  | some cs => ⟨String.ofList cs :: f.done, none⟩
  | none => f

/-- Adds a text that is cut at blanks. -/
def loose (f : Fields) (s : String) : Fields :=
  s.toList.foldl (fun f c =>
    if c = ' ' || c = '\t' || c = '\n' then f.finish
    else { f with open' := some (f.open'.getD [] ++ [c]) }) f

/-- Adds texts that are fields of their own. -/
def several (f : Fields) : List String → Fields
  | [] => f
  | s :: rest => rest.foldl (fun f s => f.finish.solid s) (f.solid s)

/-- The fields. -/
def toList (f : Fields) : List String := f.finish.done.reverse

end Fields

/-- A text has the form of a pattern: a star stands for any text, a question mark for any
character. -/
def hasForm : (pattern text : List Char) → Bool
  | [], text => text.isEmpty
  | '*' :: pattern, [] => hasForm pattern []
  | '*' :: pattern, c :: text => hasForm pattern (c :: text) || hasForm ('*' :: pattern) text
  | '?' :: pattern, _ :: text => hasForm pattern text
  | '\\' :: p :: pattern, c :: text => p = c && hasForm pattern text
  | p :: pattern, c :: text => p = c && hasForm pattern text
  | _ :: _, [] => false
termination_by pattern text => pattern.length + text.length

/-- Opens the streams of a redirection. -/
def openStream (fd : Nat) (sink : Sink) : Run Unit :=
  modify fun m =>
    if fd = 2 then { m with errTo := sink } else if fd = 1 then { m with outTo := sink } else m

/-- What a redirection to a file needs: the file, emptied unless output is appended. -/
def openFile (p : String) (append : Bool) : Run Bool := do
  let m ← get
  match m.sink p with
  | .file path =>
    let tree := if append && m.tree.isFile path then .ok m.tree else m.tree.writeBytes path []
    match tree with
    | .ok tree =>
      set { m with tree }
      pure true
    | .error e =>
      let cause := if e = .notFound then "Directory nonexistent" else causeText e
      complain (m.name ++ ": 1: cannot create " ++ p ++ ": " ++ cause)
      pure false
  | _ => pure true

/-- Runs a computation and gives how it stopped, if it stopped early. -/
def attempt (r : Run Nat) : Run (Except Halt Nat) := fun m =>
  let (result, m) := r m
  (.ok result, m)

/-- Runs a computation whose output is caught. What it does to the variables, the directory and the
streams is forgotten. -/
def caught (r : Run Nat) : Run (Except Halt Nat × List UInt8) := fun m =>
  let (result, after) := r { m with out := [], outTo := .out }
  (.ok (result, after.out.reverse),
    { after with
      out := m.out, outTo := m.outTo, errTo := m.errTo, dir := m.dir, vars := m.vars
      args := m.args, name := m.name })

/-- The status of a part of a script that ran on its own. -/
def settle : Except Halt Nat → Run Nat
  | .ok status => pure status
  | .error (.exit status) => pure status
  | .error .leave => pure 0
  | .error .again => pure 0
  | .error halt => throw halt

/-- Sets a status as that of the last command. -/
def record (status : Nat) : Run Nat := do
  modify fun m => { m with last := status }
  pure status

/-- The words after the marks that begin the first line of a script, if there are any. -/
def interpreter? (bytes : List UInt8) : Option (List String) := do
  let line ← Text.ofBytes? (bytes.takeWhile (· ≠ 10))
  let rest ← Text.strip? ['#', '!'] line.toList
  some ((((Text.trim rest).splitOn ' ').map String.ofList).filter (· ≠ ""))

/-- Why a program cannot be started. -/
inductive Refusal where
  | file (cause : Files.FileError)
  | noPermission
  | noFormat
  | hasNul
deriving DecidableEq, Repr

/-- The wording of a cause. -/
def Refusal.message : Refusal → String
  | file cause => cause.message
  | noPermission => "Permission denied (os error 13)"
  | noFormat => "Exec format error (os error 8)"
  | hasNul => "nul byte found in provided data"

/-- The shells. -/
def shells : List String := ["sh", "dash", "bash", "ash"]

/-- What a program is: a shell, a small program, or neither. -/
def isKnown (name : String) : Bool := shells.contains name || (tool? name).isSome

/-- The program and the arguments that a call comes down to, once the file of a path has led to its
interpreter. -/
def lookUp (m : Machine) (program : String) (args : List String) :
    Except Refusal (String × List String) :=
  if (program :: args).any fun s => s.toList.contains '\x00' then .error .hasNul
  else if !program.toList.contains '/' then
    if isKnown program then .ok (program, args) else .error (.file .notFound)
  else match m.tree.locate (m.path program) with
    | .error e => .error (.file e)
    | .ok place =>
      match m.tree.get? place with
      | some (.file content true) =>
        match interpreter? content with
        | some ("/usr/bin/env" :: words) =>
          match words with
          | name :: _ =>
            if isKnown name then .ok (name, program :: args) else .error (.file .notFound)
          | [] => .error .noFormat
        | some (path :: option) =>
          let name := (Files.fileName? path).getD ""
          if isKnown name then .ok (name, option ++ program :: args) else .error (.file .notFound)
        | _ => .error .noFormat
      | some _ => .error .noPermission
      | none =>
        let name := (Files.fileName? program).getD ""
        if ["/bin/", "/usr/bin/"].any (fun d => d ++ name = program) && isKnown name then
          .ok (name, args)
        else .error (.file .notFound)

/-- The signals that a process cannot outlive, and what may stand before them. -/
def isDeadly (args : List String) : Bool :=
  args.any fun a => a = toString processId

/-- The status that a word asks for: a number that a machine word with a sign can hold. -/
def status? (s : String) : Option Nat :=
  let digits := match s.toList with
    | '+' :: rest => rest
    | cs => cs
  if digits.isEmpty || !digits.all Char.isDigit then none
  else
    let n := digits.foldl (fun n c => 10 * n + (c.toNat - '0'.toNat)) 0
    if n < Nat.pow 2 31 then some n else none

mutual

/-- The fields of a word. -/
def expand : (fuel : Nat) → Word → Fields → Run Fields
  | 0, _, _ => throw .late
  | _, [], f => pure f
  | fuel + 1, p :: rest, f => do
    let f ← match p with
      | .text s quoted =>
        pure (if quoted || !s.isEmpty then f.solid s else f)
      | .param "@" none true => do pure (f.several (← get).args)
      | .param name fallback quoted => do
        let value := parameter (← get) name
        match fallback with
        | some source =>
          if value.isEmpty then
            let word := (doubleQuoted (source.length + 2) [] (source.toList ++ ['"'])).map (·.1)
            let inner ← expand fuel (word.getD []) {}
            let s := " ".intercalate inner.toList
            pure (if quoted then f.solid s else f.loose s)
          else pure (if quoted then f.solid value else f.loose value)
        | none => pure (if quoted then f.solid value else f.loose value)
      | .sum source quoted => do
        let word := (doubleQuoted (source.length + 2) [] (source.toList ++ ['"'])).map (·.1)
        let inner ← expand fuel (word.getD []) {}
        let m ← get
        match Sum.eval (parameter m) (" ".intercalate inner.toList) with
        | some n => pure (if quoted then f.solid (toString n) else f.loose (toString n))
        | none =>
          complain (m.name ++ ": 1: arithmetic expression: expecting primary: \"" ++ source ++ "\"")
          throw (.exit 2)
      | .output source quoted => do
        -- Line feeds at the end of what was written are left out, those before it are not.
        let (result, bytes) ← caught (script fuel source)
        let _ ← record (← settle result)
        let s := (Text.ofBytes? bytes).getD ""
        let s := String.ofList (s.toList.reverse.dropWhile (· = '\n')).reverse
        pure (if quoted then f.solid s else f.loose s)
    expand fuel rest f

/-- The fields of several words. -/
def expandAll : (fuel : Nat) → List Word → Run (List String)
  | 0, _ => throw .late
  | _, [] => pure []
  | fuel + 1, w :: rest => do
    let f ← expand fuel w {}
    let more ← expandAll fuel rest
    pure (f.toList ++ more)

/-- The text of a word, which is not cut. -/
def expandText : (fuel : Nat) → Word → Run String
  | 0, _ => throw .late
  | fuel + 1, w => do
    let f ← expand fuel (w.map fun
      | .text s _ => .text s true
      | .param name fallback _ => .param name fallback true
      | .sum s _ => .sum s true
      | .output s _ => .output s true) {}
    pure (" ".intercalate f.toList)

/-- Sets up redirections, and says whether all could be. -/
def redirect : (fuel : Nat) → List Redirect → Run Bool
  | 0, _ => throw .late
  | _, [] => pure true
  | fuel + 1, r :: rest => do
    let done ← match r with
      | .read target => do
        let p ← expandText fuel target
        let m ← get
        match m.content p with
        | .ok bytes =>
          set { m with input := bytes, ended := true }
          pure true
        | .error e =>
          let cause := if e = .notFound then "No such file" else causeText e
          complain (m.name ++ ": 1: cannot open " ++ p ++ ": " ++ cause)
          pure false
      | .write fd target append => do
        let p ← expandText fuel target
        if ← openFile p append then
          openStream fd ((← get).sink p)
          pure true
        else pure false
      | .copy fd source => do
        let m ← get
        openStream fd (if source = 2 then m.errTo else m.outTo)
        pure true
      | .close fd => do
        if fd = 0 then modify fun m => { m with input := [], ended := true }
        else openStream fd .closed
        pure true
    if done then redirect fuel rest else pure false

/-- Runs a computation under redirections, which are taken back afterwards. -/
def under : (fuel : Nat) → List Redirect → Run Nat → Run Nat
  | 0, _, _ => throw .late
  | fuel + 1, rs, body => do
    let before ← get
    let reads := rs.any fun
      | .read _ => true
      | .close 0 => true
      | _ => false
    let result ← attempt (do if ← redirect fuel rs then body else pure 2)
    -- Input that the body did not redirect was read by it and is gone.
    modify fun m =>
      let m := { m with outTo := before.outTo, errTo := before.errTo }
      if reads then { m with input := before.input, ended := before.ended } else m
    ExceptT.mk (pure result)

/-- Runs a command of a script: one of its own, or a program. -/
def command : (fuel : Nat) → String → List String → Run Nat
  | 0, _, _ => throw .late
  | fuel + 1, name, args => do
    let m ← get
    match name with
    | ":" => pure 0
    | "echo" => echo true args
    | "exit" | "return" =>
      match args with
      | [] => throw (.exit m.last)
      | s :: _ =>
        match status? s with
        | some n => throw (.exit (n % 256))
        | none =>
          complain (m.name ++ ": 1: " ++ name ++ ": Illegal number: " ++ s)
          throw (.exit 2)
    | "break" => throw .leave
    | "continue" => throw .again
    | "cd" =>
      let target := m.path (args.headD m.dir)
      match m.tree.locate target with
      | .ok place =>
        if m.tree.isDir target then
          set { m with dir := Files.Tree.pathOf place }
          pure 0
        else failWith 2 (m.name ++ ": 1: cd: can't cd to " ++ args.headD "")
      | .error _ => failWith 2 (m.name ++ ": 1: cd: can't cd to " ++ args.headD "")
    | "export" | "readonly" | "local" =>
      modify fun m => args.foldl (fun m a =>
        match Text.splitOnce '=' a.toList with
        | some (n, v) => m.set (String.ofList n) (String.ofList v)
        | none => m) m
      pure 0
    | "unset" =>
      modify fun m => { m with vars := m.vars.filter fun (n, _) => !args.contains n }
      pure 0
    | "set" =>
      match args with
      | "--" :: rest => modify fun m => { m with args := rest }
      | _ => pure ()
      pure 0
    | "shift" =>
      modify fun m => { m with args := m.args.drop ((args.head?.bind String.toNat?).getD 1) }
      pure 0
    | "trap" | "umask" | "wait" => pure 0
    | "eval" => script fuel (" ".intercalate args)
    | "kill" => if isDeadly args && !args.contains "-0" then throw .killed else pure 0
    | "read" =>
      let names := args.filter fun a => !a.startsWith "-"
      let (bytes, whole) ← takeLine
      let line := (Text.ofBytes? bytes).getD ""
      let fields := ((({} : Fields).loose line).toList)
      let count := names.length
      -- The last variable takes all the fields that are left.
      modify fun m => (List.range count).foldl (fun m i =>
        m.set (names[i]?.getD "") (if i + 1 = count then
          (if count = 1 then String.ofList (Text.trim line.toList)
            else " ".intercalate (fields.drop i))
          else fields[i]?.getD "")) m
      pure (if whole then 0 else 1)
    | "exec" =>
      match args with
      | program :: rest => do
        let status ← command fuel program rest
        throw (.exit status)
      | [] => pure 0
    | "command" =>
      match args with
      | program :: rest => command fuel program rest
      | [] => pure 0
    | _ =>
      match lookUp m name args with
      | .error (.file .notFound) => failWith 127 (m.name ++ ": 1: " ++ name ++ ": not found")
      | .error .noPermission => failWith 126 (m.name ++ ": 1: " ++ name ++ ": Permission denied")
      -- A file without a first line that names its program is a script.
      | .error .noFormat =>
        match m.content name with
        | .ok bytes => inner fuel name args ((Text.ofBytes? bytes).getD "")
        | .error _ => pure 127
      | .error r => failWith 127 (m.name ++ ": 1: " ++ name ++ ": " ++ r.message)
      | .ok (program, args) => if (tool? program).isSome && program = name then
          ((tool? program).map (· args)).getD (pure 0) else call fuel program args

/-- Runs a known program. -/
def call : (fuel : Nat) → String → List String → Run Nat
  | 0, _, _ => throw .late
  | fuel + 1, program, args =>
    if shells.contains program then
      match args with
      | [] => do
        let bytes ← allInput
        inner fuel program [] ((Text.ofBytes? bytes).getD "")
      | first :: rest =>
        if first.startsWith "-" then
          if first.toList.contains 'c' then
            match rest with
            | source :: rest =>
              inner fuel (rest.headD program) rest.tail source
            | [] => failWith 2 (program ++ ": 0: -c requires an argument")
          else call fuel program rest
        else do
          match (← get).content first with
          | .ok bytes => inner fuel first rest ((Text.ofBytes? bytes).getD "")
          | .error _ => failWith 2 (program ++ ": 0: cannot open " ++ first ++ ": No such file")
    else match tool? program with
      | some run => run args
      | none => pure 127

/-- Runs a script as a program of its own. -/
def inner : (fuel : Nat) → (name : String) → (args : List String) → String → Run Nat
  | 0, _, _, _ => throw .late
  | fuel + 1, name, args, source => do
    let before ← get
    set { before with name, args, vars := [] }
    let result ← attempt (script fuel source)
    modify fun m =>
      { m with
        name := before.name, args := before.args, vars := before.vars, dir := before.dir
        outTo := before.outTo, errTo := before.errTo }
    settle result

/-- Runs the text of a script. -/
def script : (fuel : Nat) → String → Run Nat
  | 0, _ => throw .late
  | fuel + 1, source =>
    match Script.parse? source with
    | some c => eval fuel c
    | none => do
      complain ((← get).name ++ ": 1: Syntax error")
      throw (.exit 2)

/-- Runs a body for each of several values. -/
def round : (fuel : Nat) → String → Script → List String → Run Nat
  | 0, _, _, _ => throw .late
  | _, _, _, [] => pure 0
  | fuel + 1, name, body, value :: rest => do
    modify fun m => m.set name value
    match ← attempt (eval fuel body) with
    | .error .leave => pure 0
    | .error .again => round fuel name body rest
    | .error halt => throw halt
    | .ok status => if rest.isEmpty then pure status else round fuel name body rest

/-- A value has the form of one of some patterns. -/
def isOneOf : (fuel : Nat) → String → List Word → Run Bool
  | 0, _, _ => throw .late
  | _, _, [] => pure false
  | fuel + 1, value, w :: rest => do
    let pattern ← expandText fuel (w.map fun
      | .text s true => .text (String.ofList (s.toList.flatMap fun c => ['\\', c])) true
      | p => p)
    if hasForm pattern.toList value.toList then pure true else isOneOf fuel value rest

/-- Runs a script. -/
def eval : (fuel : Nat) → Script → Run Nat
  | 0, _ => throw .late
  | fuel + 1, c =>
    match c with
    | .skip => pure 0
    | .simple assigned words rs => do
      let fields ← expandAll fuel words
      let before := (← get).vars
      assign fuel assigned
      match fields with
      | [] =>
        let status ← under fuel rs (pure 0)
        record status
      -- Without a program, the redirections stay.
      | ["exec"] =>
        let opened ← redirect fuel rs
        if opened then record 0 else throw (.exit 2)
      | name :: args => do
        let result ← attempt (under fuel rs (command fuel name args))
        -- Variables that are set before a command are set for it alone.
        if !assigned.isEmpty then modify fun m => { m with vars := before }
        record (← ExceptT.mk (pure result))
    | .seq first next => do
      let _ ← eval fuel first
      eval fuel next
    | .both first next => do
      let status ← eval fuel first
      if status = 0 then eval fuel next else pure status
    | .either first next => do
      let status ← eval fuel first
      if status = 0 then pure status else eval fuel next
    | .negate body => do
      let status ← eval fuel body
      record (if status = 0 then 1 else 0)
    | .pipe first next => do
      let (firstResult, bytes) ← caught (eval fuel first)
      let before ← get
      let waiting := match firstResult with
        | .error .waiting => true
        | _ => false
      -- The input of the second part has not ended while the first one waits.
      set { before with input := bytes, ended := !waiting }
      let (nextResult, written) ← caught (eval fuel next)
      modify fun m => { m with input := before.input, ended := before.ended }
      let _ ← say written
      match firstResult with
      | .error .waiting => throw .waiting
      | .error .killed => throw .killed
      | .error .late => throw .late
      | _ => record (← settle nextResult)
    | .group body rs => under fuel rs (eval fuel body)
    | .inside body rs => do
      let before ← get
      let result ← attempt (under fuel rs (eval fuel body))
      -- A process of its own: what it does to the file tree stays, the rest does not.
      modify fun m => { m with vars := before.vars, dir := before.dir, args := before.args }
      record (← settle result)
    | .choose test yes no => do
      let status ← eval fuel test
      if status = 0 then eval fuel yes else eval fuel no
    | .loop whileTrue test body => do
      let status ← eval fuel test
      if (status = 0) = whileTrue then
        match ← attempt (eval fuel body) with
        | .error .leave => pure 0
        | .error .again => eval fuel c
        | .error halt => throw halt
        | .ok _ => eval fuel c
      else pure 0
    | .each name words body => do
      let values ← expandAll fuel words
      round fuel name body values
    | .pick w patterns yes no => do
      let value ← expandText fuel w
      if ← isOneOf fuel value patterns then eval fuel yes else eval fuel no

/-- Sets variables. -/
def assign : (fuel : Nat) → List (String × Word) → Run Unit
  | 0, _ => throw .late
  | _, [] => pure ()
  | fuel + 1, (name, w) :: rest => do
    let value ← expandText fuel w
    modify fun m => m.set name value
    assign fuel rest

end

/-- More than enough for every script that comes to an end soon. -/
def fuel : Nat := 20000

end Uplift.Shell
