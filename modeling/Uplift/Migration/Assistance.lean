import Uplift.Json.Printer
import Uplift.Migration.FileTools
import Uplift.Migration.Provider
/-! # Assistance

The tasks of a rule are given to an assistant one by one. In each, the assistant may call tools as
long as it likes, up to a limit, and then has the last word. What it does is kept in a log.

* `converse` is the conversation about one task.
* `runTasks` are the tasks of a rule; the licences of the file tools go from one to the next.
-/

namespace Uplift.Migration.Assistance

/-- What every assistant is told. -/
def toolRules : String :=
  "You can only change the project through the read_file and write_file tools. " ++
    "Paths are relative to the project root. Always call read_file on the exact path " ++
    "immediately before calling write_file on it, and write back the complete file contents. " ++
    "When the task is done, reply with a short summary of the changes."

/-- The first message of a conversation. -/
def systemText (prompt : String) : String :=
  let own := Text.trimmed prompt
  if own.isEmpty then toolRules else own ++ "\n\n" ++ toolRules

/-- The messages that a conversation begins with. -/
def opening (prompt task : String) : List Message :=
  [⟨.system, systemText prompt⟩, ⟨.user, task⟩]

/-- A conversation so far, the tools, and the log. -/
structure Talk where
  messages : List Message
  tools : FileTools
  log : List String

/-- The path that a call is about, for the log. -/
def pathText (arguments : Value) : String :=
  ((arguments.get? "path").bind Value.asStr?).getD "?"

/-- The message of a call. -/
def callMessage (name : String) (arguments : Value) : Message :=
  ⟨.assistant, Json.compact (.record [("tool_call",
    Value.sortKeys (.record [("name", .str name), ("arguments", arguments)]))])⟩

/-- The line of the log about a call, and what the assistant is told of it; an error that ends the
conversation has neither. -/
def report (name path : String) :
    Except ProviderError String → Except ProviderError (String × String)
  | .ok text => .ok (name ++ " " ++ path, text)
  | .error e =>
    if e.isRecoverable then
      .ok (name ++ " " ++ path ++ " rejected: " ++ e.message, "error: " ++ e.message)
    else .error e

/-- Carries out a call. -/
def Talk.carryOut (d : Talk) (name : String) (arguments : Value) (t : Files.Tree) :
    Except ProviderError Unit × Talk × Files.Tree :=
  let (result, tools, t) := d.tools.call name arguments t
  match report name (pathText arguments) result with
  | .error e => (.error e, { d with tools }, t)
  | .ok (line, told) =>
    let messages := d.messages ++ [callMessage name arguments, ⟨.tool, told⟩]
    (.ok (), { messages, tools, log := d.log ++ [line] }, t)

variable {σ : Type}

/-- Goes on with a conversation in which `left` calls may still be carried out. -/
def converse (o : Outside σ) (c : Context) : (left : Nat) → Talk → World σ →
    Except ProviderError String × Talk × World σ
  | left, d, w =>
    let (answer, tree, outside) := o.chat ⟨d.messages, FileTools.definitions⟩ w.tree w.outside
    match answer with
    | .error .stalled => (.error (.timeout "assistant" c.timeoutSecs []), d, { tree, outside })
    | .error (.failed e) => (.error e, d, { tree, outside })
    | .ok (.final content) => (.ok content, d, { tree, outside })
    | .ok (.toolCall name arguments) =>
      match left with
      | 0 => (.error (.assistant (.noFinalReply c.maxToolRounds)), d, { tree, outside })
      | left + 1 =>
        let (result, d, tree) := d.carryOut name arguments tree
        match result with
        | .error e => (.error e, d, { tree, outside })
        | .ok () => converse o c left d { tree, outside }

/-- Tasks under way: the tools, the log, and how many are done. -/
structure Progress where
  tools : FileTools
  log : List String := []
  completed : Nat := 0

/-- Gives tasks, each under its prompt, to the assistant until one fails. -/
def runTasks (o : Outside σ) (c : Context) : Progress → World σ → List (String × String) →
    Except ProviderError Unit × Progress × World σ
  | p, w, [] => (.ok (), p, w)
  | p, w, (prompt, task) :: rest =>
    let d : Talk := ⟨opening prompt task, p.tools, p.log ++ ["task: " ++ task]⟩
    let (result, d, w) := converse o c c.maxToolRounds d w
    match result with
    | .error e => (.error e, { p with tools := d.tools, log := d.log }, w)
    | .ok response =>
      runTasks o c ⟨d.tools, d.log ++ ["response: " ++ response], p.completed + 1⟩ w rest

/-- The tasks of a rule, each under its prompt. -/
def tasksOf (r : Rule) : List (String × String) :=
  r.instructions.ai.flatMap fun i => i.tasks.map fun task => (i.prompt, task)

/-- The provider of assistance. -/
def provider (o : Outside σ) : Provider σ where
  kind := .ai
  execute c r w :=
    let tasks := tasksOf r
    if tasks.isEmpty then (Outcome.failed ("no AI tasks defined for rule " ++ r.id) [], w)
    else if !o.console then (failure "AI provider requires an interactive console" [] .noConsole, w)
    else
      let (result, p, w) := runTasks o c { tools := ⟨c.projectRoot, []⟩ } w tasks
      match result with
      | .error e => (failure ("AI task failed for rule " ++ r.id) p.log e, w)
      | .ok () =>
        (Outcome.succeeded ("completed " ++ toString p.completed ++ " AI task(s)") p.log, w)

end Uplift.Migration.Assistance
