import Uplift.Proofs.Migration.DryRun

/-!
# What an assistant is asked, and what the log says

A conversation is told apart into the calls that were carried out and the way it ended.

* `Talks`: an assistant, asked with given messages, has given calls carried out and ends in a given
  way. Nothing is said about limits here; `Within` is what a limit adds, and there is a conversation
  under every limit (`exists_talks`).
* `Outside.recorded`: the same programs, and a list of all that the assistant is asked.
* `converse_talks`, `runTasks_runs`: the loop and the sequence of tasks run such conversations.
* `execute_transcript`: what is asked in the tasks of a rule, what the log says, and what comes of
  it.
-/

namespace Uplift.Migration.Assistance

open FileTools

variable {σ : Type} {o : Outside σ} {c : Context}

/-! ## Calls and endings -/

/-- A tool call that was carried out, and what came of it. -/
structure Call where
  name : String
  arguments : Value
  result : Except ProviderError String

namespace Call

/-- What the assistant is told about the call. -/
def told (k : Call) : String :=
  match k.result with
  | .ok text => text
  | .error e => "error: " ++ e.message

/-- The two messages that the call adds to the conversation: what the assistant asked for, and what
came of it. -/
def messages (k : Call) : List Message :=
  let request : Value := .record [("arguments", Value.sortKeys k.arguments), ("name", .str k.name)]
  [⟨.assistant, Json.compact (.record [("tool_call", request)])⟩, ⟨.tool, k.told⟩]

/-- The path that the call is about, as far as it names one. -/
def path (k : Call) : String :=
  ((k.arguments.get? "path").bind Value.asStr?).getD "?"

/-- The line of the log about the call. -/
def line (k : Call) : String :=
  match k.result with
  | .ok _ => k.name ++ " " ++ k.path
  | .error e => k.name ++ " " ++ k.path ++ " rejected: " ++ e.message

theorem messages_eq (k : Call) :
    k.messages = [callMessage k.name k.arguments, ⟨.tool, k.told⟩] := by
  have other : "arguments" ≠ "name" := by decide
  have before : "arguments" < "name" := by decide
  have sorted : Value.sortKeys (.record [("name", .str k.name), ("arguments", k.arguments)]) =
      .record [("arguments", Value.sortKeys k.arguments), ("name", .str k.name)] := by
    simp only [Value.record, List.map, Value.sortKeys, Value.sortKeysEntries, Value.sortEntries,
      List.foldl, Value.insertSorted, other, before, if_true, if_false]
  rw [callMessage, sorted, messages]

theorem path_eq (k : Call) : k.path = pathText k.arguments := rfl

end Call

/-- How a conversation ends: with the last word of the assistant, without a reply, or with a call
that is not carried out any more. -/
inductive Ending where
  | final (content : String)
  | silent (failure : ChatFailure)
  | cutOff (name : String) (arguments : Value)

/-- What comes of a conversation that ends so. -/
def Ending.result (c : Context) : Ending → Except ProviderError String
  | final content => .ok content
  | silent .stalled => .error (.timeout "assistant" c.timeoutSecs [])
  | silent (.failed e) => .error e
  | cutOff _ _ => .error (.assistant (.noFinalReply c.maxToolRounds))

/-- The request after the first `k` of some calls. -/
def requestAfter (messages : List Message) (calls : List Call) (k : Nat) : ChatRequest :=
  ⟨messages ++ (calls.take k).flatMap Call.messages, definitions⟩

/-- The request at the beginning, and the one after each call. -/
def requestsFrom (messages : List Message) (calls : List Call) : List ChatRequest :=
  (List.range (calls.length + 1)).map (requestAfter messages calls)

/-- The conversation about a task. -/
structure Conversation where
  prompt : String
  task : String
  calls : List Call
  ending : Ending

namespace Conversation

/-- What the assistant is told about its tools. -/
def rules : String :=
  "You can only change the project through the read_file and write_file tools. " ++
    "Paths are relative to the project root. Always call read_file on the exact path " ++
    "immediately before calling write_file on it, and write back the complete file contents. " ++
    "When the task is done, reply with a short summary of the changes."

/-- The messages that the conversation begins with: the prompt, unless it is blank, with the rules
after it, and the task. -/
def beginning (prompt task : String) : List Message :=
  let own := Text.trimmed prompt
  [⟨.system, if own = "" then rules else own ++ "\n\n" ++ rules⟩, ⟨.user, task⟩]

theorem opening_eq (prompt task : String) : opening prompt task = beginning prompt task := by
  have same : toolRules = rules := rfl
  simp only [opening, systemText, beginning, same, String.isEmpty_iff]

/-- What the assistant is asked. -/
def requests (v : Conversation) : List ChatRequest :=
  requestsFrom (beginning v.prompt v.task) v.calls

/-- The lines of the log about the task. -/
def lines (v : Conversation) : List String :=
  ("task: " ++ v.task) :: v.calls.map Call.line ++
    match v.ending with
    | .final content => ["response: " ++ content]
    | _ => []

/-- The error in which the conversation ends. -/
def error? (c : Context) (v : Conversation) : Option ProviderError :=
  match v.ending.result c with
  | .ok _ => none
  | .error e => some e

end Conversation

/-! ## Conversations without a limit -/

/-- The tools, and what providers read and change. -/
structure Scene (σ : Type) where
  tools : FileTools
  world : World σ

/-- Carries a call out. -/
def Scene.call (s : Scene σ) (name : String) (arguments : Value) :
    Except ProviderError String × Scene σ :=
  let (result, tools, tree) := s.tools.call name arguments s.world.tree
  (result, ⟨tools, { s.world with tree }⟩)

/-- Asks the assistant. -/
def ask (o : Outside σ) (messages : List Message) (s : Scene σ) :
    Except ChatFailure Reply × Scene σ :=
  let (answer, tree, outside) := o.chat ⟨messages, definitions⟩ s.world.tree s.world.outside
  (answer, { s with world := { tree, outside } })

/-- The assistant, asked with these messages, has these calls carried out and ends so. Whatever
comes of a call, the assistant is told and asked again. -/
inductive Talks (o : Outside σ) :
    List Message → Scene σ → List Call → Ending → Scene σ → Prop where
  | final {messages s content s'} (asked : ask o messages s = (.ok (.final content), s')) :
      Talks o messages s [] (.final content) s'
  | silent {messages s failure s'} (asked : ask o messages s = (.error failure, s')) :
      Talks o messages s [] (.silent failure) s'
  | cutOff {messages s name arguments s'}
      (asked : ask o messages s = (.ok (.toolCall name arguments), s')) :
      Talks o messages s [] (.cutOff name arguments) s'
  | call {messages s name arguments s₁ result s₂ calls ending s'}
      (asked : ask o messages s = (.ok (.toolCall name arguments), s₁))
      (called : s₁.call name arguments = (result, s₂))
      (rest : Talks o (messages ++ (Call.mk name arguments result).messages) s₂ calls ending s') :
      Talks o messages s (⟨name, arguments, result⟩ :: calls) ending s'

/-- No more calls than the limit are carried out, and a call is left out only at the limit. -/
structure Within (limit : Nat) (calls : List Call) (ending : Ending) : Prop where
  bound : calls.length ≤ limit
  full : ∀ name arguments, ending = .cutOff name arguments → calls.length = limit

/-- One call more, one call to be carried out less. -/
theorem within_cons_iff {limit : Nat} {k : Call} {calls : List Call} {ending : Ending} :
    Within (limit + 1) (k :: calls) ending ↔ Within limit calls ending := by
  constructor
  · rintro ⟨bound, full⟩
    exact ⟨Nat.le_of_succ_le_succ bound, fun name arguments same =>
      Nat.succ.inj (full name arguments same)⟩
  · rintro ⟨bound, full⟩
    exact ⟨Nat.succ_le_succ bound, fun name arguments same =>
      congrArg Nat.succ (full name arguments same)⟩

/-- Under every limit there is a conversation. -/
theorem exists_talks (o : Outside σ) (limit : Nat) (messages : List Message) (s : Scene σ) :
    ∃ calls ending s', Within limit calls ending ∧ Talks o messages s calls ending s' := by
  induction limit generalizing messages s with
  | zero =>
    rcases asked : ask o messages s with ⟨failure | (⟨name, arguments⟩ | content), s'⟩
    · exact ⟨[], .silent failure, s', ⟨Nat.le_refl _, by simp⟩, .silent asked⟩
    · exact ⟨[], .cutOff name arguments, s', ⟨Nat.le_refl _, fun _ _ _ => rfl⟩, .cutOff asked⟩
    · exact ⟨[], .final content, s', ⟨Nat.le_refl _, by simp⟩, .final asked⟩
  | succ limit ih =>
    rcases asked : ask o messages s with ⟨failure | (⟨name, arguments⟩ | content), s₁⟩
    · exact ⟨[], .silent failure, s₁, ⟨Nat.zero_le _, by simp⟩, .silent asked⟩
    · rcases called : s₁.call name arguments with ⟨result, s₂⟩
      obtain ⟨calls, ending, s', within, rest⟩ :=
        ih (messages ++ (Call.mk name arguments result).messages) s₂
      exact ⟨_, ending, s', within_cons_iff.mpr within, .call asked called rest⟩
    · exact ⟨[], .final content, s₁, ⟨Nat.zero_le _, by simp⟩, .final asked⟩

/-- Within a limit there is one conversation only. -/
theorem Talks.unique {limit : Nat} {messages : List Message} {s s₁ s₂ : Scene σ}
    {calls calls₂ : List Call} {ending ending₂ : Ending}
    (first : Talks o messages s calls ending s₁) (within : Within limit calls ending)
    (second : Talks o messages s calls₂ ending₂ s₂) (within₂ : Within limit calls₂ ending₂) :
    calls = calls₂ ∧ ending = ending₂ ∧ s₁ = s₂ := by
  induction first generalizing limit calls₂ ending₂ s₂ with
  | final asked | silent asked =>
    cases second with
    | final asked₂ | silent asked₂ | cutOff asked₂ | call asked₂ =>
      cases asked.symm.trans asked₂
      try exact ⟨rfl, rfl, rfl⟩
  | cutOff asked =>
    obtain rfl : 0 = limit := within.full _ _ rfl
    cases second with
    | final asked₂ | silent asked₂ => cases asked.symm.trans asked₂
    | cutOff asked₂ =>
      cases asked.symm.trans asked₂
      exact ⟨rfl, rfl, rfl⟩
    | call => cases within₂.bound
  | call asked called rest ih =>
    cases limit with
    | zero => cases within.bound
    | succ limit =>
      cases second with
      | final asked₂ | silent asked₂ => cases asked.symm.trans asked₂
      | cutOff => cases within₂.full _ _ rfl
      | call asked₂ called₂ rest₂ =>
        cases asked.symm.trans asked₂
        cases called.symm.trans called₂
        obtain ⟨rfl, rfl, rfl⟩ :=
          ih (within_cons_iff.mp within) rest₂ (within_cons_iff.mp within₂)
        exact ⟨rfl, rfl, rfl⟩

/-! ## Recording -/

/-- The world without what was recorded. -/
def Scene.unrecorded {α : Type} (s : Scene (σ × α)) : Scene σ :=
  ⟨s.tools, ⟨s.world.tree, s.world.outside.1⟩⟩

/-- What was recorded. -/
def Scene.record {α : Type} (s : Scene (σ × α)) : α := s.world.outside.2

end Uplift.Migration.Assistance

namespace Uplift.Migration

/-- The same programs, and a list of all that the assistant is asked. -/
def Outside.recorded {σ : Type} (o : Outside σ) : Outside (σ × List ChatRequest) where
  run command tree outside :=
    let (result, tree, kept) := o.run command tree outside.1
    (result, tree, (kept, outside.2))
  chat request tree outside :=
    let (answer, tree, kept) := o.chat request tree outside.1
    (answer, tree, (kept, outside.2 ++ [request]))
  console := o.console

end Uplift.Migration

namespace Uplift.Migration.Assistance

open FileTools

variable {σ : Type} {o : Outside σ} {c : Context}

theorem ask_recorded {messages : List Message} {s s' : Scene (σ × List ChatRequest)}
    {answer : Except ChatFailure Reply} (asked : ask o.recorded messages s = (answer, s')) :
    ask o messages s.unrecorded = (answer, s'.unrecorded) ∧
      s'.record = s.record ++ [⟨messages, definitions⟩] := by
  cases asked
  exact ⟨rfl, rfl⟩

theorem call_recorded {α : Type} {s s' : Scene (σ × α)} {name : String} {arguments : Value}
    {result : Except ProviderError String} (called : s.call name arguments = (result, s')) :
    s.unrecorded.call name arguments = (result, s'.unrecorded) ∧ s'.record = s.record := by
  cases called
  exact ⟨rfl, rfl⟩

theorem requestsFrom_nil (messages : List Message) :
    requestsFrom messages [] = [⟨messages, definitions⟩] := by
  simp [requestsFrom, requestAfter]

theorem requestsFrom_cons (messages : List Message) (k : Call) (calls : List Call) :
    requestsFrom messages (k :: calls) =
      ⟨messages, definitions⟩ :: requestsFrom (messages ++ k.messages) calls := by
  simp only [requestsFrom, List.length_cons]
  rw [List.range_succ_eq_map, List.map_cons, List.map_map]
  congr 1
  · simp [requestAfter]
  · refine List.map_congr_left fun n _ => ?_
    simp [requestAfter]

/-- Recording changes nothing, and the record is one request at the beginning and one after each
call. -/
theorem Talks.recorded {messages : List Message} {s s' : Scene (σ × List ChatRequest)}
    {calls : List Call} {ending : Ending} (talks : Talks o.recorded messages s calls ending s') :
    Talks o messages s.unrecorded calls ending s'.unrecorded ∧
      s'.record = s.record ++ requestsFrom messages calls := by
  induction talks with
  | final asked =>
    obtain ⟨same, record⟩ := ask_recorded asked
    exact ⟨.final same, by rw [record, requestsFrom_nil]⟩
  | silent asked =>
    obtain ⟨same, record⟩ := ask_recorded asked
    exact ⟨.silent same, by rw [record, requestsFrom_nil]⟩
  | cutOff asked =>
    obtain ⟨same, record⟩ := ask_recorded asked
    exact ⟨.cutOff same, by rw [record, requestsFrom_nil]⟩
  | call asked called rest ih =>
    obtain ⟨same, record⟩ := ask_recorded asked
    obtain ⟨sameCall, kept⟩ := call_recorded called
    refine ⟨.call same sameCall ih.1, ?_⟩
    rw [ih.2, kept, record, requestsFrom_cons, List.append_assoc, List.singleton_append]

/-! ## The loop -/

theorem chat_of_ask {messages : List Message} {s s' : Scene σ}
    {answer : Except ChatFailure Reply} (asked : ask o messages s = (answer, s')) :
    o.chat ⟨messages, definitions⟩ s.world.tree s.world.outside =
      (answer, s'.world.tree, s'.world.outside) ∧ s'.tools = s.tools := by
  cases asked
  exact ⟨rfl, rfl⟩

/-- A call adds its two messages and its line, and never ends the conversation. -/
theorem carryOut_call {d : Talk} {name : String} {arguments : Value} {s s' : Scene σ}
    {result : Except ProviderError String} (tools : d.tools = s.tools)
    (called : s.call name arguments = (result, s')) :
    d.carryOut name arguments s.world.tree = (.ok (),
      ⟨d.messages ++ (Call.mk name arguments result).messages, s'.tools,
        d.log ++ [(Call.mk name arguments result).line]⟩, s'.world.tree) ∧
      s'.world.outside = s.world.outside := by
  have performs := perform_performs d.tools s.world.tree (.call name arguments)
  rcases used : d.tools.call name arguments s.world.tree with ⟨result', tools', tree⟩
  simp only [Scene.call, ← tools, used] at called
  cases called
  simp only [perform, used] at performs
  cases result with
  | error e =>
    have survived : e.isRecoverable := performs.recoverable rfl
    simp [Talk.carryOut, used, report, survived, Call.messages_eq, Call.path_eq, Call.told,
      Call.line]
  | ok text =>
    simp [Talk.carryOut, used, report, Call.messages_eq, Call.path_eq, Call.told, Call.line]

/-- The loop runs the conversation that its limit allows: the result is that of the ending, and the
log has one line for each call. -/
theorem converse_talks {messages : List Message} {s s' : Scene σ} {calls : List Call}
    {ending : Ending} (talks : Talks o messages s calls ending s') {limit : Nat}
    (within : Within limit calls ending) (log : List String) :
    converse o c limit ⟨messages, s.tools, log⟩ s.world =
      (ending.result c, ⟨messages ++ calls.flatMap Call.messages, s'.tools,
        log ++ calls.map Call.line⟩, s'.world) := by
  induction talks generalizing limit log with
  | final asked =>
    obtain ⟨chat, kept⟩ := chat_of_ask asked
    rw [converse]
    simp [chat, kept, Ending.result]
  | @silent _ _ failure _ asked =>
    obtain ⟨chat, kept⟩ := chat_of_ask asked
    rw [converse]
    cases failure <;> simp [chat, kept, Ending.result]
  | cutOff asked =>
    obtain ⟨chat, kept⟩ := chat_of_ask asked
    obtain rfl : 0 = limit := within.full _ _ rfl
    rw [converse]
    simp [chat, kept, Ending.result]
  | @call messages s name arguments s₁ result s₂ calls ending s' asked called rest ih =>
    obtain ⟨chat, kept⟩ := chat_of_ask asked
    cases limit with
    | zero => cases within.bound
    | succ limit =>
      obtain ⟨carried, sameOutside⟩ :=
        carryOut_call (d := ⟨messages, s.tools, log⟩) kept.symm called
      have goesOn := ih (within_cons_iff.mp within) (log ++ [(Call.mk name arguments result).line])
      rw [converse]
      simp only [chat, carried, ← sameOutside]
      rw [goesOn]
      simp [List.append_assoc]

/-- A conversation has the last word of the assistant as its result if and only if the assistant
gives it within the limit. -/
theorem converse_ok_iff {messages : List Message} {s : Scene σ} {log : List String} {limit : Nat}
    {content : String} :
    (converse o c limit ⟨messages, s.tools, log⟩ s.world).1 = .ok content ↔
      ∃ calls s', calls.length ≤ limit ∧ Talks o messages s calls (.final content) s' := by
  constructor
  · intro replied
    obtain ⟨calls, ending, s', within, talks⟩ := exists_talks o limit messages s
    rw [converse_talks talks within log] at replied
    cases ending with
    | final other =>
      obtain rfl := Except.ok.inj replied
      exact ⟨calls, s', within.bound, talks⟩
    | silent failure => cases failure <;> cases replied
    | cutOff => cases replied
  · rintro ⟨calls, s', bound, talks⟩
    rw [converse_talks talks ⟨bound, by simp⟩ log]
    rfl

/-! ## The tasks of a rule -/

/-- Tasks, each under its prompt, are given to the assistant one after the other, up to the first
conversation that does not end with its last word. -/
inductive Runs (o : Outside σ) (limit : Nat) :
    List (String × String) → Scene σ → List Conversation → Scene σ → Prop where
  | nil {s} : Runs o limit [] s [] s
  | stopped {prompt task rest s calls ending s'} (within : Within limit calls ending)
      (talks : Talks o (Conversation.beginning prompt task) s calls ending s')
      (failed : ∀ content, ending ≠ .final content) :
      Runs o limit ((prompt, task) :: rest) s [⟨prompt, task, calls, ending⟩] s'
  | done {prompt task rest s calls content s₁ runs s'} (bound : calls.length ≤ limit)
      (talks : Talks o (Conversation.beginning prompt task) s calls (.final content) s₁)
      (others : Runs o limit rest s₁ runs s') :
      Runs o limit ((prompt, task) :: rest) s (⟨prompt, task, calls, .final content⟩ :: runs) s'

/-- All tasks can be given to an assistant. -/
theorem exists_runs (o : Outside σ) (limit : Nat) (tasks : List (String × String)) (s : Scene σ) :
    ∃ runs s', Runs o limit tasks s runs s' := by
  induction tasks generalizing s with
  | nil => exact ⟨[], s, .nil⟩
  | cons entry rest ih =>
    obtain ⟨prompt, task⟩ := entry
    obtain ⟨calls, ending, s₁, within, talks⟩ :=
      exists_talks o limit (Conversation.beginning prompt task) s
    cases ending with
    | final content =>
      obtain ⟨runs, s', others⟩ := ih s₁
      exact ⟨_, s', .done within.bound talks others⟩
    | silent failure => exact ⟨_, s₁, .stopped within talks (by simp)⟩
    | cutOff name arguments => exact ⟨_, s₁, .stopped within talks (by simp)⟩

/-- There is one sequence of conversations about some tasks only. -/
theorem Runs.unique {limit : Nat} {tasks : List (String × String)} {runs runs₂ : List Conversation}
    {s s₁ s₂ : Scene σ} (first : Runs o limit tasks s runs s₁)
    (second : Runs o limit tasks s runs₂ s₂) : runs = runs₂ ∧ s₁ = s₂ := by
  induction first generalizing runs₂ s₂ with
  | nil =>
    cases second
    exact ⟨rfl, rfl⟩
  | stopped within talks failed =>
    cases second with
    | stopped within₂ talks₂ =>
      obtain ⟨rfl, rfl, rfl⟩ := talks.unique within talks₂ within₂
      exact ⟨rfl, rfl⟩
    | @done _ _ _ _ _ content _ _ _ bound₂ talks₂ =>
      obtain ⟨-, same, -⟩ := talks.unique within talks₂ ⟨bound₂, by simp⟩
      exact absurd same (failed content)
  | @done _ _ _ _ _ content _ _ _ bound talks others ih =>
    cases second with
    | stopped within₂ talks₂ failed₂ =>
      obtain ⟨-, same, -⟩ := talks.unique ⟨bound, by simp⟩ talks₂ within₂
      exact absurd same.symm (failed₂ content)
    | done bound₂ talks₂ others₂ =>
      obtain ⟨rfl, same, rfl⟩ := talks.unique ⟨bound, by simp⟩ talks₂ ⟨bound₂, by simp⟩
      cases same
      obtain ⟨rfl, rfl⟩ := ih others₂
      exact ⟨rfl, rfl⟩

section Runs

variable {limit : Nat} {tasks : List (String × String)} {runs : List Conversation}

/-- The tasks that are started are the first ones, in order, each with a conversation within the
limit, and only the last of these conversations may end without the last word. -/
theorem Runs.course {s s' : Scene σ} (course : Runs o limit tasks s runs s') :
    (runs.map fun v => (v.prompt, v.task)) <+: tasks ∧
      (∀ v ∈ runs, Within limit v.calls v.ending) ∧
      (∀ v ∈ runs.dropLast, ∃ content, v.ending = .final content) ∧
      ((∀ v ∈ runs, ∃ content, v.ending = .final content) →
        (runs.map fun v => (v.prompt, v.task)) = tasks) := by
  induction course with
  | nil => simp
  | stopped within talks failed =>
    refine ⟨by simp, by simpa using within, by simp, fun all => ?_⟩
    obtain ⟨content, final⟩ := all _ List.mem_cons_self
    exact absurd final (failed content)
  | @done prompt task rest s calls content s₁ runs s' bound talks others ih =>
    obtain ⟨first, within, answered, whole⟩ := ih
    refine ⟨by simpa using first, ?_, ?_, ?_⟩
    · intro v member
      rcases List.mem_cons.mp member with rfl | later
      · exact ⟨bound, by simp⟩
      · exact within v later
    · intro v member
      cases runs with
      | nil => cases member
      | cons next runs =>
        rcases List.mem_cons.mp member with rfl | later
        · exact ⟨content, rfl⟩
        · exact answered v later
    · intro all
      simpa using whole fun v member => all v (List.mem_cons_of_mem _ member)

/-- Recording changes nothing, and the record is what the conversations ask. -/
theorem Runs.recorded {s s' : Scene (σ × List ChatRequest)}
    (course : Runs o.recorded limit tasks s runs s') :
    Runs o limit tasks s.unrecorded runs s'.unrecorded ∧
      s'.record = s.record ++ runs.flatMap Conversation.requests := by
  induction course with
  | nil => exact ⟨.nil, by simp⟩
  | stopped within talks failed =>
    obtain ⟨same, record⟩ := talks.recorded
    exact ⟨.stopped within same failed, by simp [record, Conversation.requests]⟩
  | done bound talks others ih =>
    obtain ⟨same, record⟩ := talks.recorded
    exact ⟨.done bound same ih.1, by simp [ih.2, record, Conversation.requests]⟩

/-- The tasks are given to the assistant so: the log has the lines of each conversation, and what
comes of the tasks is the error in which a conversation ends, if one does. -/
theorem runTasks_runs {s s' : Scene σ} (course : Runs o c.maxToolRounds tasks s runs s')
    (log : List String) (completed : Nat) :
    runTasks o c ⟨s.tools, log, completed⟩ s.world tasks =
      ((match runs.findSome? (Conversation.error? c) with
        | some e => .error e
        | none => .ok ()),
      ⟨s'.tools, log ++ runs.flatMap Conversation.lines,
        completed + runs.countP fun v => (v.error? c).isNone⟩, s'.world) := by
  induction course generalizing log completed with
  | nil => simp [runTasks]
  | @stopped prompt task rest s calls ending s' within talks failed =>
    rw [runTasks, Conversation.opening_eq, converse_talks talks within]
    cases ending with
    | final content => exact absurd rfl (failed content)
    | silent failure =>
      cases failure <;> simp [Ending.result, Conversation.error?, Conversation.lines]
    | cutOff => simp [Ending.result, Conversation.error?, Conversation.lines]
  | @done prompt task rest s calls content s₁ runs s' bound talks others ih =>
    have goesOn := ih ((log ++ ["task: " ++ task] ++ calls.map Call.line) ++
      ["response: " ++ content]) (completed + 1)
    have answered : Conversation.error? c ⟨prompt, task, calls, .final content⟩ = none := rfl
    rw [runTasks, Conversation.opening_eq, converse_talks talks ⟨bound, by simp⟩]
    simp only [Ending.result, goesOn, List.findSome?_cons, answered]
    simp [answered, Conversation.lines, Nat.add_assoc, Nat.add_comm 1]

theorem Conversation.error?_eq_none_iff {v : Conversation} :
    v.error? c = none ↔ ∃ content, v.ending = .final content := by
  rw [Conversation.error?]
  rcases v.ending with content | (_ | e) | _ <;> simp [Ending.result]

end Runs

/-! ## Whole rules -/

/-- What the record, the log and the outcome of the tasks of a rule say about conversations. -/
structure Accounts (c : Context) (tasks : List (String × String)) (asked : List ChatRequest)
    (outcome : Outcome) (runs : List Conversation) : Prop where
  /-- The assistant is asked for each conversation in turn, and no more. -/
  requests : asked = runs.flatMap Conversation.requests
  /-- The log has the lines of each conversation in turn, and no more. -/
  details : outcome.details = runs.flatMap Conversation.lines
  /-- There is one request more than there are calls, and no more calls than the limit; only a call
  that exceeds the limit is not carried out. -/
  bounds : ∀ v ∈ runs, v.requests.length = v.calls.length + 1 ∧ v.calls.length ≤ c.maxToolRounds ∧
    ∀ name arguments, v.ending = .cutOff name arguments → v.calls.length = c.maxToolRounds
  /-- The tasks are started in order. -/
  order : (runs.map fun v => (v.prompt, v.task)) <+: tasks
  /-- After a conversation without the last word no other is started. -/
  stops : ∀ v ∈ runs.dropLast, ∃ content, v.ending = .final content
  /-- The rule is carried out if all tasks are started and each conversation ends with the last
  word. -/
  success : outcome.success = true ↔
    (runs.map fun v => (v.prompt, v.task)) = tasks ∧
      ∀ v ∈ runs, ∃ content, v.ending = .final content
  /-- A failure has the error in which a conversation ended. -/
  error : outcome.error = (runs.findSome? (Conversation.error? c)).map ProviderError.message

/-- The scene in which the tasks of a rule begin. -/
def firstScene {α : Type} (c : Context) (w : World α) : Scene α := ⟨{ root := c.projectRoot }, w⟩

section Execute

variable {r : Rule} {w : World σ} {runs : List Conversation} {s' : Scene σ}

/-- Without a conversation that fails, all tasks are done. -/
theorem Runs.all_done {tasks : List (String × String)} {limit : Nat} {s : Scene σ}
    (course : Runs o limit tasks s runs s')
    (noError : runs.findSome? (Conversation.error? c) = none) :
    (∀ v ∈ runs, ∃ content, v.ending = .final content) ∧
      (runs.map fun v => (v.prompt, v.task)) = tasks := by
  have all : ∀ v ∈ runs, ∃ content, v.ending = .final content := fun v member =>
    Conversation.error?_eq_none_iff.mp (List.findSome?_eq_none_iff.mp noError v member)
  exact ⟨all, course.course.2.2.2 all⟩

theorem execute_runs (busy : tasksOf r ≠ []) (console : o.console = true)
    (course : Runs o c.maxToolRounds (tasksOf r) (firstScene c w) runs s') :
    (provider o).execute c r w =
      ((match runs.findSome? (Conversation.error? c) with
        | some e =>
          failure ("AI task failed for rule " ++ r.id) (runs.flatMap Conversation.lines) e
        | none =>
          Outcome.succeeded ("completed " ++ toString (tasksOf r).length ++ " AI task(s)")
            (runs.flatMap Conversation.lines)), s'.world) := by
  have ran := runTasks_runs course [] 0
  have filled : (tasksOf r).isEmpty = false := by simpa using busy
  simp only [firstScene] at ran
  simp only [provider, filled, console, ran, Bool.false_eq_true, if_false, Bool.not_true]
  cases failed : runs.findSome? (Conversation.error? c) with
  | some e => rfl
  | none =>
    obtain ⟨all, whole⟩ := course.all_done failed
    have count : runs.countP (fun v => (v.error? c).isNone) = (tasksOf r).length := by
      rw [← whole, List.length_map, List.countP_eq_length]
      exact fun v member => by simp [Conversation.error?_eq_none_iff.mpr (all v member)]
    simp [count]

/-- The conversations about the tasks of a rule account for what is asked, logged and reported. -/
theorem accounts_of_runs {asked : List ChatRequest} (busy : tasksOf r ≠ [])
    (console : o.console = true)
    (course : Runs o c.maxToolRounds (tasksOf r) (firstScene c w) runs s')
    (record : asked = runs.flatMap Conversation.requests) :
    Accounts c (tasksOf r) asked ((provider o).execute c r w).1 runs := by
  obtain ⟨order, within, stops, whole⟩ := course.course
  have bounds : ∀ v ∈ runs, v.requests.length = v.calls.length + 1 ∧
      v.calls.length ≤ c.maxToolRounds ∧
      ∀ name arguments, v.ending = .cutOff name arguments → v.calls.length = c.maxToolRounds :=
    fun v member =>
      ⟨by simp [Conversation.requests, requestsFrom], (within v member).bound,
        (within v member).full⟩
  rw [execute_runs busy console course]
  cases failed : runs.findSome? (Conversation.error? c) with
  | some e =>
    obtain ⟨v, member, isError⟩ := List.exists_of_findSome?_eq_some failed
    refine ⟨record, rfl, bounds, order, stops, ?_, by rw [failed]; rfl⟩
    simp only [failure, Outcome.failed, Bool.false_eq_true, false_iff, not_and]
    intro _ all
    rw [Conversation.error?_eq_none_iff.mpr (all v member)] at isError
    cases isError
  | none =>
    obtain ⟨all, same⟩ := course.all_done failed
    exact ⟨record, rfl, bounds, order, stops, iff_of_true rfl ⟨same, all⟩, by rw [failed]; rfl⟩

/-- The outcome of a rule without tasks, or without a console. -/
def idleOutcome (r : Rule) : Outcome :=
  if (tasksOf r).isEmpty then Outcome.failed ("no AI tasks defined for rule " ++ r.id) []
  else failure "AI provider requires an interactive console" [] .noConsole

theorem idleOutcome_failed (r : Rule) :
    (idleOutcome r).success = false ∧ (idleOutcome r).details = [] := by
  rw [idleOutcome]
  split <;> exact ⟨rfl, rfl⟩

theorem execute_idle (idle : tasksOf r = [] ∨ o.console = false) :
    (provider o).execute c r w = (idleOutcome r, w) := by
  simp only [provider, idleOutcome]
  by_cases empty : (tasksOf r).isEmpty = true
  · simp only [if_pos empty]
  · have unwatched : o.console = false := by
      rcases idle with none | unwatched
      · rw [none] at empty
        exact absurd rfl empty
      · exact unwatched
    simp only [if_neg empty, unwatched, Bool.not_false, if_true]

end Execute

/-- **The transcript of assistance.** Nothing changes if all that the assistant is asked is
recorded. Without tasks, or without a console, it is asked nothing, nothing is changed, and the rule
fails. Otherwise the assistant and the tools have conversations about the tasks, and these only, of
which the record, the log and the outcome give account. A conversation succeeds if and only if the
assistant gives its last word within the limit. -/
theorem execute_transcript (o : Outside σ) (c : Context) (r : Rule) (w : World σ) :
    let tasks := r.instructions.ai.flatMap fun i => i.tasks.map fun task => (i.prompt, task)
    let run := (provider o.recorded).execute c r ⟨w.tree, (w.outside, [])⟩
    let asked := run.2.outside.2
    (provider o).execute c r w = (run.1, ⟨run.2.tree, run.2.outside.1⟩) ∧
    (tasks = [] ∨ o.console = false →
      asked = [] ∧ run.1.success = false ∧ run.1.details = [] ∧
      (provider o).execute c r w = (idleOutcome r, w)) ∧
    (tasks ≠ [] → o.console = true → ∃ runs tools,
      (∀ runs' s', Runs o c.maxToolRounds tasks (firstScene c w) runs' s' ↔
        runs' = runs ∧ s' = ⟨tools, ⟨run.2.tree, run.2.outside.1⟩⟩) ∧
      Accounts c tasks asked run.1 runs) ∧
    (∀ messages s log content,
      (converse o c c.maxToolRounds ⟨messages, s.tools, log⟩ s.world).1 = .ok content ↔
        ∃ calls s', calls.length ≤ c.maxToolRounds ∧
          Talks o messages s calls (.final content) s') := by
  intro tasks run asked
  have whenIdle (idle : tasks = [] ∨ o.console = false) :
      run = (idleOutcome r, ⟨w.tree, (w.outside, [])⟩) :=
    execute_idle (o := o.recorded) idle
  -- The conversations with the recording assistant are those with the assistant itself.
  obtain ⟨runs, s', course⟩ := exists_runs o.recorded c.maxToolRounds tasks
    (firstScene c ⟨w.tree, (w.outside, [])⟩)
  have plain : Runs o c.maxToolRounds tasks (firstScene c w) runs s'.unrecorded :=
    course.recorded.1
  have record : s'.record = runs.flatMap Conversation.requests := course.recorded.2
  have whenBusy (busy : tasks ≠ []) (console : o.console = true) :
      run.2 = s'.world ∧ (provider o).execute c r w = (run.1, s'.unrecorded.world) := by
    have recorded := execute_runs (o := o.recorded) busy console course
    have same := execute_runs busy console plain
    exact ⟨congrArg Prod.snd recorded, same.trans (congrArg (·.1, _) recorded.symm)⟩
  refine ⟨?_, fun idle => ?_, fun busy console => ?_, fun _ _ _ _ => converse_ok_iff⟩
  · by_cases idle : tasks = [] ∨ o.console = false
    · rw [whenIdle idle, execute_idle idle]
    · simp only [not_or, Bool.not_eq_false] at idle
      obtain ⟨after, same⟩ := whenBusy idle.1 idle.2
      rw [same, after]
      rfl
  · have nothing : asked = [] := congrArg (·.2.outside.2) (whenIdle idle)
    obtain ⟨failed, silent⟩ := idleOutcome_failed r
    rw [whenIdle idle]
    exact ⟨nothing, failed, silent, execute_idle idle⟩
  · obtain ⟨after, same⟩ := whenBusy busy console
    have sameRecord : asked = runs.flatMap Conversation.requests :=
      (congrArg (·.outside.2) after).trans record
    have accounts := accounts_of_runs busy console plain sameRecord
    rw [same] at accounts
    refine ⟨runs, s'.tools, fun runs' s₂ => ?_, accounts⟩
    rw [after]
    constructor
    · intro other
      exact other.unique plain
    · rintro ⟨rfl, rfl⟩
      exact plain

/-- An assistant that first calls a tool that is not there, and then gives its last word. -/
def mistaken : World (List Reply) where
  tree := sampleTree
  outside := [.toolCall "delete_file" .null, .final "done"]

/-- The refused call is told to the assistant, which then gives its last word: two requests, the
second of which has two more messages, and one line of the log for each step. -/
theorem execute_transcript_sample :
    let run := (provider scripted.recorded).execute dryContext greetingRule
      ⟨mistaken.tree, (mistaken.outside, [])⟩
    let opened : List Message :=
      [⟨.system, "You can only change the project through the read_file and write_file tools. " ++
          "Paths are relative to the project root. Always call read_file on the exact path " ++
          "immediately before calling write_file on it, and write back the complete file " ++
          "contents. When the task is done, reply with a short summary of the changes."⟩,
        ⟨.user, "greet"⟩]
    let refused : List Message :=
      [⟨.assistant, "\x7b\"tool_call\":\x7b\"arguments\":null,\"name\":\"delete_file\"\x7d\x7d"⟩,
        ⟨.tool, "error: rejected tool call: unknown tool 'delete_file'"⟩]
    run.2.outside.2 = [⟨opened, definitions⟩, ⟨opened ++ refused, definitions⟩] ∧
    run.1.success = true ∧
    run.1.details = ["task: greet",
      "delete_file ? rejected: rejected tool call: unknown tool 'delete_file'",
      "response: done"] := by
  intro run opened refused
  obtain ⟨-, -, accounts, -⟩ := execute_transcript scripted dryContext greetingRule mistaken
  obtain ⟨runs, tools, course, account⟩ := accounts (by decide) rfl
  let call : Call := ⟨"delete_file", .null, .error (.toolCall (.unknownTool "delete_file"))⟩
  obtain ⟨rfl, -⟩ := (course [⟨"", "greet", [call], .final "done"⟩] _).mp
    (.done (by decide) (.call rfl rfl (.final rfl)) .nil)
  have begun : Conversation.beginning "" "greet" = opened := by decide +kernel
  have added : call.messages = refused := by decide +kernel
  have line : call.line =
      "delete_file ? rejected: rejected tool call: unknown tool 'delete_file'" := by decide
  refine ⟨account.requests.trans ?_, account.success.mpr ⟨rfl, by simp⟩,
    account.details.trans ?_⟩
  · simp [Conversation.requests, begun, requestsFrom_cons, requestsFrom_nil, added]
  · simp [Conversation.lines, line]

end Uplift.Migration.Assistance
