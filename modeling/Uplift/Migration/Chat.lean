import Uplift.Match
/-! # Conversations with an assistant

An assistant is sent the conversation so far and the tools it may use; it answers with a tool call
or with its last word.
-/

namespace Uplift.Migration

/-- Who wrote a message. -/
inductive Role where
  | system | user | assistant | tool
deriving DecidableEq, Repr

namespace Role

/-- The name in documents. -/
def id : Role → String
  | system => "system"
  | user => "user"
  | assistant => "assistant"
  | tool => "tool"

/-- The role with exactly this name. -/
def ofId? (s : String) : Option Role := [system, user, assistant, tool].find? (·.id = s)

end Role

/-- One message of a conversation. -/
structure Message where
  role : Role
  content : String
deriving DecidableEq, Repr

/-- A tool that an assistant may use. -/
structure ToolDefinition where
  name : String
  description : String
  /-- The form of its arguments. -/
  parameters : Value
deriving DecidableEq

/-- What an assistant is sent. -/
structure ChatRequest where
  messages : List Message
  tools : List ToolDefinition
deriving DecidableEq

/-- What an assistant answers. -/
inductive Reply where
  | toolCall (name : String) (arguments : Value)
  | final (content : String)
deriving DecidableEq

namespace Message

/-- A message as a document value. -/
def encode (m : Message) : Value :=
  .record [("role", .str m.role.id), ("content", .str m.content)]

/-- Reads a message. -/
def decode : Decoder Message := fun v => do
  let r ← Record.of? .json ["role", "content"] v
  some ⟨← r.required "role" (Decoder.name Role.ofId?), ← r.required "content" Decoder.text⟩

end Message

namespace ToolDefinition

/-- A tool as a document value. -/
def encode (t : ToolDefinition) : Value :=
  .record [("name", .str t.name), ("description", .str t.description),
    ("parameters", t.parameters)]

/-- Reads a tool. -/
def decode : Decoder ToolDefinition := fun v => do
  let r ← Record.of? .json ["name", "description", "parameters"] v
  some ⟨← r.required "name" Decoder.text, ← r.required "description" Decoder.text,
    ← r.required "parameters" Decoder.sorted⟩

end ToolDefinition

namespace ChatRequest

/-- A request as a document value. -/
def encode (q : ChatRequest) : Value :=
  .record [("messages", .seq (q.messages.map Message.encode)),
    ("tools", .seq (q.tools.map ToolDefinition.encode))]

/-- Reads a request. -/
def decode : Decoder ChatRequest := fun v => do
  let r ← Record.of? .json ["messages", "tools"] v
  some ⟨← r.required "messages" (Decoder.list .json Message.decode),
    ← r.required "tools" (Decoder.list .json ToolDefinition.decode)⟩

end ChatRequest

namespace Reply

/-- A reply as a document value. -/
def encode : Reply → Value
  | toolCall name arguments =>
    .record [("type", .str "tool_call"), ("name", .str name), ("arguments", arguments)]
  | final content => .record [("type", .str "final"), ("content", .str content)]

/-- Reads a reply. A tool call without arguments has null for them. -/
def decode : Decoder Reply := fun v => do
  let (tag, body) ← Decoder.tagged? v
  if tag = "tool_call" then
    let r ← Record.of? .json ["name", "arguments"] body
    some (.toolCall (← r.required "name" Decoder.text)
      (← r.withDefault "arguments" .null Decoder.sorted))
  else if tag = "final" then
    let r ← Record.of? .json ["content"] body
    some (.final (← r.required "content" Decoder.text))
  else none

end Reply

end Uplift.Migration
