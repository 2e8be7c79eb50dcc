import Uplift.Yaml.Lexer
/-! # Nodes of YAML

A document is a tree of scalars, sequences and mappings. Every node may have a tag; an alias stands
for the node that carries its anchor. Scalars keep their text and the way they are written, since
both decide what they mean.

* `Node.ofTokens?` reads the only document of a token list; an empty text holds an empty scalar.
-/

namespace Uplift.Yaml

/-- A node of a document. -/
inductive Node where
  | scalar (tag : Option String) (text : String) (style : Style)
  | seq (tag : Option String) (items : List Node)
  | map (tag : Option String) (entries : List (Node × Node))
  /-- An alias, with what it stands for; nothing if it lies inside that. -/
  | alias (target : Option Node)
deriving Inhabited

namespace Node

/-- The scalar that stands where nothing is written. -/
def empty : Node := .scalar none "" .plain

/-- What the reader of nodes carries along. -/
structure Reader where
  /-- The tokens to come. -/
  tokens : List Token
  /-- The anchors that were passed, the last first, each with its number. -/
  anchors : List (List Char × Nat) := []
  /-- The anchored nodes that are over, by the number of the anchor. -/
  anchored : List (Nat × Node) := []
  /-- How many scalars, aliases, and beginnings and ends of collections were passed. -/
  events : Nat := 0

/-- What a tag's handle stands for. -/
abbrev Handles := List (List Char × List Char)

namespace Reader

/-- The next token. -/
def peek (r : Reader) : Option Token := r.tokens.head?

/-- Passes the next token. -/
def skip (r : Reader) : Reader := { r with tokens := r.tokens.tail }

/-- Counts events. -/
def count (r : Reader) (n : Nat) : Reader := { r with events := r.events + n }

/-- Passes an anchor, if there is one, at the beginning of its node. -/
def enter (r : Reader) (anchor : Option (List Char)) : Reader :=
  match anchor with
  | some name => { r with anchors := (name, r.events) :: r.anchors }
  | none => r

/-- Keeps a node that is over, if it has an anchor, under the number it began with. -/
def leave (r : Reader) (anchor : Option (List Char)) (number : Nat) (n : Node) : Reader :=
  if anchor.isSome then { r with anchored := (number, n) :: r.anchored } else r

end Reader

/-- Where a node stands, which decides what may be left out or opened there. -/
structure Place where
  /-- Block collections may open. -/
  block : Bool
  /-- A dash here opens a sequence without indentation of its own. -/
  dashes : Bool

/-- The anchor and the tag before a node, in either order. -/
def properties? (handles : Handles) (r : Reader) :
    Option (Option (List Char) × Option String × Reader) := do
  let resolve (handle suffix : List Char) : Option String :=
    if handle.isEmpty then some (String.ofList suffix)
    else (handles.lookup handle).map fun e => String.ofList (e ++ suffix)
  match r.tokens with
  | .anchor a :: .tag h s :: rest => do
    some (some a, some (← resolve h s), { r with tokens := rest })
  | .anchor a :: rest => some (some a, none, { r with tokens := rest })
  | .tag h s :: .anchor a :: rest => do
    some (some a, some (← resolve h s), { r with tokens := rest })
  | .tag h s :: rest => do some (none, some (← resolve h s), { r with tokens := rest })
  | _ => some (none, none, r)

/-- The next token is one of these, or there is none. -/
def stops (r : Reader) (marks : List Token) : Bool :=
  match r.peek with
  | some t => marks.contains t
  | none => true

mutual

/-- A node. -/
def node? (handles : Handles) (place : Place) : (fuel : Nat) → Reader → Option (Node × Reader)
  | 0, _ => none
  | fuel + 1, r =>
    match r.peek with
    | some (.alias name) => do
      let number ← r.anchors.lookup name
      some (.alias (r.anchored.lookup number), r.skip.count 1)
    | _ => do
      let (anchor, tag, r) ← properties? handles r
      let number := r.events
      let r := r.enter anchor
      let close (n : Node) (r : Reader) : Node × Reader := (n, r.leave anchor number n)
      match r.peek with
      | some (.scalar text style) =>
        let tag := if tag = some "!" then none else tag
        some (close (.scalar tag (String.ofList text) style) (r.skip.count 1))
      | some .flowSeqStart => do
        let (items, r) ← flowItems? handles fuel true [] (r.skip.count 2)
        some (close (.seq tag items) r)
      | some .flowMapStart => do
        let (entries, r) ← flowEntries? handles fuel true [] (r.skip.count 2)
        some (close (.map tag entries) r)
      | t =>
        -- The items of a sequence that is not indented have no token before the first dash.
        if place.dashes && t = some .blockEntry then do
          let (items, r) ← blockItems? handles fuel false [] (r.count 2)
          some (close (.seq tag items) r)
        else if place.block && t = some .blockSeqStart then do
          let (items, r) ← blockItems? handles fuel true [] (r.skip.count 2)
          some (close (.seq tag items) r)
        else if place.block && t = some .blockMapStart then do
          let (entries, r) ← blockEntries? handles fuel [] (r.skip.count 2)
          some (close (.map tag entries) r)
        -- Properties without a node are those of an empty scalar.
        else if anchor.isSome || tag.isSome then
          some (close (.scalar tag "" .plain) (r.count 1))
        else none

/-- A node, or an empty scalar if one of `marks` comes next. -/
def nodeUnless? (handles : Handles) (place : Place) (marks : List Token) :
    (fuel : Nat) → Reader → Option (Node × Reader)
  | 0, _ => none
  | fuel + 1, r => if stops r marks then some (empty, r.count 1) else node? handles place fuel r

/-- The items of a block sequence, up to its closing token if it has one; `acc` backwards. -/
def blockItems? (handles : Handles) : (fuel : Nat) → (closed : Bool) → List Node → Reader →
    Option (List Node × Reader)
  | 0, _, _, _ => none
  | fuel + 1, closed, acc, r =>
    if r.peek = some .blockEntry then do
      let marks : List Token :=
        if closed then [.blockEntry, .blockEnd] else [.blockEntry, .key, .value, .blockEnd]
      let (n, r) ← nodeUnless? handles ⟨true, false⟩ marks fuel r.skip
      blockItems? handles fuel closed (n :: acc) r
    else if !closed then some (acc.reverse, r)
    else if r.peek = some .blockEnd then some (acc.reverse, r.skip)
    else none

/-- The entries of a block mapping, up to its closing token; `acc` backwards. -/
def blockEntries? (handles : Handles) : (fuel : Nat) → List (Node × Node) → Reader →
    Option (List (Node × Node) × Reader)
  | 0, _, _ => none
  | fuel + 1, acc, r =>
    if r.peek = some .key then do
      let marks : List Token := [.key, .value, .blockEnd]
      let (k, r) ← nodeUnless? handles ⟨true, true⟩ marks fuel r.skip
      if r.peek = some .value then do
        let (v, r) ← nodeUnless? handles ⟨true, true⟩ marks fuel r.skip
        blockEntries? handles fuel ((k, v) :: acc) r
      else blockEntries? handles fuel ((k, empty) :: acc) (r.count 1)
    else if r.peek = some .blockEnd then some (acc.reverse, r.skip)
    else none

/-- The items of a flow sequence, up to its bracket; an item may be a single entry of a mapping. -/
def flowItems? (handles : Handles) : (fuel : Nat) → (first : Bool) → List Node → Reader →
    Option (List Node × Reader)
  | 0, _, _, _ => none
  | fuel + 1, first, acc, r =>
    if r.peek = some .flowSeqEnd then some (acc.reverse, r.skip)
    else do
      let r ← if first then some r else if r.peek = some .flowEntry then some r.skip else none
      if r.peek = some .key then do
        let r := r.skip.count 2
        let (k, r) ←
          if stops r [.value, .flowEntry, .flowSeqEnd] then some (empty, r.skip.count 1)
          else node? handles ⟨false, false⟩ fuel r
        let (v, r) ←
          if r.peek = some .value then
            nodeUnless? handles ⟨false, false⟩ [.flowEntry, .flowSeqEnd] fuel r.skip
          else some (empty, r.count 1)
        flowItems? handles fuel false (.map none [(k, v)] :: acc) r
      else if r.peek = some .flowSeqEnd then some (acc.reverse, r.skip)
      else do
        let (n, r) ← node? handles ⟨false, false⟩ fuel r
        flowItems? handles fuel false (n :: acc) r

/-- The entries of a flow mapping, up to its brace. -/
def flowEntries? (handles : Handles) : (fuel : Nat) → (first : Bool) → List (Node × Node) →
    Reader → Option (List (Node × Node) × Reader)
  | 0, _, _, _ => none
  | fuel + 1, first, acc, r =>
    if r.peek = some .flowMapEnd then some (acc.reverse, r.skip)
    else do
      let r ← if first then some r else if r.peek = some .flowEntry then some r.skip else none
      if r.peek = some .key then do
        let (k, r) ←
          nodeUnless? handles ⟨false, false⟩ [.value, .flowEntry, .flowMapEnd] fuel r.skip
        if r.peek = some .value then do
          let (v, r) ← nodeUnless? handles ⟨false, false⟩ [.flowEntry, .flowMapEnd] fuel r.skip
          flowEntries? handles fuel false ((k, v) :: acc) r
        else flowEntries? handles fuel false ((k, empty) :: acc) (r.count 1)
      else if r.peek = some .flowMapEnd then some (acc.reverse, r.skip)
      else do
        let (k, r) ← node? handles ⟨false, false⟩ fuel r
        flowEntries? handles fuel false ((k, empty) :: acc) (r.count 1)

end

/-- The directives before a document: the handles they define, and the tokens after them. At most
one version, of the first major number, and one definition for each handle. -/
def directives? : (versioned : Bool) → Handles → List Token → Option (Handles × List Token)
  | versioned, handles, .version major minor :: rest =>
    if versioned || major ≠ 1 || (minor ≠ 1 && minor ≠ 2) then none
    else directives? true handles rest
  | versioned, handles, .tagHandle h e :: rest =>
    if (handles.lookup h).isSome then none else directives? versioned ((h, e) :: handles) rest
  | _, handles, rest => some (handles, rest)

/-- The handles that need no directive. -/
def builtinHandles : Handles :=
  [(['!'], ['!']), (['!', '!'], "tag:yaml.org,2002:".toList)]

/-- A token with which no node begins, so that a document before it is empty. -/
def endsDocument : Option Token → Bool
  | some (.version _ _) | some (.tagHandle _ _) | some .documentStart | some .documentEnd => true
  | none => true
  | _ => false

/-- The only document of a token list, and how many events it has. -/
def ofTokens? (tokens : List Token) : Option (Node × Nat) := do
  let directed := match tokens.head? with
    | some (.version _ _) | some (.tagHandle _ _) | some .documentStart => true
    | _ => false
  if tokens.isEmpty then some (empty, 1)
  else
    let (n, r) ←
      if directed then do
        let (handles, rest) ← directives? false [] tokens
        if rest.head? ≠ some .documentStart then none
        else
          let r : Reader := { tokens := rest.tail }
          if endsDocument r.peek then some (empty, r.count 1)
          else node? (handles ++ builtinHandles) ⟨true, false⟩ (4 * tokens.length + 4) r
      else node? builtinHandles ⟨true, false⟩ (4 * tokens.length + 4) { tokens }
    if r.tokens.all (· = .documentEnd) then some (n, r.events) else none

end Node

end Uplift.Yaml
