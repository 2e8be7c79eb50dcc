import Uplift.Condition.Basic
/-! # Reading conditions

```text
condition := term ( ("AND" | "OR") term )*
term      := kind "." symbol "is" arguments
arguments := "(" param ("," param)* ")" | value
param     := key "=" value
value     := 'quoted' | "quoted" | bare text
```

Connectives stand between blanks, outside quotes and parentheses, in any letter case, and one
condition uses one of them only. A value in place of the parameter list is the parameter `name`.

* `terms` cuts a condition at its connectives.
* `Condition.parse`, `Query.parsePrecondition`: the two readers.
-/

namespace Uplift

namespace Condition

open Text

/-- A quotation mark. -/
def isQuote (c : Char) : Bool := c = '\'' || c = '"'

/-- The connective at the head of a text, if a blank follows it, and the text from that blank on. -/
def connective? (s : List Char) : Option (Connective × List Char) :=
  let word := s.takeWhile Char.isAlpha
  let rest := s.dropWhile Char.isAlpha
  if (rest.head?.map isBlank).getD false then
    if word.map Char.toLower = Connective.word .and then some (.and, rest)
    else if word.map Char.toLower = Connective.word .or then some (.or, rest)
    else none
  else none

theorem length_dropWhile_le (p : Char → Bool) (s : List Char) :
    (s.dropWhile p).length ≤ s.length :=
  (List.dropWhile_sublist p).length_le

theorem connective?_length {s rest : List Char} {c : Connective}
    (h : connective? s = some (c, rest)) : rest.length ≤ s.length := by
  have bound := length_dropWhile_le Char.isAlpha s
  simp only [connective?] at h
  split at h
  · split at h
    · obtain ⟨-, rfl⟩ := Prod.mk.inj (Option.some.inj h); exact bound
    · split at h
      · obtain ⟨-, rfl⟩ := Prod.mk.inj (Option.some.inj h); exact bound
      · exact nomatch h
  · exact nomatch h

/-- What a condition is cut into: its terms, and the connective between them if there are two. -/
structure Cut where
  connective : Option Connective
  terms : List (List Char)
deriving DecidableEq, Repr

/-- Cuts the rest of a condition. `quote` is the quotation mark that is open, `depth` counts the
open parentheses, `found` is the connective met before, and `term` is the current term so far,
backwards. -/
def cutFrom (quote : Option Char) (depth : Nat) (found : Option Connective) (term : List Char) :
    List Char → Except SyntaxFault Cut
  | [] =>
    if quote.isSome then .error .unclosedQuote
    else if depth ≠ 0 then .error .unclosedParenthesis
    else .ok ⟨found, [term.reverse]⟩
  | c :: rest =>
    match quote with
    | some q => cutFrom (if c = q then none else some q) depth found (c :: term) rest
    | none =>
      if isQuote c then cutFrom (some c) depth found (c :: term) rest
      else if c = '(' then cutFrom none (depth + 1) found (c :: term) rest
      else if c = ')' then
        match depth with
        | 0 => .error .unopenedParenthesis
        | outer + 1 => cutFrom none outer found (c :: term) rest
      -- The blank before a connective belongs to neither of the terms.
      else if isBlank c ∧ depth = 0 then
        match _h : connective? rest with
        | some (word, after) =>
          if found.isSome ∧ found ≠ some word then .error .mixedConnectives
          else do
            let cut ← cutFrom none 0 (some word) [] after
            .ok { cut with terms := term.reverse :: cut.terms }
        | none => cutFrom none depth found (c :: term) rest
      else cutFrom none depth found (c :: term) rest
termination_by s => s.length
decreasing_by
  all_goals simp only [List.length_cons]
  all_goals first
    | omega
    | exact Nat.lt_of_le_of_lt (connective?_length (by assumption)) (Nat.lt_succ_self _)

/-- Cuts a condition into terms, none of them blank. -/
def terms (input : List Char) : Except SyntaxFault Cut := do
  let cut ← cutFrom none 0 none [] input
  if cut.terms.any isBlankText then .error .emptyTerm else .ok cut

/-- A character of a kind or of a symbol. -/
def isNameChar (c : Char) : Bool := c.isAlphanum || c = '_' || c = '-'

/-- A kind or a symbol: at least one character, all of them letters, digits, `_` or `-`. -/
def isName (s : List Char) : Bool := !s.isEmpty && s.all isNameChar

/-- The kind and the symbol of a head. -/
def head (s : List Char) : Except SyntaxFault (List Char × List Char) :=
  match splitOnce '.' s with
  | some (kind, symbol) =>
    if isName kind && isName symbol then .ok (kind, symbol)
    else .error (.badHead (String.ofList s))
  | none => .error (.badHead (String.ofList s))

/-- The value that a text stands for: what is between its quotes, or the text itself. -/
def unquote (s : List Char) : Except SyntaxFault (List Char) :=
  match trim s with
  | [] => .error .emptyValue
  | c :: rest =>
    if isQuote c then
      if rest.getLast? = some c then .ok rest.dropLast else .error .unclosedQuote
    else .ok (c :: rest)

/-- Cuts a parameter list at its commas outside quotes; `part` is read already, backwards. -/
def parts (quote : Option Char) (part : List Char) : List Char → List (List Char)
  | [] => [part.reverse]
  | c :: rest =>
    match quote with
    | some q => parts (if c = q then none else some q) (c :: part) rest
    | none =>
      if isQuote c then parts (some c) (c :: part) rest
      else if c = ',' then part.reverse :: parts none [] rest
      else parts none (c :: part) rest

/-- The key and the value of a parameter. -/
def param (part : List Char) : Except SyntaxFault (String × String) :=
  match splitOnce '=' part with
  | none => .error (.notKeyValue (String.ofList part))
  | some (key, value) =>
    let key := trim key
    if key.isEmpty then .error .emptyKey
    else do
      let value ← unquote value
      .ok (String.ofList key, String.ofList value)

/-- The parameters of a list; a blank part is passed over, but one part must not be blank. -/
def paramList (inner : List Char) : Except SyntaxFault (List (String × String)) := do
  let written := ((parts none [] inner).map trim).filter (!·.isEmpty)
  let params ← written.mapM param
  if params.isEmpty then .error .noParameters else .ok params

/-- The parameter that a value without a key stands for. -/
def nameParam : String := "name"

/-- The text after the word `is`, which a blank or a parenthesis must follow. -/
def afterIs? (s : List Char) : Option (List Char) := do
  let rest ← (strip? ['i', 's'] s).or (strip? ['I', 'S'] s)
  let c ← rest.head?
  if isBlank c || c = '(' then some rest else none

/-- A text at its first blank. -/
def splitBlank (s : List Char) : Option (List Char × List Char) :=
  match s.span (!isBlank ·) with
  | (word, _ :: rest) => some (word, rest)
  | (_, []) => none

/-- The query of a term. -/
def term (text : List Char) : Except SyntaxFault Query := do
  let text := trim text
  let some (front, rest) := splitBlank text | .error (.noArguments (String.ofList text))
  let (kind, symbol) ← head front
  let some arguments := afterIs? (trimStart rest) | .error (.noIs (String.ofList front))
  let query := Query.of (String.ofList kind) (String.ofList symbol)
  match enclosed? '(' ')' (trim arguments) with
  | some inner => do .ok (query.setAll (← paramList inner))
  | none => do .ok (query.set nameParam (String.ofList (← unquote arguments)))

/-- A condition, with a bare cause on failure. -/
def read (input : List Char) : Except SyntaxFault Condition := do
  let cut ← terms input
  let queries ← cut.terms.mapM term
  match cut.connective, queries with
  | some word, queries => .ok (word.join queries)
  | none, q :: _ => .ok (.one q)
  | none, [] => .error .emptyTerm

/-- Reads a condition. -/
def parse (input : String) : Except Fault Condition :=
  match read input.toList with
  | .ok c => .ok c
  | .error cause => .error (.invalidQuery input cause)

/-- A precondition's pattern is a parameter list: before its first `=` stands a word. -/
def isParamList (s : List Char) : Bool :=
  match splitOnce '=' s with
  | some (key, _) =>
    let key := trim key
    !key.isEmpty && key.all fun c => c.isAlphanum || c = '_'
  | none => false

end Condition

open Condition Text in
/-- Reads a precondition. A fault of its head is reported with the head's text, a fault of its
pattern with the pattern's. -/
def Query.parsePrecondition (name pattern : String) : Except Fault Query :=
  match head (trim name.toList) with
  | .error cause => .error (.invalidQuery name cause)
  | .ok (kind, symbol) =>
    let pattern := trim pattern.toList
    let inner := (enclosed? '(' ')' pattern).getD pattern
    let query := Query.of (String.ofList kind) (String.ofList symbol)
    let read : Except SyntaxFault Query :=
      if isParamList inner then do .ok (query.setAll (← paramList inner))
      else do .ok (query.set nameParam (String.ofList (← unquote inner)))
    match read with
    | .ok q => .ok q
    | .error cause => .error (.invalidQuery (String.ofList pattern) cause)

end Uplift
