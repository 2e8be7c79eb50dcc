import Uplift.Text.Blank
/-! # Maven coordinates

A dependency's group, artifact and perhaps version, written with colons between them.
-/

namespace Uplift

/-- The name of a dependency. -/
structure Coordinate where
  group : String
  artifact : String
  version : Option String := none
deriving DecidableEq, Repr

namespace Coordinate

/-- Neither group nor artifact: no dependency has this name. -/
def empty : Coordinate := ⟨"", "", none⟩

/-- Group and artifact are missing. -/
def isEmpty (c : Coordinate) : Bool := c.group.isEmpty && c.artifact.isEmpty

/-- The parts of a text between colons, without the blanks around each. -/
def parts (text : List Char) : List (List Char) := (text.splitOn ':').map Text.trim

/-- The coordinate that a text names: two or three parts, none of them blank. -/
def parse? (text : String) : Option Coordinate :=
  let ps := parts (Text.trim text.toList)
  if ps.any (·.isEmpty) then none
  else match ps.map String.ofList with
    | [g, a] => some ⟨g, a, none⟩
    | [g, a, v] => some ⟨g, a, some v⟩
    | _ => none

/-- The written form. -/
def text (c : Coordinate) : String :=
  c.group ++ ":" ++ c.artifact ++ (match c.version with
    | some v => ":" ++ v
    | none => "")

/-- A declared dependency is one that was asked for; without a version every version is. -/
def isMatch (asked declared : Coordinate) : Bool :=
  asked.group = declared.group && asked.artifact = declared.artifact &&
    (asked.version.isNone || asked.version = declared.version)

end Coordinate

end Uplift
