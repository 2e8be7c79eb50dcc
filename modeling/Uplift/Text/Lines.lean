/-! # Lines

A text is cut after every line feed; a line is given without its line feed and without a carriage
return just before that. What follows the last line feed is a line only if it is not empty, and
keeps its carriage return.
-/

namespace Uplift.Text

/-- A line, read backwards, without the carriage return that ended it. -/
def finishLine : List Char → List Char
  | '\r' :: rest => rest.reverse
  | line => line.reverse

/-- The lines of a text, where `line` is read already, backwards. -/
def linesFrom (line : List Char) : List Char → List (List Char)
  | [] => if line.isEmpty then [] else [line.reverse]
  | c :: rest =>
    if c = '\n' then finishLine line :: linesFrom [] rest else linesFrom (c :: line) rest

/-- The lines of a text. -/
def lines (s : List Char) : List (List Char) := linesFrom [] s

/-- `lines` on strings. -/
def linesOf (s : String) : List String := (lines s.toList).map String.ofList

/-- Bytes cut after every line feed (10); the last piece is there only if it is not empty. -/
def byteLines (bytes : List UInt8) : List (List UInt8) :=
  go [] bytes
where
  /-- `line` is read already, backwards. -/
  go (line : List UInt8) : List UInt8 → List (List UInt8)
    | [] => if line.isEmpty then [] else [line.reverse]
    | b :: rest =>
      if b = 10 then
        (match line with
          | 13 :: more => more.reverse
          | _ => line.reverse) :: go [] rest
      else go (b :: line) rest

/-- The text that bytes spell in UTF-8, if they do. -/
def ofBytes? (bytes : List UInt8) : Option String := String.fromUTF8? ⟨bytes.toArray⟩

/-- The bytes of a text in UTF-8. -/
def toBytes (s : String) : List UInt8 := s.toUTF8.data.toList

/-- The lines of a stream up to the first one that is not UTF-8. -/
def textLines (bytes : List UInt8) : List String :=
  ((byteLines bytes).map ofBytes?).takeWhile Option.isSome |>.filterMap id

end Uplift.Text
