import Uplift.Coordinate
/-! # Project descriptions

The dependencies that the text of a Maven project declares. Comments count for nothing, and neither
does what stands in a list of exclusions; a dependency without group or artifact is none.

* `stretch?_eq`: a stretch is its opening mark, what is inside, its closing mark and the rest.
-/

namespace Uplift.Pom

/-- The part before the first `mark` and the part after it. -/
def splitAtMark (mark : List Char) : List Char → Option (List Char × List Char)
  | [] => (Text.strip? mark []).map fun after => ([], after)
  | c :: rest =>
    match Text.strip? mark (c :: rest) with
    | some after => some ([], after)
    | none => (splitAtMark mark rest).map fun (inside, after) => (c :: inside, after)

theorem eq_of_strip? {lead s rest : List Char} (h : Text.strip? lead s = some rest) :
    s = lead ++ rest := by
  unfold Text.strip? at h
  split at h
  · rename_i hp
    obtain ⟨t, rfl⟩ := List.isPrefixOf_iff_prefix.1 hp
    simp at h
    rw [h]
  · exact nomatch h

theorem splitAtMark_eq {mark s inside after : List Char}
    (h : splitAtMark mark s = some (inside, after)) : s = inside ++ mark ++ after := by
  induction s generalizing inside with
  | nil =>
    simp only [splitAtMark, Option.map_eq_some_iff] at h
    obtain ⟨a, ha, he⟩ := h
    obtain ⟨rfl, rfl⟩ := Prod.mk.inj he
    simpa using eq_of_strip? ha
  | cons c s ih =>
    simp only [splitAtMark] at h
    split at h
    · rename_i a ha
      obtain ⟨rfl, rfl⟩ := Prod.mk.inj (Option.some.inj h)
      simpa using eq_of_strip? ha
    · obtain ⟨⟨i, a⟩, hi, he⟩ := Option.map_eq_some_iff.1 h
      obtain ⟨rfl, rfl⟩ := Prod.mk.inj he
      simp [ih hi]

/-- Two marks around a stretch of text. Each begins with `<`, which is left off in `opening`. -/
structure Marks where
  opening : List Char
  closing : List Char

/-- What stands in a stretch at the beginning of a text, and what follows it. -/
def stretch? (m : Marks) : List Char → Option (List Char × List Char)
  | [] => none
  | c :: rest =>
    if c = '<' then (Text.strip? m.opening rest).bind (splitAtMark m.closing) else none

theorem stretch?_eq {m : Marks} {s inside after : List Char}
    (h : stretch? m s = some (inside, after)) :
    s = '<' :: m.opening ++ inside ++ m.closing ++ after := by
  match s, h with
  | c :: rest, h =>
    simp only [stretch?] at h
    split at h
    · rename_i hc
      obtain ⟨t, ht, hs⟩ := Option.bind_eq_some_iff.1 h
      rw [hc, eq_of_strip? ht, splitAtMark_eq hs]
      simp
    · exact nomatch h

theorem stretch?_shorter {m : Marks} {c : Char} {rest inside after : List Char}
    (h : stretch? m (c :: rest) = some (inside, after)) : after.length < (c :: rest).length := by
  rw [stretch?_eq h]
  simp
  omega

/-- A text without its stretches. -/
def without (m : Marks) : List Char → List Char
  | [] => []
  | c :: rest =>
    match _h : stretch? m (c :: rest) with
    | some (_, after) => without m after
    | none => c :: without m rest
termination_by s => s.length
decreasing_by
  · exact stretch?_shorter _h
  · simp

/-- What stands in the stretches of a text, in order. -/
def insides (m : Marks) : List Char → List (List Char)
  | [] => []
  | c :: rest =>
    match _h : stretch? m (c :: rest) with
    | some (inside, after) => inside :: insides m after
    | none => insides m rest
termination_by s => s.length
decreasing_by
  · exact stretch?_shorter _h
  · simp

/-- Comments. -/
def comment : Marks := ⟨['!', '-', '-'], ['-', '-', '>']⟩

/-- The marks of an element without attributes. -/
def element (name : String) : Marks :=
  ⟨name.toList ++ ['>'], '<' :: '/' :: name.toList ++ ['>']⟩

/-- The fields of a dependency that make its coordinate. -/
inductive Field where
  | group | artifact | version
deriving DecidableEq, Repr

namespace Field

/-- The name of a field's element. -/
def tag : Field → String
  | group => "groupId"
  | artifact => "artifactId"
  | version => "version"

/-- Every field. -/
def all : List Field := [group, artifact, version]

/-- The coordinate with a field set. -/
def set (c : Coordinate) (value : String) : Field → Coordinate
  | group => { c with group := value }
  | artifact => { c with artifact := value }
  | version => { c with version := some value }

end Field

/-- The field whose name and closing bracket a text begins with, and the rest. -/
def fieldName? (s : List Char) : Option (Field × List Char) :=
  Field.all.findSome? fun f => (Text.strip? (f.tag.toList ++ ['>']) s).map fun rest => (f, rest)

/-- A field at the beginning of a text, its value without the blanks around it, and what follows.
The element may be closed under the name of another field. -/
def field? : List Char → Option (Field × List Char × List Char)
  | [] => none
  | c :: rest =>
    if c = '<' then do
      let (f, body) ← fieldName? rest
      let value := body.takeWhile (· ≠ '<')
      let after ← Text.strip? ['<', '/'] (body.drop value.length)
      let (_, after) ← fieldName? after
      if after.length < (c :: rest).length then some (f, Text.trim value, after) else none
    else none

theorem field?_shorter {c : Char} {rest value after : List Char} {f : Field}
    (h : field? (c :: rest) = some (f, value, after)) : after.length < (c :: rest).length := by
  simp only [field?, Option.bind_eq_bind] at h
  split at h
  · simp only [Option.bind_eq_some_iff] at h
    obtain ⟨_, _, _, _, _, _, h⟩ := h
    split at h
    · rename_i hl
      obtain ⟨-, -, rfl⟩ := by simpa using h
      exact hl
    · exact nomatch h
  · exact nomatch h

/-- The fields of a text, in order. -/
def fields : List Char → List (Field × List Char)
  | [] => []
  | c :: rest =>
    match _h : field? (c :: rest) with
    | some (f, value, after) => (f, value) :: fields after
    | none => fields rest
termination_by s => s.length
decreasing_by
  · exact field?_shorter _h
  · simp

/-- The coordinate that the body of a dependency names: of equal fields, the last. -/
def coordinate (body : List Char) : Coordinate :=
  (fields (without (element "exclusions") body)).foldl
    (fun c (f, value) => f.set c (String.ofList value)) .empty

/-- The dependencies that a text declares. -/
def dependencies (text : String) : List Coordinate :=
  ((insides (element "dependency") (without comment text.toList)).map coordinate).filter
    fun c => !c.group.isEmpty && !c.artifact.isEmpty

end Uplift.Pom
