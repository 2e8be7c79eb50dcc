import Uplift.Coordinate
import Uplift.Proofs.Except
import Uplift.Proofs.Text.Trim

/-!
# Coordinates and their texts

A coordinate is written with a colon between its components and with any blanks around each of them
(`Coordinate.Writes`). These are the texts that it is read from, if its components are neither blank
nor have blanks around them or colons in them (`parse?_eq_some_iff`), and every coordinate that is
read is of this kind. So a text is read if and only if it has two or three parts between colons and
none of them is blank (`exists_parse?_iff`).
-/

namespace Uplift.Coordinate

open Text

variable {c : Coordinate} {text : String}

/-- The parts of a coordinate. -/
def components (c : Coordinate) : List String := c.group :: c.artifact :: c.version.toList

/-- Each component can be told from the blanks and the colons around it. -/
def Separable (c : Coordinate) : Prop := ∀ s ∈ c.components, Trimmed s.toList ∧ ':' ∉ s.toList

/-- The text is the coordinate written down: its components with colons between them, and with
blanks around each. -/
def Writes (c : Coordinate) (text : String) : Prop :=
  ∃ written : List (List Char),
    List.Forall₂ (fun s part => WithBlanks s.toList part) c.components written ∧
      text.toList = [':'].intercalate written

theorem writes_text (c : Coordinate) : c.Writes c.text := by
  refine ⟨c.components.map String.toList, ?_, ?_⟩
  · rw [List.forall₂_map_right_iff, List.forall₂_same]
    exact fun s _ => .refl s.toList
  · cases version : c.version with
    | none => simp [text, components, version, List.intercalate]
    | some v => simp [text, components, version, List.intercalate]

/-! ## Reading -/

/-- Blanks around the whole text are blanks around its first and its last part. -/
theorem parts_trim (s : List Char) : parts (trim s) = parts s := map_trim_splitOn_trim (by decide) s

/-- The coordinate that is read has the parts of the text for its components. -/
theorem parse?_eq_some_iff_parts : parse? text = some c ↔
    parts text.toList = c.components.map String.toList ∧ ∀ s ∈ c.components, s ≠ "" := by
  obtain ⟨group, artifact, version⟩ := c
  unfold parse?
  rw [parts_trim]
  generalize parts text.toList = ps
  constructor
  · intro read
    dsimp only at read
    split at read
    · cases read
    · next filled =>
      have back : ps = (ps.map String.ofList).map String.toList := by simp [Function.comp_def]
      have filled : ∀ s ∈ ps.map String.ofList, s ≠ "" := by
        simpa [List.eq_nil_iff_forall_not_mem] using filled
      split at read
      · next g a same =>
        obtain ⟨rfl, rfl, rfl⟩ := Coordinate.mk.inj (Option.some.inj read)
        rw [same] at back filled
        exact ⟨back, filled⟩
      · next g a v same =>
        obtain ⟨rfl, rfl, rfl⟩ := Coordinate.mk.inj (Option.some.inj read)
        rw [same] at back filled
        exact ⟨back, filled⟩
      · cases read
  · rintro ⟨rfl, filled⟩
    have notEmpty : ((components ⟨group, artifact, version⟩).map String.toList).any
        (·.isEmpty) = false := by simpa using filled
    dsimp only
    rw [notEmpty, List.map_map]
    cases version with
    | none => simp [components]
    | some v => simp [components]

/-- A text in which a coordinate is written has the components of the coordinate for its parts. -/
theorem writes_iff_parts (separable : c.Separable) :
    c.Writes text ↔ parts text.toList = c.components.map String.toList := by
  constructor
  · rintro ⟨written, around, joined⟩
    have noColon : ∀ part ∈ written, ':' ∉ part := by
      intro part member
      obtain ⟨s, component, blanks⟩ := exists_of_mem_left around.flip member
      exact WithBlanks.notMem blanks (by decide) (separable s component).2
    have filled : written ≠ [] := by
      rintro rfl
      cases around
    rw [parts, joined, List.splitOn_intercalate ':' noColon filled]
    refine (map_eq_map_iff.mpr (forall₂_imp_of_mem (fun s component part blanks => ?_) around)).symm
    exact (WithBlanks.trim_eq blanks (separable s component).1).symm
  · intro same
    refine ⟨text.toList.splitOn ':', ?_, (List.intercalate_splitOn ':').symm⟩
    exact (map_eq_map_iff.mp same.symm).imp fun s part cut => cut ▸ withBlanks_trim part

/-- A coordinate is read from the texts in which it is written, and from no others. -/
theorem parse?_eq_some_iff : parse? text = some c ↔ c.Separable ∧ c.Writes text := by
  rw [parse?_eq_some_iff_parts]
  constructor
  · rintro ⟨same, filled⟩
    have separable : c.Separable := by
      intro s component
      have isPart : s.toList ∈ parts text.toList := same ▸ List.mem_map_of_mem component
      obtain ⟨part, member, cut⟩ := List.mem_map.mp isPart
      have nonempty : trim part ≠ [] := by
        rw [cut]
        simpa using filled s component
      rw [← cut]
      exact ⟨trimmed_trim nonempty,
        fun colon => notMem_of_mem_splitOn member ((trim_within part).mem colon)⟩
    exact ⟨separable, (writes_iff_parts separable).mpr same⟩
  · rintro ⟨separable, writes⟩
    refine ⟨(writes_iff_parts separable).mp writes, fun s component => ?_⟩
    rintro rfl
    obtain ⟨c, rest, same, -⟩ := (separable "" component).1.first
    cases same

/-- A coordinate is read from a text with two or three parts, none of them blank. -/
theorem exists_parse?_iff : (∃ c, parse? text = some c) ↔
    ((text.toList.splitOn ':').length = 2 ∨ (text.toList.splitOn ':').length = 3) ∧
      ∀ part ∈ text.toList.splitOn ':', isBlankText part = false := by
  have solid_iff (part : List Char) :
      isBlankText part = false ↔ String.ofList (trim part) ≠ "" := by
    rw [← Bool.not_eq_true, ← trim_eq_nil_iff]
    simp
  constructor
  · rintro ⟨c, read⟩
    obtain ⟨same, filled⟩ := parse?_eq_some_iff_parts.mp read
    have long : (text.toList.splitOn ':').length = c.components.length := by
      simpa [parts] using congrArg List.length same
    refine ⟨?_, fun part member => ?_⟩
    · rw [long]
      cases version : c.version with
      | none => exact .inl (by simp [components, version])
      | some v => exact .inr (by simp [components, version])
    · have isPart : trim part ∈ c.components.map String.toList := same ▸ List.mem_map_of_mem member
      obtain ⟨s, component, cut⟩ := List.mem_map.mp isPart
      rw [solid_iff, ← cut, String.ofList_toList]
      exact filled s component
  · rintro ⟨two | three, filled⟩
    · obtain ⟨g, a, split⟩ := List.length_eq_two.mp two
      refine ⟨⟨.ofList (trim g), .ofList (trim a), none⟩, parse?_eq_some_iff_parts.mpr ⟨?_, ?_⟩⟩
      · simp [parts, split, components]
      · simpa [split, components, solid_iff] using filled
    · obtain ⟨g, a, v, split⟩ := List.length_eq_three.mp three
      refine ⟨⟨.ofList (trim g), .ofList (trim a), some (.ofList (trim v))⟩,
        parse?_eq_some_iff_parts.mpr ⟨?_, ?_⟩⟩
      · simp [parts, split, components]
      · simpa [split, components, solid_iff] using filled

theorem not_blank_of_parse? (read : parse? text = some c) : isBlankText text.toList = false := by
  rw [Bool.eq_false_iff]
  intro blank
  have noColon : ':' ∉ text.toList := notMem_of_isBlankText (by decide) blank
  have long := (exists_parse?_iff.mp ⟨c, read⟩).1
  rw [List.splitOn_eq_singleton noColon] at long
  simp at long

/-- A coordinate that was read is read again from its text. -/
theorem parse?_text (read : parse? text = some c) : parse? c.text = some c :=
  parse?_eq_some_iff.mpr ⟨(parse?_eq_some_iff.mp read).1, c.writes_text⟩

end Uplift.Coordinate
