import Mathlib
import Uplift.Files.Path
import Uplift.Proofs.Text.Trim

/-!
# Paths below a directory

A path that is built by joining proper names to a directory is split into the names of the
directory and the names that were joined (`segments_joinNames`), however the directory is spelled.
The names among the steps of a path are proper (`properName_of_mem_parts`).
-/

namespace Uplift.Files

/-- A name that leads down: it is neither empty, nor one dot, nor two. -/
structure Descends (name : String) : Prop where
  nonempty : name ≠ ""
  notHere : name ≠ "."
  notUp : name ≠ ".."

/-- The name counts in a path, where it is not the first. -/
def Counts (name : String) : Bool := name ≠ "" && name ≠ "."

theorem Descends.counts {name : String} (descends : Descends name) : Counts name := by
  simp [Counts, descends.nonempty, descends.notHere]

/-- The name of one entry in a directory. -/
structure ProperName (name : String) : Prop extends Descends name where
  noSlash : '/' ∉ name.toList

instance (name : String) : Decidable (ProperName name) :=
  decidable_of_iff ((name ≠ "" ∧ name ≠ "." ∧ name ≠ "..") ∧ '/' ∉ name.toList)
    ⟨fun ⟨⟨nonempty, notHere, notUp⟩, noSlash⟩ => ⟨⟨nonempty, notHere, notUp⟩, noSlash⟩,
      fun proper => ⟨⟨proper.nonempty, proper.notHere, proper.notUp⟩, proper.noSlash⟩⟩

/-- Names of entries, one below the other. -/
def ProperNames (names : List String) : Prop := ∀ name ∈ names, ProperName name

instance (names : List String) : Decidable (ProperNames names) :=
  inferInstanceAs (Decidable (∀ name ∈ names, ProperName name))

theorem ProperNames.head {name : String} {names : List String}
    (proper : ProperNames (name :: names)) : ProperName name := proper name (List.mem_cons_self ..)

theorem ProperNames.tail {name : String} {names : List String}
    (proper : ProperNames (name :: names)) : ProperNames names :=
  fun n member => proper n (List.mem_cons_of_mem _ member)

theorem ProperNames.front {names more : List String} (proper : ProperNames (names ++ more)) :
    ProperNames names := fun n member => proper n (List.mem_append_left _ member)

/-- The names between slashes have no slash. -/
theorem slash_not_mem_of_mem_segments {path name : String} (h : name ∈ segments path) :
    '/' ∉ name.toList := by
  obtain ⟨chars, member, rfl⟩ := List.mem_map.mp h
  simpa using Text.notMem_of_mem_splitOn member

theorem segments_ne_nil (path : String) : segments path ≠ [] := by
  simp [segments, List.splitOn_ne_nil]

/-- A name without a slash is its only segment. -/
theorem segments_eq_singleton {name : String} (noSlash : '/' ∉ name.toList) :
    segments name = [name] := by
  simp [segments, List.splitOn_eq_singleton noSlash]

/-- A slash separates the segments before it from those after it. -/
theorem segments_append_slash (a b : String) :
    segments (a ++ "/" ++ b) = segments a ++ segments b := by
  have chars : (a ++ "/" ++ b).toList = a.toList ++ '/' :: b.toList := by simp
  simp [segments, chars, List.splitOn_append_cons_self]

/-- A relative path joined to a directory is separated from it by one slash. -/
theorem join_eq {dir path : String} (nonempty : dir ≠ "") (relative : isAbsolute path = false) :
    (∃ dir', dir = dir' ++ "/" ∧ join dir path = dir' ++ "/" ++ path) ∨
      (dir.toList.getLast? ≠ some '/' ∧ join dir path = dir ++ "/" ++ path) := by
  have filled : dir.isEmpty = false := by simpa using nonempty
  simp only [join, relative, filled, Bool.false_eq_true, if_false]
  by_cases slash : dir.toList.getLast? = some '/'
  · left
    obtain ⟨before, same⟩ := List.getLast?_eq_some_iff.mp slash
    refine ⟨String.ofList before, ?_, ?_⟩
    · rw [← String.toList_inj]
      simpa using same
    · rw [if_pos slash, ← String.toList_inj]
      simp [same]
  · right
    exact ⟨slash, by rw [if_neg slash]⟩

theorem ProperName.isAbsolute_eq_false {name : String} (proper : ProperName name) :
    isAbsolute name = false := by
  cases chars : name.toList with
  | nil => simp [isAbsolute, chars]
  | cons c rest =>
    have noSlash := proper.noSlash
    simp only [chars, List.mem_cons, not_or] at noSlash
    simp [isAbsolute, chars, Ne.symm noSlash.1]

theorem ProperName.getLast?_ne {name : String} (proper : ProperName name) :
    name.toList.getLast? ≠ some '/' :=
  fun slash => proper.noSlash (List.mem_of_getLast? slash)

/-- The segments that a directory contributes to the paths below it: a slash at its end does not
count. -/
def leadOf (dir : String) : List String :=
  if dir.toList.getLast? = some '/' then (segments dir).dropLast else segments dir

/-- The segments of a directory, apart from a slash at its end. -/
theorem segments_eq_leadOf (dir : String) :
    segments dir = leadOf dir ∨ segments dir = leadOf dir ++ [""] := by
  by_cases slash : dir.toList.getLast? = some '/'
  · right
    obtain ⟨before, same⟩ := List.getLast?_eq_some_iff.mp slash
    simp [leadOf, segments, same, List.splitOn_append_cons_self]
  · left
    rw [leadOf, if_neg slash]

theorem segments_join {dir name : String} (nonempty : dir ≠ "") (proper : ProperName name) :
    segments (join dir name) = leadOf dir ++ [name] := by
  rcases join_eq nonempty proper.isAbsolute_eq_false with ⟨before, rfl, joined⟩ | ⟨noSlash, joined⟩
  -- The empty segment after a slash at the end is where the name goes.
  · have empty : segments "" = [""] := by decide
    have lead : leadOf (before ++ "/") = segments before := by
      have split := segments_append_slash before ""
      rw [String.append_empty, empty] at split
      simp [leadOf, split]
    rw [joined, segments_append_slash, segments_eq_singleton proper.noSlash, lead]
  · rw [joined, segments_append_slash, segments_eq_singleton proper.noSlash, leadOf, if_neg noSlash]

theorem isAbsolute_append {a b : String} (nonempty : a ≠ "") :
    isAbsolute (a ++ b) = isAbsolute a := by
  cases chars : a.toList with
  | nil => exact absurd (String.toList_eq_nil_iff.mp chars) nonempty
  | cons c rest => simp [isAbsolute, chars]

theorem isAbsolute_join {dir name : String} (nonempty : dir ≠ "") (proper : ProperName name) :
    isAbsolute (join dir name) = isAbsolute dir := by
  rcases join_eq nonempty proper.isAbsolute_eq_false with ⟨before, rfl, joined⟩ | ⟨-, joined⟩
  · rw [joined, isAbsolute_append nonempty]
  · rw [joined, String.append_assoc, isAbsolute_append nonempty]

/-- A joined name stands at the end of the path. -/
theorem exists_join_eq {dir name : String} (nonempty : dir ≠ "") (proper : ProperName name) :
    ∃ before, join dir name = before ++ name := by
  rcases join_eq nonempty proper.isAbsolute_eq_false with ⟨before, -, joined⟩ | ⟨-, joined⟩
  · exact ⟨_, joined⟩
  · exact ⟨_, joined⟩

theorem join_ne_empty {dir name : String} (nonempty : dir ≠ "") (proper : ProperName name) :
    join dir name ≠ "" := by
  obtain ⟨before, joined⟩ := exists_join_eq nonempty proper
  simp [joined, proper.nonempty]

theorem getLast?_join {dir name : String} (nonempty : dir ≠ "") (proper : ProperName name) :
    (join dir name).toList.getLast? ≠ some '/' := by
  obtain ⟨before, joined⟩ := exists_join_eq nonempty proper
  have filled : name.toList.getLast?.isSome := by simpa using proper.nonempty
  rw [joined, String.toList_append, List.getLast?_append, Option.or_of_isSome filled]
  exact proper.getLast?_ne

/-- Proper names that are joined to a directory are the segments after those of the directory. -/
theorem segments_joinNames {dir : String} {names : List String} (nonempty : dir ≠ "")
    (proper : ProperNames names) (some' : names ≠ []) :
    segments (joinNames dir names) = leadOf dir ++ names := by
  induction names generalizing dir with
  | nil => exact absurd rfl some'
  | cons name rest ih =>
    have below : joinNames dir (name :: rest) = joinNames (join dir name) rest := rfl
    cases rest with
    | nil => exact segments_join nonempty proper.head
    | cons next rest =>
      -- A name that was joined becomes the last of the segments that count for the next.
      have lead : leadOf (join dir name) = leadOf dir ++ [name] := by
        rw [leadOf, if_neg (getLast?_join nonempty proper.head), segments_join nonempty proper.head]
      rw [below, ih (join_ne_empty nonempty proper.head) proper.tail
        (List.cons_ne_nil _ _), lead]
      simp

/-- Names that are joined to a directory leave it absolute or relative. -/
theorem isAbsolute_joinNames {dir : String} {names : List String} (nonempty : dir ≠ "")
    (proper : ProperNames names) :
    isAbsolute (joinNames dir names) = isAbsolute dir := by
  induction names generalizing dir with
  | nil => rfl
  | cons name rest ih =>
    have below : joinNames dir (name :: rest) = joinNames (join dir name) rest := rfl
    rw [below, ih (join_ne_empty nonempty proper.head) proper.tail,
      isAbsolute_join nonempty proper.head]

theorem joinNames_ne_empty {dir : String} {names : List String} (nonempty : dir ≠ "")
    (proper : ProperNames names) : joinNames dir names ≠ "" := by
  induction names generalizing dir with
  | nil => exact nonempty
  | cons name rest ih =>
    exact ih (join_ne_empty nonempty proper.head) proper.tail

theorem innerStep?_eq_some_down {name n : String} (step : innerStep? name = some (.down n)) :
    n = name ∧ Descends name := by
  simp only [innerStep?] at step
  split at step
  · cases step
  · next filled =>
    split at step
    · cases step
    · next notUp =>
      simp only [Bool.or_eq_true, decide_eq_true_eq, not_or] at filled
      exact ⟨(Step.down.inj (Option.some.inj step)).symm, filled.1, filled.2, notUp⟩

/-- The names among the steps of a path are proper. -/
theorem properName_of_mem_parts {path n : String} (step : .down n ∈ parts path) :
    ProperName n := by
  have inner {name : String} (member : name ∈ segments path)
      (down : innerStep? name = some (.down n)) : ProperName n := by
    obtain ⟨rfl, descends⟩ := innerStep?_eq_some_down down
    exact ⟨descends, slash_not_mem_of_mem_segments member⟩
  rw [parts] at step
  cases split : segments path with
  | nil => simp [split] at step
  | cons first rest =>
    rw [split] at inner
    simp only [split, List.mem_append, List.mem_filterMap] at step
    rcases step with lead | ⟨name, member, down⟩
    · split at lead
      · simp at lead
      · split at lead
        · simp at lead
        · exact inner (List.mem_cons_self ..) (by simpa using lead)
    · exact inner (List.mem_cons_of_mem _ member) down

end Uplift.Files
