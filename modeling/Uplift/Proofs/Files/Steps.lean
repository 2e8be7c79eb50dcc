import Uplift.Proofs.Files.Names

/-!
# Paths and their steps

The steps of a path that is not empty are its segments, apart from the blank ones after the first
(`parts_eq`). Only the first step may be the root or a dot (`normal_parts`), and steps of that form
are those of the path that `ofSteps` makes of them (`parts_ofSteps`). So the parent of a path is the
path of all its steps but the last, and has parents in turn (`parent?_eq`).
-/

namespace Uplift.Files

/-- The parent of a path that ends with a name takes all steps but the last. -/
theorem parent?_eq {path name : String} {steps : List Step}
    (split : parts path = steps ++ [.down name]) : parent? path = some (ofSteps steps) := by
  simp only [parent?, split, List.reverse_append, List.reverse_cons, List.reverse_nil,
    List.nil_append, List.singleton_append, List.reverse_reverse]

/-! ## The steps of a path -/

variable {path first name : String} {rest names : List String} {steps : List Step}

/-- A path is absolute if and only if nothing stands before its first slash. -/
theorem isAbsolute_iff :
    isAbsolute path = true ↔ ∃ next rest, segments path = "" :: next :: rest := by
  cases chars : path.toList with
  | nil => simp [isAbsolute, segments, chars]
  | cons c cs =>
    cases split : cs.splitOn '/' with
    | nil => exact absurd split (List.splitOn_ne_nil _ _)
    | cons next rest =>
      by_cases slash : c = '/'
      · simp [isAbsolute, segments, chars, slash, List.splitOn_cons_eq_if_modifyHead, split]
      · simp [isAbsolute, segments, chars, slash, List.splitOn_cons_eq_if_modifyHead, split]

/-- A path begins with a name, unless it is absolute or empty. -/
theorem first_ne_empty (split : segments path = first :: rest) (nonempty : path ≠ "")
    (relative : isAbsolute path = false) : first ≠ "" := by
  rintro rfl
  cases rest with
  | nil =>
    have joined : ['/'].intercalate (path.toList.splitOn '/') = path.toList :=
      List.intercalate_splitOn '/'
    have chars : path.toList.splitOn '/' = [[]] := by
      simpa [segments] using split
    rw [chars] at joined
    exact nonempty (String.toList_eq_nil_iff.mp (by simpa using joined.symm))
  | cons next rest => simp [isAbsolute_iff.mpr ⟨next, rest, split⟩] at relative

/-- The first step of a path. -/
def firstStep (absolute : Bool) (name : String) : Step :=
  if absolute then .root else if name = "." then .here else if name = ".." then .up else .down name

theorem parts_eq (split : segments path = first :: rest) (nonempty : path ≠ "") :
    parts path = firstStep (isAbsolute path) first :: rest.filterMap innerStep? := by
  rw [parts, split]
  cases absolute : isAbsolute path with
  | true => simp [firstStep]
  | false =>
    have filled := first_ne_empty split nonempty absolute
    by_cases here : first = "."
    · simp [firstStep, here]
    · by_cases up : first = ".." <;> simp [firstStep, innerStep?, filled, here, up]

theorem firstStep_eq_root_iff {absolute : Bool} :
    firstStep absolute name = .root ↔ absolute = true := by
  cases absolute with
  | true => simp [firstStep]
  | false => by_cases here : name = "." <;> by_cases up : name = ".." <;> simp [firstStep, here, up]

theorem root_mem_parts_iff (nonempty : path ≠ "") :
    .root ∈ parts path ↔ isAbsolute path = true := by
  cases split : segments path with
  | nil => exact absurd split (segments_ne_nil path)
  | cons first rest =>
    have never (name : String) : innerStep? name ≠ some .root := by
      simp only [innerStep?]
      split
      · simp
      · split <;> simp
    simp [parts_eq split nonempty, eq_comm (a := Step.root), firstStep_eq_root_iff, never]

theorem up_mem_parts_iff (nonempty : path ≠ "") : .up ∈ parts path ↔ ".." ∈ segments path := by
  cases split : segments path with
  | nil => exact absurd split (segments_ne_nil path)
  | cons first rest =>
    have inner (name : String) : innerStep? name = some .up ↔ name = ".." := by
      by_cases up : name = ".."
      · simp [innerStep?, up]
      · by_cases blank : name = "" ∨ name = "." <;> simp [innerStep?, up, blank]
    have begins : firstStep (isAbsolute path) first = .up ↔ first = ".." := by
      cases absolute : isAbsolute path with
      | true =>
        obtain ⟨next, more, same⟩ := isAbsolute_iff.mp absolute
        obtain rfl := (List.cons.inj (split.symm.trans same)).1
        decide
      | false =>
        by_cases here : first = "."
        · simp [firstStep, here]
        · by_cases up : first = ".." <;> simp [firstStep, here, up]
    simp [parts_eq split nonempty, eq_comm (a := Step.up), eq_comm (a := ".."), begins, inner]

/-- A step that may stand after another. -/
def Step.Inner : Step → Prop
  | .up => True
  | .down name => ProperName name
  | _ => False

/-- Steps of which only the first may be the root or a dot. -/
inductive Normal : List Step → Prop
  | intro {first : Step} {rest : List Step} : first.Inner ∨ first = .root ∨ first = .here →
      (∀ step ∈ rest, step.Inner) → Normal (first :: rest)

theorem Step.Inner.name_eq {step : Step} (inner : step.Inner) :
    step.name ≠ "" ∧ '/' ∉ step.name.toList ∧ innerStep? step.name = some step ∧
      firstStep false step.name = step := by
  cases step with
  | root | here => exact inner.elim
  | up => decide
  | down name =>
    have proper : ProperName name := inner
    refine ⟨proper.nonempty, proper.noSlash, ?_, ?_⟩
    · simp [Step.name, innerStep?, proper.nonempty, proper.notHere, proper.notUp]
    · simp [Step.name, firstStep, proper.notHere, proper.notUp]

theorem inner_of_innerStep? {step : Step} (noSlash : '/' ∉ name.toList)
    (found : innerStep? name = some step) : step.Inner := by
  cases step with
  | up => trivial
  | down n =>
    obtain ⟨rfl, descends⟩ := innerStep?_eq_some_down found
    exact ⟨descends, noSlash⟩
  | root | here =>
    simp only [innerStep?] at found
    split at found
    · cases found
    · split at found <;> cases found

theorem normal_parts (nonempty : path ≠ "") : Normal (parts path) := by
  cases split : segments path with
  | nil => exact absurd split (segments_ne_nil path)
  | cons first rest =>
    have noSlash {name : String} (member : name ∈ first :: rest) : '/' ∉ name.toList :=
      slash_not_mem_of_mem_segments (split ▸ member)
    rw [parts_eq split nonempty]
    refine .intro ?_ fun step member => ?_
    · cases absolute : isAbsolute path with
      | true => exact .inr (.inl rfl)
      | false =>
        have filled := first_ne_empty split nonempty absolute
        simp only [firstStep, Bool.false_eq_true, if_false]
        split
        · exact .inr (.inr rfl)
        · next notHere =>
          split
          · exact .inl trivial
          · next notUp =>
            exact .inl (ProperName.mk ⟨filled, notHere, notUp⟩ (noSlash (List.mem_cons_self ..)))
    · obtain ⟨name, inRest, found⟩ := List.mem_filterMap.mp member
      exact inner_of_innerStep? (noSlash (List.mem_cons_of_mem _ inRest)) found

theorem Normal.append {more : List Step} (normal : Normal steps)
    (inner : ∀ step ∈ more, step.Inner) : Normal (steps ++ more) := by
  obtain ⟨begins, follow⟩ := normal
  refine .intro begins fun step member => ?_
  rcases List.mem_append.mp member with old | new
  · exact follow step old
  · exact inner step new

theorem Normal.ne_nil (normal : Normal steps) : steps ≠ [] := by
  cases normal
  simp

/-! ## The path of steps -/

theorem segments_ofSteps (normal : Normal steps) (below : steps ≠ [.root]) :
    segments (ofSteps steps) = steps.map Step.name := by
  have noSlash : ∀ chars ∈ (steps.map Step.name).map String.toList, '/' ∉ chars := by
    intro chars member
    obtain ⟨name, named, rfl⟩ := List.mem_map.mp member
    obtain ⟨step, stepped, rfl⟩ := List.mem_map.mp named
    obtain ⟨begins, follow⟩ := normal
    rcases List.mem_cons.mp stepped with rfl | later
    · rcases begins with inner | rfl | rfl
      · exact inner.name_eq.2.1
      · decide
      · decide
    · exact (follow step later).name_eq.2.1
  have filled : (steps.map Step.name).map String.toList ≠ [] := by simpa using normal.ne_nil
  rw [ofSteps, if_neg below, segments, String.toList_intercalate]
  have split := List.splitOn_intercalate '/' noSlash filled
  simpa [Function.comp_def] using congrArg (List.map String.ofList) split

theorem isAbsolute_iff_parts (nonempty : path ≠ "") :
    isAbsolute path = true ↔ (parts path).head? = some .root := by
  cases split : segments path with
  | nil => exact absurd split (segments_ne_nil path)
  | cons first rest =>
    rw [parts_eq split nonempty, List.head?_cons, Option.some_inj, firstStep_eq_root_iff]

theorem ofSteps_ne_empty (normal : Normal steps) : ofSteps steps ≠ "" := by
  intro empty
  have below : steps ≠ [.root] := by
    rintro rfl
    exact absurd empty (by decide)
  have split := segments_ofSteps normal below
  have blank : segments "" = [""] := by decide
  rw [empty, blank] at split
  obtain ⟨begins, follow⟩ := normal
  -- There is one step only, and no other than the root has an empty name.
  obtain ⟨unnamed, noMore⟩ := List.cons.inj split
  obtain rfl := List.map_eq_nil_iff.mp noMore.symm
  rcases begins with inner | rfl | rfl
  · exact inner.name_eq.1 unnamed.symm
  · exact below rfl
  · exact absurd unnamed (by decide)

/-- The steps of a path that takes steps are these. -/
theorem parts_ofSteps (normal : Normal steps) : parts (ofSteps steps) = steps := by
  by_cases atRoot : steps = [.root]
  · subst atRoot
    decide
  have split := segments_ofSteps normal atRoot
  have nonempty := ofSteps_ne_empty normal
  obtain @⟨first, rest, begins, follow⟩ := normal
  rw [List.map_cons] at split
  have relative (filled : first.name ≠ "") : isAbsolute (ofSteps (first :: rest)) = false := by
    rw [Bool.eq_false_iff]
    intro absolute
    obtain ⟨next, more, same⟩ := isAbsolute_iff.mp absolute
    exact filled (List.cons.inj (split.symm.trans same)).1
  have begin' : firstStep (isAbsolute (ofSteps (first :: rest))) first.name = first := by
    rcases begins with inner | rfl | rfl
    · rw [relative inner.name_eq.1]
      exact inner.name_eq.2.2.2
    · obtain ⟨next, more, rfl⟩ := List.exists_cons_of_ne_nil fun none' => atRoot (none' ▸ rfl)
      exact firstStep_eq_root_iff.mpr (isAbsolute_iff.mpr ⟨_, _, split⟩)
    · rw [relative (by decide)]
      decide
  have follow' : (rest.map Step.name).filterMap innerStep? = rest := by
    rw [List.filterMap_map]
    refine (List.filterMap_congr fun step member => ?_).trans List.filterMap_some
    exact (follow step member).name_eq.2.2.1
  rw [parts_eq split nonempty, begin', follow']

/-! ## Paths below a directory -/

theorem ProperNames.inner (proper : ProperNames names) :
    ∀ step ∈ names.map Step.down, step.Inner := by
  intro step member
  obtain ⟨name, named, rfl⟩ := List.mem_map.mp member
  exact proper name named

theorem ProperNames.steps_eq (proper : ProperNames names) :
    names.filterMap innerStep? = names.map Step.down := by
  rw [← List.filterMap_eq_map]
  refine List.filterMap_congr fun name member => ?_
  have inner : (Step.down name).Inner := proper name member
  exact inner.name_eq.2.2.1

theorem names_filterMap (names : List String) :
    (names.filterMap innerStep?).map Step.name = names.filter Counts := by
  induction names with
  | nil => rfl
  | cons name names ih =>
    by_cases counts : Counts name = true
    · have named : ∃ step, innerStep? name = some step ∧ step.name = name := by
        simp only [Counts, Bool.and_eq_true, decide_eq_true_eq] at counts
        by_cases up : name = ".."
        · exact ⟨.up, by simp [innerStep?, up], up.symm⟩
        · exact ⟨.down name, by simp [innerStep?, counts.1, counts.2, up], rfl⟩
      obtain ⟨step, found, same⟩ := named
      rw [List.filterMap_cons_some found, List.map_cons, ih, same, List.filter_cons_of_pos counts]
    · have skipped : innerStep? name = none := by
        simp only [Counts, Bool.and_eq_true, decide_eq_true_eq, not_and, not_not] at counts
        by_cases empty : name = ""
        · simp [innerStep?, empty]
        · simp [innerStep?, counts empty]
      rw [List.filterMap_cons_none skipped, ih, List.filter_cons_of_neg counts]

variable {dir : String}

theorem leadOf_ne_nil (dir : String) : leadOf dir ≠ [] := by
  by_cases slash : dir.toList.getLast? = some '/'
  · obtain ⟨before, same⟩ := List.getLast?_eq_some_iff.mp slash
    simp [leadOf, segments, same, List.splitOn_append_cons_self, List.splitOn_ne_nil]
  · rw [leadOf, if_neg slash]
    exact segments_ne_nil dir

/-- The steps of a directory, whether a slash stands at its end or not. -/
theorem parts_eq_leadOf (nonempty : dir ≠ "") : ∃ first rest, leadOf dir = first :: rest ∧
    parts dir = firstStep (isAbsolute dir) first :: rest.filterMap innerStep? := by
  obtain ⟨first, rest, lead⟩ := List.exists_cons_of_ne_nil (leadOf_ne_nil dir)
  refine ⟨first, rest, lead, ?_⟩
  rcases segments_eq_leadOf dir with split | split
  · exact parts_eq (split.trans lead) nonempty
  · rw [lead, List.cons_append] at split
    have skipped : innerStep? "" = none := by decide
    simp [parts_eq split nonempty, skipped]

/-- The names of a directory's steps are those that a walk takes to it. -/
theorem names_parts (nonempty : dir ≠ "") : ∃ first rest, leadOf dir = first :: rest ∧
    (parts dir).map Step.name = first :: rest.filter Counts := by
  obtain ⟨first, rest, lead, steps⟩ := parts_eq_leadOf nonempty
  refine ⟨first, rest, lead, ?_⟩
  rw [steps, List.map_cons, names_filterMap]
  congr 1
  cases absolute : isAbsolute dir with
  | false =>
    by_cases here : first = "."
    · simp [firstStep, here, Step.name]
    · by_cases up : first = ".." <;> simp [firstStep, here, up, Step.name]
  | true =>
    obtain ⟨next, more, split⟩ := isAbsolute_iff.mp absolute
    rcases segments_eq_leadOf dir with same | same <;> rw [split, lead] at same <;>
      exact (List.cons.inj same).1

/-- The steps of a path below a directory. -/
theorem parts_joinNames (nonempty : dir ≠ "") (proper : ProperNames names) (below : names ≠ []) :
    parts (joinNames dir names) = parts dir ++ names.map Step.down := by
  obtain ⟨first, rest, lead, steps⟩ := parts_eq_leadOf nonempty
  have split : segments (joinNames dir names) = first :: (rest ++ names) := by
    rw [segments_joinNames nonempty proper below, lead, List.cons_append]
  rw [parts_eq split (joinNames_ne_empty nonempty proper), isAbsolute_joinNames nonempty proper,
    List.filterMap_append, proper.steps_eq, steps, List.cons_append]

/-- The path below a directory that no blank segments are left in. -/
def pathBelow (dir : String) (names : List String) : String :=
  ofSteps (parts dir ++ names.map Step.down)

theorem normal_below (nonempty : dir ≠ "") (proper : ProperNames names) :
    Normal (parts dir ++ names.map Step.down) := (normal_parts nonempty).append proper.inner

theorem pathBelow_ne_empty (nonempty : dir ≠ "") (proper : ProperNames names) :
    pathBelow dir names ≠ "" := ofSteps_ne_empty (normal_below nonempty proper)

/-- The parent of a path below a directory. -/
theorem parent?_joinNames (nonempty : dir ≠ "") (proper : ProperNames (names ++ [name])) :
    parent? (joinNames dir (names ++ [name])) = some (pathBelow dir names) := by
  have split : parts (joinNames dir (names ++ [name])) =
      parts dir ++ names.map Step.down ++ [.down name] := by
    simp [parts_joinNames nonempty proper]
  exact parent?_eq split

theorem parent?_pathBelow (nonempty : dir ≠ "") (proper : ProperNames (names ++ [name])) :
    parent? (pathBelow dir (names ++ [name])) = some (pathBelow dir names) := by
  have split : parts (pathBelow dir (names ++ [name])) =
      parts dir ++ names.map Step.down ++ [.down name] := by
    rw [pathBelow, parts_ofSteps (normal_below nonempty proper)]
    simp
  exact parent?_eq split

theorem segments_pathBelow (nonempty : dir ≠ "") (proper : ProperNames names)
    (below : names ≠ []) :
    segments (pathBelow dir names) = (parts dir).map Step.name ++ names := by
  have notRoot : parts dir ++ names.map Step.down ≠ [.root] := by
    intro same
    have long := congrArg List.length same
    have dirSteps := List.length_pos_iff.mpr (normal_parts nonempty).ne_nil
    have nameSteps := List.length_pos_iff.mpr below
    simp only [List.length_append, List.length_map, List.length_cons, List.length_nil] at long
    omega
  rw [pathBelow, segments_ofSteps (normal_below nonempty proper) notRoot]
  simp [Function.comp_def, Step.name]

theorem isAbsolute_pathBelow (nonempty : dir ≠ "") (proper : ProperNames names) :
    isAbsolute (pathBelow dir names) = isAbsolute dir := by
  rw [Bool.eq_iff_iff, isAbsolute_iff_parts (pathBelow_ne_empty nonempty proper),
    isAbsolute_iff_parts nonempty, pathBelow, parts_ofSteps (normal_below nonempty proper),
    List.head?_append_of_ne_nil _ (normal_parts nonempty).ne_nil]

end Uplift.Files
