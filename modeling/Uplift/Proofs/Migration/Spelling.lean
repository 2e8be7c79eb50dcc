import Uplift.Proofs.Migration.Confinement

/-!
# Spellings of a path

A path of the project can be spelled in many ways: with blanks around it, with slashes repeated or
at the end, with dots for steps. The tools look at the names in it only (`resolve_eq_ok_iff`), so
two spellings are the same path exactly if their names are the same, and reading one of them gives
the licence to write by any of them and by no others (`resolve_canonical`).
-/

namespace Uplift.Migration.FileTools

open Uplift.Files

variable {f : FileTools} {p q path : String} {names names' : List String} {t : Tree}

/-- The text of a path stays in the project. -/
structure StaysInside (path : String) : Prop where
  filled : Text.trimmed path ≠ ""
  relative : isAbsolute (Text.trimmed path) = false
  noUp : ".." ∉ segments (Text.trimmed path)

/-- What stands between the slashes of a path, apart from dots and from nothing. -/
def namesIn (path : String) : List String := (segments (Text.trimmed path)).filter Counts

/-- The path that the tools use for a path. -/
def target (f : FileTools) (path : String) : Except ToolFault String := (resolve path).map f.pathOf

/-! ## What a path stands for -/

/-- Names without two dots are steps down, as far as they count. -/
theorem namesOf_innerSteps (noUp : ".." ∉ names) :
    namesOf (names.filterMap innerStep?) = some (names.filter Counts) := by
  induction names with
  | nil => rfl
  | cons name names ih =>
    obtain ⟨notUp, noUp⟩ := not_or.mp (List.mem_cons.not.mp noUp)
    by_cases skipped : name = "" ∨ name = "."
    · have step : innerStep? name = none := by simp [innerStep?, skipped]
      have blank : ¬ Counts name = true := by
        rcases skipped with rfl | rfl <;> decide
      rw [List.filterMap_cons_none step, List.filter_cons_of_neg blank, ih noUp]
    · have filled := not_or.mp skipped
      have step : innerStep? name = some (.down name) := by
        simp [innerStep?, filled.1, filled.2, Ne.symm notUp]
      have counts : Counts name = true := by simp [Counts, filled.1, filled.2]
      rw [List.filterMap_cons_some step, List.filter_cons_of_pos counts, namesOf, ih noUp]
      rfl

/-- A path that stays inside stands for the names in it. -/
theorem resolve_of_staysInside (inside : StaysInside path) : resolve path = .ok (namesIn path) := by
  obtain ⟨first, rest, split⟩ := List.exists_cons_of_ne_nil (segments_ne_nil (Text.trimmed path))
  have noUp := inside.noUp
  rw [split, List.mem_cons, not_or] at noUp
  have counted := namesOf_innerSteps noUp.2
  have filled : first ≠ "" := first_ne_empty split inside.filled inside.relative
  have named : namesOf (parts (Text.trimmed path)) = some (namesIn path) := by
    rw [parts_eq split inside.filled, inside.relative, namesIn, split]
    by_cases here : first = "."
    · have blank : ¬ Counts "." = true := by decide
      rw [here, List.filter_cons_of_neg blank]
      exact counted
    · have down : firstStep false first = .down first := by
        simp [firstStep, here, Ne.symm noUp.1]
      have counts : Counts first = true := by simp [Counts, filled, here]
      rw [down, List.filter_cons_of_pos counts, namesOf, counted]
      rfl
  simp [resolve, inside.filled, named]

theorem resolve_eq_ok_iff : resolve path = .ok names ↔ StaysInside path ∧ namesIn path = names := by
  constructor
  · intro resolved
    have filled : Text.trimmed path ≠ "" := by
      intro empty
      simp [resolve, empty] at resolved
    have notOutside :
        ¬ (isAbsolute (Text.trimmed path) = true ∨ ".." ∈ segments (Text.trimmed path)) := by
      intro outside
      rw [resolve_outside_iff.mpr ⟨filled, outside⟩] at resolved
      cases resolved
    rw [not_or, Bool.not_eq_true] at notOutside
    have inside : StaysInside path := ⟨filled, notOutside.1, notOutside.2⟩
    rw [resolve_of_staysInside inside] at resolved
    exact ⟨inside, Except.ok.inj resolved⟩
  · rintro ⟨inside, rfl⟩
    exact resolve_of_staysInside inside

theorem not_staysInside {fault : ToolFault} (refused : resolve path = .error fault) :
    ¬ StaysInside path := fun inside => by
  cases refused.symm.trans (resolve_of_staysInside inside)

theorem StaysInside.properNames (inside : StaysInside path) : ProperNames (namesIn path) :=
  properNames_of_resolve (resolve_of_staysInside inside)

/-! ## The path that is used -/

/-- What stands before the names of a path in a directory: the directory, with a slash at its end
unless there is no directory. -/
def begins (dir : String) : String :=
  if dir = "" ∨ dir.toList.getLast? = some '/' then dir else dir ++ "/"

theorem join_eq_begins {dir name : String} (proper : ProperName name) :
    join dir name = begins dir ++ name := by
  by_cases nowhere : dir = ""
  · simp [join, begins, proper.isAbsolute_eq_false, nowhere]
  · by_cases slash : dir.toList.getLast? = some '/' <;>
      simp [join, begins, proper.isAbsolute_eq_false, nowhere, slash]

/-- The text of a path is that of its directory, with the names after it. -/
theorem joinNames_eq_begins {dir : String} (proper : ProperNames names) (below : names ≠ []) :
    joinNames dir names = begins dir ++ relative names := by
  induction names generalizing dir with
  | nil => exact absurd rfl below
  | cons name rest ih =>
    have joined : joinNames dir (name :: rest) = joinNames (begins dir ++ name) rest := by
      rw [← join_eq_begins proper.head, joinNames, List.foldl_cons, joinNames]
    cases rest with
    | nil => rw [joined, relative, String.intercalate_singleton, joinNames, List.foldl_nil]
    | cons next rest =>
      -- What a name ends is not at its end, since the name has no slash.
      have filled : name.toList.getLast?.isSome := by simpa using proper.head.nonempty
      have noSlash : (begins dir ++ name).toList.getLast? ≠ some '/' := by
        rw [String.toList_append, List.getLast?_append, Option.or_of_isSome filled]
        exact proper.head.getLast?_ne
      have further : begins (begins dir ++ name) = begins dir ++ name ++ "/" := by
        rw [begins, if_neg (not_or.mpr ⟨by simp [proper.head.nonempty], noSlash⟩)]
      rw [joined, ih proper.tail (List.cons_ne_nil _ _), further, relative, relative,
        ← String.toList_inj]
      simp [String.toList_intercalate]

theorem pathOf_eq (proper : ProperNames names) :
    f.pathOf names = if names = [] then f.root else begins f.root ++ relative names := by
  by_cases here : names = []
  · rw [if_pos here, here, pathOf, joinNames, List.foldl_nil]
  · rw [if_neg here, pathOf, joinNames_eq_begins proper here]

theorem parts_name {name : String} (proper : ProperName name) : parts name = [.down name] := by
  rw [parts_eq (segments_eq_singleton proper.noSlash) proper.nonempty, proper.isAbsolute_eq_false]
  simp [firstStep, proper.notHere, proper.notUp]

/-- The path of names takes the steps of the project and then those names. -/
theorem parts_pathOf (proper : ProperNames names) :
    parts (f.pathOf names) = parts f.root ++ names.map .down := by
  cases names with
  | nil => simp [pathOf, joinNames]
  | cons name names =>
    by_cases nowhere : f.root = ""
    · -- The first name is where the path begins, and the others are below it.
      have first : join "" name = name := by simp [join, proper.head.isAbsolute_eq_false]
      have below : f.pathOf (name :: names) = joinNames name names := by
        rw [pathOf, nowhere, joinNames, List.foldl_cons, first, joinNames]
      have empty : parts "" = [] := by decide
      rw [below, nowhere, empty, List.nil_append, List.map_cons, ← List.singleton_append,
        ← parts_name proper.head]
      cases names with
      | nil => simp [joinNames]
      | cons next names =>
        exact parts_joinNames proper.head.nonempty proper.tail (List.cons_ne_nil _ _)
    · exact parts_joinNames nowhere proper (List.cons_ne_nil _ _)

/-- Different names are the steps of different paths. -/
theorem parts_pathOf_inj (proper : ProperNames names) (proper' : ProperNames names') :
    parts (f.pathOf names) = parts (f.pathOf names') ↔ names = names' := by
  have downs : names.map Step.down = names'.map Step.down ↔ names = names' :=
    List.map_inj_right fun _ _ => Step.down.inj
  rw [parts_pathOf proper, parts_pathOf proper', List.append_cancel_left_eq, downs]

theorem target_eq_ok_iff {place : String} :
    f.target p = .ok place ↔ StaysInside p ∧ place = f.pathOf (namesIn p) := by
  cases resolved : resolve p with
  | error fault => simp [target, resolved, Except.map, not_staysInside resolved]
  | ok names =>
    obtain ⟨inside, rfl⟩ := resolve_eq_ok_iff.mp resolved
    simp [target, resolved, Except.map, inside, eq_comm]

/-- Two paths that are taken lead to the same file exactly if the same names are in them. -/
theorem target_eq_iff (inside : StaysInside p) (inside' : StaysInside q) :
    f.target p = f.target q ↔ namesIn p = namesIn q := by
  rw [target_eq_ok_iff.mpr ⟨inside, rfl⟩, target_eq_ok_iff.mpr ⟨inside', rfl⟩, Except.ok.injEq]
  constructor
  · intro same
    exact (parts_pathOf_inj (f := f) inside.properNames inside'.properNames).mp
      (congrArg parts same)
  · exact congrArg f.pathOf

/-! ## Licences -/

variable {u v : ToolUse} {text content : String}

/-- A write is let through if its path stays inside and there is a licence for its names. -/
theorem perform_write_refused_iff (meant : v.meant = .ok (.write path content)) :
    (∃ fault, (f.perform v t).1 = .error (.toolCall fault)) ↔
      ¬ (StaysInside path ∧ namesIn path ∈ f.licensed) := by
  rw [perform_of_meant meant, perform_write, write]
  cases resolved : resolve path with
  | error fault => simp [not_staysInside resolved]
  | ok names =>
    obtain ⟨inside, rfl⟩ := resolve_eq_ok_iff.mp resolved
    by_cases licensed : namesIn path ∈ f.licensed
    · rcases written : t.writeTextIn (parent? (f.pathOf (namesIn path)))
        (f.pathOf (namesIn path)) content with ⟨⟨failed, e⟩ | ⟨⟩, t'⟩ <;>
        simp [licensed, inside, written]
    · simp [licensed]

/-- Reading a path licenses the names in it, and takes no licence away. -/
theorem licensed_perform_read (meant : u.meant = .ok (.read path))
    (succeeds : (f.perform u t).1 = .ok text) :
    StaysInside path ∧ ∀ names, names ∈ (f.perform u t).2.1.licensed ↔
      names = namesIn path ∨ names ∈ f.licensed := by
  have performs := perform_performs f t u
  generalize f.perform u t = run at performs succeeds ⊢
  obtain ⟨result, f', t'⟩ := run
  subst succeeds
  cases performs with
  | read meant' resolved =>
    obtain rfl := ToolUse.read.inj (Except.ok.inj (meant.symm.trans meant'))
    obtain ⟨inside, rfl⟩ := resolve_eq_ok_iff.mp resolved
    refine ⟨inside, fun names => ?_⟩
    by_cases same : names = namesIn path <;> simp [spend, same]
  | write meant' => cases meant.symm.trans meant'

/-- What the tools make of the spellings of a path. -/
structure Canonical (f : FileTools) : Prop where
  /-- A path is taken exactly if its text stays in the project. -/
  taken : ∀ p, (∃ place, f.target p = .ok place) ↔ StaysInside p
  /-- The path that is used for it is that of the project, with the names in it one after the
  other. -/
  extends_root : ∀ p place, f.target p = .ok place → ProperNames (namesIn p) ∧
    parts place = parts f.root ++ (namesIn p).map .down ∧
    place = if namesIn p = [] then f.root else begins f.root ++ relative (namesIn p)
  /-- The same path is used for two of them exactly if the same names are in them. -/
  same_iff : ∀ p q, (∃ place, f.target p = .ok place ∧ f.target q = .ok place) ↔
    StaysInside p ∧ StaysInside q ∧ namesIn p = namesIn q
  /-- Otherwise the paths that are used differ in their steps, and not in spelling only. -/
  same_steps_iff : ∀ p q place place', f.target p = .ok place → f.target q = .ok place' →
    (parts place = parts place' ↔ namesIn p = namesIn q)
  /-- After a path was read, writes are refused unless they are of the same path, however it is
  spelled, or had a licence before. -/
  licence : ∀ p text u t, u.meant = .ok (.read p) → (f.perform u t).1 = .ok text →
    ∀ q content v t', v.meant = .ok (.write q content) →
      ((∃ fault, ((f.perform u t).2.1.perform v t').1 = .error (.toolCall fault)) ↔
        ¬ (StaysInside q ∧ (namesIn q = namesIn p ∨ namesIn q ∈ f.licensed)))

/-- The names in a path are all that counts, for every project and all texts of paths. -/
theorem resolve_canonical (f : FileTools) : Canonical f where
  taken p := by simp [target_eq_ok_iff]
  extends_root p place used := by
    obtain ⟨inside, isPath⟩ := target_eq_ok_iff.mp used
    rw [isPath]
    exact ⟨inside.properNames, parts_pathOf inside.properNames, pathOf_eq inside.properNames⟩
  same_iff p q := by
    constructor
    · rintro ⟨place, used, used'⟩
      have inside := (target_eq_ok_iff.mp used).1
      have inside' := (target_eq_ok_iff.mp used').1
      exact ⟨inside, inside', (target_eq_iff inside inside').mp (used.trans used'.symm)⟩
    · rintro ⟨inside, inside', same⟩
      have used : f.target p = .ok (f.pathOf (namesIn p)) := target_eq_ok_iff.mpr ⟨inside, rfl⟩
      exact ⟨_, used, ((target_eq_iff inside inside').mpr same).symm.trans used⟩
  same_steps_iff p q place place' used used' := by
    obtain ⟨inside, isPath⟩ := target_eq_ok_iff.mp used
    obtain ⟨inside', isPath'⟩ := target_eq_ok_iff.mp used'
    rw [isPath, isPath']
    exact parts_pathOf_inj inside.properNames inside'.properNames
  licence p text u t meant succeeds q content v t' meant' := by
    rw [perform_write_refused_iff meant', (licensed_perform_read meant succeeds).2]

/-- A file that was read by one spelling can be written by another, and no other file can. -/
theorem resolve_canonical_sample :
    let tools : FileTools := { root := "/p" }
    let later := (tools.perform (.read " ./a/") sampleTree).2.1
    (∃ place, tools.target " ./a/" = .ok place ∧ tools.target "a//." = .ok place) ∧
      (¬ ∃ fault, (later.perform (.write "a//." "yes") sampleTree).1 = .error (.toolCall fault)) ∧
      ∃ fault, (later.perform (.write "b" "yes") sampleTree).1 = .error (.toolCall fault) := by
  intro tools later
  have canonical := resolve_canonical tools
  have spelled : StaysInside " ./a/" := ⟨by decide, by decide, by decide⟩
  have other : StaysInside "a//." := ⟨by decide, by decide, by decide⟩
  have resolved : resolve " ./a/" = .ok ["a"] := by decide
  have path : joinNames "/p" ["a"] = "/p/a" := by decide
  have read : (tools.perform (.read " ./a/") sampleTree).1 = .ok "hi" := by
    simp [perform, FileTools.read, resolved, pathOf, path, sampleTree_textOf, tools]
  refine ⟨(canonical.same_iff _ _).mpr ⟨spelled, other, by decide⟩, ?_, ?_⟩
  · rw [canonical.licence _ _ _ _ rfl read _ _ _ _ rfl, not_not]
    exact ⟨other, .inl (by decide)⟩
  · rw [canonical.licence _ _ _ _ rfl read _ _ _ _ rfl]
    rintro ⟨-, same | licensed⟩
    · exact absurd same (by decide)
    · cases licensed

end Uplift.Migration.FileTools
