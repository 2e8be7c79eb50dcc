import Uplift.Proofs.Files.Gone
import Uplift.Proofs.Files.Shape
import Uplift.Proofs.Scan.PlainWalk
import Uplift.Table.Rows

/-!
# The tables below a directory

The listing of data tables is complete and in order: in a proper tree it has every file below the
directory whose path ends in `.csv`, once. But if the names of one file there are no text, whatever
its path ends in, there is no listing (`exists_listing`).
-/

namespace Uplift.Files

namespace Glob

theorem mem_afterName {rest s : List UInt8} :
    rest ∈ afterName s ↔ ∃ lead, s = lead ++ rest ∧ slash ∉ lead := by
  induction s with
  | nil => simp [afterName, eq_comm]
  | cons b s ih =>
    rw [afterName, List.mem_cons]
    constructor
    · rintro (rfl | later)
      · exact ⟨[], rfl, List.not_mem_nil⟩
      · split at later
        · cases later
        · rename_i other
          obtain ⟨lead, rfl, fresh⟩ := ih.mp later
          exact ⟨b :: lead, rfl, List.not_mem_cons_of_ne_of_not_mem (Ne.symm other) fresh⟩
    · rintro ⟨lead, split, fresh⟩
      cases lead with
      | nil => exact .inl split.symm
      | cons c lead =>
        obtain ⟨rfl, rfl⟩ := List.cons.inj split
        rw [List.mem_cons, not_or] at fresh
        rw [if_neg (Ne.symm fresh.1)]
        exact .inr (ih.mpr ⟨lead, rfl, fresh.2⟩)

/-- Bytes are cut behind the last slash among them, if there is one. -/
theorem exists_last_name (s : List UInt8) :
    ∃ lead name, s = lead ++ name ∧ slash ∉ name ∧
      (lead = [] ∨ ∃ above, lead = above ++ [slash]) := by
  induction s with
  | nil => exact ⟨[], [], rfl, List.not_mem_nil, .inl rfl⟩
  | cons b s ih =>
    obtain ⟨lead, name, rfl, fresh, ends⟩ := ih
    rcases ends with rfl | ⟨above, rfl⟩
    · by_cases here : b = slash
      · exact ⟨[b], name, rfl, fresh, .inr ⟨[], by rw [here]; rfl⟩⟩
      · have fresh' := List.not_mem_cons_of_ne_of_not_mem (Ne.symm here) fresh
        exact ⟨[], b :: name, rfl, fresh', .inl rfl⟩
    · exact ⟨b :: (above ++ [slash]), name, rfl, fresh, .inr ⟨b :: above, rfl⟩⟩

/-- Anything that ends with some plain characters, at any depth. -/
theorem isMatch_ending {cs : List Char} {path : String} :
    isMatch (.manyNamesFirst :: .anyName :: cs.map .exactly) path = true ↔
      ∃ lead, Text.toBytes path = lead ++ Text.toBytes (String.ofList cs) := by
  have shape : isMatch (.manyNamesFirst :: .anyName :: cs.map .exactly) path =
      (seqRests (.manyNamesFirst :: .anyName :: cs.map .exactly)
        (Text.toBytes path)).any List.isEmpty := rfl
  rw [shape, List.any_eq_true]
  simp only [List.isEmpty_iff, exists_eq_right, seqRests, rests, List.mem_flatMap,
    nil_mem_seqRests_exactly, List.mem_cons, mem_afterSlashes, mem_afterName]
  constructor
  · rintro ⟨name, whole | ⟨above, split⟩, lead, rfl, -⟩
    · exact ⟨lead, whole.symm⟩
    · exact ⟨above ++ slash :: lead, by rw [split]; simp⟩
  · rintro ⟨lead, same⟩
    obtain ⟨above, name, rfl, fresh, ends⟩ := exists_last_name lead
    refine ⟨name ++ Text.toBytes (String.ofList cs), ?_, name, rfl, fresh⟩
    rcases ends with rfl | ⟨above, rfl⟩
    · exact .inl same.symm
    · exact .inr ⟨above, by rw [same]; simp⟩

end Glob

end Uplift.Files

namespace Uplift.Table

open Files Scan

/-- The names lead to a file below a directory. -/
def IsFile (t : Tree) (dir : String) (names : List String) : Prop :=
  ∃ place content x, t.locate dir = .ok place ∧ t.get? place = some .dir ∧
    t.get? (place ++ names) = some (.file content x)

/-- The names lead to a table below a directory. -/
def IsTable (t : Tree) (dir : String) (names : List String) : Prop :=
  IsFile t dir names ∧ ∃ lead, relative names = lead ++ ".csv"

/-- The names lead to a file below a directory, and they are not all text. -/
def IsForeign (t : Tree) (dir : String) (names : List String) : Prop :=
  IsFile t dir names ∧ isUtf8 names = false

/-- The tables below a directory, in the order of their paths, each once. -/
structure Listing (t : Tree) (dir : String) (tables : List (List String)) : Prop where
  sorted : tables.Pairwise fun a b => namesLe a b = true
  nodup : tables.Nodup
  mem_iff : ∀ names, names ∈ tables ↔ IsTable t dir names

/-- The glob of tables. -/
def tableGlob : Pattern := { glob := .manyNamesFirst :: .anyName :: ".csv".toList.map .exactly }

theorem withGlob_csv (w : Walker) :
    w.withGlob "*.csv" = .ok { w with glob := some [tableGlob] } := rfl

/-- The glob keeps what ends in `.csv`. -/
theorem wants_csv_iff {w : Walker} (glob : w.glob = some [tableGlob]) {names : List String} :
    w.wants names = true ↔ ∃ lead, relative names = lead ++ ".csv" := by
  have kept : w.wants names = true ↔ Glob.isMatch tableGlob.glob (relative names) = true := by
    have keeps : tableGlob.keeps = false := rfl
    have dirOnly : tableGlob.dirOnly = false := rfl
    unfold Walker.wants
    rw [glob]
    cases decided : Glob.isMatch tableGlob.glob (relative names) <;>
      simp [Pattern.verdict, Pattern.isMatch, decided, keeps, dirOnly]
  rw [kept, tableGlob, Glob.isMatch_ending, String.ofList_toList]
  constructor
  · rintro ⟨lead, ending⟩
    rw [Text.toBytes_eq_flatMap, Text.toBytes_eq_flatMap] at ending
    obtain ⟨front, split⟩ := Text.exists_append_of_toBytes (by simp) ending
    refine ⟨String.ofList front, ?_⟩
    rw [← String.toList_inj, split]
    simp
  · rintro ⟨lead, same⟩
    exact ⟨Text.toBytes lead, by rw [same, Text.toBytes_append]⟩

theorem files_of_not_isDir {t : Tree} {dir : String} (noDir : t.isDir dir = false) :
    files t dir = .ok [] := by
  rw [files, noDir]
  rfl

theorem files_of_isDir {t : Tree} {dir : String} (isDir : t.isDir dir = true) :
    files t dir =
      (Walker.collect { root := dir, standardFilters := false, glob := some [tableGlob] } t >>=
        fun tables => .ok (tables.map (joinNames dir))) := by
  simp only [files, isDir, Walker.of, withGlob_csv, Bool.not_true, Bool.false_eq_true, if_false,
    if_true, bind, Except.bind]
  rfl

/-- **The tables below a directory** of a proper tree are listed completely and in order, unless the
names of one of the files there are no text. -/
theorem exists_listing {t : Tree} (proper : t.Proper) (dir : String) :
    ((∀ names, ¬ IsForeign t dir names) ∧
      ∃ tables, Listing t dir tables ∧ files t dir = .ok (tables.map (joinNames dir))) ∨
    ∃ names, IsForeign t dir names ∧
      files t dir = .error (.nonUtf8Path (joinNames dir names)) := by
  cases isDir : t.isDir dir with
  | false =>
    have noFile (names : List String) : ¬ IsFile t dir names := by
      rintro ⟨place, content, x, located, here, -⟩
      rw [Tree.isDir_iff.mpr ⟨place, located, here⟩] at isDir
      cases isDir
    refine .inl ⟨fun names foreign => noFile names foreign.1, [], ⟨.nil, .nil, fun names => ?_⟩,
      files_of_not_isDir isDir⟩
    exact iff_of_false List.not_mem_nil fun table => noFile names table.1
  | true =>
    obtain ⟨place, located, here⟩ := Tree.isDir_iff.mp isDir
    have below (names : List String) : Walker.IsBelow t place names ↔ IsFile t dir names := by
      constructor
      · rintro ⟨-, content, x, file⟩
        exact ⟨place, content, x, located, here, file⟩
      · rintro ⟨place', content, x, located', -, file⟩
        obtain rfl := Except.ok.inj (located.symm.trans located')
        refine ⟨?_, content, x, file⟩
        rintro rfl
        rw [List.append_nil, here] at file
        cases file
    have walked := Walker.collect_plain
      (w := { root := dir, standardFilters := false, glob := some [tableGlob] }) ⟨rfl, rfl, rfl⟩
      proper located
    simp only [below] at walked
    rcases walked with ⟨tables, ran, texts, nodup, sorted, mem_iff⟩ | ⟨names, file, notText, ran⟩
    · refine .inl ⟨fun names foreign => ?_, tables, ⟨sorted, nodup, fun names => ?_⟩, ?_⟩
      · exact Bool.false_ne_true (foreign.2.symm.trans (texts names foreign.1))
      · rw [mem_iff, wants_csv_iff rfl]
        rfl
      · rw [files_of_isDir isDir, ran]
        rfl
    · refine .inr ⟨names, ⟨file, notText⟩, ?_⟩
      rw [files_of_isDir isDir, ran]
      rfl

/-! ## New tables -/

section New

variable {t t' : Tree} {dir : String} {names : List String}

theorem IsTable.ne_nil (table : IsTable t dir names) : names ≠ [] := by
  obtain ⟨⟨place, content, x, -, here, file⟩, -⟩ := table
  rintro rfl
  rw [List.append_nil, here] at file
  cases file

theorem IsTable.proper (table : IsTable t dir names) (proper : t.Proper) : ProperNames names := by
  obtain ⟨⟨place, content, x, -, -, file⟩, -⟩ := table
  exact fun name member => proper.names _ _ file name (List.mem_append_right place member)

theorem IsTable.rootDir (table : IsTable t dir names) (sound : t.Sound) :
    ∃ place, t.RootDir dir place := by
  obtain ⟨⟨place, -, -, located, here, -⟩, -⟩ := table
  exact ⟨place, sound, located, here⟩

/-- Different names lead to different paths. -/
theorem joinNames_inj (nonempty : dir ≠ "") {a b : List String} (properA : ProperNames a)
    (properB : ProperNames b) (filledA : a ≠ []) (filledB : b ≠ [])
    (same : joinNames dir a = joinNames dir b) : a = b := by
  have segmentsA := segments_joinNames nonempty properA filledA
  have segmentsB := segments_joinNames nonempty properB filledB
  rw [same, segmentsB] at segmentsA
  exact (List.append_cancel_left segmentsA).symm

/-- The tables that are listed in one tree and not in another, by their paths or by their names. -/
theorem new_paths (proper : t.Proper) (proper' : t'.Proper) {before after : List (List String)}
    (listing : Listing t dir before) (listing' : Listing t' dir after) :
    (after.map (joinNames dir)).filter (fun p => !(before.map (joinNames dir)).contains p) =
      (after.filter (· ∉ before)).map (joinNames dir) := by
  rw [List.filter_map]
  congr 1
  refine List.filter_congr fun names member => ?_
  have table := (listing'.mem_iff names).mp member
  obtain ⟨place, rootDir⟩ := table.rootDir proper'.sound
  have same : joinNames dir names ∈ before.map (joinNames dir) ↔ names ∈ before := by
    refine ⟨fun listed => ?_, List.mem_map_of_mem⟩
    obtain ⟨others, member, path⟩ := List.mem_map.mp listed
    have other := (listing.mem_iff others).mp member
    rwa [← joinNames_inj rootDir.root_ne_empty (other.proper proper) (table.proper proper')
      other.ne_nil table.ne_nil path]
  simp only [Function.comp_apply, List.contains_eq_mem, same, decide_not]

/-- While directories and links stay, the path of a table that was not there led to nothing. -/
theorem IsTable.gone_before (table : IsTable t' dir names) (proper : t.Proper) (proper' : t'.Proper)
    (keeps : t.KeepsDirs t') (new : ¬ IsTable t dir names) : t.Gone (joinNames dir names) := by
  have below := table.ne_nil
  have spelled := table.proper proper'
  obtain ⟨⟨place, content, x, located, here, file⟩, ending⟩ := table
  by_contra led
  obtain ⟨before, content', x', file'⟩ :=
    keeps.file_before proper.sound ⟨proper'.sound, located, here⟩ spelled below file led
  exact new ⟨⟨place, content', x', before.located, before.dir, file'⟩, ending⟩

end New

end Uplift.Table
