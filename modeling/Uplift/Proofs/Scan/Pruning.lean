import Uplift.Proofs.Files.Spelled
import Uplift.Proofs.Scan.Unlinked

/-!
# Skipped directories

A walk does not enter directories with a skipped name. In a proper tree, and if it follows no links,
it gives just those files of the full walk that have no such directory above them
(`Walker.collect_skipping`): neither the name of a file nor that of the walked directory counts.
-/

namespace Uplift.Scan.Walker

open Files

variable {w : Walker} {t : Tree} {levels : List Level} {dir : Place} {names more : List String}
  {skips : List String}

/-- The walker that skips directories with these names, and no others. -/
def skipping (w : Walker) (skips : List String) : Walker := { w with skipDirs := skips }

/-- No directory above a file has a skipped name; the names lead to the file from the directory that
is walked. -/
def Spared (skips names : List String) : Prop := ∀ name ∈ names.dropLast, name ∉ skips

instance (skips names : List String) : Decidable (Spared skips names) :=
  inferInstanceAs (Decidable (∀ name ∈ names.dropLast, name ∉ skips))

/-- Of the entries that the full walk admits, only directories with a skipped name are left out. -/
theorem admits_skipping {name : String} {isDir : Bool} :
    (w.skipping skips).admits levels (names ++ [name]) isDir = true ↔
      (w.skipping []).admits levels (names ++ [name]) isDir = true ∧
        (isDir = true → name ∉ skips) := by
  unfold admits
  rw [Bool.and_eq_true, Bool.and_eq_true, List.getLastD_concat]
  show _ ∧ (!(isDir && skips.contains name)) = true ↔
    (_ ∧ (!(isDir && [].contains name)) = true) ∧ _
  cases isDir <;> simp [skipping]

theorem spared_cons_iff {name : String} (filled : more ≠ []) :
    Spared skips (name :: more) ↔ name ∉ skips ∧ Spared skips more := by
  rw [Spared, List.dropLast_cons_of_ne_nil filled, List.forall_mem_cons]
  rfl

/-- The walk comes to just those files of the full walk that are spared. -/
theorem comes_skipping_iff : Comes (w.skipping skips) t levels dir names more ↔
    Comes (w.skipping []) t levels dir names more ∧ Spared skips more := by
  constructor
  · intro comes
    induction comes with
    | file here admitted =>
      exact ⟨.file here (admits_skipping.mp admitted).1, by simp [Spared]⟩
    | down here admitted comes ih =>
      obtain ⟨admitted, entered⟩ := admits_skipping.mp admitted
      exact ⟨.down here admitted ih.1, (spared_cons_iff comes.ne_nil).mpr ⟨entered rfl, ih.2⟩⟩
  · rintro ⟨comes, spared⟩
    induction comes with
    | file here admitted => exact .file here (admits_skipping.mpr ⟨admitted, by simp⟩)
    | down here admitted comes ih =>
      obtain ⟨entered, spared⟩ := (spared_cons_iff comes.ne_nil).mp spared
      exact .down here (admits_skipping.mpr ⟨admitted, fun _ => entered⟩) (ih spared)

/-- **Skipping directories is the same as leaving out what stands below them.** Where the full walk
of a directory succeeds, the walk that skips directories gives the files of the full walk above
which, below the walked directory, no directory has a skipped name. They are files, in strict
order. -/
theorem collect_skipping (unlinked : w.followLinks = false) (proper : t.Proper)
    {paths : List (List String)} (ran : (w.skipping []).collect t = .ok paths)
    (skips : List String) :
    (w.skipping skips).collect t = .ok (paths.filter (Spared skips)) ∧
    (paths.filter (Spared skips)).Pairwise (List.Lex (· < ·)) ∧
    (paths.filter (Spared skips)).Nodup ∧
    ∃ place, t.locate w.root = .ok place ∧ ∀ names ∈ paths.filter (Spared skips),
      ∃ content x, t.get? (place ++ names) = some (.file content x) := by
  obtain ⟨place, located, sound⟩ := sound_of_collect ran
  obtain ⟨full, ran', texts, increasing, mem_full⟩ | ⟨names, -, -, failed⟩ :=
    collect_gives (w := w.skipping []) unlinked proper located sound
  case inr => cases ran.symm.trans failed
  obtain rfl := Except.ok.inj (ran.symm.trans ran')
  obtain ⟨kept, ranKept, -, increasingKept, mem_kept⟩ | ⟨names, comes, notText, -⟩ :=
    collect_gives (w := w.skipping skips) unlinked proper located sound
  case inr =>
    -- The full walk comes to such a file too, and would fail.
    exact absurd ((texts names (comes_skipping_iff.mp comes).1).symm.trans notText) (by simp)
  have filtered := increasing.filter fun names => decide (Spared skips names)
  have same : kept = paths.filter (Spared skips) := by
    apply increasingKept.eq_of_mem_iff filtered
    intro names
    rw [List.mem_filter, decide_eq_true_iff, mem_full, mem_kept]
    show _ ↔ (_ ∧ (w.skipping skips).wants names = true) ∧ _
    rw [comes_skipping_iff, and_right_comm]
    rfl
  refine ⟨same ▸ ranKept, filtered, filtered.nodup, place, located, fun names member => ?_⟩
  exact ((mem_full names).mp (List.mem_of_mem_filter member)).1.exists_file

/-- Two directories are called `target`, one below the other, and so is a file. -/
def targetTree : Tree where
  entries := [(["target"], .dir), (["target", "src"], .dir), (["target", "target"], .dir),
    (["target", "src", "target"], .file [] false), (["target", "target", "a"], .file [] false)]

/-- A walk of the upper of the two that looks at no ignore files. -/
def targetWalker : Walker := { root := "/target", standardFilters := false }

theorem targetTree_locate : targetTree.locate "/target" = .ok ["target"] := by
  have proper : targetTree.Proper := .of_entries (by decide) (by decide) (by decide)
  exact Tree.locate_of_spells (by decide +kernel) proper.sound (by simp) (e := .dir) rfl (by simp)

/-- The lower directory is skipped; the upper one and the file are not. -/
theorem collect_skipping_sample :
    (targetWalker.skipping []).collect targetTree = .ok [["src", "target"], ["target", "a"]] ∧
    (targetWalker.skipping ["target"]).collect targetTree = .ok [["src", "target"]] := by
  have proper : targetTree.Proper :=
    .of_entries (by decide) (by decide) (by decide)
  have below : (targetWalker.skipping []).below targetTree 49 [] [["target"]] ["target"] [] =
      .ok [["src", "target"], ["target", "a"]] := by rfl
  have full : (targetWalker.skipping []).collect targetTree =
      .ok [["src", "target"], ["target", "a"]] := by
    have located : targetTree.locate (targetWalker.skipping []).root = .ok ["target"] :=
      targetTree_locate
    rw [collect, located]
    show ((targetWalker.skipping []).below targetTree 49 [] [["target"]] ["target"] [] >>= _) = _
    rw [below]
    show Except.ok ([["src", "target"], ["target", "a"]].mergeSort namesLe) = _
    rw [List.mergeSort_of_pairwise (by decide)]
  exact ⟨full, (collect_skipping rfl proper full ["target"]).1⟩

end Uplift.Scan.Walker
