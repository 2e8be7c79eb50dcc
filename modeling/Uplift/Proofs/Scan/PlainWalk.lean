import Uplift.Proofs.Scan.Unlinked

/-!
# Walks that leave nothing out

A walk that looks at no ignore files, follows no links and skips no directories comes to every file
below the directory (`Walker.comes_plain_iff`). In a proper tree, and if the names of these files
are text, it finds just those of them that its glob keeps, once each (`Walker.collect_plain`).
-/

namespace Uplift.Scan.Walker

open Files

variable {w : Walker} {t : Tree} {levels : List Level} {dir : Place} {names more : List String}

/-- The walk leaves nothing out. -/
structure Plain (w : Walker) : Prop where
  filters : w.standardFilters = false
  links : w.followLinks = false
  skips : w.skipDirs = []

/-- There is a file below a directory under these names. -/
def IsBelow (t : Tree) (dir : Place) (names : List String) : Prop :=
  names ≠ [] ∧ ∃ content x, t.get? (dir ++ names) = some (.file content x)

theorem Plain.admits (plain : w.Plain) (names : List String) (isDir : Bool) :
    w.admits levels names isDir = true := by
  simp [Walker.admits, plain.filters, plain.skips]

/-- A plain walk comes to every file below the directory. -/
theorem comes_plain_iff (plain : w.Plain) (sound : t.Sound) :
    Comes w t levels dir names more ↔ IsBelow t dir more := by
  constructor
  · intro comes
    exact ⟨comes.ne_nil, comes.exists_file⟩
  · rintro ⟨filled, content, x, file⟩
    induction more generalizing levels dir names with
    | nil => exact absurd rfl filled
    | cons name more ih =>
      by_cases last : more = []
      · subst last
        exact .file file (plain.admits _ _)
      · -- The file stands below a directory of that name.
        rw [List.append_cons] at file
        have above := sound.dir_above file last
        exact .down above (plain.admits _ _) (ih last file)

/-- A plain walk of a directory gives the files below it that the glob keeps, in order, unless the
names of one file there are no text. -/
theorem collect_plain (plain : w.Plain) (proper : t.Proper) {place : Place}
    (located : t.locate w.root = .ok place) :
    (∃ paths, w.collect t = .ok paths ∧ (∀ names, IsBelow t place names → isUtf8 names = true) ∧
      paths.Nodup ∧ (paths.Pairwise fun a b => namesLe a b = true) ∧
      ∀ names, names ∈ paths ↔ IsBelow t place names ∧ w.wants names = true) ∨
    ∃ names, IsBelow t place names ∧ isUtf8 names = false ∧
      w.collect t = .error (.nonUtf8Path (w.pathOf names)) := by
  have none : w.levelsOver t place = [] := by
    rw [levelsOver, plain.filters]
    rfl
  have gives := collect_gives plain.links proper located (by rw [none]; rfl)
  simp only [comes_plain_iff plain proper.sound] at gives
  rcases gives with ⟨paths, ran, texts, increasing, mem_iff⟩ | foreign
  · exact .inl ⟨paths, ran, texts, increasing.nodup, sorted_collect ran, mem_iff⟩
  · exact .inr foreign

end Uplift.Scan.Walker
