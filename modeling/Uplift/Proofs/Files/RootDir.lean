import Uplift.Proofs.Files.Growth
import Uplift.Proofs.Files.Steps

/-!
# Directories that paths begin with

A path that is built by joining names to the path of a directory is walked from that directory
(`RootDir.resolve_below`), and so are the parents of such a path (`RootDir.leads_pathBelow`). The
directory stays while directories are made and files are written (`RootDir.grows`, `RootDir.put`).
-/

namespace Uplift.Files.Tree

/-- `root` leads to a directory, at the place `base`. -/
structure RootDir (t : Tree) (root : String) (base : Place) : Prop where
  sound : t.Sound
  located : t.locate root = .ok base
  dir : t.get? base = some .dir

variable {t t' : Tree} {last : Bool} {root path : String} {base q : Place} {names : List String}

/-- Whether a path can be walked at all does not depend on the tree. -/
theorem resolve_uniform (nonempty : path ≠ "") :
    (∀ (t : Tree) (last : Bool), t.resolve last path =
        t.walk last maxLinks (if isAbsolute path then [] else t.cwd) (segments path)) ∨
      ∃ e, e ≠ .notFound ∧ ∀ (t : Tree) (last : Bool), t.resolve last path = .error e := by
  by_cases nul : path.toList.contains '\x00'
  · exact .inr ⟨.hasNul, by simp, fun t last => by rw [resolve, if_pos nul]⟩
  have filled : ¬ path.isEmpty := by simpa using nonempty
  by_cases long : maxPath < path.utf8ByteSize
  · exact .inr ⟨.nameTooLong, by simp, fun t last => by
      rw [resolve, if_neg nul, if_neg filled, if_pos long]⟩
  · exact .inl fun t last => by rw [resolve, if_neg nul, if_neg filled, if_neg long]

theorem RootDir.root_ne_empty (rootDir : t.RootDir root base) : root ≠ "" := by
  rintro rfl
  have located := rootDir.located
  simp [locate, resolve] at located

/-- The names of the directory's path lead to it, apart from a slash at the end. -/
theorem RootDir.leads (rootDir : t.RootDir root base) :
    Leads t true maxLinks (if isAbsolute root then [] else t.cwd) (leadOf root) base := by
  have leads := leads_of_resolve rootDir.located
  rcases segments_eq_leadOf root with same | slash
  · rwa [same] at leads
  · rw [slash] at leads
    simpa [Counts] using leads.filter

/-- A path below the directory is walked from there. -/
theorem RootDir.resolve_below (rootDir : t.RootDir root base) (proper : ProperNames names)
    (below : names ≠ []) :
    (∃ left ≤ maxLinks, ∀ last,
        t.resolve last (joinNames root names) = t.walk last left base names) ∨
      ∃ e, e ≠ .notFound ∧
        ∀ (t' : Tree) (last : Bool), t'.resolve last (joinNames root names) = .error e := by
  have nonempty := rootDir.root_ne_empty
  refine (resolve_uniform (joinNames_ne_empty nonempty proper)).imp_left fun walks => ?_
  obtain ⟨left, atMost, goesOn⟩ := rootDir.leads.append rootDir.dir
  refine ⟨left, atMost, fun last => ?_⟩
  rw [walks, segments_joinNames nonempty proper below, isAbsolute_joinNames nonempty proper]
  exact goesOn last names fun _ => below

theorem RootDir.leads_below (rootDir : t.RootDir root base) (proper : ProperNames names)
    (below : names ≠ []) (found : t.resolve last (joinNames root names) = .ok q) :
    Leads t last maxLinks base names q := by
  have nonempty := rootDir.root_ne_empty
  have whole := leads_of_resolve found
  rw [segments_joinNames nonempty proper below, isAbsolute_joinNames nonempty proper] at whole
  exact rootDir.leads.rest rootDir.dir below whole

/-- The steps of the directory's path lead to it. -/
theorem RootDir.leads_steps (rootDir : t.RootDir root base) :
    Leads t true maxLinks (if isAbsolute root then [] else t.cwd) ((parts root).map Step.name)
      base := by
  obtain ⟨first, rest, lead, names⟩ := names_parts rootDir.root_ne_empty
  have leads := rootDir.leads
  rw [lead, ← List.singleton_append] at leads
  rw [names]
  exact leads.filter

theorem RootDir.leads_pathBelow (rootDir : t.RootDir root base) (proper : ProperNames names)
    (below : names ≠ []) (found : t.resolve last (pathBelow root names) = .ok q) :
    Leads t last maxLinks base names q := by
  have nonempty := rootDir.root_ne_empty
  have whole := leads_of_resolve found
  rw [segments_pathBelow nonempty proper below, isAbsolute_pathBelow nonempty proper] at whole
  exact rootDir.leads_steps.rest rootDir.dir below whole

/-- The directory itself is not made: it is there. -/
theorem RootDir.makeDir_root (rootDir : t.RootDir root base) :
    ∃ e, e ≠ .notFound ∧ t.makeDir (pathBelow root []) = .error e := by
  have nonempty := rootDir.root_ne_empty
  have proper : ProperNames [] := fun name member => by cases member
  rcases resolve_uniform (pathBelow_ne_empty nonempty proper) with walks | ⟨e, other, fails⟩
  · have stands : ∃ q, Leads t true maxLinks (if isAbsolute root then [] else t.cwd)
        (segments (pathBelow root [])) q ∧ t.get? q ≠ none := by
      by_cases atRoot : parts root = [.root]
      · have path : pathBelow root [] = "/" := by simp [pathBelow, atRoot, ofSteps]
        have split : segments "/" = ["", ""] := by decide
        have top : t.get? [] = some .dir := by simp [get?]
        rw [path, split, (isAbsolute_iff_parts nonempty).mpr (by simp [atRoot])]
        exact ⟨[], .blank top (.inl rfl) (.blank top (.inl rfl) .here), by simp [top]⟩
      · have split : segments (pathBelow root []) = (parts root).map Step.name := by
          simpa [pathBelow] using segments_ofSteps (normal_parts nonempty) atRoot
        exact ⟨base, split ▸ rootDir.leads_steps, by simp [rootDir.dir]⟩
    obtain ⟨q, leads, stands⟩ := stands
    obtain ⟨q', unfollowed, stands'⟩ := leads.unfollowed stands
    obtain ⟨e, found⟩ := Option.ne_none_iff_exists'.mp stands'
    have located : t.locateLink (pathBelow root []) = .ok q' := by
      rw [locateLink, walks, isAbsolute_pathBelow nonempty proper, unfollowed.walk_eq]
    exact ⟨.exists, by simp, by simp [makeDir, located, found, bind, Except.bind]⟩
  · have failed : t.locateLink (pathBelow root []) = .error e := fails t false
    exact ⟨e, other, by simp [makeDir, failed, bind, Except.bind]⟩

/-- The directory stays while what is not a file stays. -/
theorem RootDir.mono (rootDir : t.RootDir root base) (sound : t'.Sound) (cwd : t'.cwd = t.cwd)
    (kept : ∀ p e, (∀ c x, e ≠ .file c x) → t.get? p = some e → t'.get? p = some e) :
    t'.RootDir root base where
  sound := sound
  located := by
    rcases resolve_uniform rootDir.root_ne_empty with walks | ⟨e, -, fails⟩
    · rw [locate, walks, cwd]
      exact ((leads_of_resolve rootDir.located).mono kept rootDir.dir).walk_eq
    · cases (fails t true).symm.trans rootDir.located
  dir := kept _ _ (by simp) rootDir.dir

theorem RootDir.grows (rootDir : t.RootDir root base) (grows : Grows t t') :
    t'.RootDir root base :=
  rootDir.mono grows.sound grows.cwd fun p e _ => grows.kept p e

theorem RootDir.put (rootDir : t.RootDir root base) {content : List UInt8} {x : Bool}
    (free : t.Free q) : (t.put q (.file content x)).RootDir root base :=
  rootDir.mono (rootDir.sound.put free.ne_dir free.parent) rfl fun _ _ =>
    free.replaceable.kept

/-- A directory that is written in is still there. -/
theorem RootDir.writeTextIn (rootDir : t.RootDir root base) {dir : Option String} {text : String}
    {result : Except (String × FileError) Unit}
    (written : t.writeTextIn dir path text = (result, t')) : t'.RootDir root base := by
  obtain ⟨t₁, grows, ⟨cause, failed⟩ | ⟨t₂, done, same⟩⟩ :=
    writeTextIn_cases dir path text rootDir.sound
  · obtain ⟨-, rfl⟩ := Prod.mk.inj (failed.symm.trans written)
    exact rootDir.grows grows
  · obtain ⟨-, rfl⟩ := Prod.mk.inj (same.symm.trans written)
    obtain ⟨p, x, -, free, rfl⟩ := writeText_ok grows.sound done
    exact (rootDir.grows grows).put free

end Uplift.Files.Tree
