import Uplift.Proofs.Files.RootDir

/-!
# Paths that lead to nothing

* After a file is removed, its path leads to nothing (`gone_of_removeFile`): a walk in the smaller
  tree is a walk in the larger one, so it could only come to what was removed.
* While directories and links stay, a path that comes to a file led to a file before, or to nothing
  (`KeepsDirs.file_before`).
-/

namespace Uplift.Files.Tree

variable {t t' : Tree} {last : Bool} {links : Nat} {p q a : Place} {names : List String}
  {path : String}

theorem get?_of_erase {e : Entry} (below : p ≠ []) (found : (t.erase p).get? q = some e) :
    q ≠ p ∧ t.get? q = some e := by
  rw [get?_erase t q below] at found
  split at found
  · cases found
  · rename_i other
    exact ⟨other, found⟩

/-- A walk to something, without an entry, is a walk with it. -/
theorem Leads.of_erase (below : p ≠ []) (leads : Leads (t.erase p) last links a names q)
    (stands : (t.erase p).get? q ≠ none) : Leads t last links a names q := by
  induction leads with
  | here => exact .here
  | blank start blank _ ih => exact .blank (get?_of_erase below start).2 blank (ih stands)
  | up start _ ih => exact .up (get?_of_erase below start).2 (ih stands)
  | down start descends short found unlinked _ ih =>
    exact .down (get?_of_erase below start).2 descends short (get?_of_erase below found).2 unlinked
      (ih stands)
  | follow start descends short found goes _ ih =>
    exact .follow (get?_of_erase below start).2 descends short (get?_of_erase below found).2 goes
      (ih stands)
  | stop start descends short found notLast =>
    exact .stop (get?_of_erase below start).2 descends short (get?_of_erase below found).2 notLast
  | fresh _ _ _ absent => exact absurd absent stands

/-- The path leads to nothing. -/
def Gone (t : Tree) (path : String) : Prop :=
  ∀ p, t.locateLink path = .ok p → t.get? p = none

theorem removeFile_ok (removed : t.removeFile path = .ok t') :
    ∃ p, t.locateLink path = .ok p ∧ t.get? p ≠ some .dir ∧ t' = t.erase p := by
  obtain ⟨p, found, rest⟩ := bind_eq_ok_iff.mp removed
  cases here : t.get? p with
  | none => simp [here] at rest
  | some e =>
    cases e with
    | dir => simp [here] at rest
    | file content x => exact ⟨p, found, by simp [here], by simpa [here] using rest.symm⟩
    | link target => exact ⟨p, found, by simp [here], by simpa [here] using rest.symm⟩

/-- After a file or a link is removed, its path leads to nothing. -/
theorem gone_of_removeFile (removed : t.removeFile path = .ok t') : t'.Gone path := by
  obtain ⟨p, found, other, rfl⟩ := removeFile_ok removed
  have below : p ≠ [] := ne_nil_of_get?_ne_dir other
  intro q foundAgain
  by_contra stands
  have again : Leads t false maxLinks (if isAbsolute path then [] else t.cwd) (segments path) q :=
    (leads_of_resolve foundAgain).of_erase below stands
  have same : q = p :=
    Except.ok.inj (again.walk_eq.symm.trans (leads_of_resolve found).walk_eq)
  rw [same, get?_erase t p below, if_pos rfl] at stands
  exact stands rfl

/-- What cannot be removed is not there, or is a directory. -/
theorem gone_or_dir_of_removeFile {e : FileError} (failed : t.removeFile path = .error e) :
    t.Gone path ∨ ∃ p, t.locateLink path = .ok p ∧ t.get? p = some .dir := by
  cases found : t.locateLink path with
  | error e => exact .inl fun p same => by rw [found] at same; cases same
  | ok p =>
    simp only [removeFile, found, bind, Except.bind] at failed
    cases here : t.get? p with
    | none =>
      refine .inl fun q same => ?_
      obtain rfl := Except.ok.inj (found.symm.trans same)
      exact here
    | some e =>
      cases e with
      | dir => exact .inr ⟨p, rfl, here⟩
      | file content x => simp [here] at failed
      | link target => simp [here] at failed

/-! ## Changes of files -/

/-- Directories and links stay. -/
structure KeepsDirs (t t' : Tree) : Prop where
  cwd : t'.cwd = t.cwd
  kept : ∀ p e, (∀ content x, e ≠ .file content x) → t.get? p = some e → t'.get? p = some e

/-- A walk along names that spell the place of a file comes to that place. -/
theorem Leads.file_before (keeps : KeepsDirs t t') (sound' : t'.Sound) (proper : ProperNames names)
    {content : List UInt8} {x : Bool} (file : t'.get? (p ++ names) = some (.file content x))
    (leads : Leads t last links p names q) (dir : t.get? p = some .dir) (stands : t.get? q ≠ none) :
    ∃ content x, t.get? (p ++ names) = some (.file content x) := by
  -- Where a file is below, no link was, for it would still be there.
  have noLink {p : Place} {rest : List String} {target : String}
      (file : t'.get? (p ++ rest) = some (.file content x))
      (link : t.get? p = some (.link target)) : False := by
    have link' := keeps.kept p _ (by simp) link
    by_cases here : rest = []
    · rw [here, List.append_nil, link'] at file
      cases file
    · cases link'.symm.trans (sound'.dir_above file here)
  induction leads with
  | @here links p =>
    rw [List.append_nil, keeps.kept p _ (by simp) dir] at file
    cases file
  | blank _ blank _ _ =>
    exact absurd blank (by simp [proper.head.nonempty, proper.head.notHere])
  | up => exact absurd rfl proper.head.notUp
  | @down links p name rest e q _ _ _ found unlinked further ih =>
    have split : p ++ name :: rest = p ++ [name] ++ rest := by simp
    rw [split] at file ⊢
    cases e with
    | dir => exact ih proper.tail file found stands
    | link target => exact absurd rfl (unlinked target)
    | file content' x' =>
      cases further with
      | here => exact ⟨content', x', by rw [List.append_nil]; exact found⟩
      | blank start | up start | down start | follow start | stop start | fresh start =>
        cases found.symm.trans start
  | @follow links p name rest target q _ _ _ found =>
    have split : p ++ name :: rest = p ++ [name] ++ rest := by simp
    exact (noLink (split ▸ file) found).elim
  | stop _ _ _ found => exact (noLink (by rwa [List.append_nil]) found).elim
  | fresh _ _ _ absent => exact absurd absent stands

/-- The names of a path that can be walked lead to a directory. -/
theorem rootDir_of_leads {dir : String} (sound : t.Sound) (isDir : t.get? p = some .dir)
    (leads : Leads t true maxLinks (if isAbsolute dir then [] else t.cwd) (leadOf dir) p)
    (walked : t'.locate dir = .ok q) : t.RootDir dir p := by
  have nonempty : dir ≠ "" := by
    rintro rfl
    simp [locate, resolve] at walked
  refine ⟨sound, ?_, isDir⟩
  rcases resolve_uniform nonempty with walks | ⟨e, -, fails⟩
  · rw [locate, walks]
    rcases segments_eq_leadOf dir with same | slash
    · rw [same, leads.walk_eq]
    · obtain ⟨left, -, goesOn⟩ := leads.append isDir
      rw [slash, goesOn true [""] (by simp), walk_blank isDir (.inl rfl), walk]
  · cases (fails t' true).symm.trans walked

/-- A path to a file led to a file before, unless it led to nothing. -/
theorem KeepsDirs.file_before (keeps : KeepsDirs t t') (sound : t.Sound) {dir : String}
    (rootDir : t'.RootDir dir p) (proper : ProperNames names) (below : names ≠ [])
    {content : List UInt8} {x : Bool} (file : t'.get? (p ++ names) = some (.file content x))
    (led : ¬ t.Gone (joinNames dir names)) :
    t.RootDir dir p ∧ ∃ content x, t.get? (p ++ names) = some (.file content x) := by
  obtain ⟨q, found, stands⟩ :
      ∃ q, t.locateLink (joinNames dir names) = .ok q ∧ t.get? q ≠ none := by
    simpa [Gone] using led
  have whole := leads_of_resolve found
  rw [segments_joinNames rootDir.root_ne_empty proper below,
    isAbsolute_joinNames rootDir.root_ne_empty proper] at whole
  obtain ⟨d, toDir, dirHere, further⟩ := whole.split below
  have before : t.RootDir dir d := rootDir_of_leads sound dirHere toDir rootDir.located
  obtain rfl : d = p := by
    have after := before.mono rootDir.sound keeps.cwd keeps.kept
    exact Except.ok.inj (after.located.symm.trans rootDir.located)
  exact ⟨before, further.file_before keeps rootDir.sound proper file dirHere stands⟩

end Uplift.Files.Tree
