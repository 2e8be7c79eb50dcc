import Uplift.Proofs.Files.RootDir

/-!
# Where paths lead

A path is located where its names lead (`locate_of_leads`), and leads to a directory or to a file
just if that place holds one (`isDir_iff`, `isFile_iff`). It is located through directories and
links, so trees that have these in common locate it at the same place, whatever files they hold
(`SameShape.locate_eq_ok_iff`).
-/

namespace Uplift.Files.Tree

variable {t t' : Tree} {last : Bool} {links : Nat} {path root name : String} {p q base : Place}
  {names : List String}

theorem isDir_iff :
    t.isDir path = true ↔ ∃ p, t.locate path = .ok p ∧ t.get? p = some .dir := by
  rw [isDir, find?]
  cases located : t.locate path with
  | error e => simp
  | ok p =>
    cases here : t.get? p with
    | none => simp [here]
    | some e => cases e <;> simp [here]

theorem isFile_iff :
    t.isFile path = true ↔ ∃ p c x, t.locate path = .ok p ∧ t.get? p = some (.file c x) := by
  rw [isFile, find?]
  cases located : t.locate path with
  | error e => simp
  | ok p =>
    cases here : t.get? p with
    | none => simp [here]
    | some e =>
      cases e with
      | file c x => exact iff_of_true (by simp [here]) ⟨p, c, x, rfl, here⟩
      | dir | link => simp [here]

/-- A path that is well formed is walked. -/
theorem resolve_eq_walk {last : Bool}
    (plain : '\x00' ∉ path.toList ∧ path ≠ "" ∧ path.utf8ByteSize ≤ maxPath) :
    t.resolve last path =
      t.walk last maxLinks (if isAbsolute path then [] else t.cwd) (segments path) := by
  obtain ⟨noNul, filled, short⟩ := plain
  have noNul : ¬ path.toList.contains '\x00' := by simpa using noNul
  have filled : ¬ path.isEmpty := by simpa using filled
  rw [resolve, if_neg noNul, if_neg filled, if_neg short.not_gt]

theorem resolve_of_leads {last : Bool}
    (plain : '\x00' ∉ path.toList ∧ path ≠ "" ∧ path.utf8ByteSize ≤ maxPath)
    (leads : Leads t last maxLinks (if isAbsolute path then [] else t.cwd) (segments path) p) :
    t.resolve last path = .ok p :=
  (resolve_eq_walk plain).trans leads.walk_eq

theorem locate_of_leads
    (plain : '\x00' ∉ path.toList ∧ path ≠ "" ∧ path.utf8ByteSize ≤ maxPath)
    (leads : Leads t true maxLinks (if isAbsolute path then [] else t.cwd) (segments path) p) :
    t.locate path = .ok p :=
  resolve_of_leads plain leads

/-- Where a name leads from a directory to a file, something has that name in the directory. -/
theorem RootDir.exists_of_isFile (rootDir : t.RootDir root base) (proper : ProperName name)
    (isFile : t.isFile (join root name) = true) : ∃ e, t.get? (base ++ [name]) = some e := by
  obtain ⟨q, c, x, located, file⟩ := isFile_iff.mp isFile
  have leads : Leads t true maxLinks base [name] q :=
    rootDir.leads_below (by simpa [ProperNames] using proper) (by simp) located
  cases leads with
  | blank _ blank => exact absurd blank (by simp [proper.nonempty, proper.notHere])
  | up => exact absurd rfl proper.notUp
  | down _ _ _ found => exact ⟨_, found⟩
  | follow _ _ _ found => exact ⟨_, found⟩
  | stop _ _ _ _ notLast => cases notLast
  | fresh _ _ _ absent => cases absent.symm.trans file

/-- Two trees have the same directories and links, and relative paths begin at the same place. -/
structure SameShape (t t' : Tree) : Prop where
  cwd : t'.cwd = t.cwd
  same : ∀ p e, (∀ c x, e ≠ .file c x) → (t.get? p = some e ↔ t'.get? p = some e)

theorem SameShape.symm (shape : SameShape t t') : SameShape t' t where
  cwd := shape.cwd.symm
  same p e other := (shape.same p e other).symm

theorem Leads.of_sameShape (shape : SameShape t t') (leads : Leads t last links p names q) :
    Leads t' last links p names q := by
  have dir {p : Place} : t.get? p = some .dir → t'.get? p = some .dir :=
    (shape.same p .dir (by simp)).mp
  have link {p : Place} {target : String} :
      t.get? p = some (.link target) → t'.get? p = some (.link target) :=
    (shape.same p (.link target) (by simp)).mp
  -- A file in one of the trees, or nothing, is a file or nothing in the other one.
  have neither {p : Place} (noDir : t.get? p ≠ some .dir)
      (noLink : ∀ target, t.get? p ≠ some (.link target)) :
      t'.get? p = none ∨ ∃ c x, t'.get? p = some (.file c x) := by
    cases there : t'.get? p with
    | none => exact .inl rfl
    | some e =>
      cases e with
      | file c x => exact .inr ⟨c, x, rfl⟩
      | dir => exact absurd ((shape.same p .dir (by simp)).mpr there) noDir
      | link target =>
        exact absurd ((shape.same p (.link target) (by simp)).mpr there) (noLink target)
  have atEnd {links : Nat} {p : Place} {name : String} (start : t.get? p = some .dir)
      (descends : Descends name) (short : name.utf8ByteSize ≤ maxName)
      (noDir : t.get? (p ++ [name]) ≠ some .dir)
      (noLink : ∀ target, t.get? (p ++ [name]) ≠ some (.link target)) :
      Leads t' last links p [name] (p ++ [name]) := by
    rcases neither noDir noLink with absent | ⟨c, x, file⟩
    · exact .fresh (dir start) descends short absent
    · exact .down (dir start) descends short file (by simp) .here
  induction leads with
  | here => exact .here
  | blank start blank _ ih => exact .blank (dir start) blank ih
  | up start _ ih => exact .up (dir start) ih
  | @down links p name rest e q start descends short found unlinked further ih =>
    by_cases isDir : e = .dir
    · exact .down (dir start) descends short (dir (isDir ▸ found)) (by simp) ih
    · have noDir : t.get? (p ++ [name]) ≠ some .dir := by simpa [found] using isDir
      have noLink : ∀ target, t.get? (p ++ [name]) ≠ some (.link target) := by
        simpa [found] using unlinked
      -- Nothing can be walked below a file.
      cases further with
      | here => exact atEnd start descends short noDir noLink
      | blank below | up below | down below | follow below | stop below | fresh below =>
        exact absurd below noDir
  | follow start descends short found goes _ ih =>
    exact .follow (dir start) descends short (link found) goes ih
  | stop start descends short found notLast =>
    exact .stop (dir start) descends short (link found) notLast
  | fresh start descends short absent =>
    exact atEnd start descends short (by simp [absent]) (by simp [absent])

theorem SameShape.locate_of_ok (shape : SameShape t t') (located : t.locate path = .ok p) :
    t'.locate path = .ok p := by
  have nonempty : path ≠ "" := by
    rintro rfl
    simp [locate, resolve] at located
  rcases resolve_uniform nonempty with walks | ⟨e, -, fails⟩
  · rw [locate, walks, shape.cwd]
    exact ((leads_of_resolve located).of_sameShape shape).walk_eq
  · cases (fails t true).symm.trans located

theorem SameShape.locate_eq_ok_iff (shape : SameShape t t') :
    t.locate path = .ok p ↔ t'.locate path = .ok p :=
  ⟨shape.locate_of_ok, shape.symm.locate_of_ok⟩

end Uplift.Files.Tree
