import Uplift.Proofs.Files.RootDir

/-!
# Directories without symbolic links

In a directory that holds no symbolic links, a path of proper names leads to the place that the
names spell and to no other (`PlainDir.locate_eq`), and a path that is not found leads to a place
where nothing is (`PlainDir.absent_of_notFound`). It stays such a directory while directories are
made and files are written (`PlainDir.grows`, `PlainDir.put`).
-/

namespace Uplift.Files.Tree

/-- No symbolic links are below a place. -/
def Unlinked (t : Tree) (p : Place) : Prop := ∀ q target, p <+: q → t.get? q ≠ some (.link target)

/-- `root` leads to a directory, at the place `base`, that holds no symbolic links. -/
structure PlainDir (t : Tree) (root : String) (base : Place) : Prop where
  sound : t.Sound
  located : t.locate root = .ok base
  dir : t.get? base = some .dir
  unlinked : t.Unlinked base

section Below

variable {t t' : Tree} {last : Bool} {links : Nat} {p q : Place} {name : String}
  {names : List String}

theorem Unlinked.down (unlinked : t.Unlinked p) (name : String) : t.Unlinked (p ++ [name]) :=
  fun q target below => unlinked q target ((List.prefix_append p [name]).trans below)

/-- Names lead to the place that they spell. -/
theorem Leads.eq_append (unlinked : t.Unlinked p) (proper : ProperNames names)
    (leads : Leads t last links p names q) : q = p ++ names := by
  induction leads with
  | here => simp
  | blank _ blank _ _ =>
    exact absurd blank (by simp [proper.head.nonempty, proper.head.notHere])
  | up => exact absurd rfl proper.head.notUp
  | @down _ p name _ _ _ _ _ _ _ _ _ ih =>
    rw [ih (unlinked.down name) proper.tail]
    simp
  | follow _ _ _ found => exact absurd found (unlinked _ _ (List.prefix_append ..))
  | stop _ _ _ found => exact absurd found (unlinked _ _ (List.prefix_append ..))
  | fresh => rfl

/-- Where a walk finds nothing, nothing is. -/
theorem absent_of_walk (sound : t.Sound) (unlinked : t.Unlinked p) (proper : ProperNames names)
    (failed : t.walk last links p names = .error .notFound) : t.get? (p ++ names) = none := by
  induction names generalizing p with
  | nil => simp [walk] at failed
  | cons name names ih =>
    have split : p ++ name :: names = p ++ [name] ++ names := by simp
    by_cases dir : t.get? p = some .dir
    · by_cases short : name.utf8ByteSize ≤ maxName
      · rw [split]
        cases found : t.get? (p ++ [name]) with
        | none => exact sound.absent_below found names
        | some e =>
          have noLink (target : String) : e ≠ .link target := fun same =>
            unlinked _ target (List.prefix_append ..) (same ▸ found)
          rw [walk_down dir proper.head.toDescends short found noLink] at failed
          exact ih (unlinked.down name) proper.tail failed
      · rw [walk_long dir proper.head.toDescends (Nat.lt_of_not_le short)] at failed
        cases failed
    · rw [walk_of_not_dir dir] at failed
      by_cases absent : t.get? p = none
      · exact sound.absent_below absent _
      · simp [absent] at failed

/-- What a walk finds after a tree has grown, it found before, or nothing was there. -/
theorem Leads.before_growth (grows : Grows t t') (unlinked : t'.Unlinked p)
    (proper : ProperNames names) (start : t.get? p = some .dir)
    (leads : Leads t' last links p names q) (links₀ : Nat) :
    t.walk last links₀ p names = .ok q ∨ t.walk last links₀ p names = .error .notFound := by
  induction leads with
  | here => exact .inl (by simp [walk])
  | blank _ blank _ _ =>
    exact absurd blank (by simp [proper.head.nonempty, proper.head.notHere])
  | up => exact absurd rfl proper.head.notUp
  | @down links p name rest e q _ descends short found noLink leads ih =>
    cases before : t.get? (p ++ [name]) with
    -- A directory that is new: the walk through the old tree ends here.
    | none =>
      rw [walk_fresh start descends short before]
      by_cases done : rest = []
      · subst done
        cases leads
        exact .inl (if_pos rfl)
      · exact .inr (if_neg done)
    | some e' =>
      obtain rfl : e' = e := Option.some.inj ((grows.kept _ _ before).symm.trans found)
      rw [walk_down start descends short before noLink]
      -- Only a directory leads further; anything else is where the walk ends.
      by_cases dir : e' = .dir
      · exact ih (unlinked.down name) proper.tail (dir ▸ before)
      · cases leads with
        | here => exact .inl (by simp [walk])
        | blank next | up next | down next | follow next | stop next | fresh next =>
          exact absurd (Option.some.inj (found.symm.trans next)) dir
  | follow _ _ _ found => exact absurd found (unlinked _ _ (List.prefix_append ..))
  | stop _ _ _ found => exact absurd found (unlinked _ _ (List.prefix_append ..))
  | fresh _ descends short absent =>
    have before : t.get? (_ ++ [_]) = none :=
      (grows.get?_of_ne_dir (by simp [absent])).trans absent
    exact .inl (by rw [walk_fresh start descends short before, if_pos rfl])

end Below

section PlainDir

variable {t t' : Tree} {root : String} {base q : Place} {names : List String}

theorem PlainDir.rootDir (plain : t.PlainDir root base) : t.RootDir root base :=
  ⟨plain.sound, plain.located, plain.dir⟩

/-- A path below the directory is walked from there. -/
theorem PlainDir.locate_below (plain : t.PlainDir root base) (proper : ProperNames names)
    (below : names ≠ []) :
    (∃ links, t.locate (joinNames root names) = t.walk true links base names) ∨
      ∃ e, e ≠ .notFound ∧ ∀ t' : Tree, t'.locate (joinNames root names) = .error e := by
  rcases plain.rootDir.resolve_below proper below with ⟨left, -, walks⟩ | ⟨e, other, fails⟩
  · exact .inl ⟨left, walks true⟩
  · exact .inr ⟨e, other, fun t' => fails t' true⟩

/-- A path below the directory leads to the place that its names spell. -/
theorem PlainDir.locate_eq (plain : t.PlainDir root base) (proper : ProperNames names)
    (found : t.locate (joinNames root names) = .ok q) : q = base ++ names := by
  by_cases below : names = []
  · subst below
    simpa using Except.ok.inj (found.symm.trans plain.located)
  · rcases plain.locate_below proper below with ⟨links, walks⟩ | ⟨e, -, fails⟩
    · exact (leads_iff.mpr (walks.symm.trans found)).eq_append plain.unlinked proper
    · cases (fails t).symm.trans found

/-- A path below the directory that is not found spells a place where nothing is. -/
theorem PlainDir.absent_of_notFound (plain : t.PlainDir root base) (proper : ProperNames names)
    (failed : t.locate (joinNames root names) = .error .notFound) :
    t.get? (base ++ names) = none := by
  by_cases below : names = []
  · subst below
    cases failed.symm.trans plain.located
  · rcases plain.locate_below proper below with ⟨links, walks⟩ | ⟨e, other, fails⟩
    · exact absent_of_walk plain.sound plain.unlinked proper (walks.symm.trans failed)
    · exact absurd (Except.error.inj ((fails t).symm.trans failed)) other

/-- A path below the directory that is found after growth led to the same place before, or was not
found. -/
theorem PlainDir.locate_before (plain : t.PlainDir root base) (plain' : t'.PlainDir root base)
    (grows : Grows t t') (proper : ProperNames names)
    (found : t'.locate (joinNames root names) = .ok q) :
    t.locate (joinNames root names) = .ok q ∨
      t.locate (joinNames root names) = .error .notFound := by
  by_cases below : names = []
  · subst below
    obtain rfl := Except.ok.inj (plain'.located.symm.trans found)
    exact .inl plain.located
  · rcases plain'.locate_below proper below with ⟨links', walks'⟩ | ⟨e, -, fails⟩
    · rcases plain.locate_below proper below with ⟨links, walks⟩ | ⟨e, -, fails⟩
      · rw [walks]
        exact (leads_iff.mpr (walks'.symm.trans found)).before_growth grows plain'.unlinked proper
          plain.dir links
      · cases (fails t').symm.trans found
    · cases (fails t').symm.trans found

theorem PlainDir.grows (plain : t.PlainDir root base) (grows : Grows t t') :
    t'.PlainDir root base :=
  { plain.rootDir.grows grows with
    unlinked := fun p target below link => by
      have before := grows.get?_of_ne_dir (p := p) (by simp [link])
      exact plain.unlinked p target below (before.trans link) }

/-- The directory stays when a file is written. -/
theorem PlainDir.put (plain : t.PlainDir root base) {content : List UInt8} {x : Bool}
    (free : t.Free q) : (t.put q (.file content x)).PlainDir root base :=
  { plain.rootDir.put free with
    unlinked := fun p target below => by
      rw [get?_put t _ p free.ne_nil]
      split
      · simp
      · exact plain.unlinked p target below }

end PlainDir

end Uplift.Files.Tree
