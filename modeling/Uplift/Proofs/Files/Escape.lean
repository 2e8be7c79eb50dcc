import Uplift.Proofs.Files.RootDir

/-!
# Walks that leave a directory

Names that neither go up nor begin at the root lead out of a directory only through a symbolic link
in it that leads out of it (`Leads.inside_or_out`). What a write below a directory changes are
places to which the first names of its path come in the tree before it (`writeTextIn_changes`).
-/

namespace Uplift.Files.Tree

variable {t t' : Tree} {root path : String} {base p q : Place} {names : List String}

/-- A link on the way of names leads out: it stands in the directory `base`, and what it leads to
does not. -/
def LeadsOut (t : Tree) (base : Place) (names : List String) : Prop :=
  ∃ front name rest dir target out, names = front ++ name :: rest ∧
    t.walk true maxLinks base front = .ok dir ∧ base <+: dir ∧
    t.get? (dir ++ [name]) = some (.link target) ∧
    t.walk true maxLinks base (front ++ [name]) = .ok out ∧ ¬ base <+: out

theorem LeadsOut.append (leadsOut : t.LeadsOut base names) (more : List String) :
    t.LeadsOut base (names ++ more) := by
  obtain ⟨front, name, rest, dir, target, out, rfl, found⟩ := leadsOut
  exact ⟨front, name, rest ++ more, dir, target, out, by simp, found⟩

/-- Proper names lead to a place in the directory, unless a link on their way leads out. -/
theorem Leads.inside_or_out (proper : ProperNames names)
    (leads : Leads t true maxLinks base names q) : base <+: q ∨ t.LeadsOut base names := by
  induction names using List.reverseRecOn generalizing q with
  | nil =>
    cases leads
    exact .inl (List.prefix_refl _)
  | append_singleton front name ih =>
    obtain ⟨dir, before, -, step⟩ := leads.split (List.cons_ne_nil _ _)
    have properName : ProperName name := proper name (by simp)
    rcases ih proper.front before with inside | out
    · -- Only the last name can lead out, and then it is a link.
      have next : base <+: dir ++ [name] := inside.trans (List.prefix_append _ _)
      cases step with
      | blank _ blank => exact (blank.elim properName.nonempty properName.notHere).elim
      | up => exact absurd rfl properName.notUp
      | down _ _ _ _ _ ended =>
        cases ended
        exact .inl next
      | follow _ _ _ found =>
        by_cases still : base <+: q
        · exact .inl still
        · exact .inr ⟨front, name, [], dir, _, q, rfl, before.walk_eq, inside, found,
            leads.walk_eq, still⟩
      | fresh => exact .inl next
      | stop _ _ _ _ notLast => cases notLast
    · exact .inr (out.append [name])

/-! ## What a write changes -/

/-- Names come to a place: they lead to it, or the first of them lead to where nothing is and the
others spell the way on from there. -/
def Reaches (t : Tree) (base : Place) (names : List String) (q : Place) : Prop :=
  ∃ front more d, names = front ++ more ∧ t.walk true maxLinks base front = .ok d ∧
    (more = [] ∨ t.get? d = none) ∧ q = d ++ more

theorem Leads.reaches (leads : Leads t true maxLinks base names q) : t.Reaches base names q :=
  ⟨names, [], q, by simp, leads.walk_eq, .inl rfl, by simp⟩

theorem Reaches.append (reaches : t.Reaches base names q) (absent : t.get? q = none)
    (more : List String) : t.Reaches base (names ++ more) (q ++ more) := by
  obtain ⟨front, rest, d, rfl, walked, ends, rfl⟩ := reaches
  have free : t.get? d = none := by
    rcases ends with rfl | free
    · simpa using absent
    · exact free
  exact ⟨front, rest ++ more, d, by simp, walked, .inr free, by simp⟩

/-- What proper names come to is in the directory, unless a link on their way leads out. -/
theorem Reaches.inside_or_out (proper : ProperNames names) (reaches : t.Reaches base names q) :
    base <+: q ∨ t.LeadsOut base names := by
  obtain ⟨front, more, d, rfl, walked, -, rfl⟩ := reaches
  exact ((leads_iff.mpr walked).inside_or_out proper.front).imp
    (·.trans (List.prefix_append _ _)) (·.append more)

/-- What became different are places that names come to, or some first of them. -/
def ChangesAlong (t t' : Tree) (base : Place) (names : List String) : Prop :=
  ∀ q, t'.get? q ≠ t.get? q → ∃ first, first <+: names ∧ t.Reaches base first q

theorem ChangesAlong.refl : ChangesAlong t t base names := fun _ changed => absurd rfl changed

theorem ChangesAlong.append (changes : ChangesAlong t t' base names) (more : List String) :
    ChangesAlong t t' base (names ++ more) := by
  intro q changed
  obtain ⟨first, isFirst, reaches⟩ := changes q changed
  exact ⟨first, isFirst.trans (List.prefix_append _ _), reaches⟩

theorem ChangesAlong.put {t₁ : Tree} {e : Entry} (changes : ChangesAlong t t₁ base names)
    (filled : q ≠ []) (reaches : t.Reaches base names q) :
    ChangesAlong t (t₁.put q e) base names := by
  intro p changed
  by_cases same : p = q
  · exact ⟨names, List.prefix_refl _, same ▸ reaches⟩
  · rw [get?_put t₁ e p filled, if_neg same] at changed
    exact changes p changed

/-- Names lead to a directory that is new: they came to a place where nothing was. -/
def LeadsToNew (t t' : Tree) (base : Place) (names : List String) : Prop :=
  ∀ q, Leads t' true maxLinks base names q → t.Reaches base names q ∧ t.get? q = none

section Making

variable {t₁ t₂ : Tree} {front : List String} {name : String} {last : Bool} {d : Place}

/-- A name leads from a new directory to the place that it spells, where nothing was. -/
theorem LeadsToNew.append (new : LeadsToNew t t₁ base front) (grows : Grows t t₁) (sound : t.Sound)
    (proper : ProperName name) : LeadsToNew t t₁ base (front ++ [name]) := by
  intro q leads
  obtain ⟨d, before, -, step⟩ := leads.split (List.cons_ne_nil _ _)
  obtain ⟨reaches, absent⟩ := new d before
  have below : t.get? (d ++ [name]) = none := sound.absent_below absent [name]
  cases step with
  | blank _ blank => exact (blank.elim proper.nonempty proper.notHere).elim
  | up => exact absurd rfl proper.notUp
  | down _ _ _ _ _ ended =>
    cases ended
    exact ⟨reaches.append absent [name], below⟩
  | follow _ _ _ found =>
    -- Links are not made, and none can have stood below a directory that is new.
    have before := grows.get?_of_ne_dir (p := d ++ [name]) (by simp [found])
    cases below.symm.trans (before.trans found)
  | fresh => exact ⟨reaches.append absent [name], below⟩
  | stop _ _ _ _ notLast => cases notLast

/-- Where the tree is as it was, or names led to a new directory, one name more comes to where it
leads. -/
theorem reaches_of_leads (made : t₁ = t ∨ LeadsToNew t t₁ base front) (grows : Grows t t₁)
    (sound : t.Sound) (proper : ProperName name)
    (leads : Leads t₁ true maxLinks base (front ++ [name]) q) :
    t.Reaches base (front ++ [name]) q := by
  rcases made with rfl | new
  · exact leads.reaches
  · exact (new.append grows sound proper q leads).1

/-- A directory that is made is new, and lies where the names of its path come to. -/
theorem makeDir_new (rootDir : t.RootDir root base) (proper : ProperNames (front ++ [name]))
    (grows : Grows t t₁) (made : t₁ = t ∨ LeadsToNew t t₁ base front)
    (done : t₁.makeDir (pathBelow root (front ++ [name])) = .ok t₂) :
    ∃ p, p ≠ [] ∧ t₂ = t₁.put p .dir ∧ t.Reaches base (front ++ [name]) p ∧
      LeadsToNew t t₂ base (front ++ [name]) := by
  obtain ⟨p, located, absent, rfl⟩ := makeDir_ok done
  have leads : Leads t₁ true maxLinks base (front ++ [name]) p :=
    ((rootDir.grows grows).leads_pathBelow proper (by simp) located).of_absent absent
  have reaches := reaches_of_leads made grows rootDir.sound (proper name (by simp)) leads
  have replaceable : t₁.Replaceable p := replaceable_of_here (.inr absent)
  have before : t.get? p = none := (grows.get?_of_ne_dir (by simp [absent])).trans absent
  refine ⟨p, replaceable.ne_nil, rfl, reaches, fun q leads' => ?_⟩
  -- The names lead to what was made, and to nothing else.
  have put := leads.put replaceable (e := .dir) (by simp)
  obtain rfl := Except.ok.inj (put.walk_eq.symm.trans leads'.walk_eq)
  exact ⟨reaches, before⟩

end Making

/-- The directories that are made for a path are places to which its names come. If all are there in
the end, nothing had to be made, or the last of them is new. -/
theorem ensureDirs_go_changes (fuel : Nat) (rootDir : t.RootDir root base)
    (proper : ProperNames names) :
    ChangesAlong t (ensureDirs.go fuel t (pathBelow root names)).2 base names ∧
      ((ensureDirs.go fuel t (pathBelow root names)).1 = .ok () →
        (ensureDirs.go fuel t (pathBelow root names)).2 = t ∨
          LeadsToNew t (ensureDirs.go fuel t (pathBelow root names)).2 base names) := by
  induction fuel generalizing names with
  | zero => exact ⟨.refl, fun _ => .inl rfl⟩
  | succ fuel ih =>
    rw [ensureDirs.go]
    split
    · exact ⟨.refl, fun _ => .inl rfl⟩
    rcases List.eq_nil_or_concat names with rfl | ⟨front, name, rfl⟩
    · -- Nothing is made above the directory, since it is there.
      obtain ⟨e, other, failed⟩ := rootDir.makeDir_root
      rw [failed]
      cases e with
      | notFound => exact absurd rfl other
      | _ => exact ⟨.refl, fun _ => .inl rfl⟩
    · rw [List.concat_eq_append] at proper ⊢
      cases first : t.makeDir (pathBelow root (front ++ [name])) with
      | ok t₁ =>
        obtain ⟨p, filled, rfl, reaches, new⟩ :=
          makeDir_new rootDir proper (.refl rootDir.sound) (.inl rfl) first
        exact ⟨ChangesAlong.refl.put filled reaches, fun _ => .inr new⟩
      | error e =>
        cases e with
        | notFound =>
          rw [parent?_pathBelow rootDir.root_ne_empty proper]
          have grows : Grows t (ensureDirs.go fuel t (pathBelow root front)).2 :=
            ensureDirs_go_grows rootDir.sound
          have upper := ih proper.front
          rcases run : ensureDirs.go fuel t (pathBelow root front) with ⟨⟨e⟩ | ⟨⟩, t₁⟩
          · rw [run] at upper
            simp only [run]
            exact ⟨upper.1.append [name], fun done => by cases done⟩
          · rw [run] at upper grows
            obtain ⟨changes, made⟩ := upper
            cases second : t₁.makeDir (pathBelow root (front ++ [name])) with
            | ok t₂ =>
              obtain ⟨p, filled, rfl, reaches, new⟩ :=
                makeDir_new rootDir proper grows (made rfl) second
              simp only [run, second]
              exact ⟨(changes.append [name]).put filled reaches, fun _ => .inr new⟩
            | error e =>
              simp only [run, second]
              exact ⟨changes.append [name], fun _ => (made rfl).imp_right fun new =>
                new.append grows rootDir.sound (proper name (by simp))⟩
        | _ => exact ⟨.refl, fun _ => .inl rfl⟩

/-- Writing a file below a directory changes nothing but places to which names of its path come. -/
theorem writeTextIn_changes (rootDir : t.RootDir root base) (proper : ProperNames names)
    (below : names ≠ []) (text : String) :
    let place := joinNames root names
    ChangesAlong t (t.writeTextIn (parent? place) place text).2 base names := by
  intro place
  simp only [place]
  obtain rfl | ⟨front, name, rfl⟩ := List.eq_nil_or_concat names
  · exact absurd rfl below
  rw [List.concat_eq_append] at proper below ⊢
  rw [parent?_joinNames rootDir.root_ne_empty proper, writeTextIn]
  have grows := ensureDirs_grows (pathBelow root front) rootDir.sound
  have upper := ensureDirs_go_changes ((pathBelow root front).length + 1) rootDir proper.front
  rw [← ensureDirs] at upper
  rcases run : t.ensureDirs (pathBelow root front) with ⟨⟨e⟩ | ⟨⟩, t₁⟩ <;> rw [run] at upper grows
  · exact upper.1.append [name]
  · obtain ⟨changes, made⟩ := upper
    rcases finish_cases t₁ (joinNames root (front ++ [name])) text with
      ⟨cause, failed⟩ | ⟨t₂, written, done⟩
    · simpa [failed] using changes.append [name]
    · obtain ⟨p, x, located, free, rfl⟩ := writeText_ok grows.sound written
      have leads := (rootDir.grows grows).leads_below proper below located
      have reaches :=
        reaches_of_leads (made rfl) grows rootDir.sound (proper name (by simp)) leads
      simpa [done] using (changes.append [name]).put free.ne_nil reaches

end Uplift.Files.Tree
