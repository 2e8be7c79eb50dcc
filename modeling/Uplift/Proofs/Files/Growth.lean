import Uplift.Proofs.Except
import Uplift.Proofs.Files.Walk

/-!
# How a file tree changes

Making directories adds directories and changes nothing else (`ensureDirs_grows`), also when it
fails on the way. Writing a file changes one place, where a file was or nothing (`writeText_ok`).
-/

namespace Uplift.Files.Tree

/-- Everything stays, and what is new are directories. -/
structure Grows (t t' : Tree) : Prop where
  cwd : t'.cwd = t.cwd
  kept : ∀ p e, t.get? p = some e → t'.get? p = some e
  made : ∀ p, t.get? p = none → t'.get? p = none ∨ t'.get? p = some .dir
  sound : t'.Sound

variable {t t' t'' : Tree} {path : String} {p : Place}

theorem Grows.refl (sound : t.Sound) : Grows t t :=
  ⟨rfl, fun _ _ found => found, fun _ absent => .inl absent, sound⟩

theorem Grows.trans (first : Grows t t') (second : Grows t' t'') : Grows t t'' where
  cwd := second.cwd.trans first.cwd
  kept p e found := second.kept p e (first.kept p e found)
  made p absent := by
    rcases first.made p absent with still | dir
    · exact second.made p still
    · exact .inr (second.kept p _ dir)
  sound := second.sound

/-- What is no directory after the growth was the same before it. -/
theorem Grows.get?_of_ne_dir (grows : Grows t t') (other : t'.get? p ≠ some .dir) :
    t.get? p = t'.get? p := by
  cases before : t.get? p with
  | some e => exact (grows.kept p e before).symm
  | none =>
    rcases grows.made p before with absent | dir
    · exact absent.symm
    · exact absurd dir other

/-- Nothing is below a place where nothing is. -/
theorem Sound.absent_below (sound : t.Sound) (absent : t.get? p = none) (names : List String) :
    t.get? (p ++ names) = none := by
  induction names generalizing p with
  | nil => simpa using absent
  | cons name names ih =>
    have next : t.get? (p ++ [name]) = none := by
      cases found : t.get? (p ++ [name]) with
      | none => rfl
      | some e =>
        have above := sound _ e (by simp) found
        rw [List.dropLast_concat, absent] at above
        cases above
    simpa using ih next

/-- What stands below a place stands below a directory. -/
theorem Sound.dir_above (sound : t.Sound) {more : Place} {e : Entry}
    (found : t.get? (p ++ more) = some e) (below : more ≠ []) : t.get? p = some .dir := by
  induction more using List.reverseRecOn generalizing e with
  | nil => exact absurd rfl below
  | append_singleton more name ih =>
    rw [← List.append_assoc] at found
    have above := sound _ e (by simp) found
    rw [List.dropLast_concat] at above
    by_cases last : more = []
    · rwa [last, List.append_nil] at above
    · exact ih above last

/-- A path with names is walked from a place of the tree. -/
theorem leads_of_resolve {last : Bool} (found : t.resolve last path = .ok p) :
    Leads t last maxLinks (if isAbsolute path then [] else t.cwd) (segments path) p := by
  simp only [resolve] at found
  split at found
  · cases found
  · split at found
    · cases found
    · split at found
      · cases found
      · exact leads_iff.mpr found

/-- A path to a place where nothing is leads into a directory. -/
theorem parent_of_resolve {last : Bool} (sound : t.Sound) (found : t.resolve last path = .ok p)
    (absent : t.get? p = none) : t.get? p.dropLast = some .dir := by
  rcases (leads_of_resolve found).parent sound absent with ⟨noNames, -⟩ | dir
  · exact absurd noNames (segments_ne_nil path)
  · exact dir

/-- An entry that is put in a directory leaves the tree sound, unless it takes the place of one. -/
theorem Sound.put (sound : t.Sound) {e : Entry} (other : t.get? p ≠ some .dir)
    (parent : t.get? p.dropLast = some .dir) : (t.put p e).Sound := by
  have filled : p ≠ [] := ne_nil_of_get?_ne_dir other
  -- No directory is replaced, so whatever stood in one still does.
  have stays {q : Place} (dir : t.get? q = some .dir) : (t.put p e).get? q = some .dir := by
    rw [get?_put t e q filled, if_neg (fun same : q = p => other (same ▸ dir))]
    exact dir
  intro q x someName found
  rw [get?_put t e q filled] at found
  by_cases same : q = p
  · exact stays (same ▸ parent)
  · rw [if_neg same] at found
    exact stays (sound q x someName found)

theorem makeDir_ok (made : t.makeDir path = .ok t') :
    ∃ p, t.locateLink path = .ok p ∧ t.get? p = none ∧ t' = t.put p .dir := by
  obtain ⟨p, found, rest⟩ := bind_eq_ok_iff.mp made
  cases here : t.get? p with
  | some e => simp [here] at rest
  | none => exact ⟨p, found, here, by simpa [here] using rest.symm⟩

theorem makeDir_grows (sound : t.Sound) (made : t.makeDir path = .ok t') : Grows t t' := by
  obtain ⟨p, found, absent, rfl⟩ := makeDir_ok made
  have free : t.get? p ≠ some .dir := by simp [absent]
  have filled : p ≠ [] := ne_nil_of_get?_ne_dir free
  refine ⟨rfl, fun q e there => ?_, fun q missing => ?_, ?_⟩
  · rw [get?_put t _ q filled, if_neg (by rintro rfl; simp [absent] at there)]
    exact there
  · rw [get?_put t _ q filled]
    by_cases same : q = p
    · simp [same]
    · simp [same, missing]
  · exact sound.put free (parent_of_resolve sound found absent)

/-- Making a directory and those above it adds directories, whether it succeeds or not. -/
theorem ensureDirs_go_grows {fuel : Nat} (sound : t.Sound) :
    Grows t (ensureDirs.go fuel t path).2 := by
  induction fuel generalizing t path with
  | zero => exact .refl sound
  | succ fuel ih =>
    rw [ensureDirs.go]
    split
    · exact .refl sound
    · cases first : t.makeDir path with
      | ok t' => exact makeDir_grows sound first
      | error e =>
        cases e with
        -- Only a directory that is missing on the way is made first, and the making tried again.
        | notFound =>
          cases parent : parent? path with
          | none => exact .refl sound
          | some above =>
            have upper : Grows t (ensureDirs.go fuel t above).2 := ih sound
            rcases run : ensureDirs.go fuel t above with ⟨result, t'⟩
            rw [run] at upper
            cases result with
            | error e => simpa [run] using upper
            | ok =>
              cases second : t'.makeDir path with
              | ok t'' => simpa [run, second] using upper.trans (makeDir_grows upper.sound second)
              | error e => simpa [run, second] using upper
        | _ => exact .refl sound

theorem ensureDirs_grows (path : String) (sound : t.Sound) : Grows t (t.ensureDirs path).2 :=
  ensureDirs_go_grows sound

/-- A place where a file may be written: in a directory, in the place of a file or of nothing. -/
structure Free (t : Tree) (p : Place) : Prop where
  parent : t.get? p.dropLast = some .dir
  here : (∃ content x, t.get? p = some (.file content x)) ∨ t.get? p = none

theorem replaceable_of_here
    (here : (∃ content x, t.get? p = some (.file content x)) ∨ t.get? p = none) :
    t.Replaceable p := by
  rcases here with ⟨content, x, file⟩ | absent
  · exact ⟨by simp [file], by simp [file]⟩
  · exact ⟨by simp [absent], by simp [absent]⟩

theorem Free.replaceable (free : t.Free p) : t.Replaceable p := replaceable_of_here free.here

theorem Free.ne_dir (free : t.Free p) : t.get? p ≠ some .dir := free.replaceable.notDir

theorem Free.ne_nil (free : t.Free p) : p ≠ [] := free.replaceable.ne_nil

/-- A text is written to a file, or where nothing is. -/
theorem writeText_put {text : String} (written : t.writeText path text = .ok t') :
    ∃ p x, t.locate path = .ok p ∧
      ((∃ content x, t.get? p = some (.file content x)) ∨ t.get? p = none) ∧
      t' = t.put p (.file (Text.toBytes text) x) := by
  obtain ⟨p, found, rest⟩ := bind_eq_ok_iff.mp written
  cases here : t.get? p with
  | none => exact ⟨p, false, found, .inr here, by simpa [here] using rest.symm⟩
  | some e =>
    cases e with
    | file old x => exact ⟨p, x, found, .inl ⟨old, x, here⟩, by simpa [here] using rest.symm⟩
    | dir => simp [here] at rest
    | link target => simp [here] at rest

theorem writeText_ok {text : String} (sound : t.Sound) (written : t.writeText path text = .ok t') :
    ∃ p x, t.locate path = .ok p ∧ t.Free p ∧ t' = t.put p (.file (Text.toBytes text) x) := by
  obtain ⟨p, x, found, here, same⟩ := writeText_put written
  have filled : p ≠ [] := (replaceable_of_here here).ne_nil
  refine ⟨p, x, found, ⟨?_, here⟩, same⟩
  rcases here with ⟨content, y, file⟩ | absent
  · exact sound p _ filled file
  · exact parent_of_resolve sound found absent

theorem finish_cases (t : Tree) (path text : String) :
    (∃ cause, writeTextIn.finish path text t = (.error cause, t)) ∨
      ∃ t', t.writeText path text = .ok t' ∧ writeTextIn.finish path text t = (.ok (), t') := by
  cases written : t.writeText path text with
  | error e => exact .inl ⟨(path, e), by simp [writeTextIn.finish, written]⟩
  | ok t' => exact .inr ⟨t', rfl, by simp [writeTextIn.finish, written]⟩

/-- A text is written to a file after its directory is made. -/
theorem writeTextIn_cases (dir : Option String) (path text : String) (sound : t.Sound) :
    ∃ t₁, Grows t t₁ ∧
      ((∃ cause, t.writeTextIn dir path text = (.error cause, t₁)) ∨
        ∃ t', t₁.writeText path text = .ok t' ∧ t.writeTextIn dir path text = (.ok (), t')) := by
  cases dir with
  | none => exact ⟨t, .refl sound, finish_cases t path text⟩
  | some dir =>
    have grows := ensureDirs_grows dir sound
    rcases run : t.ensureDirs dir with ⟨result, t₁⟩
    rw [run] at grows
    simp only [writeTextIn, run]
    cases result with
    | error e => exact ⟨t₁, grows, .inl ⟨(dir, e), rfl⟩⟩
    | ok => exact ⟨t₁, grows, finish_cases t₁ path text⟩

end Uplift.Files.Tree
