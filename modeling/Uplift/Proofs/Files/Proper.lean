import Uplift.Proofs.Entries
import Uplift.Proofs.Files.Growth

/-!
# Proper file trees

A file tree is proper if it is one that a file system can hold: what stands somewhere stands in a
directory, under a name, and nothing stands twice at one place. Making directories and writing files
keep a tree proper (`Proper.writeTextIn`), and the children of a directory are just what stands one
name below it (`Proper.mem_children_iff`).
-/

namespace Uplift.Files.Tree

/-- A tree that a file system can hold. -/
structure Proper (t : Tree) : Prop where
  sound : t.Sound
  distinct : (t.entries.map (·.1)).Nodup
  names : ∀ p e, t.get? p = some e → ProperNames p
  cwd : ProperNames t.cwd

variable {t t' : Tree} {path : String} {p q : Place} {e : Entry}

/-! ## Entries -/

theorem Proper.get?_eq_some_iff (proper : t.Proper) (below : p ≠ []) :
    t.get? p = some e ↔ (p, e) ∈ t.entries := by
  rw [get?, if_neg below, Entries.lookup_eq_some_iff proper.distinct]

/-- A tree is proper if each of its entries has a place of its own, below a directory. -/
theorem Proper.of_entries (distinct : (t.entries.map (·.1)).Nodup)
    (each : ∀ entry ∈ t.entries,
      t.get? entry.1.dropLast = some .dir ∧ ProperNames entry.1)
    (cwd : ProperNames t.cwd) : t.Proper := by
  have among {p : Place} {e : Entry} (below : p ≠ []) (found : t.get? p = some e) :
      (p, e) ∈ t.entries := by
    rw [get?, if_neg below] at found
    exact (Entries.lookup_eq_some_iff distinct).mp found
  refine ⟨fun p e below found => (each _ (among below found)).1, distinct, fun p e found => ?_, cwd⟩
  by_cases root : p = []
  · subst root
    exact fun name member => absurd member List.not_mem_nil
  · exact (each _ (among root found)).2

/-- The order in which the entries are listed is no matter. -/
theorem Proper.get?_of_perm (proper : t.Proper) (perm : t'.entries.Perm t.entries) (p : Place) :
    t'.get? p = t.get? p := by
  have distinct : (t'.entries.map (·.1)).Nodup := (perm.map _).nodup_iff.mpr proper.distinct
  rw [get?, get?]
  split
  · rfl
  · apply Option.ext
    intro e
    rw [Entries.lookup_eq_some_iff distinct, Entries.lookup_eq_some_iff proper.distinct,
      perm.mem_iff]

theorem Proper.of_perm (proper : t.Proper) (cwd : t'.cwd = t.cwd)
    (perm : t'.entries.Perm t.entries) : t'.Proper where
  sound p e below found := by
    rw [proper.get?_of_perm perm] at found ⊢
    exact proper.sound p e below found
  distinct := (perm.map _).nodup_iff.mpr proper.distinct
  names p e found := proper.names p e (proper.get?_of_perm perm p ▸ found)
  cwd := cwd ▸ proper.cwd

/-- A child stands one name below its directory. -/
theorem eq_of_child {child : String × Entry}
    (isChild : (match q.getLast? with
      | some name => if q.dropLast = p then some (name, e) else none
      | none => none) = some child) : q = p ++ [child.1] ∧ e = child.2 := by
  split at isChild
  · rename_i last isLast
    split at isChild
    · rename_i inDir
      obtain rfl := Option.some.inj isChild
      obtain ⟨front, rfl⟩ := List.getLast?_eq_some_iff.mp isLast
      rw [List.dropLast_concat] at inDir
      exact ⟨by rw [inDir], rfl⟩
    · cases isChild
  · cases isChild

theorem mem_children_iff_entries {name : String} :
    (name, e) ∈ t.children p ↔ (p ++ [name], e) ∈ t.entries := by
  rw [children, List.mem_filterMap]
  constructor
  · rintro ⟨⟨q, e'⟩, member, child⟩
    obtain ⟨rfl, rfl⟩ := eq_of_child child
    exact member
  · intro member
    exact ⟨_, member, by simp⟩

/-- The children of a directory are what stands one name below it. -/
theorem Proper.mem_children_iff (proper : t.Proper) {name : String} :
    (name, e) ∈ t.children p ↔ t.get? (p ++ [name]) = some e := by
  rw [mem_children_iff_entries, proper.get?_eq_some_iff (by simp)]

/-- The children of a directory stand among the entries, in the same order. -/
theorem children_sublist (t : Tree) (p : Place) :
    ((t.children p).map fun child => p ++ [child.1]).Sublist (t.entries.map (·.1)) := by
  rw [children]
  induction t.entries with
  | nil => exact .slnil
  | cons entry entries ih =>
    obtain ⟨q, e⟩ := entry
    rw [List.filterMap_cons, List.map_cons]
    split
    · exact ih.cons q
    · rename_i child isChild
      obtain ⟨same, -⟩ := eq_of_child isChild
      rw [List.map_cons, same]
      exact ih.cons_cons _

/-- No name is twice among the children. -/
theorem Proper.nodup_children (proper : t.Proper) (p : Place) :
    ((t.children p).map (·.1)).Nodup := by
  have places := proper.distinct.sublist (t.children_sublist p)
  have split : (t.children p).map (fun child => p ++ [child.1]) =
      ((t.children p).map (·.1)).map fun name => p ++ [name] := by
    rw [List.map_map]
    rfl
  rw [split] at places
  exact places.of_map

/-! ## Changes -/

theorem Proper.put (proper : t.Proper) (other : t.get? p ≠ some .dir)
    (parent : t.get? p.dropLast = some .dir) (names : ProperNames p) : (t.put p e).Proper where
  sound := proper.sound.put other parent
  distinct := by
    have fresh : p ∉ (t.entries.filter (·.1 ≠ p)).map (·.1) := by simp
    have kept : ((t.entries.filter (·.1 ≠ p)).map (·.1)).Nodup :=
      proper.distinct.sublist ((List.filter_sublist).map _)
    exact List.nodup_cons.mpr ⟨fresh, kept⟩
  names q e' found := by
    rw [get?_put t e q (ne_nil_of_get?_ne_dir other)] at found
    split at found
    · rename_i same
      exact same ▸ names
    · exact proper.names q e' found
  cwd := proper.cwd

/-- A walk along names comes to a place of names. -/
theorem Leads.properNames {last : Bool} {links : Nat} {names : List String}
    (leads : Leads t last links p names q) (start : ProperNames p)
    (noSlash : ∀ name ∈ names, '/' ∉ name.toList) : ProperNames q := by
  have down {p : Place} {name : String} {rest : List String} (start : ProperNames p)
      (descends : Descends name) (noSlash : ∀ n ∈ name :: rest, '/' ∉ n.toList) :
      ProperNames (p ++ [name]) := by
    intro n member
    rcases List.mem_append.mp member with above | here
    · exact start n above
    · obtain rfl := List.mem_singleton.mp here
      exact ⟨descends, noSlash n List.mem_cons_self⟩
  induction leads with
  | here => exact start
  | blank _ _ _ ih => exact ih start fun n member => noSlash n (List.mem_cons_of_mem _ member)
  | up _ _ ih =>
    exact ih (fun n member => start n (List.dropLast_subset _ member)) fun n member =>
      noSlash n (List.mem_cons_of_mem _ member)
  | down _ descends _ _ _ _ ih =>
    exact ih (down start descends noSlash) fun n member =>
      noSlash n (List.mem_cons_of_mem _ member)
  | @follow links p name rest target q _ _ _ _ _ _ ih =>
    refine ih ?_ fun n member => ?_
    · split
      · simp [ProperNames]
      · exact start
    · rcases List.mem_append.mp member with inTarget | later
      · exact slash_not_mem_of_mem_segments inTarget
      · exact noSlash n (List.mem_cons_of_mem _ later)
  | stop _ descends => exact down start descends noSlash
  | fresh _ descends => exact down start descends noSlash

theorem Proper.properNames_of_resolve {last : Bool} (proper : t.Proper)
    (found : t.resolve last path = .ok p) : ProperNames p := by
  refine (leads_of_resolve found).properNames ?_ fun _ => slash_not_mem_of_mem_segments
  split
  · simp [ProperNames]
  · exact proper.cwd

theorem Proper.makeDir (proper : t.Proper) (made : t.makeDir path = .ok t') : t'.Proper := by
  obtain ⟨p, found, absent, rfl⟩ := makeDir_ok made
  exact proper.put (by simp [absent]) (parent_of_resolve proper.sound found absent)
    (proper.properNames_of_resolve found)

theorem Proper.ensureDirs_go {fuel : Nat} (proper : t.Proper) :
    (ensureDirs.go fuel t path).2.Proper := by
  induction fuel generalizing t path with
  | zero => exact proper
  | succ fuel ih =>
    rw [ensureDirs.go]
    split
    · exact proper
    · cases first : t.makeDir path with
      | ok t' => exact proper.makeDir first
      | error e =>
        cases e with
        -- Only a directory that is missing on the way is made first, and the making tried again.
        | notFound =>
          cases parent : parent? path with
          | none => exact proper
          | some above =>
            have upper : (ensureDirs.go fuel t above).2.Proper := ih proper
            rcases run : ensureDirs.go fuel t above with ⟨result, t'⟩
            rw [run] at upper
            cases result with
            | error e => simpa [run] using upper
            | ok =>
              cases second : t'.makeDir path with
              | ok t'' => simpa [run, second] using upper.makeDir second
              | error e => simpa [run, second] using upper
        | _ => exact proper

theorem Proper.writeText {text : String} (proper : t.Proper)
    (written : t.writeText path text = .ok t') : t'.Proper := by
  obtain ⟨p, x, found, free, rfl⟩ := writeText_ok proper.sound written
  exact proper.put free.ne_dir free.parent (proper.properNames_of_resolve found)

/-- Writing a file keeps a tree proper, whether it succeeds or not. -/
theorem Proper.writeTextIn (proper : t.Proper) (dir : Option String) (path text : String) :
    (t.writeTextIn dir path text).2.Proper := by
  have finish {t : Tree} (proper : t.Proper) : (writeTextIn.finish path text t).2.Proper := by
    rcases finish_cases t path text with ⟨cause, failed⟩ | ⟨t', written, done⟩
    · rw [failed]
      exact proper
    · rw [done]
      exact proper.writeText written
  cases dir with
  | none => exact finish proper
  | some dir =>
    have made : (t.ensureDirs dir).2.Proper := proper.ensureDirs_go
    rcases run : t.ensureDirs dir with ⟨result, t₁⟩
    rw [run] at made
    simp only [Tree.writeTextIn, run]
    cases result with
    | error e => exact made
    | ok => exact finish made

end Uplift.Files.Tree
