import Uplift.Files.Tree
import Uplift.Proofs.Files.Names

/-!
# Walks in a file tree

`Leads` lists the steps of a walk that ends at a place; `leads_iff` says that the walks of a tree
are these. From it:

* `Leads.append`: a walk that comes to a directory goes on from there.
* `Leads.mono`: a walk to a directory stays possible while directories and links stay.
* `Leads.parent`: a place that is free lies in a directory.
-/

namespace Uplift.Files.Tree

/-- What stands somewhere stands in a directory. -/
def Sound (t : Tree) : Prop :=
  ∀ p e, p ≠ [] → t.get? p = some e → t.get? p.dropLast = some .dir

section Steps

variable {t : Tree} {last : Bool} {links : Nat} {p : Place} {name : String} {rest : List String}

theorem walk_blank (dir : t.get? p = some .dir) (blank : name = "" ∨ name = ".") :
    t.walk last links p (name :: rest) = t.walk last links p rest := by
  rw [walk]
  rcases blank with rfl | rfl <;> simp [dir]

theorem walk_up (dir : t.get? p = some .dir) :
    t.walk last links p (".." :: rest) = t.walk last links p.dropLast rest := by
  rw [walk]
  simp [dir]

theorem walk_long (dir : t.get? p = some .dir) (descends : Descends name)
    (long : maxName < name.utf8ByteSize) :
    t.walk last links p (name :: rest) = .error .nameTooLong := by
  rw [walk]
  simp [dir, descends.nonempty, descends.notHere, descends.notUp, long]

theorem walk_down {e : Entry} (dir : t.get? p = some .dir) (descends : Descends name)
    (short : name.utf8ByteSize ≤ maxName) (found : t.get? (p ++ [name]) = some e)
    (unlinked : ∀ target, e ≠ .link target) :
    t.walk last links p (name :: rest) = t.walk last links (p ++ [name]) rest := by
  rw [walk]
  cases e with
  | link target => exact absurd rfl (unlinked target)
  | file content x =>
    simp [dir, descends.nonempty, descends.notHere, descends.notUp, Nat.not_lt.mpr short, found]
  | dir =>
    simp [dir, descends.nonempty, descends.notHere, descends.notUp, Nat.not_lt.mpr short, found]

theorem walk_follow {target : String} (dir : t.get? p = some .dir) (descends : Descends name)
    (short : name.utf8ByteSize ≤ maxName) (found : t.get? (p ++ [name]) = some (.link target))
    (goes : rest ≠ [] ∨ last = true) :
    t.walk last (links + 1) p (name :: rest) =
      t.walk last links (if isAbsolute target then [] else p) (segments target ++ rest) := by
  have followed : ¬ (rest.isEmpty && !last) := by
    rcases goes with more | rfl
    · simp [more]
    · simp
  rw [walk]
  simp [dir, descends.nonempty, descends.notHere, descends.notUp, Nat.not_lt.mpr short, found,
    followed]

theorem walk_stop {target : String} (dir : t.get? p = some .dir) (descends : Descends name)
    (short : name.utf8ByteSize ≤ maxName) (found : t.get? (p ++ [name]) = some (.link target)) :
    t.walk false links p [name] = .ok (p ++ [name]) := by
  rw [walk]
  simp [dir, descends.nonempty, descends.notHere, descends.notUp, Nat.not_lt.mpr short, found]

theorem walk_fresh (dir : t.get? p = some .dir) (descends : Descends name)
    (short : name.utf8ByteSize ≤ maxName) (absent : t.get? (p ++ [name]) = none) :
    t.walk last links p (name :: rest) =
      if rest = [] then .ok (p ++ [name]) else .error .notFound := by
  rw [walk]
  simp [dir, descends.nonempty, descends.notHere, descends.notUp, Nat.not_lt.mpr short, absent]

/-- A walk goes on only from a directory. -/
theorem walk_of_not_dir (other : t.get? p ≠ some .dir) :
    t.walk last links p (name :: rest) =
      .error (if t.get? p = none then .notFound else .notDirectory) := by
  rw [walk]
  split
  · contradiction
  · next found => simp [found]
  · next absent => simp [absent]

end Steps

/-- The steps of a walk that ends at a place. -/
inductive Leads (t : Tree) (last : Bool) : Nat → Place → List String → Place → Prop
  | here {links p} : Leads t last links p [] p
  | blank {links p name rest q} : t.get? p = some .dir → name = "" ∨ name = "." →
      Leads t last links p rest q → Leads t last links p (name :: rest) q
  | up {links p rest q} : t.get? p = some .dir → Leads t last links p.dropLast rest q →
      Leads t last links p (".." :: rest) q
  | down {links p name rest e q} : t.get? p = some .dir → Descends name →
      name.utf8ByteSize ≤ maxName → t.get? (p ++ [name]) = some e → (∀ target, e ≠ .link target) →
      Leads t last links (p ++ [name]) rest q → Leads t last links p (name :: rest) q
  | follow {links p name rest target q} : t.get? p = some .dir → Descends name →
      name.utf8ByteSize ≤ maxName → t.get? (p ++ [name]) = some (.link target) →
      rest ≠ [] ∨ last = true →
      Leads t last links (if isAbsolute target then [] else p) (segments target ++ rest) q →
      Leads t last (links + 1) p (name :: rest) q
  /-- A link at the end that is not followed. -/
  | stop {links p name target} : t.get? p = some .dir → Descends name →
      name.utf8ByteSize ≤ maxName → t.get? (p ++ [name]) = some (.link target) → last = false →
      Leads t last links p [name] (p ++ [name])
  /-- A place where nothing is. -/
  | fresh {links p name} : t.get? p = some .dir → Descends name →
      name.utf8ByteSize ≤ maxName → t.get? (p ++ [name]) = none →
      Leads t last links p [name] (p ++ [name])

section Walks

variable {t t' : Tree} {last : Bool} {links : Nat} {p q : Place} {names : List String}

theorem Leads.walk_eq (leads : Leads t last links p names q) :
    t.walk last links p names = .ok q := by
  induction leads with
  | here => simp [walk]
  | blank dir blank _ ih => rw [walk_blank dir blank, ih]
  | up dir _ ih => rw [walk_up dir, ih]
  | down dir descends short found unlinked _ ih =>
    rw [walk_down dir descends short found unlinked, ih]
  | follow dir descends short found goes _ ih =>
    rw [walk_follow dir descends short found goes, ih]
  | stop dir descends short found last =>
    subst last
    exact walk_stop dir descends short found
  | fresh dir descends short absent => rw [walk_fresh dir descends short absent, if_pos rfl]

/-- The walks that end at a place. -/
theorem leads_iff : Leads t last links p names q ↔ t.walk last links p names = .ok q := by
  refine ⟨Leads.walk_eq, fun walked => ?_⟩
  -- The cases of the walk that fail are no successes; each of the others is a step of `Leads`.
  fun_induction walk t last links p names with
  | case1 => exact Except.ok.inj walked ▸ .here
  | case2 links p name rest dir blank ih => exact .blank dir (by simpa using blank) (ih walked)
  | case3 links p rest dir _ ih => exact .up dir (ih walked)
  | case4 | case6 | case10 | case11 | case12 => cases walked
  | case5 links p name rest dir filled notUp short next target found stops =>
    simp only [Bool.or_eq_true, decide_eq_true_eq, not_or] at filled
    simp only [Bool.and_eq_true, List.isEmpty_iff, Bool.not_eq_true'] at stops
    obtain ⟨rfl, lastFalse⟩ := stops
    exact Except.ok.inj walked ▸
      .stop dir ⟨filled.1, filled.2, notUp⟩ (Nat.not_lt.mp short) found lastFalse
  | case7 p name rest dir filled notUp short next target found goes links ih =>
    simp only [Bool.or_eq_true, decide_eq_true_eq, not_or] at filled
    refine .follow dir ⟨filled.1, filled.2, notUp⟩ (Nat.not_lt.mp short) found ?_ (ih walked)
    simp only [Bool.and_eq_true, List.isEmpty_iff, Bool.not_eq_true', not_and,
      Bool.not_eq_false] at goes
    exact Decidable.or_iff_not_imp_left.mpr fun last => goes (Decidable.not_not.mp last)
  | case8 links p name rest dir filled notUp short next e unlinked found ih =>
    simp only [Bool.or_eq_true, decide_eq_true_eq, not_or] at filled
    exact .down dir ⟨filled.1, filled.2, notUp⟩ (Nat.not_lt.mp short) found
      (fun target same => unlinked target same) (ih walked)
  | case9 links p name rest dir filled notUp short next absent done =>
    simp only [Bool.or_eq_true, decide_eq_true_eq, not_or] at filled
    obtain rfl := List.isEmpty_iff.mp done
    exact Except.ok.inj walked ▸
      .fresh dir ⟨filled.1, filled.2, notUp⟩ (Nat.not_lt.mp short) absent

/-- A walk to a directory begins in one. -/
theorem Leads.start_dir (leads : Leads t last links p names q) (dir : t.get? q = some .dir) :
    t.get? p = some .dir := by
  cases leads with
  | here => exact dir
  | blank start | up start | down start | follow start | stop start | fresh start => exact start

/-- More links may be followed than are. -/
theorem Leads.links_mono {more : Nat} (leads : Leads t last links p names q)
    (atMost : links ≤ more) : Leads t last more p names q := by
  induction leads generalizing more with
  | here => exact .here
  | blank start blank _ ih => exact .blank start blank (ih atMost)
  | up start _ ih => exact .up start (ih atMost)
  | down start descends short found unlinked _ ih =>
    exact .down start descends short found unlinked (ih atMost)
  | follow start descends short found goes _ ih =>
    obtain ⟨more, rfl⟩ := Nat.exists_eq_add_one_of_ne_zero (Nat.ne_zero_of_lt atMost)
    exact .follow start descends short found goes (ih (Nat.le_of_succ_le_succ atMost))
  | stop start descends short found notLast => exact .stop start descends short found notLast
  | fresh start descends short absent => exact .fresh start descends short absent

/-- A walk that comes to a directory goes on from there. -/
theorem Leads.append (leads : Leads t true links p names q) (dir : t.get? q = some .dir) :
    ∃ left ≤ links, ∀ last more, (last = false → more ≠ []) →
      t.walk last links p (names ++ more) = t.walk last left q more := by
  -- A link at the end is followed here, as it is when more names come after it.
  generalize following : true = followed at leads
  induction leads with
  | @here links p => exact ⟨links, le_refl _, fun last more _ => rfl⟩
  | blank start blank _ ih =>
    obtain ⟨left, atMost, goesOn⟩ := ih dir
    exact ⟨left, atMost, fun last more goes => by
      rw [List.cons_append, walk_blank start blank, goesOn last more goes]⟩
  | up start _ ih =>
    obtain ⟨left, atMost, goesOn⟩ := ih dir
    exact ⟨left, atMost, fun last more goes => by
      rw [List.cons_append, walk_up start, goesOn last more goes]⟩
  | down start descends short found unlinked _ ih =>
    obtain ⟨left, atMost, goesOn⟩ := ih dir
    exact ⟨left, atMost, fun last more goes => by
      rw [List.cons_append, walk_down start descends short found unlinked, goesOn last more goes]⟩
  | @follow links p name rest target q start descends short found _ _ ih =>
    obtain ⟨left, atMost, goesOn⟩ := ih dir
    refine ⟨left, Nat.le_succ_of_le atMost, fun last more goes => ?_⟩
    have followed : rest ++ more ≠ [] ∨ last = true := by
      cases last with
      | true => exact .inr rfl
      | false => exact .inl (List.append_ne_nil_of_right_ne_nil _ (goes rfl))
    rw [List.cons_append, walk_follow start descends short found followed, ← List.append_assoc,
      goesOn last more goes]
  | stop _ _ _ _ notLast => cases following.trans notLast
  | fresh _ _ _ absent => cases absent.symm.trans dir

/-- What is left of a walk that comes to a directory leads on from there. -/
theorem Leads.rest {more : List String} {end' : Place} (leads : Leads t true links p names q)
    (dir : t.get? q = some .dir) (some' : more ≠ [])
    (whole : Leads t last links p (names ++ more) end') : Leads t last links q more end' := by
  obtain ⟨left, atMost, goesOn⟩ := leads.append dir
  have further := goesOn last more fun _ => some'
  exact (leads_iff.mpr (further.symm.trans whole.walk_eq)).links_mono atMost

/-- Names that are skipped may be left out. -/
theorem Leads.filter {front rest : List String} (leads : Leads t true links p (front ++ rest) q) :
    Leads t true links p (front ++ rest.filter Counts) q := by
  generalize following : true = last at leads
  generalize split : front ++ rest = all at leads
  induction leads generalizing front rest with
  | here =>
    obtain ⟨rfl, rfl⟩ := List.append_eq_nil_iff.mp split
    exact .here
  | @blank links p name rest' q start blank further ih =>
    cases front with
    | nil =>
      obtain rfl := split
      have skipped : ¬ Counts name = true := by rcases blank with rfl | rfl <;> decide
      rw [List.filter_cons_of_neg skipped]
      exact @ih [] _ rfl
    | cons name front =>
      obtain ⟨rfl, rfl⟩ := List.cons.inj split
      exact .blank start blank (ih rfl)
  | up start further ih =>
    cases front with
    | nil =>
      obtain rfl := split
      rw [List.filter_cons_of_pos (by decide)]
      exact .up start (@ih [] _ rfl)
    | cons name front =>
      obtain ⟨rfl, rfl⟩ := List.cons.inj split
      exact .up start (ih rfl)
  | down start descends short found unlinked _ ih =>
    cases front with
    | nil =>
      obtain rfl := split
      rw [List.filter_cons_of_pos descends.counts]
      exact .down start descends short found unlinked (@ih [] _ rfl)
    | cons name front =>
      obtain ⟨rfl, rfl⟩ := List.cons.inj split
      exact .down start descends short found unlinked (ih rfl)
  | follow start descends short found _ _ ih =>
    cases front with
    | nil =>
      obtain rfl := split
      rw [List.filter_cons_of_pos descends.counts]
      exact .follow start descends short found (.inr following.symm) (ih rfl)
    | cons name front =>
      obtain ⟨rfl, rfl⟩ := List.cons.inj split
      have further := ih (List.append_assoc ..)
      rw [List.append_assoc] at further
      exact .follow start descends short found (.inr following.symm) further
  | stop _ _ _ _ notLast => cases following.trans notLast
  | fresh start descends short absent =>
    cases front with
    | nil =>
      obtain rfl := split
      rw [List.filter_cons_of_pos descends.counts]
      exact .fresh start descends short absent
    | cons name front =>
      obtain ⟨rfl, ended⟩ := List.cons.inj split
      obtain ⟨rfl, rfl⟩ := List.append_eq_nil_iff.mp ended
      exact .fresh start descends short absent

/-- A walk comes to each of its names from a directory. -/
theorem Leads.split {front more : List String} (leads : Leads t last links p (front ++ more) q)
    (some' : more ≠ []) :
    ∃ d, Leads t true links p front d ∧ t.get? d = some .dir ∧ Leads t last links d more q := by
  generalize split : front ++ more = all at leads
  induction leads generalizing front with
  | here => exact absurd (List.append_eq_nil_iff.mp split).2 some'
  | @blank links p name rest q start blank further ih =>
    cases front with
    | nil =>
      obtain rfl := split
      exact ⟨p, .here, start, .blank start blank further⟩
    | cons name front =>
      obtain ⟨rfl, rfl⟩ := List.cons.inj split
      obtain ⟨d, before, dir, after⟩ := ih rfl
      exact ⟨d, .blank start blank before, dir, after⟩
  | @up links p rest q start further ih =>
    cases front with
    | nil =>
      obtain rfl := split
      exact ⟨p, .here, start, .up start further⟩
    | cons name front =>
      obtain ⟨rfl, rfl⟩ := List.cons.inj split
      obtain ⟨d, before, dir, after⟩ := ih rfl
      exact ⟨d, .up start before, dir, after⟩
  | @down links p name rest e q start descends short found unlinked further ih =>
    cases front with
    | nil =>
      obtain rfl := split
      exact ⟨p, .here, start, .down start descends short found unlinked further⟩
    | cons name front =>
      obtain ⟨rfl, rfl⟩ := List.cons.inj split
      obtain ⟨d, before, dir, after⟩ := ih rfl
      exact ⟨d, .down start descends short found unlinked before, dir, after⟩
  | @follow links p name rest target q start descends short found goes further ih =>
    cases front with
    | nil =>
      obtain rfl := split
      exact ⟨p, .here, start, .follow start descends short found goes further⟩
    | cons name front =>
      obtain ⟨rfl, rfl⟩ := List.cons.inj split
      obtain ⟨d, before, dir, after⟩ := ih (List.append_assoc ..)
      exact ⟨d, .follow start descends short found (.inr rfl) before, dir,
        after.links_mono (Nat.le_succ _)⟩
  | @stop links p name target start descends short found notLast =>
    cases front with
    | nil =>
      obtain rfl := split
      exact ⟨p, .here, start, .stop start descends short found notLast⟩
    | cons name front =>
      exact absurd (List.append_eq_nil_iff.mp (List.cons.inj split).2).2 some'
  | @fresh links p name start descends short absent =>
    cases front with
    | nil =>
      obtain rfl := split
      exact ⟨p, .here, start, .fresh start descends short absent⟩
    | cons name front =>
      exact absurd (List.append_eq_nil_iff.mp (List.cons.inj split).2).2 some'

/-- A walk to something comes to something, too, if it does not follow a link at its end. -/
theorem Leads.unfollowed (leads : Leads t true links p names q) (stands : t.get? q ≠ none) :
    ∃ q', Leads t false links p names q' ∧ t.get? q' ≠ none := by
  generalize following : true = last at leads
  induction leads with
  | here => exact ⟨_, .here, stands⟩
  | blank start blank _ ih =>
    obtain ⟨q', leads, stands⟩ := ih stands
    exact ⟨q', .blank start blank leads, stands⟩
  | up start _ ih =>
    obtain ⟨q', leads, stands⟩ := ih stands
    exact ⟨q', .up start leads, stands⟩
  | down start descends short found unlinked _ ih =>
    obtain ⟨q', leads, stands⟩ := ih stands
    exact ⟨q', .down start descends short found unlinked leads, stands⟩
  | @follow links p name rest target q start descends short found _ _ ih =>
    by_cases ends : rest = []
    · subst ends
      exact ⟨_, .stop start descends short found rfl, by simp [found]⟩
    · obtain ⟨q', leads, stands⟩ := ih stands
      exact ⟨q', .follow start descends short found (.inl ends) leads, stands⟩
  | stop _ _ _ _ notLast => cases following.trans notLast
  | fresh _ _ _ absent => exact absurd absent stands

/-- A walk to a directory stays possible while what is not a file stays. -/
theorem Leads.mono (kept : ∀ p e, (∀ c x, e ≠ .file c x) → t.get? p = some e → t'.get? p = some e)
    (leads : Leads t last links p names q) (dir : t.get? q = some .dir) :
    Leads t' last links p names q := by
  have keptDir {p : Place} : t.get? p = some .dir → t'.get? p = some .dir := kept p _ (by simp)
  induction leads with
  | here => exact .here
  | blank start blank _ ih => exact .blank (keptDir start) blank (ih dir)
  | up start _ ih => exact .up (keptDir start) (ih dir)
  | down start descends short _ _ further ih =>
    exact .down (keptDir start) descends short (keptDir (further.start_dir dir)) (by simp)
      (ih dir)
  | follow start descends short found goes _ ih =>
    exact .follow (keptDir start) descends short (kept _ _ (by simp) found) goes (ih dir)
  | stop start descends short found notLast =>
    exact .stop (keptDir start) descends short (kept _ _ (by simp) found) notLast
  | fresh _ _ _ absent => cases absent.symm.trans dir

/-- Where nothing stands, there is no link at the end that could be followed. -/
theorem Leads.of_absent (leads : Leads t last links p names q) (absent : t.get? q = none) :
    Leads t true links p names q := by
  induction leads with
  | here => exact .here
  | blank start blank _ ih => exact .blank start blank (ih absent)
  | up start _ ih => exact .up start (ih absent)
  | down start descends short found unlinked _ ih =>
    exact .down start descends short found unlinked (ih absent)
  | follow start descends short found _ _ ih =>
    exact .follow start descends short found (.inr rfl) (ih absent)
  | stop _ _ _ found => cases absent.symm.trans found
  | fresh start descends short absent => exact .fresh start descends short absent

/-- A place where a file may be put: neither a directory nor a link is there. -/
structure Replaceable (t : Tree) (p : Place) : Prop where
  notDir : t.get? p ≠ some .dir
  noLink : ∀ target, t.get? p ≠ some (.link target)

theorem ne_nil_of_get?_ne_dir (other : t.get? p ≠ some .dir) : p ≠ [] := by
  rintro rfl
  exact other (by simp [get?])

theorem Replaceable.ne_nil (replaceable : t.Replaceable q) : q ≠ [] :=
  ne_nil_of_get?_ne_dir replaceable.notDir

/-- What is not a file stays. -/
theorem Replaceable.kept {e e' : Entry} (replaceable : t.Replaceable q)
    (noFile : ∀ c x, e' ≠ .file c x) (found : t.get? p = some e') :
    (t.put q e).get? p = some e' := by
  rw [get?_put t e p replaceable.ne_nil, if_neg]
  · exact found
  · rintro rfl
    cases e' with
    | file c x => exact noFile c x rfl
    | dir => exact replaceable.notDir found
    | link target => exact replaceable.noLink target found

/-- A walk stays possible when something other than a link is put at its end. -/
theorem Leads.put {e : Entry} (leads : Leads t last links p names q)
    (replaceable : t.Replaceable q) (unlinked : ∀ target, e ≠ .link target) :
    Leads (t.put q e) true links p names q := by
  have keptDir {p : Place} (start : t.get? p = some .dir) : (t.put q e).get? p = some .dir :=
    replaceable.kept (by simp) start
  induction leads with
  | here => exact .here
  | blank start blank _ ih => exact .blank (keptDir start) blank (ih replaceable keptDir)
  | up start _ ih => exact .up (keptDir start) (ih replaceable keptDir)
  | @down links p name rest e' q start descends short found unlinked' _ ih =>
    have next := get?_put t e (p ++ [name]) replaceable.ne_nil
    -- The name may be that of the place itself.
    by_cases last : p ++ [name] = q
    · rw [if_pos last] at next
      exact .down (keptDir start) descends short next unlinked (ih replaceable keptDir)
    · rw [if_neg last, found] at next
      exact .down (keptDir start) descends short next unlinked' (ih replaceable keptDir)
  | follow start descends short found _ _ ih =>
    exact .follow (keptDir start) descends short (replaceable.kept (by simp) found) (.inr rfl)
      (ih replaceable keptDir)
  | stop _ _ _ found => exact absurd found (replaceable.noLink _)
  | fresh start descends short absent =>
    refine .down (keptDir start) descends short ?_ unlinked .here
    rw [get?_put t e _ replaceable.ne_nil, if_pos rfl]

/-- A place where nothing is lies in a directory, unless the walk began there. -/
theorem Leads.parent (sound : t.Sound) (leads : Leads t last links p names q)
    (absent : t.get? q = none) : (names = [] ∧ p = q) ∨ t.get? q.dropLast = some .dir := by
  induction leads with
  | here => exact .inl ⟨rfl, rfl⟩
  | blank start _ _ ih =>
    rcases ih absent with ⟨-, rfl⟩ | inDir
    · cases absent.symm.trans start
    · exact .inr inDir
  | @up links p rest q start _ ih =>
    rcases ih absent with ⟨-, rfl⟩ | inDir
    -- What is above a place where something stands is a directory, and not missing.
    · by_cases atRoot : p = []
      · exact absurd absent (by simp [atRoot, get?])
      · cases absent.symm.trans (sound p _ atRoot start)
    · exact .inr inDir
  | down _ _ _ found _ _ ih =>
    rcases ih absent with ⟨-, rfl⟩ | inDir
    · cases absent.symm.trans found
    · exact .inr inDir
  | @follow links p name rest target q start _ _ _ _ _ ih =>
    rcases ih absent with ⟨noNames, -⟩ | inDir
    · exact absurd (List.append_eq_nil_iff.mp noNames).1 (segments_ne_nil target)
    · exact .inr inDir
  | stop start => exact .inr (by simpa using start)
  | fresh start => exact .inr (by simpa using start)

end Walks

end Uplift.Files.Tree
