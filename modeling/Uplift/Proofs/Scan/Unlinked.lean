import Uplift.Proofs.Files.Proper
import Uplift.Proofs.Scan.Walker

/-!
# Walks that follow no links

What such a walk comes to, said without the walk: a file that is admitted, each directory on the way
to it being admitted in turn (`Walker.Comes`). In a proper tree, and if the names of all these files
are text, it finds just those of them that its glob keeps, each once (`Walker.below_gives`), and
gives them in strict order (`Walker.collect_gives`). Otherwise it fails for the sake of one whose
names are not.
-/

namespace Uplift.Files

/-- Different paths in the order of a listing are strictly in order, name by name. -/
theorem lex_of_namesLe {a b : List String} (le : namesLe a b = true) (other : a ≠ b) :
    List.Lex (· < ·) a b := by
  induction a generalizing b with
  | nil =>
    cases b with
    | nil => exact absurd rfl other
    | cons y b => exact .nil
  | cons x a ih =>
    cases b with
    | nil => cases le
    | cons y b =>
      rw [namesLe] at le
      by_cases same : x = y
      · subst same
        rw [if_pos rfl] at le
        exact .cons (ih le fun tails => other (congrArg (x :: ·) tails))
      · rw [if_neg same, decide_eq_true_iff] at le
        exact .rel le

namespace Tree

/-- How many entries stand deeper than a place. -/
def deeper (t : Tree) (p : Place) : Nat := t.entries.countP (p.length < ·.1.length)

/-- A place that is there is deeper than its directory, but not deeper than itself. -/
theorem deeper_child_lt {t : Tree} {p : Place} {name : String} {e : Entry}
    (member : (p ++ [name], e) ∈ t.entries) : t.deeper (p ++ [name]) < t.deeper p := by
  rw [deeper, deeper]
  generalize t.entries = entries at member
  have le (es : List (Place × Entry)) :
      es.countP (fun entry => (p ++ [name]).length < entry.1.length) ≤
        es.countP fun entry => p.length < entry.1.length := by
    refine List.countP_mono_left fun entry _ deep => ?_
    simp only [List.length_append, List.length_singleton, decide_eq_true_eq] at deep ⊢
    omega
  obtain ⟨front, back, rfl⟩ := List.append_of_mem member
  have before := le front
  have after := le back
  simp only [List.countP_append, List.countP_cons, Nat.lt_irrefl, decide_false, List.length_append,
    List.length_singleton, Nat.lt_succ_self, decide_true, Bool.false_eq_true, if_true, if_false]
    at before after ⊢
  omega

end Tree

end Uplift.Files

namespace Uplift.Scan.Walker

open Files

variable {w : Walker} {t : Tree} {levels : List Level} {open' : List Place} {dir : Place}
  {names more : List String} {name : String} {fuel : Nat}

/-! ## One directory -/

/-- The levels that decide on the entries of a directory. -/
def levelsAt (w : Walker) (t : Tree) (levels : List Level) (dir : Place) (names : List String) :
    List Level :=
  if w.standardFilters then { depth := names.length, files := ignoreFiles t dir } :: levels
  else levels

/-- What a walk makes of a child of a directory, if it follows no links. -/
def ofChild (w : Walker) (t : Tree) (fuel : Nat) (levels : List Level) (open' : List Place)
    (dir : Place) (names : List String) (child : String × Entry) :
    Except ScanError (List (List String)) :=
  let path := names ++ [child.1]
  if w.admits levels path child.2.isDir then
    match child.2 with
    | .dir => w.below t fuel levels ((dir ++ [child.1]) :: open') (dir ++ [child.1]) path
    | .file _ _ =>
      if isUtf8 path then .ok (if w.wants path then [path] else [])
      else .error (.nonUtf8Path (w.pathOf path))
    | .link _ => .ok []
  else .ok []

theorem below_step (unlinked : w.followLinks = false) :
    w.below t (fuel + 1) levels open' dir names = (do
      let found ← (t.children dir).mapM
        (w.ofChild t fuel (w.levelsAt t levels dir names) open' dir names)
      .ok found.flatten) := by
  rw [below]
  show ((t.children dir).mapM _ >>= _) = _
  congr 2
  funext ⟨name, e⟩
  have here : child w t dir name e = .ok (dir ++ [name], e) := by
    cases e <;> simp [child, unlinked]
  show (child w t dir name e >>= _) = _
  rw [here]
  show (if (decide (e = .dir) && decide (dir ++ [name] ≠ dir ++ [name]) &&
    open'.contains (dir ++ [name])) = true then _ else _) = _
  rw [if_neg (by simp)]
  show (if (!w.admits (w.levelsAt t levels dir names) (names ++ [name]) e.isDir) = true then _
    else _) = _
  unfold ofChild
  dsimp only
  cases w.admits (w.levelsAt t levels dir names) (names ++ [name]) e.isDir <;> rfl

/-- The walk of a directory comes to a file below it: it is admitted, like each directory on the
way. `names` lead to the directory. -/
inductive Comes (w : Walker) (t : Tree) :
    List Level → Place → (names more : List String) → Prop
  | file {levels : List Level} {dir : Place} {names : List String} {name : String}
      {content : List UInt8} {x : Bool} :
      t.get? (dir ++ [name]) = some (.file content x) →
      w.admits (w.levelsAt t levels dir names) (names ++ [name]) false = true →
      Comes w t levels dir names [name]
  | down {levels : List Level} {dir : Place} {names more : List String} {name : String} :
      t.get? (dir ++ [name]) = some .dir →
      w.admits (w.levelsAt t levels dir names) (names ++ [name]) true = true →
      Comes w t (w.levelsAt t levels dir names) (dir ++ [name]) (names ++ [name]) more →
      Comes w t levels dir names (name :: more)

theorem Comes.ne_nil (comes : Comes w t levels dir names more) : more ≠ [] := by
  cases comes <;> exact List.cons_ne_nil _ _

theorem Comes.exists_file (comes : Comes w t levels dir names more) :
    ∃ content x, t.get? (dir ++ more) = some (.file content x) := by
  induction comes with
  | file here _ => exact ⟨_, _, here⟩
  | down _ _ _ ih =>
    obtain ⟨content, x, here⟩ := ih
    exact ⟨content, x, by simpa using here⟩

/-! ## What is found -/

/-- What a walk gives that comes to some files: those that its glob keeps, once each, if all of them
have text for names; else an error about one that has not. -/
inductive Gives (w : Walker) (reached : List String → Prop) :
    Except ScanError (List (List String)) → Prop
  | found {found : List (List String)} : (∀ path, reached path → isUtf8 path = true) →
      found.Nodup → (∀ path, path ∈ found ↔ reached path ∧ w.wants path = true) →
      Gives w reached (.ok found)
  | foreign {path : List String} : reached path → isUtf8 path = false →
      Gives w reached (.error (.nonUtf8Path (w.pathOf path)))

section Gives

variable {reached reached' : List String → Prop} {result : Except ScanError (List (List String))}

theorem Gives.congr (gives : Gives w reached result) (same : ∀ path, reached' path ↔ reached path) :
    Gives w reached' result := by
  obtain rfl : reached' = reached := funext fun path => propext (same path)
  exact gives

theorem gives_none (none : ∀ path, ¬ reached path) : Gives w reached (.ok []) := by
  refine .found (fun path comes => absurd comes (none path)) .nil fun path => ?_
  exact iff_of_false List.not_mem_nil fun both => none path both.1

/-- One file is come to. -/
theorem gives_file {path : List String} (only : ∀ path', reached path' ↔ path' = path) :
    Gives w reached
      (if isUtf8 path then .ok (if w.wants path then [path] else [])
      else .error (.nonUtf8Path (w.pathOf path))) := by
  by_cases text : isUtf8 path = true
  · rw [if_pos text]
    refine .found (fun path' comes => (only path').mp comes ▸ text) ?_ fun path' => ?_
    · split
      · exact List.nodup_singleton _
      · exact .nil
    · rw [only]
      by_cases wanted : w.wants path = true
      · rw [if_pos wanted, List.mem_singleton]
        exact ⟨fun same => ⟨same, same ▸ wanted⟩, And.left⟩
      · rw [if_neg wanted]
        refine iff_of_false List.not_mem_nil ?_
        rintro ⟨rfl, wants⟩
        exact wanted wants
  · rw [if_neg text]
    exact .foreign ((only path).mpr rfl) (Bool.eq_false_iff.mpr text)

/-- What several walks give together that come to different files. -/
theorem gives_flatten {α : Type} {xs : List α} {f : α → Except ScanError (List (List String))}
    {under : α → List String → Prop} (each : ∀ x ∈ xs, Gives w (under x) (f x))
    (apart : xs.Pairwise fun x y => ∀ path, under x path → ¬ under y path) :
    Gives w (fun path => ∃ x ∈ xs, under x path)
      (xs.mapM f >>= fun found => .ok found.flatten) := by
  cases ran : xs.mapM f with
  | error e =>
    obtain ⟨front, x, back, rfl, -, fails⟩ := exists_of_mapM_error ran
    have failed := each x (by simp)
    rw [fails] at failed
    cases failed with
    | foreign comes notText => exact .foreign ⟨x, by simp, comes⟩ notText
  | ok founds =>
    have all : List.Forall₂ (fun x found => Gives w (under x) (.ok found)) xs founds := by
      refine forall₂_imp_of_mem (fun x among found here => ?_) (mapM_eq_ok_iff.mp ran)
      exact here ▸ each x among
    clear ran each
    show Gives w _ (.ok founds.flatten)
    induction all with
    | nil => exact gives_none (by simp)
    | @cons x found xs founds first others ih =>
      obtain ⟨fresh, apart⟩ := List.pairwise_cons.mp apart
      cases ih apart with
      | found texts' nodup' mem_iff' =>
        cases first with
        | found texts nodup mem_iff =>
          refine .found ?_ ?_ fun path => ?_
          · rintro path ⟨y, among, comes⟩
            rcases List.mem_cons.mp among with rfl | later
            · exact texts path comes
            · exact texts' path ⟨y, later, comes⟩
          · rw [List.flatten_cons, List.nodup_append]
            refine ⟨nodup, nodup', fun path here path' there same => ?_⟩
            subst same
            obtain ⟨⟨y, later, comes⟩, -⟩ := (mem_iff' path).mp there
            exact fresh y later path ((mem_iff path).mp here).1 comes
          · rw [List.flatten_cons, List.mem_append, mem_iff, mem_iff']
            simp only [← or_and_right, List.mem_cons, exists_eq_or_imp]

end Gives

/-- The files that the walk of a directory comes to, under their names from where it began. -/
def Reached (w : Walker) (t : Tree) (levels : List Level) (dir : Place) (names : List String)
    (path : List String) : Prop :=
  ∃ more, path = names ++ more ∧ Comes w t levels dir names more

/-- Those of them that stand at or below a child of the directory. -/
def ReachedUnder (w : Walker) (t : Tree) (levels : List Level) (dir : Place) (names : List String)
    (name : String) (path : List String) : Prop :=
  ∃ more, path = names ++ name :: more ∧ Comes w t levels dir names (name :: more)

theorem reached_iff (proper : t.Proper) {path : List String} :
    Reached w t levels dir names path ↔
      ∃ child ∈ t.children dir, ReachedUnder w t levels dir names child.1 path := by
  constructor
  · rintro ⟨more, rfl, comes⟩
    -- The first name leads to a child: to the file itself, or to a directory above it.
    cases comes with
    | file here admitted =>
      exact ⟨(_, _), proper.mem_children_iff.mpr here, [], rfl, .file here admitted⟩
    | down here admitted comes =>
      exact ⟨(_, _), proper.mem_children_iff.mpr here, _, rfl, .down here admitted comes⟩
  · rintro ⟨child, -, more, rfl, comes⟩
    exact ⟨child.1 :: more, rfl, comes⟩

/-- The files at or below different children are different. -/
theorem apart_children (proper : t.Proper) :
    (t.children dir).Pairwise fun child child' => ∀ path,
      ReachedUnder w t levels dir names child.1 path →
        ¬ ReachedUnder w t levels dir names child'.1 path := by
  refine (List.pairwise_map.mp (proper.nodup_children dir)).imp fun {child child'} differ path => ?_
  rintro ⟨more, rfl, -⟩ ⟨more', same, -⟩
  exact differ (List.cons.inj (List.append_cancel_left same)).1

theorem reachedUnder_file {content : List UInt8} {x : Bool} {path : List String}
    (here : t.get? (dir ++ [name]) = some (.file content x))
    (admitted : w.admits (w.levelsAt t levels dir names) (names ++ [name]) false = true) :
    ReachedUnder w t levels dir names name path ↔ path = names ++ [name] := by
  constructor
  · rintro ⟨more, rfl, comes⟩
    cases comes with
    | file => rfl
    | down isDir => cases here.symm.trans isDir
  · rintro rfl
    exact ⟨[], rfl, .file here admitted⟩

/-- What is come to below an admitted directory is come to from there. -/
theorem reachedUnder_dir (here : t.get? (dir ++ [name]) = some .dir)
    (admitted : w.admits (w.levelsAt t levels dir names) (names ++ [name]) true = true)
    {path : List String} : ReachedUnder w t levels dir names name path ↔
      Reached w t (w.levelsAt t levels dir names) (dir ++ [name]) (names ++ [name]) path := by
  constructor
  · rintro ⟨more, rfl, comes⟩
    cases comes with
    | file isFile => cases here.symm.trans isFile
    | down _ _ comes => exact ⟨more, by simp, comes⟩
  · rintro ⟨more, rfl, comes⟩
    exact ⟨more, by simp, .down here admitted comes⟩

/-- A walk comes to nothing under a name that it does not admit. -/
theorem not_reachedUnder_refused {e : Entry} {path : List String}
    (here : t.get? (dir ++ [name]) = some e)
    (refused : ¬ w.admits (w.levelsAt t levels dir names) (names ++ [name]) e.isDir = true) :
    ¬ ReachedUnder w t levels dir names name path := by
  rintro ⟨more, -, comes⟩
  cases comes with
  | file isFile admits =>
    obtain rfl := Option.some.inj (here.symm.trans isFile)
    exact refused admits
  | down isDir admits =>
    obtain rfl := Option.some.inj (here.symm.trans isDir)
    exact refused admits

theorem not_reachedUnder_link {target : String} {path : List String}
    (here : t.get? (dir ++ [name]) = some (.link target)) :
    ¬ ReachedUnder w t levels dir names name path := by
  rintro ⟨more, -, comes⟩
  cases comes with
  | file isFile => cases here.symm.trans isFile
  | down isDir => cases here.symm.trans isDir

/-- What the walk of a directory of a proper tree gives, with more fuel than entries below the
directory. -/
theorem below_gives (unlinked : w.followLinks = false) (proper : t.Proper) (levels : List Level)
    (open' : List Place) (names : List String) (enough : t.deeper dir < fuel) :
    Gives w (Reached w t levels dir names) (w.below t fuel levels open' dir names) := by
  induction fuel generalizing levels open' dir names with
  | zero => cases enough
  | succ fuel ih =>
    rw [below_step unlinked]
    refine Gives.congr (gives_flatten ?_ (apart_children proper)) fun path => reached_iff proper
    rintro ⟨name, e⟩ member
    have here := proper.mem_children_iff.mp member
    unfold ofChild
    dsimp only
    by_cases admitted : w.admits (w.levelsAt t levels dir names) (names ++ [name]) e.isDir = true
    · rw [if_pos admitted]
      cases e with
      | dir =>
        have less := Tree.deeper_child_lt (Tree.mem_children_iff_entries.mp member)
        have enough : t.deeper (dir ++ [name]) < fuel := by omega
        exact (ih _ _ (names ++ [name]) enough).congr fun path => reachedUnder_dir here admitted
      | file content x => exact gives_file fun path => reachedUnder_file here admitted
      | link target => exact gives_none fun path => not_reachedUnder_link here
    · rw [if_neg admitted]
      exact gives_none fun path => not_reachedUnder_refused here admitted

/-! ## Whole walks -/

/-- The levels above the directory that is walked. -/
def levelsOver (w : Walker) (t : Tree) (place : Place) : List Level :=
  if w.standardFilters then levelsAbove t place else []

/-- A walk of a directory, where the ignore files above it are sound: if the names of all files that
it comes to are text, it gives those that the glob keeps, in strict order; else it fails for the
sake of one of them. -/
theorem collect_gives (unlinked : w.followLinks = false) (proper : t.Proper) {place : Place}
    (located : t.locate w.root = .ok place)
    (sound : ((w.levelsOver t place).all fun l => l.files.all (·.sound)) = true) :
    (∃ paths, w.collect t = .ok paths ∧
      (∀ names, Comes w t (w.levelsOver t place) place [] names → isUtf8 names = true) ∧
      paths.Pairwise (List.Lex (· < ·)) ∧
      ∀ names, names ∈ paths ↔
        Comes w t (w.levelsOver t place) place [] names ∧ w.wants names = true) ∨
    ∃ names, Comes w t (w.levelsOver t place) place [] names ∧ isUtf8 names = false ∧
      w.collect t = .error (.nonUtf8Path (w.pathOf names)) := by
  have enough : t.deeper place < maxDepth t := by
    have atMost : t.deeper place ≤ t.entries.length := List.countP_le_length
    have square := Nat.le_mul_self (t.entries.length + 2)
    rw [maxDepth]
    omega
  have reached (names : List String) : Comes w t (w.levelsOver t place) place [] names ↔
      Reached w t (w.levelsOver t place) place [] names := by
    simp [Reached]
  have collected : w.collect t =
      (w.below t (maxDepth t) (w.levelsOver t place) [place] place [] >>= fun found =>
        .ok (found.mergeSort namesLe)) := by
    rw [collect, located]
    show (if ((w.levelsOver t place).all fun l => l.files.all (·.sound)) = true then
      w.below t (maxDepth t) (w.levelsOver t place) [place] place [] >>= _ else _) = _
    rw [if_pos sound]
  have gives := (below_gives unlinked proper (w.levelsOver t place) [place] [] enough).congr reached
  cases ran : w.below t (maxDepth t) (w.levelsOver t place) [place] place [] with
  | ok found =>
    rw [ran] at gives collected
    cases gives with
    | found texts nodup mem_iff =>
      have sorted := List.pairwise_mergeSort namesLe_trans namesLe_total found
      have distinct := (List.mergeSort_perm found namesLe).nodup_iff.mpr nodup
      refine .inl ⟨_, collected, texts, ?_, fun names => ?_⟩
      · exact (sorted.and distinct).imp fun ⟨le, other⟩ => lex_of_namesLe le other
      · rw [List.mem_mergeSort, mem_iff]
  | error e =>
    rw [ran] at gives collected
    cases gives with
    | foreign comes notText => exact .inr ⟨_, comes, notText, collected⟩

/-- Where a walk of a directory succeeds, the ignore files above it are sound. -/
theorem sound_of_collect {paths : List (List String)} (ran : w.collect t = .ok paths) :
    ∃ place, t.locate w.root = .ok place ∧
      ((w.levelsOver t place).all fun l => l.files.all (·.sound)) = true := by
  unfold collect at ran
  split at ran
  · cases ran
  · next place located =>
    refine ⟨place, located, ?_⟩
    by_contra unsound
    change (if ((w.levelsOver t place).all fun l => l.files.all (·.sound)) = true then
      w.below t (maxDepth t) (w.levelsOver t place) [place] place [] >>= _ else _) = _ at ran
    rw [if_neg unsound] at ran
    cases ran

end Uplift.Scan.Walker
