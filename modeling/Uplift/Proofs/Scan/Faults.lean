import Uplift.Proofs.Scan.Reference
import Uplift.Scan.Standard

/-!
# Where the errors of a scan come from

A built-in scanner has its request made and carries it out.

* `Executable` are the requests that a scanner carries out. The errors of that are `Ordinary`: they
  come from files, tables, patterns and the programs outside. Any other request is refused
  (`builtin_scan_eq`).
* So a scanner fails with a fault of the query or the setup exactly if its request cannot be made
  (`builtin_scan_fault_iff`).
-/

namespace Uplift

/-- An error that is no fault of the query or the setup, and no refusal of a request. -/
def ScanError.IsOrdinary : ScanError → Prop
  | fault _ | noScanner _ _ _ => False
  | state (.foreignRequest _) | state (.noMatchId _) | state .noFilePattern => False
  | _ => True

namespace Scan

/-- A result that is no fault of a query or of the setup. -/
def Faultless {α : Type} (x : Except ScanError α) : Prop := ∀ f, x ≠ .error (.fault f)

/-- A computation whose results are no faults, in any world. -/
def AlwaysFaultless {σ α : Type} (m : ScanM σ α) : Prop := ∀ w, Faultless (m w).1

/-- A result that is no error or an ordinary one. -/
def Ordinary {α : Type} (x : Except ScanError α) : Prop := ∀ e, x = .error e → e.IsOrdinary

/-- A computation whose results are ordinary, in any world. -/
def AlwaysOrdinary {σ α : Type} (m : ScanM σ α) : Prop := ∀ w, Ordinary (m w).1

section Results

variable {α β : Type}

theorem Faultless.ok (a : α) : Faultless (.ok a) := by
  intro f
  simp

theorem Faultless.error {e : ScanError} (other : ∀ f, e ≠ .fault f) :
    Faultless (.error e : Except ScanError α) :=
  fun f same => other f (Except.error.inj same)

theorem Ordinary.ok (a : α) : Ordinary (.ok a) := fun _ same => by cases same

theorem Ordinary.error {e : ScanError} (ordinary : e.IsOrdinary) :
    Ordinary (.error e : Except ScanError α) :=
  fun _ same => Except.error.inj same ▸ ordinary

theorem Ordinary.bind {x : Except ScanError α} {g : α → Except ScanError β}
    (first : Ordinary x) (second : ∀ a, Ordinary (g a)) : Ordinary (x >>= g) := by
  cases x with
  | error e => exact .error (first e rfl)
  | ok a => exact second a

theorem Ordinary.mapM {g : α → Except ScanError β} (each : ∀ a, Ordinary (g a)) (xs : List α) :
    Ordinary (xs.mapM g) := by
  induction xs with
  | nil => exact .ok []
  | cons x xs ih =>
    rw [List.mapM_cons]
    exact (each x).bind fun b => ih.bind fun bs => .ok (b :: bs)

theorem Ordinary.ite {c : Prop} [Decidable c] {x y : Except ScanError α} (yes : Ordinary x)
    (no : Ordinary y) : Ordinary (if c then x else y) := by
  split
  · exact yes
  · exact no

theorem Ordinary.faultless {x : Except ScanError α} (ordinary : Ordinary x) : Faultless x :=
  fun f same => ordinary (.fault f) same

end Results

/-! ## Files and tables -/

section Files

variable {t : Files.Tree}

theorem Walker.ordinary_of (root : String) : Ordinary (Walker.of t root) :=
  .ite (.ok _) (.error trivial)

theorem Walker.ordinary_withGlob (w : Walker) (glob : String) : Ordinary (w.withGlob glob) := by
  unfold Walker.withGlob
  split
  · exact .ok _
  · exact .ok _
  · exact .error trivial

theorem Walker.ordinary_child (w : Walker) (dir : Files.Place) (name : String) (e : Files.Entry) :
    Ordinary (w.child t dir name e) := by
  cases e with
  | file content x => exact .ok _
  | dir => exact .ok _
  | link target =>
    refine .ite ?_ (.ok _)
    split
    · split
      · exact .ok _
      · exact .error trivial
    · exact .error trivial

theorem Walker.ordinary_below (w : Walker) (fuel : Nat) (levels : List Level)
    (open' : List Files.Place) (dir : Files.Place) (names : List String) :
    Ordinary (w.below t fuel levels open' dir names) := by
  induction fuel generalizing levels open' dir names with
  | zero => exact .error trivial
  | succ fuel ih =>
    -- Each entry of the directory on its own; only a directory leads further down.
    refine (Ordinary.mapM (fun (name, e) => ?_) _).bind fun found => .ok _
    refine (w.ordinary_child dir name e).bind fun (place, entry) => ?_
    refine .ite (.error trivial) (.ite (.ok _) ?_)
    cases entry with
    | dir => exact ih _ _ _ _
    | file content x => exact Ordinary.ite (.ok _) (.error trivial)
    | link target => exact .ok _

theorem Walker.ordinary_collect (w : Walker) : Ordinary (w.collect t) := by
  unfold Walker.collect
  split
  · exact .error trivial
  · exact .ite ((w.ordinary_below _ _ _ _ _).bind fun found => .ok _) (.error trivial)

theorem ordinary_tableFiles (dir : String) : Ordinary (Table.files t dir) := by
  refine .ite (.ok _) ?_
  refine (Walker.ordinary_of dir).bind fun w => (w.ordinary_withGlob _).bind fun w => ?_
  exact (Walker.ordinary_collect _).bind fun found => .ok _

theorem ordinary_readRows (path id : String) : Ordinary (Table.readRows t path id) := by
  unfold Table.readRows
  split
  · exact .error trivial
  · split
    · exact .error trivial
    · exact .ok _

end Files

/-! ## Searches -/

section Searches

variable {σ α β : Type} {t : Files.Tree}

theorem AlwaysOrdinary.bind {m : ScanM σ α} {g : α → ScanM σ β} (first : AlwaysOrdinary m)
    (second : ∀ a, AlwaysOrdinary (g a)) : AlwaysOrdinary (m >>= g) := by
  intro w
  have here := first w
  rcases run : m w with ⟨e | a, w'⟩
  · rw [RuleScan.bind_run_error run]
    rw [run] at here
    exact .error (here e rfl)
  · rw [RuleScan.bind_run_ok run]
    exact second a w'

theorem AlwaysOrdinary.ofExcept {x : Except ScanError α} (ordinary : Ordinary x) :
    AlwaysOrdinary (ScanM.ofExcept x : ScanM σ α) :=
  fun _ => ordinary

theorem AlwaysOrdinary.read {g : Files.Tree → Except ScanError α}
    (ordinary : ∀ t, Ordinary (g t)) : AlwaysOrdinary (ScanM.read g : ScanM σ α) :=
  fun w => ordinary w.tree

theorem AlwaysOrdinary.faultless {m : ScanM σ α} (ordinary : AlwaysOrdinary m) :
    AlwaysFaultless m :=
  fun w => (ordinary w).faultless

theorem AlwaysOrdinary.andThen {m : ScanM σ α} (ordinary : AlwaysOrdinary m)
    (change : Files.Tree → Files.Tree) : AlwaysOrdinary (m.andThen change) :=
  fun w => ordinary w

theorem alwaysOrdinary_write (dir path text : String) :
    AlwaysOrdinary (ScanM.write dir path text : ScanM σ Unit) := by
  intro w
  unfold ScanM.write
  split
  · exact .ok _
  · exact .error trivial

theorem alwaysOrdinary_execute (o : Outside σ) (c : Command) :
    AlwaysOrdinary (ScanM.execute o c) := by
  intro w
  rcases run : o.run c w.tree w.outside with ⟨⟨cause | lines⟩ | finished, tree, outside⟩ <;>
    simp only [ScanM.execute, run]
  · exact .error trivial
  · exact .error trivial
  · exact .ok finished

theorem alwaysOrdinary_ask (o : Outside σ) (command : String) (arguments : List Value) :
    AlwaysOrdinary (ScanM.ask o command arguments) := by
  intro w
  rcases run : o.ask command arguments w.outside with ⟨e | v, outside⟩ <;>
    simp only [ScanM.ask, run]
  · exact .error trivial
  · exact .ok v

theorem Dependencies.ordinary_search (config : ScanConfig) (root gavs : String) :
    Ordinary (search config root gavs t) := by
  refine .ite (.ok _) ?_
  refine Ordinary.bind ?_ fun w => w.ordinary_collect.bind fun poms => .ok _
  exact (Walker.ordinary_of root).bind fun w => Walker.ordinary_withGlob _ _

theorem FileSearch.ordinary_walker (config : ScanConfig) (root : String) (glob : Option String) :
    Ordinary (walker config t root glob) := by
  refine (Walker.ordinary_of root).bind fun w => ?_
  cases glob with
  | none => exact .ok _
  | some g => exact Walker.ordinary_withGlob _ _

theorem FileSearch.ordinary_search (compile : Engine) (config : ScanConfig) (root : String)
    {name content : Option String} (given : name.isSome ∨ content.isSome) :
    Ordinary (search compile config root name content t) := by
  have found (glob : Option String) : Ordinary (walker config t root glob) :=
    ordinary_walker config root glob
  cases content with
  | some content =>
    refine Ordinary.bind ?_ fun lines => .ok _
    unfold containing
    split
    · exact .error trivial
    · exact (found name).bind fun w => w.ordinary_collect.bind fun files => .ok _
  | none =>
    cases name with
    | none => simp at given
    | some name =>
      refine Ordinary.bind ?_ fun files => .ok _
      exact (found _).bind fun w => w.ordinary_collect.bind fun files => .ok _

theorem RecipeSearch.alwaysOrdinary_runSearch (o : Outside σ) (c : Context) (id : String) :
    AlwaysOrdinary (runSearch o c id) := by
  refine (AlwaysOrdinary.read fun t => ordinary_tableFiles _).bind fun before => ?_
  refine (alwaysOrdinary_execute o _).bind fun finished => ?_
  split
  · refine .read fun t => (ordinary_tableFiles _).bind fun tables => ?_
    refine (Ordinary.mapM (fun table => ?_) _).bind fun found => .ok _
    exact (ordinary_readRows table id).bind fun rows => .ok _
  · exact .ofExcept (.error trivial)

theorem SymbolSearch.ordinary_matches (answer : Value) : Ordinary (matches' answer) := by
  unfold matches'
  split
  · exact .ok _
  · split
    · exact .ok _
    · exact .error trivial

/-! ## Scanners -/

theorem bind_fault_iff {m : ScanM σ α} {g : α → ScanM σ β} (later : ∀ a, AlwaysFaultless (g a))
    {w w' : World σ} {f : Fault} :
    (m >>= g) w = (.error (.fault f), w') ↔ m w = (.error (.fault f), w') := by
  rcases run : m w with ⟨e | a, w''⟩
  · rw [RuleScan.bind_run_error run]
    constructor <;> intro fault
    · obtain ⟨same, rfl⟩ := Prod.mk.inj fault
      rw [Except.error.inj same]
    · obtain ⟨same, rfl⟩ := Prod.mk.inj fault
      rw [Except.error.inj same]
  · rw [RuleScan.bind_run_ok run]
    constructor <;> intro fault
    · exact absurd (congrArg Prod.fst fault) (later a w'' f)
    · cases congrArg Prod.fst fault

@[simp]
theorem builtin_kind (o : Outside σ) (kind : ScannerKind) : (builtin o kind).kind = kind := by
  cases kind <;> rfl

/-- A request that is made is what the mapper of the query's route makes of it. -/
theorem Context.exists_map_of_request {c : Context} {kind : ScannerKind} {q : Query} {r : Request}
    {w w' : World σ} (made : c.request kind q w = (.ok r, w')) :
    ∃ route left, c.routing.resolve q.kind q.symbol = .ok route ∧
      c.mappers.map route.shape kind q c.rule w.ids = .ok (r, left) ∧
      w' = { w with ids := left } := by
  unfold request at made
  split at made
  · cases (Prod.mk.inj made).1
  · next route routed =>
    split at made
    · cases (Prod.mk.inj made).1
    · next r' left mapped =>
      obtain ⟨same, rfl⟩ := Prod.mk.inj made
      obtain rfl := Except.ok.inj same
      exact ⟨route, left, routed, mapped, rfl⟩

/-- A request that the scanner of a kind carries out. -/
def Executable : ScannerKind → Request → Prop
  | .openRewrite, .recipe recipe => ∃ id, recipe.matchId? = some id
  | .jdtls, .symbol _ _ => True
  | .maven, .dependency _ => True
  | .file, .file name content => name.isSome ∨ content.isSome
  | _, _ => False

/-- A computation that refuses a request. -/
def Refuses (m : ScanM σ α) : Prop := ∃ cause, m = ScanM.ofExcept (.error (.state cause))

/-- A built-in scanner has its request made. Then it carries it out, or else refuses it. -/
theorem builtin_scan_eq (o : Outside σ) (kind : ScannerKind) (c : Context) (q : Query) :
    ∃ work : Request → ScanM σ (List Match),
      (builtin o kind).scan c q = c.request kind q >>= work ∧
      ∀ r, Executable kind r ∧ AlwaysOrdinary (work r) ∨
        ¬ Executable kind r ∧ Refuses (work r) := by
  cases kind with
  | maven =>
    refine ⟨_, rfl, fun request => ?_⟩
    cases request with
    | dependency gavs => exact .inl ⟨trivial, .read fun t => Dependencies.ordinary_search _ _ _⟩
    | _ => exact .inr ⟨id, _, rfl⟩
  | file =>
    refine ⟨_, rfl, fun request => ?_⟩
    cases request with
    | file name content =>
      by_cases given : name.isSome ∨ content.isSome
      · exact .inl ⟨given, .read fun t => FileSearch.ordinary_search _ _ _ given⟩
      · obtain ⟨rfl, rfl⟩ : name = none ∧ content = none := by simpa using given
        exact .inr ⟨given, _, rfl⟩
    | _ => exact .inr ⟨id, _, rfl⟩
  | jdtls =>
    refine ⟨_, rfl, fun request => ?_⟩
    cases request with
    | symbol symbol query =>
      refine .inl ⟨trivial, ?_⟩
      dsimp only
      split
      · exact .ofExcept (.error trivial)
      · exact (alwaysOrdinary_ask o _ _).bind fun answer =>
          .ofExcept (SymbolSearch.ordinary_matches answer)
    | _ => exact .inr ⟨id, _, rfl⟩
  | openRewrite =>
    refine ⟨_, rfl, fun request => ?_⟩
    cases request with
    | recipe recipe =>
      cases matchId : recipe.matchId? with
      | none =>
        refine .inr ⟨by simp [Executable, matchId], .noMatchId recipe.name, ?_⟩
        simp only [matchId]
      | some id =>
        refine .inl ⟨⟨id, matchId⟩, ?_⟩
        simp only [matchId]
        exact (alwaysOrdinary_write _ _ _).bind fun _ =>
          (RecipeSearch.alwaysOrdinary_runSearch o c _).andThen _
    | _ => exact .inr ⟨id, _, rfl⟩

/-- A built-in scanner fails with a fault exactly if its request cannot be made. -/
theorem builtin_scan_fault_iff (o : Outside σ) (kind : ScannerKind) (c : Context) (q : Query)
    {w w' : World σ} {f : Fault} :
    (builtin o kind).scan c q w = (.error (.fault f), w') ↔
      c.request kind q w = (.error (.fault f), w') := by
  obtain ⟨work, same, carried⟩ := builtin_scan_eq o kind c q
  rw [same]
  refine bind_fault_iff fun request => ?_
  rcases carried request with ⟨-, ordinary⟩ | ⟨-, cause, refused⟩
  · exact ordinary.faultless
  · rw [refused]
    exact fun w => .error (by simp)

end Searches

end Scan

end Uplift
