import Uplift.Catalog
import Uplift.Proofs.Except
import Uplift.Proofs.Files.Proper
import Uplift.Proofs.Files.Spelled

/-!
# Catalogs

No two rules of a catalog have the same id (`Catalog.distinct_of_load`). A catalog in a directory
has the rules of all its files, each once, by their `order` and then by the places that they come
from, unless two of them have the same id (`Catalog.load_directory`).

Which files these are is said without the reader (`IsRuleName`). Other files have no say, but for
one thing: if the name of any entry is no text, nothing is loaded (`HasStray`). The literal reading
of a catalog, where all files with a matching name count and no others, fails twice
(`load_directory_exceptions`).
-/

namespace Uplift

/-- A stable sort by keys: what comes out is in the order of the keys, and items of one key stay in
the order that they had. -/
theorem pairwise_mergeSort_key {α κ : Type} [LinearOrder κ] (key : α → κ) {le : α → α → Bool}
    {before : α → α → Prop} {xs : List α} (byKey : ∀ a b, le a b = true ↔ key a ≤ key b)
    (inOrder : xs.Pairwise before) :
    (xs.mergeSort le).Pairwise fun a b => key a < key b ∨ key a = key b ∧ before a b := by
  have trans (a b c : α) (first : le a b = true) (second : le b c = true) : le a c = true :=
    (byKey a c).mpr (((byKey a b).mp first).trans ((byKey b c).mp second))
  have total (a b : α) : (le a b || le b a) = true := by
    rw [Bool.or_eq_true, byKey, byKey]
    exact le_total (key a) (key b)
  have sorted := List.pairwise_mergeSort (List.zipIdxLE_trans trans) (List.zipIdxLE_total total)
    xs.zipIdx
  have apart : (xs.zipIdx.mergeSort (List.zipIdxLE le)).Pairwise fun a b => a.2 ≠ b.2 := by
    have numbers : (xs.zipIdx.map Prod.snd).Nodup := by
      rw [List.zipIdx_map_snd]
      exact List.nodup_range'
    exact List.pairwise_map.mp (((List.mergeSort_perm _ _).map Prod.snd).nodup_iff.mpr numbers)
  -- The sort of the items with their numbers takes them by number where they tie.
  rw [← List.mergeSort_zipIdx, List.pairwise_map]
  refine (sorted.and apart).imp_of_mem fun {a b} inA inB => ?_
  rintro ⟨numbered, differ⟩
  have thereA := List.mem_zipIdx_iff_getElem?.mp (List.mem_mergeSort.mp inA)
  have thereB := List.mem_zipIdx_iff_getElem?.mp (List.mem_mergeSort.mp inB)
  unfold List.zipIdxLE at numbered
  split at numbered
  · next first =>
    split at numbered
    · next tie =>
      have earlier : a.2 < b.2 := lt_of_le_of_ne (of_decide_eq_true numbered) differ
      obtain ⟨shortA, itemA⟩ := List.getElem?_eq_some_iff.mp thereA
      obtain ⟨shortB, itemB⟩ := List.getElem?_eq_some_iff.mp thereB
      refine .inr ⟨le_antisymm ((byKey ..).mp first) ((byKey ..).mp tie), ?_⟩
      rw [← itemA, ← itemB]
      exact List.pairwise_iff_getElem.mp inOrder a.2 b.2 shortA shortB earlier
    · next noTie => exact .inl (lt_of_not_ge fun tie => noTie ((byKey ..).mpr tie))
  · cases numbered

namespace Catalog

open Files

variable {t t' : Tree} {dir name path id : String} {rules : List Rule}

/-! ## Ids -/

/-- Rules have different ids, and none that was seen before, exactly if there is no duplicate. -/
theorem duplicate?_eq_none_iff {seen : List String} : duplicate? seen rules = none ↔
    (rules.map (·.id)).Nodup ∧ ∀ r ∈ rules, r.id ∉ seen := by
  induction rules generalizing seen with
  | nil => simp [duplicate?]
  | cons r rules ih =>
    rw [List.map_cons, List.nodup_cons, List.forall_mem_cons]
    by_cases old : r.id ∈ seen
    · have found : duplicate? seen (r :: rules) = some r.id := by
        rw [duplicate?, if_pos (List.contains_iff_mem.mpr old)]
      simp [found, old]
    · have next : duplicate? seen (r :: rules) = duplicate? (r.id :: seen) rules := by
        rw [duplicate?, if_neg fun h => old (List.contains_iff_mem.mp h)]
      rw [next, ih]
      constructor
      · rintro ⟨distinct, apart⟩
        refine ⟨⟨?_, distinct⟩, old, fun r' member seen' => ?_⟩
        · intro again
          obtain ⟨r', member, same⟩ := List.mem_map.mp again
          exact apart r' member (same ▸ List.mem_cons_self)
        · exact apart r' member (List.mem_cons_of_mem _ seen')
      · rintro ⟨⟨other, distinct⟩, -, apart⟩
        refine ⟨distinct, fun r' member either => ?_⟩
        rcases List.mem_cons.mp either with same | seen'
        · exact other (same ▸ List.mem_map_of_mem member)
        · exact apart r' member seen'

/-- An id that is a duplicate was seen before, or an earlier rule has it. -/
theorem exists_of_duplicate? {seen : List String} (found : duplicate? seen rules = some id) :
    ∃ front r back, rules = front ++ r :: back ∧ r.id = id ∧
      (id ∈ seen ∨ ∃ r' ∈ front, r'.id = id) := by
  induction rules generalizing seen with
  | nil => cases found
  | cons r rules ih =>
    rw [duplicate?] at found
    split at found
    · next old =>
      obtain rfl := Option.some.inj found
      exact ⟨[], r, rules, rfl, rfl, .inl (List.contains_iff_mem.mp old)⟩
    · obtain ⟨front, r', back, rfl, same, earlier⟩ := ih found
      refine ⟨r :: front, r', back, rfl, same, ?_⟩
      rcases earlier with seen' | ⟨r'', member, same'⟩
      · rcases List.mem_cons.mp seen' with rfl | seen'
        · exact .inr ⟨r, List.mem_cons_self, rfl⟩
        · exact .inl seen'
      · exact .inr ⟨r'', List.mem_cons_of_mem r member, same'⟩

theorem distinct_of_finish {all : List Rule} (finished : finish all = .ok rules) :
    (rules.map (·.id)).Nodup := by
  unfold finish at finished
  split at finished
  · cases finished
  · next none =>
    rw [← Except.ok.inj finished]
    have distinct := (duplicate?_eq_none_iff.mp none).1
    exact ((List.mergeSort_perm ..).map _).nodup_iff.mpr distinct

/-- No two rules of a catalog have the same id. -/
theorem distinct_of_load (loaded : load t path = .ok rules) : (rules.map (·.id)).Nodup := by
  have together {files : Except SetupError (List String)}
      (read : (files >>= fun files =>
        files.mapM (loadFile t) >>= fun lists => finish lists.flatten) = .ok rules) :
      (rules.map (·.id)).Nodup := by
    obtain ⟨_, -, rest⟩ := bind_eq_ok_iff.mp read
    obtain ⟨_, -, finished⟩ := bind_eq_ok_iff.mp rest
    exact distinct_of_finish finished
  unfold load at loaded
  split at loaded
  · exact together loaded
  · split at loaded
    · exact together loaded
    · exact together loaded

/-! ## Names of files -/

/-- A name that marks rules: something, and an ending after it. -/
def IsRuleName (name : String) : Prop :=
  ∃ front, front ≠ "" ∧ (name = front ++ ".yaml" ∨ name = front ++ ".yml")

theorem extension?_eq_some_iff {ext : String} (filled : ext ≠ "") (plain : '.' ∉ ext.toList) :
    extension? name = some ext ↔ ∃ front, front ≠ "" ∧ name = front ++ ("." ++ ext) := by
  simp only [extension?, List.span_eq_takeWhile_dropWhile]
  constructor
  · intro found
    split at found
    · cases found
    · split at found
      · next last c before parted =>
        obtain ⟨rfl, rest⟩ := Prod.mk.inj parted
        refine ⟨String.ofList (c :: before).reverse, by simp, String.toList_inj.mp ?_⟩
        have whole := List.takeWhile_append_dropWhile (p := (· ≠ '.')) (l := name.toList.reverse)
        rw [rest] at whole
        have forwards := congrArg List.reverse whole
        rw [List.reverse_reverse] at forwards
        rw [← Option.some.inj found]
        exact forwards.symm.trans (by simp)
      · cases found
  · rintro ⟨front, some', rfl⟩
    have letters : ∀ c ∈ ext.toList.reverse, decide (c ≠ '.') = true := fun c member =>
      decide_eq_true fun dot => plain (dot ▸ List.mem_reverse.mp member)
    have backwards : (front ++ ("." ++ ext)).toList.reverse =
        ext.toList.reverse ++ '.' :: front.toList.reverse := by simp
    have noUp : front ++ ("." ++ ext) ≠ ".." := by
      intro up
      have three := congrArg String.length up
      have one : front.length ≠ 0 := mt String.length_eq_zero_iff.mp some'
      have one' : ext.length ≠ 0 := mt String.length_eq_zero_iff.mp filled
      rw [String.length_append, String.length_append] at three
      change front.length + (1 + ext.length) = 2 at three
      omega
    rw [if_neg noUp, backwards, List.takeWhile_append_of_pos letters,
      List.dropWhile_append_of_pos letters]
    obtain ⟨c, before, same⟩ : ∃ c before, front.toList.reverse = c :: before :=
      List.exists_cons_of_ne_nil (by simpa using some')
    simp [same]

theorem isRuleFile_iff : isRuleFile name = true ↔ IsRuleName name := by
  rw [isRuleFile, Bool.or_eq_true, decide_eq_true_iff, decide_eq_true_iff,
    extension?_eq_some_iff (by decide) (by decide), extension?_eq_some_iff (by decide) (by decide)]
  constructor
  · rintro (⟨front, filled, same⟩ | ⟨front, filled, same⟩)
    · exact ⟨front, filled, .inl same⟩
    · exact ⟨front, filled, .inr same⟩
  · rintro ⟨front, filled, same | same⟩
    · exact .inl ⟨front, filled, same⟩
    · exact .inr ⟨front, filled, same⟩

/-- An entry of a directory, of whatever kind, whose name is no text. -/
def HasStray (t : Tree) (dir name : String) : Prop :=
  ∃ p e, t.locate dir = .ok p ∧ t.get? (p ++ [name]) = some e ∧ isUtf8 [name] = false

/-! ## Places of rules -/

/-- A file that a catalog is read from, by its name in the catalog's directory. -/
structure HasRuleFile (t : Tree) (dir name : String) : Prop where
  proper : ProperName name
  named : IsRuleName name
  isFile : t.isFile (join dir name) = true

/-- A rule with the name of a file and a position in it. -/
structure Placed where
  file : String
  position : Nat
  rule : Rule

namespace Placed

variable {a b : Placed}

/-- The rule is read at its place, in a file of a directory. -/
structure Stands (t : Tree) (dir : String) (a : Placed) : Prop where
  hasFile : HasRuleFile t dir a.file
  there : ∃ rules, loadFile t (join dir a.file) = .ok rules ∧ rules[a.position]? = some a.rule

/-- One place is before another: its file is, or it is in the same file. -/
def Before (a b : Placed) : Prop :=
  a.file < b.file ∨ a.file = b.file ∧ a.position < b.position

/-- One rule comes before another in a catalog: by its order, and then by its place. -/
def Precedes (a b : Placed) : Prop :=
  a.rule.order < b.rule.order ∨ a.rule.order = b.rule.order ∧ a.Before b

theorem before_asymm (first : a.Before b) : ¬ b.Before a := by
  rintro (file | ⟨file, position⟩)
  · rcases first with file' | ⟨file', -⟩
    · exact lt_asymm file file'
    · exact file.ne file'.symm
  · rcases first with file' | ⟨-, position'⟩
    · exact file'.ne file.symm
    · exact Nat.lt_asymm position position'

instance : Std.Asymm Before := ⟨fun _ _ => before_asymm⟩

end Placed

/-- What comes of reading a file, as rules with their places. -/
def placesIn (name : String) : Except SetupError (List Rule) → List Placed
  | .ok rules => rules.zipIdx.map fun (r, i) => ⟨name, i, r⟩
  | .error _ => []

section PlacesIn

variable {result : Except SetupError (List Rule)}

theorem mem_placesIn_iff {a : Placed} : a ∈ placesIn name result ↔ a.file = name ∧
    ∃ rules, result = .ok rules ∧ rules[a.position]? = some a.rule := by
  cases result with
  | error e => simp [placesIn]
  | ok rules =>
    rw [placesIn, List.mem_map]
    constructor
    · rintro ⟨⟨r, i⟩, member, rfl⟩
      exact ⟨rfl, rules, rfl, List.mk_mem_zipIdx_iff_getElem?.mp member⟩
    · rintro ⟨rfl, _, same, there⟩
      obtain rfl := Except.ok.inj same
      exact ⟨(a.rule, a.position), List.mk_mem_zipIdx_iff_getElem?.mpr there, rfl⟩

theorem rules_placesIn (name : String) (rules : List Rule) :
    (placesIn name (.ok rules)).map (·.rule) = rules := by
  rw [placesIn, List.map_map]
  exact List.zipIdx_map_fst 0 rules

theorem inOrder_placesIn : (placesIn name result).Pairwise Placed.Before := by
  cases result with
  | error e => exact .nil
  | ok rules =>
    have positions : (rules.zipIdx.map Prod.snd).Pairwise (· < ·) := by
      rw [List.zipIdx_map_snd]
      exact List.pairwise_lt_range'
    exact List.pairwise_map.mpr
      ((List.pairwise_map.mp positions).imp fun before => .inr ⟨rfl, before⟩)

/-- The rules of several files are in order if the files are. -/
theorem inOrder_flatMap {names : List String} {read : String → Except SetupError (List Rule)}
    (sorted : names.Pairwise (· < ·)) :
    (names.flatMap fun name => placesIn name (read name)).Pairwise Placed.Before := by
  refine List.pairwise_flatMap.mpr ⟨fun name _ => inOrder_placesIn, ?_⟩
  refine sorted.imp fun {name name'} before a inA b inB => .inl ?_
  rw [(mem_placesIn_iff.mp inA).1, (mem_placesIn_iff.mp inB).1]
  exact before

end PlacesIn

/-- A name among the children is that of an entry. -/
theorem exists_get?_of_child (proper : t.Proper) {base : Place}
    (child : name ∈ (t.children base).map (·.1)) : ∃ e, t.get? (base ++ [name]) = some e := by
  obtain ⟨⟨_, e⟩, member, rfl⟩ := List.mem_map.mp child
  exact ⟨e, proper.mem_children_iff.mp member⟩

theorem ruleFiles_of_none {p : Place} (located : t.locate dir = .ok p)
    (texts : (((t.children p).map (·.1)).find? fun n => !isUtf8 [n]) = none) :
    ruleFiles t dir = .ok (((((t.children p).map (·.1)).filter fun n =>
      isRuleFile n && t.isFile (join dir n)).mergeSort fun a b => a ≤ b).map (join dir)) := by
  simp only [ruleFiles, located, texts]

theorem ruleFiles_of_some {p : Place} {name : String} (located : t.locate dir = .ok p)
    (stray : (((t.children p).map (·.1)).find? fun n => !isUtf8 [n]) = some name) :
    ruleFiles t dir = .error (.io dir (.badName (join dir name))) := by
  simp only [ruleFiles, located, stray]

/-- The files of a directory's catalog are read in the order of their names, if all names are
text. -/
theorem exists_ruleNames (proper : t.Proper) (isDir : t.isDir dir = true)
    (texts : ∀ name, ¬ HasStray t dir name) :
    ∃ names : List String, names.Pairwise (· < ·) ∧
      (∀ name, name ∈ names ↔ HasRuleFile t dir name) ∧
      ruleFiles t dir = .ok (names.map (join dir)) := by
  obtain ⟨base, located, here⟩ := Tree.isDir_iff.mp isDir
  have rootDir : t.RootDir dir base := ⟨proper.sound, located, here⟩
  let all := (t.children base).map (·.1)
  have noStray : (all.find? fun n => !isUtf8 [n]) = none := by
    refine List.find?_eq_none.mpr fun n child notText => ?_
    obtain ⟨e, found⟩ := exists_get?_of_child proper child
    exact texts n ⟨base, e, located, found, by simpa using notText⟩
  let names := all.filter fun n => isRuleFile n && t.isFile (join dir n)
  refine ⟨names.mergeSort fun a b => a ≤ b, ?_, fun name => ?_, ?_⟩
  · have distinct : names.Nodup := (proper.nodup_children base).filter _
    have byName (a b : String) : decide (a ≤ b) = true ↔ a ≤ b := decide_eq_true_iff
    refine (pairwise_mergeSort_key (fun name => name) byName distinct).imp ?_
    rintro a b (before | ⟨same, differ⟩)
    · exact before
    · exact absurd same differ
  · rw [List.mem_mergeSort, List.mem_filter, Bool.and_eq_true, isRuleFile_iff]
    constructor
    · rintro ⟨child, named, isFile⟩
      obtain ⟨e, found⟩ := exists_get?_of_child proper child
      exact ⟨proper.names _ e found _ (by simp), named, isFile⟩
    · rintro ⟨properName, named, isFile⟩
      obtain ⟨e, found⟩ := rootDir.exists_of_isFile properName isFile
      exact ⟨List.mem_map.mpr ⟨(name, e), proper.mem_children_iff.mpr found, rfl⟩, named, isFile⟩
  · exact ruleFiles_of_none located noStray

theorem load_of_noRuleFile (proper : t.Proper) (isDir : t.isDir dir = true)
    (texts : ∀ name, ¬ HasStray t dir name) (none : ∀ name, ¬ HasRuleFile t dir name) :
    load t dir = .ok [] := by
  obtain ⟨names, -, mem_iff, listing⟩ := exists_ruleNames proper isDir texts
  have empty : names = [] := List.eq_nil_iff_forall_not_mem.mpr fun name member =>
    none name ((mem_iff name).mp member)
  rw [load, if_pos isDir, listing, empty]
  show finish [] = .ok []
  simp [finish, duplicate?]

/-- Nothing is loaded from a directory with an entry whose name is no text. -/
theorem load_of_stray (proper : t.Proper) (isDir : t.isDir dir = true)
    (stray : ∃ name, HasStray t dir name) :
    ∃ name, HasStray t dir name ∧ load t dir = .error (.io dir (.badName (join dir name))) := by
  obtain ⟨first, base, e, located, found, notText⟩ := stray
  let all := (t.children base).map (·.1)
  have among : first ∈ all := List.mem_map.mpr ⟨(first, e), proper.mem_children_iff.mpr found, rfl⟩
  cases search : all.find? fun n => !isUtf8 [n] with
  | none => exact absurd (by simp [notText]) (List.find?_eq_none.mp search first among)
  | some name =>
    obtain ⟨e', found'⟩ := exists_get?_of_child proper (List.mem_of_find?_eq_some search)
    have bad : isUtf8 [name] = false := by simpa using List.find?_some search
    refine ⟨name, ⟨base, e', located, found', bad⟩, ?_⟩
    rw [load, if_pos isDir, ruleFiles_of_some located search]
    rfl

/-- A catalog is finished from all the rules of its files, in the order of their places. -/
theorem exists_load_eq (proper : t.Proper) (isDir : t.isDir dir = true)
    (texts : ∀ name, ¬ HasStray t dir name)
    (reads : ∀ name, HasRuleFile t dir name →
      ∃ rules, loadFile t (join dir name) = .ok rules) :
    ∃ placed : List Placed, (∀ a, a ∈ placed ↔ a.Stands t dir) ∧ placed.Pairwise Placed.Before ∧
      load t dir = finish (placed.map (·.rule)) := by
  obtain ⟨names, sorted, mem_iff, files⟩ := exists_ruleNames proper isDir texts
  let placed (name : String) : List Placed := placesIn name (loadFile t (join dir name))
  refine ⟨names.flatMap placed, fun a => ?_, inOrder_flatMap sorted, ?_⟩
  · rw [List.mem_flatMap]
    constructor
    · rintro ⟨name, among, member⟩
      obtain ⟨rfl, there⟩ := mem_placesIn_iff.mp member
      exact ⟨(mem_iff _).mp among, there⟩
    · rintro ⟨hasFile, there⟩
      exact ⟨a.file, (mem_iff _).mpr hasFile, mem_placesIn_iff.mpr ⟨rfl, there⟩⟩
  · have read : (names.map (join dir)).mapM (loadFile t) =
        .ok (names.map fun name => (placed name).map (·.rule)) := by
      rw [mapM_eq_ok_iff, List.forall₂_map_left_iff, List.forall₂_map_right_iff,
        List.forall₂_same]
      intro name among
      obtain ⟨rules, loaded⟩ := reads name ((mem_iff name).mp among)
      show _ = Except.ok ((placesIn name (loadFile t (join dir name))).map (·.rule))
      rw [loaded, rules_placesIn]
    rw [load, if_pos isDir, files]
    show ((names.map (join dir)).mapM (loadFile t) >>= _) = _
    rw [read, List.map_flatMap, List.flatMap_def]
    rfl

/-! ## Catalogs in directories -/

/-- Rules with their places are what a directory's catalog consists of: each rule of each of its
files once, in the order of the catalog. -/
structure Merges (t : Tree) (dir : String) (placed : List Placed) : Prop where
  mem_iff : ∀ a, a ∈ placed ↔ a.Stands t dir
  sorted : placed.Pairwise Placed.Precedes

/-- Rules at two places of a directory's catalog have one id. -/
def Clashes (t : Tree) (dir id : String) : Prop :=
  ∃ a b : Placed, a.Stands t dir ∧ b.Stands t dir ∧ a ≠ b ∧ a.rule.id = id ∧ b.rule.id = id

variable {placed : List Placed}

theorem finish_eq_ok_iff {all : List Rule} : finish all = .ok rules ↔
    (all.map (·.id)).Nodup ∧ rules = all.mergeSort fun a b => a.order ≤ b.order := by
  rw [finish]
  cases found : duplicate? [] all with
  | some id =>
    have twice : ¬ (all.map (·.id)).Nodup := fun distinct => by
      have none := duplicate?_eq_none_iff.mpr ⟨distinct, fun _ _ => List.not_mem_nil⟩
      cases none.symm.trans found
    simp [twice]
  | none => simp [(duplicate?_eq_none_iff.mp found).1, eq_comm]

theorem exists_of_finish_error {all : List Rule} {e : SetupError} (failed : finish all = .error e) :
    ∃ id, duplicate? [] all = some id ∧ e = .rule (.configuration (.duplicateRule id)) := by
  unfold finish at failed
  split at failed
  · next id found => exact ⟨id, found, (Except.error.inj failed).symm⟩
  · cases failed

/-- Rules are sorted with their places. -/
theorem exists_merges (mem_iff : ∀ a, a ∈ placed ↔ a.Stands t dir)
    (inOrder : placed.Pairwise Placed.Before) : ∃ sorted, Merges t dir sorted ∧
      (placed.map (·.rule)).mergeSort (fun a b => a.order ≤ b.order) = sorted.map (·.rule) := by
  let le (a b : Placed) : Bool := a.rule.order ≤ b.rule.order
  refine ⟨placed.mergeSort le, ⟨fun a => ?_, ?_⟩, ?_⟩
  · rw [List.mem_mergeSort, mem_iff]
  · exact pairwise_mergeSort_key (·.rule.order) (fun _ _ => decide_eq_true_iff) inOrder
  · have apart : ∀ a ∈ placed, ∀ b ∈ placed, le a b = decide (a.rule.order ≤ b.rule.order) :=
      fun _ _ _ _ => rfl
    exact (List.map_mergeSort apart).symm

/-- The ids are different unless two of them clash. -/
theorem nodup_ids_iff (mem_iff : ∀ a, a ∈ placed ↔ a.Stands t dir)
    (inOrder : placed.Pairwise Placed.Before) :
    ((placed.map (·.rule)).map (·.id)).Nodup ↔ ¬ ∃ id, Clashes t dir id := by
  have places : placed.Nodup := inOrder.imp fun {a b} before same => by
    subst same
    exact Placed.before_asymm before before
  rw [List.map_map, List.nodup_map_iff_inj_on places]
  constructor
  · rintro apart ⟨id, a, b, standsA, standsB, differ, same, same'⟩
    exact differ (apart a ((mem_iff a).mpr standsA) b ((mem_iff b).mpr standsB)
      (same.trans same'.symm))
  · intro none a inA b inB same
    by_contra differ
    exact none ⟨b.rule.id, a, b, (mem_iff a).mp inA, (mem_iff b).mp inB, differ, same, rfl⟩

theorem clashes_of_duplicate? (mem_iff : ∀ a, a ∈ placed ↔ a.Stands t dir)
    (inOrder : placed.Pairwise Placed.Before)
    (found : duplicate? [] (placed.map (·.rule)) = some id) : Clashes t dir id := by
  obtain ⟨front, r, back, split, same, earlier⟩ := exists_of_duplicate? found
  obtain ⟨r', member, same'⟩ := earlier.resolve_left List.not_mem_nil
  obtain ⟨front, rest, rfl, rfl, later⟩ := List.map_eq_append_iff.mp split
  obtain ⟨b, back, rfl, rfl, -⟩ := List.map_eq_cons_iff.mp later
  obtain ⟨a, among, rfl⟩ := List.mem_map.mp member
  have before : a.Before b :=
    (List.pairwise_append.mp inOrder).2.2 a among b List.mem_cons_self
  refine ⟨a, b, (mem_iff a).mp (List.mem_append_left _ among), (mem_iff b).mp (by simp), ?_,
    same', same⟩
  rintro rfl
  exact Placed.before_asymm before before

/-- A directory's catalog is the same wherever the names that mark rules lead to the same. -/
theorem load_congr (proper : t.Proper) (proper' : t'.Proper) (isDir : t.isDir dir = true)
    (isDir' : t'.isDir dir = true) (noStray : ∀ name, ¬ HasStray t dir name)
    (noStray' : ∀ name, ¬ HasStray t' dir name)
    (reads : ∀ name, HasRuleFile t dir name →
      ∃ rules, loadFile t (join dir name) = .ok rules)
    (files : ∀ name, ProperName name → IsRuleName name →
      t'.isFile (join dir name) = t.isFile (join dir name))
    (texts : ∀ name, HasRuleFile t dir name →
      t'.readText (join dir name) = t.readText (join dir name)) :
    load t' dir = load t dir := by
  have hasFile {name : String} : HasRuleFile t' dir name ↔ HasRuleFile t dir name := by
    constructor
    · rintro ⟨properName, named, isFile⟩
      exact ⟨properName, named, files name properName named ▸ isFile⟩
    · rintro ⟨properName, named, isFile⟩
      exact ⟨properName, named, (files name properName named).trans isFile⟩
  have loaded {name : String} (has : HasRuleFile t dir name) :
      loadFile t' (join dir name) = loadFile t (join dir name) := by
    rw [loadFile, loadFile, texts name has]
  have stands (a : Placed) : a.Stands t' dir ↔ a.Stands t dir := by
    constructor
    · rintro ⟨has, there⟩
      exact ⟨hasFile.mp has, loaded (hasFile.mp has) ▸ there⟩
    · rintro ⟨has, there⟩
      exact ⟨hasFile.mpr has, (loaded has).symm ▸ there⟩
  have reads' (name : String) (has : HasRuleFile t' dir name) :
      ∃ rules, loadFile t' (join dir name) = .ok rules := by
    rw [loaded (hasFile.mp has)]
    exact reads name (hasFile.mp has)
  obtain ⟨placed, mem_iff, inOrder, result⟩ := exists_load_eq proper isDir noStray reads
  obtain ⟨placed', mem_iff', inOrder', result'⟩ :=
    exists_load_eq proper' isDir' noStray' reads'
  have same : placed' = placed := by
    apply inOrder'.eq_of_mem_iff inOrder
    intro a
    rw [mem_iff', mem_iff, stands]
  rw [result, result', same]

/-- Two trees with the same directories and links have the same catalog in a directory if the names
that mark rules lead to the same files there. No other file matters. -/
theorem load_of_sameShape (proper : t.Proper) (proper' : t'.Proper) (shape : Tree.SameShape t t')
    (isDir : t.isDir dir = true) (noStray : ∀ name, ¬ HasStray t dir name)
    (noStray' : ∀ name, ¬ HasStray t' dir name)
    (reads : ∀ name, HasRuleFile t dir name →
      ∃ rules, loadFile t (join dir name) = .ok rules)
    (same : ∀ name p, ProperName name → IsRuleName name →
      t.locate (join dir name) = .ok p → t'.get? p = t.get? p) :
    load t' dir = load t dir := by
  have isDir' : t'.isDir dir = true := by
    obtain ⟨p, located, here⟩ := Tree.isDir_iff.mp isDir
    exact Tree.isDir_iff.mpr
      ⟨p, shape.locate_of_ok located, (shape.same p .dir (by simp)).mp here⟩
  refine load_congr proper proper' isDir isDir' noStray noStray' reads
    (fun name properName named => ?_) fun name has => ?_
  · rw [Bool.eq_iff_iff, Tree.isFile_iff, Tree.isFile_iff]
    constructor
    · rintro ⟨p, c, x, located, file⟩
      have located := shape.locate_eq_ok_iff.mpr located
      exact ⟨p, c, x, located, same name p properName named located ▸ file⟩
    · rintro ⟨p, c, x, located, file⟩
      exact ⟨p, c, x, shape.locate_of_ok located,
        (same name p properName named located).trans file⟩
  · obtain ⟨p, c, x, located, file⟩ := Tree.isFile_iff.mp has.isFile
    have file' := (same name p has.proper has.named located).trans file
    simp only [Tree.readText, Tree.readBytes, located, shape.locate_of_ok located, file, file',
      bind, Except.bind]

/-- **A directory's catalog is its files' rules put together, in one order whatever the order of the
files in the directory.** In a proper tree, nothing is loaded if some entry of the directory has a
name that is no text. Otherwise, where every file of the directory that is named for rules can be
read:

* the catalog is loaded unless two of its rules have one id, and the error names such an id;
* it has the rule at each place of each of these files once, by `order`, and rules of one order by
  the name of the file and then by the position in it;
* the order in which the tree lists its entries is no matter, and neither is any file to which no
  name of a rule file in the directory leads: it may be there or not, and hold anything, as long as
  the names of the directory's entries stay text. -/
theorem load_directory (proper : t.Proper) (isDir : t.isDir dir = true) :
    ((∃ name, HasStray t dir name) → ∃ name, HasStray t dir name ∧
      load t dir = .error (.io dir (.badName (join dir name)))) ∧
    ((∀ name, ¬ HasStray t dir name) →
      (∀ name, HasRuleFile t dir name → ∃ rules, loadFile t (join dir name) = .ok rules) →
      ((∃ rules, load t dir = .ok rules) ↔ ¬ ∃ id, Clashes t dir id) ∧
      (∀ e, load t dir = .error e →
        ∃ id, Clashes t dir id ∧ e = .rule (.configuration (.duplicateRule id))) ∧
      (∀ rules, load t dir = .ok rules →
        ∃ placed, Merges t dir placed ∧ rules = placed.map (·.rule)) ∧
      (∀ t' : Tree, t'.cwd = t.cwd → t'.entries.Perm t.entries → load t' dir = load t dir) ∧
      ∀ t' : Tree, t'.Proper → Tree.SameShape t t' → (∀ name, ¬ HasStray t' dir name) →
        (∀ name p, ProperName name → IsRuleName name →
          t.locate (join dir name) = .ok p → t'.get? p = t.get? p) →
        load t' dir = load t dir) := by
  refine ⟨load_of_stray proper isDir, fun noStray reads => ?_⟩
  obtain ⟨placed, mem_iff, inOrder, loaded⟩ := exists_load_eq proper isDir noStray reads
  refine ⟨?_, fun e failed => ?_, fun rules succeeded => ?_, fun t' cwd perm => ?_,
    fun t' proper' shape noStray' same =>
      load_of_sameShape proper proper' shape isDir noStray noStray' reads same⟩
  · rw [loaded, ← nodup_ids_iff mem_iff inOrder]
    constructor
    · rintro ⟨rules, finished⟩
      exact (finish_eq_ok_iff.mp finished).1
    · intro distinct
      exact ⟨_, finish_eq_ok_iff.mpr ⟨distinct, rfl⟩⟩
  · rw [loaded] at failed
    obtain ⟨id, found, rfl⟩ := exists_of_finish_error failed
    exact ⟨id, clashes_of_duplicate? mem_iff inOrder found, rfl⟩
  · rw [loaded] at succeeded
    obtain ⟨sorted, merges, same⟩ := exists_merges mem_iff inOrder
    exact ⟨sorted, merges, (finish_eq_ok_iff.mp succeeded).2.trans same⟩
  · have get? (p : Place) : t'.get? p = t.get? p := proper.get?_of_perm perm p
    have shape : Tree.SameShape t t' := ⟨cwd, fun p e _ => by rw [get? p]⟩
    have noStray' (name : String) : ¬ HasStray t' dir name := by
      rintro ⟨p, e, located, found, notText⟩
      exact noStray name ⟨p, e, shape.locate_eq_ok_iff.mpr located, get? _ ▸ found, notText⟩
    exact load_of_sameShape proper (proper.of_perm cwd perm) shape isDir noStray noStray' reads
      fun name p _ _ _ => get? p

/-! ## A catalog of two files -/

/-- The names and the texts of two files with rules. -/
def sampleFiles : List (String × String) :=
  [("a.yaml", "- \x7bruleID: x, order: 2, when: \x7bcondition: c\x7d\x7d\n" ++
      "- \x7bruleID: y, when: \x7bcondition: c\x7d\x7d\n"),
    ("b.yml", "ruleID: z\nwhen: \x7bcondition: c\x7d\n")]

/-- A tree that lists these files backwards, and after another one. -/
def sampleTree : Tree where
  entries := (["notes.txt"], .file [] false) ::
    sampleFiles.reverse.map fun (name, text) => ([name], .file (Text.toBytes text) false)

def sampleRule (id : String) (order : Int) : Rule := { id, order, condition := "c" }

theorem sampleTree_proper : sampleTree.Proper := .of_entries (by decide) (by decide) (by decide)

variable {file : String × String}

theorem sampleTree_located (among : file ∈ sampleFiles) :
    sampleTree.locate (join "/" file.1) = .ok [file.1] ∧
      sampleTree.get? [file.1] = some (.file (Text.toBytes file.2) false) := by
  have plain : ∀ file ∈ sampleFiles, Spells (join "/" file.1) [file.1] ∧
      sampleTree.get? [file.1] = some (.file (Text.toBytes file.2) false) := by
    decide +kernel
  obtain ⟨spells, there⟩ := plain file among
  exact ⟨Tree.locate_of_spells spells sampleTree_proper.sound (by simp) there (by simp), there⟩

theorem not_hasStray_slash (proper : t.Proper)
    (texts : ∀ entry ∈ t.entries, isUtf8 [entry.1.getLastD ""] = true) :
    ¬ HasStray t "/" name := by
  rintro ⟨p, e, located, found, notText⟩
  obtain rfl := Except.ok.inj ((Tree.rootDir_slash proper.sound).located.symm.trans located)
  have among := (proper.get?_eq_some_iff (by simp)).mp found
  exact Bool.false_ne_true (notText.symm.trans (texts _ among))

theorem not_hasRuleFile_slash (proper : t.Proper)
    (unmarked : ∀ entry ∈ t.entries, isRuleFile (entry.1.getLastD "") = false) :
    ¬ HasRuleFile t "/" name := by
  intro has
  obtain ⟨e, found⟩ := (Tree.rootDir_slash proper.sound).exists_of_isFile has.proper has.isFile
  have among := (proper.get?_eq_some_iff (by simp)).mp found
  exact Bool.false_ne_true ((unmarked _ among).symm.trans (isRuleFile_iff.mpr has.named))

theorem sampleTree_hasRuleFile_iff :
    HasRuleFile sampleTree "/" name ↔ name ∈ sampleFiles.map (·.1) := by
  constructor
  · intro has
    obtain ⟨e, found⟩ :=
      (Tree.rootDir_slash sampleTree_proper.sound).exists_of_isFile has.proper has.isFile
    have among := (sampleTree_proper.get?_eq_some_iff (by simp)).mp found
    have listed : ∀ entry ∈ sampleTree.entries, isRuleFile (entry.1.getLastD "") = true →
        entry.1.getLastD "" ∈ sampleFiles.map (·.1) := by decide
    exact listed _ among (isRuleFile_iff.mpr has.named)
  · intro member
    obtain ⟨file, among, rfl⟩ := List.mem_map.mp member
    have named : ∀ file ∈ sampleFiles, ProperName file.1 ∧ isRuleFile file.1 = true := by decide
    obtain ⟨located, there⟩ := sampleTree_located among
    exact ⟨(named file among).1, isRuleFile_iff.mp (named file among).2,
      Tree.isFile_iff.mpr ⟨_, _, _, located, there⟩⟩

theorem sampleTree_loadFile (among : file ∈ sampleFiles) :
    loadFile sampleTree (join "/" file.1) = parse file.2 (join "/" file.1) := by
  obtain ⟨located, there⟩ := sampleTree_located among
  rw [loadFile, Tree.readText_of_located located there]

/-- The rules come by order, and those of one order as their files do. The tree may list the files
backwards. -/
theorem load_directory_sample :
    sampleTree.Proper ∧ sampleTree.isDir "/" = true ∧
    (∀ name, ¬ HasStray sampleTree "/" name) ∧
    (∀ name, HasRuleFile sampleTree "/" name →
      ∃ rules, loadFile sampleTree (join "/" name) = .ok rules) ∧
    load sampleTree "/" = .ok [sampleRule "y" 0, sampleRule "z" 0, sampleRule "x" 2] ∧
    load { sampleTree with entries := sampleTree.entries.reverse } "/" =
      .ok [sampleRule "y" 0, sampleRule "z" 0, sampleRule "x" 2] := by
  have proper := sampleTree_proper
  have isDir := Tree.isDir_slash proper.sound
  have noStray (name : String) : ¬ HasStray sampleTree "/" name :=
    not_hasStray_slash proper (by decide)
  have first : loadFile sampleTree (join "/" "a.yaml") =
      .ok [sampleRule "x" 2, sampleRule "y" 0] :=
    (sampleTree_loadFile List.mem_cons_self).trans (by decide +kernel)
  have second : loadFile sampleTree (join "/" "b.yml") = .ok [sampleRule "z" 0] :=
    (sampleTree_loadFile (List.mem_cons_of_mem _ List.mem_cons_self)).trans (by decide +kernel)
  have reads (name : String) (has : HasRuleFile sampleTree "/" name) :
      ∃ rules, loadFile sampleTree (join "/" name) = .ok rules := by
    have member : name = "a.yaml" ∨ name = "b.yml" := by
      simpa [sampleFiles] using sampleTree_hasRuleFile_iff.mp has
    rcases member with rfl | rfl
    · exact ⟨_, first⟩
    · exact ⟨_, second⟩
  have loaded : load sampleTree "/" =
      .ok [sampleRule "y" 0, sampleRule "z" 0, sampleRule "x" 2] := by
    obtain ⟨names, sorted, mem_iff, listing⟩ := exists_ruleNames proper isDir noStray
    have same : names = ["a.yaml", "b.yml"] := sorted.eq_of_mem_iff (by decide) fun name =>
      (mem_iff name).trans sampleTree_hasRuleFile_iff
    rw [same] at listing
    have read : (["a.yaml", "b.yml"].map (join "/")).mapM (loadFile sampleTree) =
        .ok [[sampleRule "x" 2, sampleRule "y" 0], [sampleRule "z" 0]] :=
      mapM_eq_ok_iff.mpr (.cons first (.cons second .nil))
    rw [load, if_pos isDir]
    refine bind_eq_ok_iff.mpr ⟨_, listing, bind_eq_ok_iff.mpr ⟨_, read, ?_⟩⟩
    refine finish_eq_ok_iff.mpr ⟨by decide, ?_⟩
    simp [List.mergeSort, sampleRule]
  obtain ⟨-, -, -, reordered, -⟩ := (load_directory proper isDir).2 noStray reads
  have backwards := reordered { sampleTree with entries := sampleTree.entries.reverse } rfl
    (List.reverse_perm _)
  exact ⟨proper, isDir, noStray, reads, loaded, backwards.trans loaded⟩

/-! ## Where a catalog is not what its files' names promise -/

/-- A file whose name is no text, and is not for rules. -/
def strayTree : Tree where
  entries := [(["\x00ÿ\x00.txt"], .file [] false)]

/-- A file of a rule with a name that is nothing but the ending. -/
def endingTree : Tree where
  entries := [([".yaml"], .file (Text.toBytes "ruleID: z\nwhen: \x7bcondition: c\x7d\n") false)]

/-- A directory where no two rules have one id is not loaded, for the sake of a file that is not
named for rules; and a file whose rules can be read, and that the patterns *.yaml and *.yml take,
has none of its rules in the catalog. -/
theorem load_directory_exceptions :
    (strayTree.Proper ∧ strayTree.isDir "/" = true ∧
      (∀ name, ¬ HasRuleFile strayTree "/" name) ∧ (¬ ∃ id, Clashes strayTree "/" id) ∧
      load { strayTree with entries := [] } "/" = .ok [] ∧
      load strayTree "/" = .error (.io "/" (.badName "/\x00ÿ\x00.txt"))) ∧
    endingTree.Proper ∧ endingTree.isDir "/" = true ∧
      loadFile endingTree "/.yaml" = .ok [sampleRule "z" 0] ∧ load endingTree "/" = .ok [] := by
  have proper : strayTree.Proper := .of_entries (by decide) (by decide) (by decide)
  have empty : ({ strayTree with entries := [] } : Tree).Proper :=
    .of_entries (by decide) (by decide) (by decide)
  have proper' : endingTree.Proper := .of_entries (by decide) (by decide) (by decide)
  have noRules (name : String) : ¬ HasRuleFile strayTree "/" name :=
    not_hasRuleFile_slash proper (by decide)
  have noClash : ¬ ∃ id, Clashes strayTree "/" id := by
    rintro ⟨id, a, b, stands, -⟩
    exact noRules a.file stands.hasFile
  have located : endingTree.locate "/.yaml" = .ok [".yaml"] :=
    Tree.locate_of_spells (by decide +kernel) proper'.sound (by simp) rfl (by simp)
  have isDir := Tree.isDir_slash proper.sound
  have isDir' := Tree.isDir_slash proper'.sound
  refine ⟨⟨proper, isDir, noRules, noClash, ?_, ?_⟩, proper', isDir', ?_, ?_⟩
  · exact load_of_noRuleFile empty (Tree.isDir_slash empty.sound)
      (fun _ => not_hasStray_slash empty (by decide))
      fun _ => not_hasRuleFile_slash empty (by decide)
  · rw [load, if_pos isDir, ruleFiles, (Tree.rootDir_slash proper.sound).located]
    rfl
  · rw [loadFile, Tree.readText_of_located located rfl]
    decide +kernel
  · exact load_of_noRuleFile proper' (Tree.isDir_slash proper'.sound)
      (fun _ => not_hasStray_slash proper' (by decide))
      fun _ => not_hasRuleFile_slash proper' (by decide)

end Catalog

end Uplift
