import Uplift.Proofs.Scan.Dependencies
import Uplift.Proofs.Text.Lines
import Uplift.Scan.FileSearch

/-!
# The search for contents

What a file contributes to a search, said without the search: one place for each line of its text in
which a match begins, at the first of them, in the order of the lines (`FileSearch.Lists`). The
search puts together what its files contribute (`FileSearch.scan_content`), whatever the engine for
its patterns is. Of the engine it is only assumed that it finds the leftmost match of a line
(`FileSearch.Finds`), as the engine that the scanner has does (`FileSearch.finds_engine`).
-/

namespace Uplift.Scan.FileSearch

/-- The first match in a line begins after so many characters. -/
structure Leftmost (begins : List Char → Nat → Prop) (line : List Char) (n : Nat) : Prop where
  found : begins line n
  first : ∀ m < n, ¬ begins line m

/-- In every line the leftmost match is found, if there is one, and else none. -/
def Finds (find : List Char → Option Nat) (begins : List Char → Nat → Prop) : Prop :=
  ∀ line n, find line = some n ↔ Leftmost begins line n

end Uplift.Scan.FileSearch

namespace Uplift.Regex

variable {r : Regex} {line lead rest : List Char} {n : Nat}

/-- A match begins after so many characters of a line. -/
def Begins (r : Regex) (line : List Char) (n : Nat) : Prop :=
  ∃ before rest, line = before ++ rest ∧ before.length = n ∧
    r.ends ⟨before.getLast?, rest, rest.length⟩ ≠ []

theorem begins_iff : r.Begins (lead ++ rest) lead.length ↔
    r.ends ⟨lead.getLast?, rest, rest.length⟩ ≠ [] := by
  constructor
  · rintro ⟨before, rest', same, length, ends⟩
    obtain ⟨rfl, rfl⟩ := List.append_inj same length.symm
    exact ends
  · intro ends
    exact ⟨lead, rest, rfl, rfl, ends⟩

theorem Begins.le_length (begins : r.Begins line n) : n ≤ line.length := by
  obtain ⟨before, rest, rfl, rfl, -⟩ := begins
  rw [List.length_append]
  omega

/-- The first match that begins after at least `k` characters. -/
structure FirstFrom (r : Regex) (line : List Char) (k n : Nat) : Prop where
  le : k ≤ n
  begins : r.Begins line n
  first : ∀ m, k ≤ m → m < n → ¬ r.Begins line m

theorem firstFrom_of_begins {k : Nat} (begins : r.Begins line k) :
    r.FirstFrom line k n ↔ k = n := by
  constructor
  · intro found
    have le := found.le
    have notLater : ¬ k < n := fun later => found.first k le_rfl later begins
    omega
  · rintro rfl
    exact ⟨le_rfl, begins, fun m atLeast below => absurd below (by omega)⟩

theorem firstFrom_succ {k : Nat} (other : ¬ r.Begins line k) :
    r.FirstFrom line k n ↔ r.FirstFrom line (k + 1) n := by
  constructor
  · rintro ⟨le, begins, first⟩
    have apart : k ≠ n := fun same => other (same ▸ begins)
    exact ⟨by omega, begins, fun m atLeast => first m (by omega)⟩
  · rintro ⟨le, begins, first⟩
    refine ⟨by omega, begins, fun m atLeast below => ?_⟩
    by_cases here : m = k
    · exact here ▸ other
    · exact first m (by omega) below

/-- What is found from a spot on is the first match that begins there or later. -/
theorem findFrom_eq_some_iff : findFrom r lead.length lead.getLast? rest = some n ↔
    r.FirstFrom (lead ++ rest) lead.length n := by
  induction rest generalizing lead with
  | nil =>
    show (if (r.ends ⟨lead.getLast?, [], ([] : List Char).length⟩).isEmpty = true then none
      else some lead.length) = some n ↔ _
    by_cases begins : r.Begins (lead ++ []) lead.length
    · rw [if_neg (by simpa using begins_iff.mp begins), firstFrom_of_begins begins,
        Option.some.injEq]
    · rw [if_pos (by simpa using mt begins_iff.mpr begins)]
      refine iff_of_false (by simp) fun found => ?_
      have atMost := found.begins.le_length
      rw [List.append_nil] at atMost
      exact begins (Nat.le_antisymm atMost found.le ▸ found.begins)
  | cons c rest ih =>
    show (if (r.ends ⟨lead.getLast?, c :: rest, (c :: rest).length⟩).isEmpty = true then
      findFrom r (lead.length + 1) (some c) rest else some lead.length) = some n ↔ _
    by_cases begins : r.Begins (lead ++ c :: rest) lead.length
    · rw [if_neg (by simpa using begins_iff.mp begins), firstFrom_of_begins begins,
        Option.some.injEq]
    · rw [if_pos (by simpa using mt begins_iff.mpr begins), firstFrom_succ begins]
      simpa using @ih (lead ++ [c])

/-- What is found in a line is where its leftmost match begins. -/
theorem finds_find? (r : Regex) : Scan.FileSearch.Finds r.find? r.Begins := by
  intro line n
  have whole : r.find? line = some n ↔ r.FirstFrom line 0 n :=
    @findFrom_eq_some_iff r [] line n
  rw [whole]
  constructor
  · rintro ⟨-, begins, first⟩
    exact ⟨begins, fun m => first m (Nat.zero_le m)⟩
  · rintro ⟨begins, first⟩
    exact ⟨Nat.zero_le n, begins, fun m _ => first m⟩

end Uplift.Regex

namespace Uplift.Scan.FileSearch

open Files

variable {σ : Type} {find : List Char → Option Nat} {begins : List Char → Nat → Prop}
  {source : String} {n : Nat}

theorem finds_engine {content : String} (compiled : engine content = some find) :
    ∃ r, Regex.parse? content = some r ∧ Finds find r.Begins := by
  obtain ⟨r, read, rfl⟩ := Option.map_eq_some_iff.mp compiled
  exact ⟨r, read, r.finds_find?⟩

/-! ## One file -/

theorem mem_linesFrom_iff {ls : List (List Char)} {l : Location} :
    l ∈ linesFrom find source n ls ↔ ∃ i line before, ls[i]? = some line ∧
      find line = some before ∧ l = ⟨source, n + i, before + 1, String.ofList line⟩ := by
  induction ls generalizing n with
  | nil => simp [linesFrom]
  | cons first ls ih =>
    have later : (∃ i line before, (first :: ls)[i]? = some line ∧ find line = some before ∧
        l = ⟨source, n + i, before + 1, String.ofList line⟩) ↔
        (∃ before, find first = some before ∧
          l = ⟨source, n, before + 1, String.ofList first⟩) ∨
        l ∈ linesFrom find source (n + 1) ls := by
      rw [ih]
      constructor
      · rintro ⟨i, line, before, there, found, rfl⟩
        cases i with
        | zero =>
          obtain rfl := Option.some.inj there
          exact .inl ⟨before, found, rfl⟩
        | succ i => exact .inr ⟨i, line, before, there, found, by rw [Nat.add_right_comm]; rfl⟩
      · rintro (⟨before, found, rfl⟩ | ⟨i, line, before, there, found, rfl⟩)
        · exact ⟨0, first, before, rfl, found, rfl⟩
        · exact ⟨i + 1, line, before, there, found, by rw [Nat.add_right_comm]; rfl⟩
    rw [later, linesFrom]
    cases found : find first with
    | none => simp
    | some before => simp

theorem increasing_linesFrom (ls : List (List Char)) :
    (linesFrom find source n ls).Pairwise fun a b => a.line < b.line := by
  induction ls generalizing n with
  | nil => exact .nil
  | cons first ls ih =>
    rw [linesFrom]
    cases found : find first with
    | none => exact ih
    | some before =>
      refine List.pairwise_cons.mpr ⟨fun l member => ?_, ih⟩
      obtain ⟨i, line, before, -, -, rfl⟩ := mem_linesFrom_iff.mp member
      show n < n + 1 + i
      omega

/-- The places that a text contributes to a search: one for each line in which a match begins, at
the leftmost of them, in the order of the lines. -/
structure Lists (begins : List Char → Nat → Prop) (source : String) (text : List Char)
    (found : List Location) : Prop where
  increasing : found.Pairwise fun a b => a.line < b.line
  mem_iff : ∀ l, l ∈ found ↔ ∃ line before, Text.IsLine text l.line line ∧
    Leftmost begins line before ∧ l = ⟨source, l.line, before + 1, String.ofList line⟩

theorem lists_linesOf (finds : Finds find begins) (source text : String) :
    Lists begins source text.toList (linesOf find source text) := by
  refine ⟨increasing_linesFrom _, fun l => ?_⟩
  rw [linesOf, mem_linesFrom_iff]
  constructor
  · rintro ⟨i, line, before, there, found, rfl⟩
    refine ⟨line, before, ?_, (finds line before).mp found, rfl⟩
    show Text.IsLine text.toList (1 + i) line
    rw [Nat.add_comm]
    exact Text.getElem?_lines.mp there
  · rintro ⟨line, before, stands, leftmost, same⟩
    have one_le : 1 ≤ l.line := by
      obtain ⟨_, _, _, _, number, _⟩ := stands
      omega
    have number : l.line = l.line - 1 + 1 := by omega
    refine ⟨l.line - 1, line, before, Text.getElem?_lines.mpr (number ▸ stands),
      (finds line before).mpr leftmost, ?_⟩
    rw [Nat.add_comm, ← number]
    exact same

/-- No other list of places is what a text contributes. -/
theorem lists_iff (finds : Finds find begins) {text : String} {found : List Location} :
    Lists begins source text.toList found ↔ found = linesOf find source text := by
  constructor
  · intro lists
    have other := lists_linesOf finds source text
    have asymm : Std.Asymm fun a b : Location => a.line < b.line := ⟨fun _ _ => Nat.lt_asymm⟩
    apply lists.increasing.eq_of_mem_iff other.increasing
    intro l
    rw [lists.mem_iff, other.mem_iff]
  · rintro rfl
    exact lists_linesOf finds source text

/-! ## The search -/

/-- What a file contributes, depending on what comes of reading it. -/
def contributed (find : List Char → Option Nat) (source : String) :
    Except FileError String → List Location
  | .ok text => linesOf find source text
  | .error _ => []

theorem containing_eq {compile : Engine} {config : ScanConfig} {root content : String}
    {name : Option String} {t : Tree} {k : Walker} {paths : List (List String)}
    (compiled : compile content = some find) (walks : walker config t root name = .ok k)
    (collected : k.collect t = .ok paths) :
    containing compile config root content name t =
      .ok (paths.flatMap fun names =>
        contributed find (relative names) (t.readText (k.pathOf names))) := by
  have each : (fun names => contributed find (relative names) (t.readText (k.pathOf names))) =
      fun names => match t.readText (k.pathOf names) with
        | .ok text => linesOf find (relative names) text
        | .error _ => [] := by
    funext names
    cases t.readText (k.pathOf names) <;> rfl
  rw [containing, compiled, each]
  exact bind_eq_ok_iff.mpr ⟨k, walks, bind_eq_ok_iff.mpr ⟨paths, collected, rfl⟩⟩

/-- **A search for contents reports every line in which the pattern matches, once and at its
place.** Let an engine take the pattern up, and find the leftmost match of every line. Where the
walk over the project succeeds:

* the files come in the order of their paths, and the answer is what each of them contributes, which
  depends on nothing but its own path and text;
* a text contributes exactly one place for each line in which a match begins, in the order of the
  lines: the number of the line, the number of characters before the leftmost match and one more,
  and the line without its end;
* a file that cannot be read as text contributes nothing. -/
theorem scan_content {compile : Engine} {c : Context} {q : Query} {w w' : World σ}
    {name : Option String} {content : String} {k : Walker} {paths : List (List String)}
    (asks : c.request .file q w = (.ok (.file name (some content)), w'))
    (compiled : compile content = some find) (finds : Finds find begins)
    (walks : walker c.config.scan w'.tree c.root name = .ok k)
    (collected : k.collect w'.tree = .ok paths) :
    (scannerWith compile).scan c q w = (.ok (paths.flatMap fun names =>
      (contributed find (relative names) (w'.tree.readText (k.pathOf names))).map fun l =>
        ⟨l.path, .file, .location l⟩), w') ∧
    (paths.Pairwise fun a b => namesLe a b = true) ∧
    (∀ source text found, Lists begins source text.toList found ↔
      found = contributed find source (.ok text)) ∧
    ∀ source e, contributed find source (.error e) = [] := by
  refine ⟨?_, Walker.sorted_collect collected, fun _ _ _ => lists_iff finds, fun _ _ => rfl⟩
  change (c.request .file q >>= _) w = _
  rw [RuleScan.bind_run_ok asks]
  show (search compile c.config.scan c.root name (some content) w'.tree, w') = _
  have found := containing_eq compiled walks collected
  rw [search, found, ← List.map_flatMap]
  rfl

open Dependencies (pomTree pomWalker pomContext pomTree_proper pomTree_readText
  pomWalker_collected)

/-- Three lines with different ends, the middle one with two matches after a character of two
bytes. -/
def sampleText : String := "ab\r\nébb b\nccc"

/-- The expression `b+`. -/
def someB : Regex := .seq (.times (.one (.ranges [(98, 98)])) 1 none) .empty

theorem scan_content_sample :
    let w : World Unit := ⟨pomTree sampleText, {}, ()⟩
    let q : Query := ⟨"file", "content", [("pattern", "b+"), ("filePattern", "pom.xml")]⟩
    pomContext.request .file q w = (.ok (.file (some "pom.xml") (some "b+")), w) ∧
    engine "b+" = some someB.find? ∧ Finds someB.find? someB.Begins ∧
    walker {} (pomTree sampleText) "/" (some "pom.xml") = .ok pomWalker ∧
    pomWalker.collect (pomTree sampleText) = .ok [["pom.xml"]] ∧
    scanner.scan pomContext q w =
      (.ok [⟨"pom.xml", .file, .location ⟨"pom.xml", 1, 2, "ab"⟩⟩,
        ⟨"pom.xml", .file, .location ⟨"pom.xml", 2, 2, "ébb b"⟩⟩], w) := by
  intro w q
  have asks : pomContext.request .file q w = (.ok (.file (some "pom.xml") (some "b+")), w) := rfl
  have compiled : engine "b+" = some someB.find? := rfl
  have walks : walker {} (pomTree sampleText) "/" (some "pom.xml") = .ok pomWalker := by
    unfold walker Walker.of
    rw [if_pos (Tree.isDir_slash (pomTree_proper sampleText).sound)]
    rfl
  have collected := pomWalker_collected sampleText
  refine ⟨asks, compiled, someB.finds_find?, walks, collected, ?_⟩
  rw [scanner, (scan_content asks compiled someB.finds_find? walks collected).1]
  have path : pomWalker.pathOf ["pom.xml"] = "/pom.xml" := by decide +kernel
  have lines : linesOf someB.find? "pom.xml" sampleText =
      [⟨"pom.xml", 1, 2, "ab"⟩, ⟨"pom.xml", 2, 2, "ébb b"⟩] := by
    decide +kernel
  rw [List.flatMap_singleton, path, pomTree_readText sampleText]
  show (Except.ok ((linesOf _ "pom.xml" sampleText).map _), _) = _
  rw [lines]
  rfl

end Uplift.Scan.FileSearch
