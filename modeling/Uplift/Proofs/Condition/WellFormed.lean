import Uplift.Proofs.Condition.Precondition
import Uplift.Proofs.Condition.Quoting

/-!
# What holds of every query that is accepted

The readers of conditions and of preconditions check a little here and a little there. Together they
see to it that a query has a kind and a symbol that are words, at least one parameter, keys that can
be told apart (`Query.WellFormed`), and no value that is empty or has blanks around it unless it was
written in quotes (`Query.QuotedIn`).

* `ReadAs.wellFormed`, `ReadAs.quotedIn`: what holds of the parameters that a list or a single value
  gives. Conditions and preconditions differ only in which of the two a text is taken for.
* `accepted_wellFormed`: the two readers.
-/

namespace Uplift

open Text

namespace Condition

/-! ## Well-formed queries -/

/-- A kind or a symbol. -/
structure IsWord (name : String) : Prop where
  nonempty : name ≠ ""
  chars : ∀ c ∈ name.toList, c.isAlphanum = true ∨ c = '_' ∨ c = '-'

/-- A key that a parameter can have. -/
structure IsKey (key : String) : Prop where
  nonempty : key ≠ ""
  noBlanksAround : trimmed key = key
  noEquals : '=' ∉ key.toList

end Condition

open Condition

/-- What can be relied on of a query. -/
structure Query.WellFormed (q : Query) : Prop where
  kind : IsWord q.kind
  symbol : IsWord q.symbol
  filled : q.params ≠ []
  keys : ∀ p ∈ q.params, IsKey p.1
  distinct : (q.params.map (·.1)).Nodup

/-- Each value of a query that is empty or has blanks around it was written in quotes: of the values
that are `written` under its key, the last is the value between two marks, and this text stands in
`source`. -/
def Query.QuotedIn (source : List Char) (written : List (List Char × List Char)) (q : Query) :
    Prop :=
  ∀ p ∈ q.params, p.2 = "" ∨ trimmed p.2 ≠ p.2 →
    ∃ mark, isQuote mark = true ∧
      written.reverse.lookup p.1.toList = some (mark :: (p.2.toList ++ [mark])) ∧
      mark :: (p.2.toList ++ [mark]) <:+: source

namespace Condition

theorem isWord_ofList {name : List Char} (isName : isName name = true) :
    IsWord (String.ofList name) := by
  simp only [Condition.isName, Bool.and_eq_true, Bool.not_eq_true', List.isEmpty_eq_false_iff,
    List.all_eq_true] at isName
  refine ⟨fun empty => isName.1 (by simpa using congrArg String.toList empty), fun c member => ?_⟩
  rw [String.toList_ofList] at member
  simpa [isNameChar, or_assoc] using isName.2 c member

/-! ## Keys and values -/

theorem isKey_nameParam : IsKey nameParam := ⟨by decide, by decide, by decide⟩

theorem isKey_of_param {part : List Char} {p : String × String} (read : param part = .ok p) :
    IsKey p.1 := by
  rw [param] at read
  cases split : splitOnce '=' part with
  | none => rw [split] at read; cases read
  | some cut =>
    obtain ⟨key, value⟩ := cut
    rw [split] at read
    dsimp only at read
    split at read
    · cases read
    · next filled =>
      obtain ⟨v, -, same⟩ := bind_eq_ok_iff.mp read
      obtain rfl := Except.ok.inj same
      refine ⟨fun empty => filled ?_, ?_, fun member => ?_⟩
      · have gone : trim key = [] := by simpa using congrArg String.toList empty
        rw [gone]
        rfl
      · rw [trimmed, String.toList_ofList, trim_trim]
      · rw [String.toList_ofList] at member
        exact (eq_of_splitOnce split).2 ((trim_within key).subset member)

theorem isKey_of_paramList {inner : List Char} {params : List (String × String)}
    (read : paramList inner = .ok params) : params ≠ [] ∧ ∀ p ∈ params, IsKey p.1 := by
  obtain ⟨params', each, kept⟩ := bind_eq_ok_iff.mp read
  split at kept
  · cases kept
  · next filled =>
    obtain rfl := Except.ok.inj kept
    refine ⟨by simpa using filled, fun p member => ?_⟩
    obtain ⟨part, -, readHere⟩ := exists_of_mem_mapM each member
    exact isKey_of_param readHere

/-- The text of a value stands in the list, and has no blanks around it. -/
theorem of_mem_listTexts {inner : List Char} {written : List Char × List Char}
    (member : written ∈ listTexts inner) :
    written.2 <:+: inner ∧ trim written.2 = written.2 := by
  obtain ⟨part, among, texts⟩ := List.mem_filterMap.mp member
  obtain ⟨whole, cut, rfl⟩ := List.mem_map.mp (List.mem_filter.mp among).1
  obtain ⟨⟨key, value⟩, split, rfl⟩ := Option.map_eq_some_iff.mp texts
  refine ⟨?_, trim_trim value⟩
  have inList : whole <:+: inner := by simpa using parts_within cut
  have inPart : value <:+: trim whole := by
    rw [(eq_of_splitOnce split).1]
    exact ((List.suffix_cons '=' value).trans (List.suffix_append key _)).isInfix
  exact (trim_within value).trans <| inPart.trans <| (trim_within whole).trans inList

/-- A parameter that is found is found as it is written, too. -/
theorem lookup_of_standsFor {written : List (List Char × List Char)}
    {params : List (String × String)} (each : List.Forall₂ StandsFor written params)
    {key value : String} (found : params.lookup key = some value) :
    ∃ text, written.lookup key.toList = some text ∧ (key.toList, text) ∈ written ∧
      Stands text value.toList := by
  induction each with
  | nil => cases found
  | @cons first p written params stands _ ih =>
    obtain ⟨k, text⟩ := first
    obtain ⟨k', v⟩ := p
    obtain ⟨rfl, reads⟩ := stands
    by_cases here : key = k'
    · subst here
      rw [List.lookup_cons_self] at found
      obtain rfl := Option.some.inj found
      exact ⟨text, List.lookup_cons_self, List.mem_cons_self, reads⟩
    · have other : (key == k') = false := beq_eq_false_iff_ne.mpr here
      have otherChars : (key.toList == k'.toList) = false :=
        beq_eq_false_iff_ne.mpr fun same => here (String.toList_inj.mp same)
      rw [List.lookup_cons, other] at found
      obtain ⟨text', later, among, reads'⟩ := ih found
      refine ⟨text', ?_, List.mem_cons_of_mem _ among, reads'⟩
      rw [List.lookup_cons, otherChars]
      exact later

namespace ReadAs

variable {source : List Char} {written : List (List Char × List Char)}
  {params : List (String × String)}

theorem filled (readAs : ReadAs source written params) : params ≠ [] := by
  cases readAs with
  | list _ read => exact (isKey_of_paramList read).1
  | value => exact List.cons_ne_nil _ _

theorem isKey (readAs : ReadAs source written params) {p : String × String} (member : p ∈ params) :
    IsKey p.1 := by
  cases readAs with
  | list _ read => exact (isKey_of_paramList read).2 p member
  | value => exact List.mem_singleton.mp member ▸ isKey_nameParam

theorem of_mem (readAs : ReadAs source written params) {w : List Char × List Char}
    (member : w ∈ written) : w.2 <:+: source ∧ trim w.2 = w.2 := by
  cases readAs with
  | list inSource _ =>
    obtain ⟨inList, noBlanks⟩ := of_mem_listTexts member
    exact ⟨inList.trans inSource, noBlanks⟩
  | @value text _ inSource _ =>
    rw [List.mem_singleton.mp member]
    exact ⟨(trim_within text).trans inSource, trim_trim text⟩

theorem wellFormed (readAs : ReadAs source written params) {kind symbol : List Char}
    (isKind : isName kind = true) (isSymbol : isName symbol = true) :
    ((Query.of (String.ofList kind) (String.ofList symbol)).setAll params).WellFormed := by
  obtain ⟨sameKind, sameSymbol⟩ :=
    Query.setAll_head (Query.of (String.ofList kind) (String.ofList symbol)) params
  constructor
  · rw [sameKind]
    exact isWord_ofList isKind
  · rw [sameSymbol]
    exact isWord_ofList isSymbol
  · exact Query.setAll_ne_nil readAs.filled
  · intro p member
    rcases Query.mem_setAll member with before | given
    · cases before
    · exact readAs.isKey given
  · exact Query.nodup_setAll _ _ params

/-- A value without marks is its own text, which has characters and no blanks around it. -/
theorem quotedIn (readAs : ReadAs source written params) {kind symbol : String} :
    ((Query.of kind symbol).setAll params).QuotedIn source written := by
  intro p member special
  have found := Query.mem_setAll_of_iff.mp member
  obtain ⟨text, last, among, stands⟩ :=
    lookup_of_standsFor (List.forall₂_reverse_iff.mpr readAs.standsFor) found
  obtain ⟨inSource, noBlanks⟩ := readAs.of_mem (List.mem_reverse.mp among)
  generalize chars : p.2.toList = value at stands
  cases stands with
  | marked isMark => exact ⟨_, isMark, last, inSource⟩
  | @bare c _ rest =>
    exfalso
    rcases special with empty | blanks
    · rw [empty] at chars
      cases chars
    · refine blanks ?_
      rw [trimmed, chars, noBlanks, ← chars, String.ofList_toList]

end ReadAs

/-! ## The two readers -/

theorem wellFormed_of_term {text : List Char} {q : Query} (read : term text = .ok q) :
    q.WellFormed ∧ q.QuotedIn text (valueTexts text) := by
  obtain ⟨kind, symbol, params, isKind, isSymbol, readAs, rfl⟩ := readAs_of_term read
  exact ⟨readAs.wellFormed isKind isSymbol, readAs.quotedIn⟩

/-- What is left of a pattern without the parentheses around it. -/
def patternInner (pattern : String) : List Char :=
  (enclosed? '(' ')' (trim pattern.toList)).getD (trim pattern.toList)

theorem patternInner_within (pattern : String) : patternInner pattern <:+: pattern.toList := by
  rw [patternInner]
  cases between : enclosed? '(' ')' (trim pattern.toList) with
  | none => exact trim_within pattern.toList
  | some inner => exact (enclosed?_within between).trans (trim_within pattern.toList)

/-- The parameters of a precondition as they are written; a value without a key is under `name`. -/
def patternTexts (pattern : String) : List (List Char × List Char) :=
  if isParamList (patternInner pattern) then listTexts (patternInner pattern)
  else [(nameParam.toList, trim (patternInner pattern))]

theorem readAs_of_parsePrecondition {name pattern : String} {q : Query}
    (accepted : Query.parsePrecondition name pattern = .ok q) :
    ∃ kind symbol params, isName kind = true ∧ isName symbol = true ∧
      ReadAs pattern.toList (patternTexts pattern) params ∧
      q = (Query.of (String.ofList kind) (String.ofList symbol)).setAll params := by
  have inner := patternInner_within pattern
  rw [Query.parsePrecondition] at accepted
  cases headRead : head (trim name.toList) with
  | error cause => rw [headRead] at accepted; cases accepted
  | ok names =>
    obtain ⟨kind, symbol⟩ := names
    obtain ⟨-, isKind, isSymbol⟩ := eq_of_head headRead
    rw [headRead] at accepted
    dsimp only at accepted
    rw [← patternInner] at accepted
    refine ⟨kind, symbol, ?_⟩
    by_cases isList : isParamList (patternInner pattern) = true
    · rw [patternTexts, if_pos isList]
      simp only [if_pos isList] at accepted
      cases list : paramList (patternInner pattern) with
      | error cause => rw [list] at accepted; cases accepted
      | ok params =>
        rw [list] at accepted
        exact ⟨params, isKind, isSymbol, .list inner list, (Except.ok.inj accepted).symm⟩
    · rw [patternTexts, if_neg isList]
      simp only [if_neg isList] at accepted
      cases value : unquote (patternInner pattern) with
      | error cause => rw [value] at accepted; cases accepted
      | ok v =>
        rw [value] at accepted
        have same := (Except.ok.inj accepted).symm
        exact ⟨[(nameParam, String.ofList v)], isKind, isSymbol, .value inner value, same⟩

/-- One query is the condition, or two at least are joined. -/
theorem shape_of_parse {input : String} {c : Condition} (accepted : parse input = .ok c) :
    (∃ q, c = .one q) ∨ ∃ queries, (c = .all queries ∨ c = .any queries) ∧ 2 ≤ queries.length := by
  rcases read_shape (parse_eq_ok_iff.mp accepted) with one | ⟨word, queries, same, two⟩
  · exact .inl one
  · cases word with
    | and => exact .inr ⟨queries, .inl same, two⟩
    | or => exact .inr ⟨queries, .inr same, two⟩

/-- **What holds of every query that is accepted.** An accepted condition is one query, or it is all
or any of two queries at least. Each of its queries is well formed, and so is the query of an
accepted precondition; and each of their values that is empty or has blanks around it was written in
quotes, in the term that the query was read from or in the pattern. -/
theorem accepted_wellFormed :
    (∀ input c, parse input = .ok c →
      ((∃ q, c = .one q) ∨
        ∃ queries, (c = .all queries ∨ c = .any queries) ∧ 2 ≤ queries.length) ∧
      (∀ q ∈ c.queries, q.WellFormed) ∧
      ∃ cut, terms input.toList = .ok cut ∧
        List.Forall₂ (fun text q => text <:+: input.toList ∧ q.QuotedIn text (valueTexts text))
          cut.terms c.queries) ∧
    ∀ name pattern q, Query.parsePrecondition name pattern = .ok q →
      q.WellFormed ∧ q.QuotedIn pattern.toList (patternTexts pattern) := by
  constructor
  · intro input c accepted
    obtain ⟨cut, cutRead, each, -⟩ := exists_cut_of_read (parse_eq_ok_iff.mp accepted)
    refine ⟨shape_of_parse accepted, fun q member => ?_, cut, cutRead, ?_⟩
    · obtain ⟨text, -, read⟩ := exists_of_mem_mapM (mapM_eq_ok_iff.mpr each) member
      exact (wellFormed_of_term read).1
    · rw [List.forall₂_and_left]
      exact ⟨fun text member => terms_within cutRead member,
        each.imp fun text q read => (wellFormed_of_term read).2⟩
  · intro name pattern q accepted
    obtain ⟨kind, symbol, params, isKind, isSymbol, readAs, rfl⟩ :=
      readAs_of_parsePrecondition accepted
    exact ⟨readAs.wellFormed isKind isSymbol, readAs.quotedIn⟩

/-- Of two values under one key the last one stays, and it was that one that stood in quotes. -/
theorem accepted_wellFormed_sample :
    parse "pom.dependency is (name=' ', name = ' x ',) or a.b is \"\"" =
        .ok (.any [⟨"pom", "dependency", [("name", " x ")]⟩, ⟨"a", "b", [("name", "")]⟩]) ∧
      Query.QuotedIn "pom.dependency is (name=' ', name = ' x ',)".toList
        [("name".toList, "' '".toList), ("name".toList, "' x '".toList)]
        ⟨"pom", "dependency", [("name", " x ")]⟩ ∧
      Query.parsePrecondition "pom.dependency" "( gavs = \"\" )" =
        .ok ⟨"pom", "dependency", [("gavs", "")]⟩ ∧
      Query.WellFormed ⟨"pom", "dependency", [("gavs", "")]⟩ := by
  have condition : parse "pom.dependency is (name=' ', name = ' x ',) or a.b is \"\"" =
      .ok (.any [⟨"pom", "dependency", [("name", " x ")]⟩, ⟨"a", "b", [("name", "")]⟩]) := by
    cbv
  have precondition : Query.parsePrecondition "pom.dependency" "( gavs = \"\" )" =
      .ok ⟨"pom", "dependency", [("gavs", "")]⟩ := by cbv
  refine ⟨condition, ?_, precondition, (accepted_wellFormed.2 _ _ _ precondition).1⟩
  obtain ⟨-, -, cut, cutRead, each⟩ := accepted_wellFormed.1 _ _ condition
  have twoTerms : terms "pom.dependency is (name=' ', name = ' x ',) or a.b is \"\"".toList =
      .ok ⟨some .or, ["pom.dependency is (name=' ', name = ' x ',)".toList,
        " a.b is \"\"".toList]⟩ := by cbv
  obtain rfl := Except.ok.inj (twoTerms.symm.trans cutRead)
  have texts : valueTexts "pom.dependency is (name=' ', name = ' x ',)".toList =
      [("name".toList, "' '".toList), ("name".toList, "' x '".toList)] := by cbv
  exact texts ▸ (List.forall₂_cons.mp each).1.2

end Condition

end Uplift
