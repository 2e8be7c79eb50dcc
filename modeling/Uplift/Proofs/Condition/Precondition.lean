import Uplift.Proofs.Condition.Reading
import Uplift.Proofs.Condition.Shape

/-!
# The same text in a condition and in a precondition

A condition reads a text in parentheses as a parameter list, whatever it holds. A precondition first
asks whether its first key is a word (`isParamList`), and takes the text for one value if it is not.

* `filled`: the number of characters of a text that are not blanks. A list loses some of them to
  keys, equals signs and commas (`filled_of_paramList`), a value at most its two marks
  (`filled_of_unquote`), so the two readings of a text never agree.
* `parsePrecondition_of_parse`: for every text that a condition accepts, when the precondition is
  the same query, and what it is otherwise.
-/

namespace Uplift.Condition

open Text

/-! ## Characters that are not blanks -/

/-- How many characters of a text are not blanks. -/
def filled (s : List Char) : Nat := s.countP (!isBlank ·)

theorem filled_append (a b : List Char) : filled (a ++ b) = filled a + filled b :=
  List.countP_append

theorem filled_of_blank {s : List Char} (blank : isBlankText s = true) : filled s = 0 := by
  rw [filled, List.countP_eq_zero]
  intro c member
  simp [List.all_eq_true.mp blank c member]

theorem filled_trim (s : List Char) : filled (trim s) = filled s := by
  obtain ⟨a, b, before, after, same⟩ := exists_eq_trim s
  conv_rhs => rw [same]
  rw [filled_append, filled_append, filled_of_blank before, filled_of_blank after]
  omega

/-! ## Values, parameters and lists -/

/-- A value loses its two marks at most. -/
theorem filled_of_unquote {s v : List Char} (read : unquote s = .ok v) :
    filled v ≤ filled s ∧ filled s ≤ filled v + 2 := by
  rw [← filled_trim s]
  rw [unquote] at read
  cases whole : trim s with
  | nil => rw [whole] at read; cases read
  | cons c rest =>
    rw [whole] at read
    dsimp only at read
    by_cases mark : isQuote c = true
    · rw [if_pos mark] at read
      split at read
      · rename_i closed
        obtain rfl := Except.ok.inj read
        have shape : rest = rest.dropLast ++ [c] := by
          obtain ⟨front, same⟩ := List.getLast?_eq_some_iff.mp closed
          simp [same]
        have one : filled [c] = 1 := by
          have notBlank : isBlank c = false := by
            rcases isQuote_iff.mp mark with rfl | rfl <;> decide
          simp [filled, notBlank]
        have count : filled (c :: rest) = filled [c] + (filled rest.dropLast + filled [c]) := by
          rw [← filled_append, ← filled_append, ← shape, List.singleton_append]
        omega
      · cases read
    · rw [if_neg mark] at read
      obtain rfl := Except.ok.inj read
      omega

/-- A part of a list stands in it. -/
theorem parts_within {quote : Option Char} {part s p : List Char}
    (member : p ∈ parts quote part s) : p <:+: part.reverse ++ s := by
  fun_induction parts quote part s with
  | case1 part =>
    obtain rfl := List.mem_singleton.mp member
    simp
  -- At a comma: the part before it, or one of those after it.
  | case4 part rest _ ih =>
    rcases List.mem_cons.mp member with rfl | later
    · exact (List.prefix_append _ _).isInfix
    · have after : p <:+: rest := by simpa using ih later
      exact after.trans <|
        ((List.suffix_cons _ rest).trans (List.suffix_append _ _)).isInfix
  | _ => simp_all

/-- The key, the equals sign and the value of a parameter stand side by side. -/
theorem filled_of_param {part : List Char} {p : String × String} (read : param part = .ok p) :
    filled p.1.toList + 1 + filled p.2.toList ≤ filled part := by
  rw [param] at read
  cases split : splitOnce '=' part with
  | none => rw [split] at read; cases read
  | some cut =>
    obtain ⟨key, value⟩ := cut
    rw [split] at read
    dsimp only at read
    split at read
    · cases read
    · obtain ⟨v, unquoted, same⟩ := bind_eq_ok_iff.mp read
      obtain rfl := Except.ok.inj same
      have equals : filled ('=' :: value) = 1 + filled value := by
        rw [← List.singleton_append, filled_append]
        rfl
      have bound := (filled_of_unquote unquoted).1
      rw [(eq_of_splitOnce split).1, filled_append, equals]
      simp only [String.toList_ofList, filled_trim]
      omega

/-- A parameter of a list stands in it. -/
theorem filled_of_paramList {inner : List Char} {params : List (String × String)}
    (read : paramList inner = .ok params) {p : String × String} (member : p ∈ params) :
    filled p.1.toList + 1 + filled p.2.toList ≤ filled inner := by
  obtain ⟨params', each, kept⟩ := bind_eq_ok_iff.mp read
  split at kept
  · cases kept
  · obtain rfl := Except.ok.inj kept
    obtain ⟨written, among, readHere⟩ := exists_of_mem_mapM each member
    obtain ⟨part, cut, rfl⟩ := List.mem_map.mp (List.mem_filter.mp among).1
    have inside : filled part ≤ filled inner :=
      (by simpa using parts_within cut : part <:+: inner).sublist.countP_le
    have bound := filled_of_param readHere
    rw [filled_trim] at bound
    omega

/-! ## Heads -/

/-- A head that is read has no blanks. -/
theorem not_isBlank_of_head {s kind symbol : List Char} (read : head s = .ok (kind, symbol)) :
    ∀ c ∈ s, isBlank c = false := by
  obtain ⟨rfl, isKind, isSymbol⟩ := eq_of_head read
  exact fun c member => (names_chars isKind isSymbol c member).2

/-- The only fault of a head is that it is no head. -/
theorem head_error {s : List Char} {cause : SyntaxFault} (fault : head s = .error cause) :
    cause = .badHead (String.ofList s) := by
  rw [head] at fault
  split at fault
  · split at fault
    · cases fault
    · exact (Except.error.inj fault).symm
  · exact (Except.error.inj fault).symm

/-! ## The two readings -/

/-- What the text before the gap in a term is: its head. -/
theorem exists_head_of_term {text word : List Char} (g : Gap) (rest : List Char) {q : Query}
    (cut : trim text = word ++ (g.text ++ rest)) (solid : ∀ c ∈ word, isBlank c = false)
    (read : term text = .ok q) : ∃ names, head word = .ok names := by
  simp only [term, cut, splitBlank_append solid] at read
  obtain ⟨names, headRead, -⟩ := bind_eq_ok_iff.mp read
  exact ⟨names, headRead⟩

/-- A pattern in parentheses, by its head and by what stands between the parentheses. -/
theorem parsePrecondition_parenthesised (h a : String) :
    Query.parsePrecondition h ("(" ++ a ++ ")") =
      match head (trim h.toList) with
      | .error cause => .error (.invalidQuery h cause)
      | .ok (kind, symbol) =>
        let query := Query.of (String.ofList kind) (String.ofList symbol)
        let params :=
          if isParamList a.toList then paramList a.toList
          else (unquote a.toList).map fun v => [(nameParam, String.ofList v)]
        match params with
        | .ok params => .ok (query.setAll params)
        | .error cause => .error (.invalidQuery ("(" ++ a ++ ")") cause) := by
  have chars : ("(" ++ a ++ ")").toList = '(' :: (a.toList ++ [')']) := by simp
  have trimmed : Trimmed ('(' :: (a.toList ++ [')'])) :=
    ⟨⟨'(', _, rfl, by decide⟩, ⟨'(' :: a.toList, ')', rfl, by decide⟩⟩
  have whole : trim ("(" ++ a ++ ")").toList = '(' :: (a.toList ++ [')']) := by
    rw [chars, trimmed.trim]
  have between : enclosed? '(' ')' ('(' :: (a.toList ++ [')'])) = some a.toList := by
    simp [enclosed?]
  have pattern : String.ofList ('(' :: (a.toList ++ [')'])) = "(" ++ a ++ ")" := by
    rw [← chars, String.ofList_toList]
  simp only [Query.parsePrecondition, whole, between, pattern, Option.getD_some]
  cases head (trim h.toList) with
  | error cause => rfl
  | ok names =>
    dsimp only
    by_cases list : isParamList a.toList = true
    · simp only [if_pos list]
      cases paramList a.toList <;> rfl
    · simp only [if_neg list]
      cases unquote a.toList <;> rfl

/-- A list and a value never stand for the same parameters: a list has a key besides the value. -/
theorem setAll_ne_value {a v : List Char} {params : List (String × String)} (q : Query)
    (list : paramList a = .ok params) (value : unquote a = .ok v) (bare : q.params = []) :
    q.setAll params ≠ q.setAll [(nameParam, String.ofList v)] := by
  intro same
  have among : (nameParam, String.ofList v) ∈ (q.setAll params).params := by
    rw [same]
    simp [Query.setAll, Query.set, Query.setIn, bare]
  have inList : (nameParam, String.ofList v) ∈ params := by
    rcases Query.mem_setAll among with before | inList
    · rw [bare] at before
      cases before
    · exact inList
  have bound := filled_of_paramList list inList
  have lost := (filled_of_unquote value).2
  have key : filled nameParam.toList = 4 := rfl
  simp only [key, String.toList_ofList] at bound
  omega

/-- A condition that is one head with a text in parentheses: the head is read, and so is the list,
if the head is one word. -/
theorem list_of_parse {h a : String} {q : Query}
    (accepted : parse (h ++ " is (" ++ a ++ ")") = .ok (.one q))
    (word : ∀ c ∈ trim h.toList, isBlank c = false) :
    ∃ kind symbol params, head (trim h.toList) = .ok (kind, symbol) ∧
      paramList a.toList = .ok params ∧
      q = (Query.of (String.ofList kind) (String.ofList symbol)).setAll params := by
  have read := term_of_parse accepted
  have chars : (h ++ " is (" ++ a ++ ")").toList = h.toList ++ ([' '] ++ listClause a.toList) := by
    simp [listClause]
  obtain ⟨lead, gap, leadBlank, gapBlank, same⟩ := exists_eq_trim h.toList
  have blank : isBlankText (gap ++ [' ']) = true := by
    rw [isBlankText, List.all_append, ← isBlankText, gapBlank]
    rfl
  rw [chars] at read
  by_cases empty : trim h.toList = []
  · -- Without a head the word `is` stands in its place.
    have headless : isBlankText (h.toList ++ [' ']) = true := by
      rw [isBlankText, List.all_append, ← isBlankText, trim_eq_nil_iff.mp empty]
      rfl
    have text : trim (h.toList ++ ([' '] ++ listClause a.toList)) = listClause a.toList := by
      have padded := trim_padded (b := []) headless (trimmed_listClause a.toList) isBlankText_nil
      rwa [List.append_nil, List.append_assoc] at padded
    have solid : ∀ c ∈ ['i', 's'], isBlank c = false := by simp [isBlank]
    have noHead : head ['i', 's'] = .error (.badHead "is") := rfl
    obtain ⟨names, hasHead⟩ :=
      exists_head_of_term ⟨⟨[' '], rfl⟩, by simp⟩ ('(' :: (a.toList ++ [')'])) text solid read
    rw [noHead] at hasHead
    cases hasHead
  · have text := term_listClause empty word ⟨lead, leadBlank⟩ ⟨⟨gap ++ [' '], blank⟩, by simp⟩
      a.toList
    have shape : h.toList ++ ([' '] ++ listClause a.toList) =
        lead ++ (trim h.toList ++ ((gap ++ [' ']) ++ listClause a.toList)) := by
      conv_lhs => rw [same]
      simp only [List.append_assoc]
    rw [shape, text] at read
    obtain ⟨⟨kind, symbol⟩, headRead, rest⟩ := bind_eq_ok_iff.mp read
    obtain ⟨params, listRead, result⟩ := bind_eq_ok_iff.mp rest
    exact ⟨kind, symbol, params, headRead, listRead, (Except.ok.inj result).symm⟩

/-- **The same text in a condition and in a precondition.** Where a condition takes a head with a
text in parentheses for one query, a precondition with that head and that text is the same query if
and only if the head is one word and the first key of the text is a word. A head of several words is
refused; and a text whose first key is no word is one value, which is never the query of the
condition. -/
theorem parsePrecondition_of_parse {h a : String} {q : Query}
    (accepted : parse (h ++ " is (" ++ a ++ ")") = .ok (.one q)) :
    (Query.parsePrecondition h ("(" ++ a ++ ")") = .ok q ↔
      (∀ c ∈ trim h.toList, isBlank c = false) ∧ isParamList a.toList = true) ∧
    ((∃ c ∈ trim h.toList, isBlank c = true) →
      Query.parsePrecondition h ("(" ++ a ++ ")") =
        .error (.invalidQuery h (.badHead (trimmed h)))) ∧
    ((∀ c ∈ trim h.toList, isBlank c = false) → isParamList a.toList = false →
      Query.parsePrecondition h ("(" ++ a ++ ")") =
        match unquote a.toList with
        | .ok v => .ok ⟨q.kind, q.symbol, [(nameParam, String.ofList v)]⟩
        | .error cause => .error (.invalidQuery ("(" ++ a ++ ")") cause)) := by
  have refused (several : ∃ c ∈ trim h.toList, isBlank c = true) :
      Query.parsePrecondition h ("(" ++ a ++ ")") =
        .error (.invalidQuery h (.badHead (trimmed h))) := by
    obtain ⟨c, member, blank⟩ := several
    rw [parsePrecondition_parenthesised]
    cases read : head (trim h.toList) with
    | error cause => rw [head_error read, trimmed]
    | ok names =>
      have notBlank := not_isBlank_of_head read c member
      rw [blank] at notBlank
      cases notBlank
  have asValue (word : ∀ c ∈ trim h.toList, isBlank c = false)
      (noList : isParamList a.toList = false) :
      Query.parsePrecondition h ("(" ++ a ++ ")") =
        match unquote a.toList with
        | .ok v => .ok ⟨q.kind, q.symbol, [(nameParam, String.ofList v)]⟩
        | .error cause => .error (.invalidQuery ("(" ++ a ++ ")") cause) := by
    obtain ⟨kind, symbol, params, headRead, -, rfl⟩ := list_of_parse accepted word
    rw [parsePrecondition_parenthesised, headRead]
    simp only [noList]
    cases unquote a.toList with
    | error cause => rfl
    | ok v =>
      obtain ⟨sameKind, sameSymbol⟩ := Query.setAll_head
        (Query.of (String.ofList kind) (String.ofList symbol)) params
      rw [sameKind, sameSymbol]
      rfl
  refine ⟨⟨fun same => ?_, fun ⟨word, isList⟩ => ?_⟩, refused, asValue⟩
  · by_cases word : ∀ c ∈ trim h.toList, isBlank c = false
    · refine ⟨word, ?_⟩
      by_contra noList
      obtain ⟨kind, symbol, params, headRead, listRead, rfl⟩ := list_of_parse accepted word
      rw [parsePrecondition_parenthesised, headRead] at same
      simp only [if_neg noList] at same
      cases value : unquote a.toList with
      | error cause => rw [value] at same; cases same
      | ok v =>
        rw [value] at same
        exact setAll_ne_value _ listRead value rfl (Except.ok.inj same).symm
    · simp only [not_forall, Bool.not_eq_false, exists_prop] at word
      rw [refused word] at same
      cases same
  · obtain ⟨kind, symbol, params, headRead, listRead, rfl⟩ := list_of_parse accepted word
    rw [parsePrecondition_parenthesised, headRead]
    simp only [isList, if_true, listRead]

/-- A key with a dash is a key in the condition, and part of a value in the precondition. -/
theorem parsePrecondition_of_parse_sample :
    parse "pom.dependency is (group-id='g')" =
      .ok (.one ⟨"pom", "dependency", [("group-id", "g")]⟩) ∧
    Query.parsePrecondition "pom.dependency" "(group-id='g')" =
      .ok ⟨"pom", "dependency", [("name", "group-id='g'")]⟩ ∧
    parse "pom.dependency is (name='g')" = .ok (.one ⟨"pom", "dependency", [("name", "g")]⟩) ∧
    Query.parsePrecondition "pom.dependency" "(name='g')" =
      .ok ⟨"pom", "dependency", [("name", "g")]⟩ := by
  have dashed : parse ("pom.dependency" ++ " is (" ++ "group-id='g'" ++ ")") =
      .ok (.one ⟨"pom", "dependency", [("group-id", "g")]⟩) := by cbv
  have plain : parse ("pom.dependency" ++ " is (" ++ "name='g'" ++ ")") =
      .ok (.one ⟨"pom", "dependency", [("name", "g")]⟩) := by cbv
  have word : ∀ c ∈ trim "pom.dependency".toList, isBlank c = false :=
    fun c member => by
      have all : (trim "pom.dependency".toList).all (!isBlank ·) = true := by cbv
      simpa using List.all_eq_true.mp all c member
  have asValue := (parsePrecondition_of_parse dashed).2.2 word (by cbv)
  have asList := (parsePrecondition_of_parse plain).1.mpr ⟨word, by cbv⟩
  refine ⟨dashed, ?_, plain, asList⟩
  have value : unquote "group-id='g'".toList = .ok "group-id='g'".toList := by cbv
  rw [value] at asValue
  exact asValue

end Uplift.Condition
