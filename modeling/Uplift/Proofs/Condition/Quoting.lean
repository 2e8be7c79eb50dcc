import Uplift.Proofs.Condition.Reading
import Uplift.Proofs.Condition.Shape

/-!
# What the marks around a value are read as

A value that begins with a quotation mark must end with the same mark, and whatever stands between
these two is the value: the text is not asked whether the mark occurs in it once more.

* `Stands`: a text and the value that it stands for. A text in marks is one quoted text if and only
  if its value is free of the mark (`Stands.quoted_iff`).
* `valueTexts`: the values of a term as they are written, and the keys they are written under.
* `ReadAs`: the parameters that are read from a list or from a single value, beside what is written
  there (`readAs_of_term`).
* `FoldedPair`: two quoted texts side by side, with something between them, in the place of a value.
  They are read as one value, marks and all (`FoldedPair.folded`).
* `parse_quoting`: what every accepted condition makes of the marks in it.
-/

namespace Uplift.Condition

open Text

/-! ## Values -/

/-- A text, without blanks around it, and the value that it stands for. -/
inductive Stands : List Char → List Char → Prop where
  | marked {mark : Char} (isMark : isQuote mark = true) (value : List Char) :
      Stands (mark :: (value ++ [mark])) value
  | bare {c : Char} (noMark : isQuote c = false) (rest : List Char) : Stands (c :: rest) (c :: rest)

theorem unquote_eq_ok_iff {s v : List Char} : unquote s = .ok v ↔ Stands (trim s) v := by
  rw [unquote]
  cases trim s with
  | nil =>
    constructor
    · intro read
      cases read
    · intro stands
      cases stands
  | cons c rest =>
    dsimp only
    cases mark : isQuote c with
    | true =>
      rw [if_pos rfl]
      constructor
      · intro read
        split at read
        · rename_i closed
          obtain rfl := Except.ok.inj read
          obtain ⟨front, rfl⟩ := List.getLast?_eq_some_iff.mp closed
          rw [List.dropLast_concat]
          exact .marked mark front
        · cases read
      · intro stands
        cases stands with
        | marked _ value => simp
        | bare noMark => rw [mark] at noMark; cases noMark
    | false =>
      rw [if_neg (by simp)]
      constructor
      · intro read
        obtain rfl := Except.ok.inj read
        exact .bare mark rest
      · intro stands
        cases stands with
        | marked isMark => rw [mark] at isMark; cases isMark
        | bare => rfl

/-- A text that begins with a mark is its value between two such marks, and one quoted text if the
mark does not occur in the value. -/
theorem Stands.quoted_iff {mark : Char} {rest value : List Char}
    (stands : Stands (mark :: rest) value) (isMark : isQuote mark = true) :
    rest = value ++ [mark] ∧ ((∃ t : QuotedText, t.text = mark :: rest) ↔ mark ∉ value) := by
  cases stands with
  | bare noMark => rw [isMark] at noMark; cases noMark
  | marked _ value =>
    refine ⟨rfl, fun ⟨t, same⟩ => ?_, fun fresh => ⟨⟨mark, value, isMark, fresh⟩, rfl⟩⟩
    obtain ⟨sameMark, sameRest⟩ := List.cons.inj same
    rw [sameMark] at sameRest
    obtain rfl := (List.append_left_inj [mark]).mp sameRest
    exact sameMark ▸ t.fresh

/-! ## Values as they are written -/

/-- The key and the value's text of a part of a list. -/
def partTexts (part : List Char) : Option (List Char × List Char) :=
  (splitOnce '=' part).map fun (key, value) => (trim key, trim value)

/-- The parameters of a list as they are written: those of the parts that are not blank. -/
def listTexts (inner : List Char) : List (List Char × List Char) :=
  (((parts none [] inner).map trim).filter (!·.isEmpty)).filterMap partTexts

/-- The parameters of a term as they are written; a value without a key is under `name`. -/
def valueTexts (text : List Char) : List (List Char × List Char) :=
  match (splitBlank (trim text)).bind fun (_, rest) => afterIs? (trimStart rest) with
  | none => []
  | some arguments =>
    match enclosed? '(' ')' (trim arguments) with
    | some inner => listTexts inner
    | none => [(nameParam.toList, trim arguments)]

/-- A parameter is read from a key and a value's text. -/
def StandsFor (written : List Char × List Char) (p : String × String) : Prop :=
  p.1.toList = written.1 ∧ Stands written.2 p.2.toList

theorem standsFor_of_param {part : List Char} {p : String × String} (read : param part = .ok p) :
    ∃ written, partTexts part = some written ∧ StandsFor written p := by
  rw [param] at read
  cases split : splitOnce '=' part with
  | none => rw [split] at read; cases read
  | some cut =>
    obtain ⟨key, value⟩ := cut
    rw [split] at read
    dsimp only at read
    split at read
    · cases read
    · obtain ⟨v, unquoted, same⟩ := bind_eq_ok_iff.mp read
      obtain rfl := Except.ok.inj same
      refine ⟨(trim key, trim value), by rw [partTexts, split]; rfl, String.toList_ofList, ?_⟩
      rw [String.toList_ofList]
      exact unquote_eq_ok_iff.mp unquoted

theorem standsFor_of_parts {written : List (List Char)} {params : List (String × String)}
    (each : List.Forall₂ (fun part p => param part = .ok p) written params) :
    List.Forall₂ StandsFor (written.filterMap partTexts) params := by
  induction each with
  | nil => exact .nil
  | cons first _ ih =>
    obtain ⟨texts, split, stands⟩ := standsFor_of_param first
    rw [List.filterMap_cons, split]
    exact .cons stands ih

/-- Every part of a list that is not blank is a parameter. -/
theorem standsFor_of_paramList {inner : List Char} {params : List (String × String)}
    (read : paramList inner = .ok params) : List.Forall₂ StandsFor (listTexts inner) params := by
  obtain ⟨params', each, kept⟩ := bind_eq_ok_iff.mp read
  split at kept
  · cases kept
  · obtain rfl := Except.ok.inj kept
    exact standsFor_of_parts (mapM_eq_ok_iff.mp each)

/-- The parameters that are read from a list or from a single value, as they are written and as they
are read; the list or the value stands in `source`. -/
inductive ReadAs (source : List Char) :
    List (List Char × List Char) → List (String × String) → Prop
  | list {inner params} : inner <:+: source → paramList inner = .ok params →
      ReadAs source (listTexts inner) params
  | value {text v} : text <:+: source → unquote text = .ok v →
      ReadAs source [(nameParam.toList, trim text)] [(nameParam, String.ofList v)]

/-- What is read is what is written. -/
theorem ReadAs.standsFor {source : List Char} {written : List (List Char × List Char)}
    {params : List (String × String)} (readAs : ReadAs source written params) :
    List.Forall₂ StandsFor written params := by
  cases readAs with
  | list _ read => exact standsFor_of_paramList read
  | value _ read =>
    refine .cons ⟨rfl, ?_⟩ .nil
    rw [String.toList_ofList]
    exact unquote_eq_ok_iff.mp read

/-- A term is read by its head and by what is written behind it. -/
theorem readAs_of_term {text : List Char} {q : Query} (read : term text = .ok q) :
    ∃ kind symbol params, isName kind = true ∧ isName symbol = true ∧
      ReadAs text (valueTexts text) params ∧
      q = (Query.of (String.ofList kind) (String.ofList symbol)).setAll params := by
  obtain ⟨front, rest, kind, symbol, arguments, params, cut, headRead, isWord, same, given⟩ :=
    exists_of_term read
  obtain ⟨-, isKind, isSymbol⟩ := eq_of_head headRead
  refine ⟨kind, symbol, params, isKind, isSymbol, ?_, same⟩
  have inText : arguments <:+: text :=
    ((afterIs?_suffix isWord).trans (List.dropWhile_suffix _)).isInfix.trans <|
      (splitBlank_suffix cut).isInfix.trans (trim_within text)
  cases between : enclosed? '(' ')' (trim arguments) with
  | some inner =>
    have texts : valueTexts text = listTexts inner := by
      simp only [valueTexts, cut, Option.bind_some, isWord, between]
    rw [between] at given
    rw [texts]
    exact .list ((enclosed?_within between).trans ((trim_within arguments).trans inText)) given
  | none =>
    have texts : valueTexts text = [(nameParam.toList, trim arguments)] := by
      simp only [valueTexts, cut, Option.bind_some, isWord, between]
    rw [between] at given
    obtain ⟨v, value, rfl⟩ := given
    rw [texts]
    exact .value inText value

/-- A query is read from a term: each of its parameters from one that is written there. -/
def ReadFrom (text : List Char) (q : Query) : Prop :=
  ∃ kind symbol params, q = (Query.of kind symbol).setAll params ∧
    List.Forall₂ StandsFor (valueTexts text) params

theorem readFrom_of_term {text : List Char} {q : Query} (read : term text = .ok q) :
    ReadFrom text q := by
  obtain ⟨kind, symbol, params, -, -, readAs, same⟩ := readAs_of_term read
  exact ⟨_, _, params, same, readAs.standsFor⟩

/-- The queries of a condition are read from its terms. -/
theorem readFrom_of_parse {input : String} {c : Condition} (accepted : parse input = .ok c) :
    ∃ cut, terms input.toList = .ok cut ∧ List.Forall₂ ReadFrom cut.terms c.queries := by
  obtain ⟨cut, cutRead, each, -⟩ := exists_cut_of_read (parse_eq_ok_iff.mp accepted)
  exact ⟨cut, cutRead, each.imp fun _ _ => readFrom_of_term⟩

/-- Every value that is written in a term stands for one that is read. -/
theorem exists_stands {texts : List (List Char)} {queries : List Query}
    (each : List.Forall₂ ReadFrom texts queries) {text : List Char} (member : text ∈ texts)
    {written : List Char × List Char} (among : written ∈ valueTexts text) :
    ∃ value, Stands written.2 value := by
  obtain ⟨q, -, kind, symbol, params, -, stands⟩ := exists_of_mem_left each member
  obtain ⟨p, -, -, stands⟩ := exists_of_mem_left stands among
  exact ⟨_, stands⟩

/-! ## Queries with a list -/

/-- A text in which the cutter finds nothing is read as one query. -/
theorem read_alone {s : List Char} (passes : Passes 0 s) (solid : isBlankText s = false) :
    read s = (term s).map .one := by
  have cut : cutFrom none 0 none [] s = .ok ⟨none, [s]⟩ := by
    have whole := passes none [] []
    rw [List.append_nil, List.append_nil, cutFrom_nil, List.reverse_reverse] at whole
    exact whole
  simp only [read, terms, cut, bind, Except.bind, List.any_cons, List.any_nil, solid, Bool.or_self,
    Bool.false_eq_true, if_false, List.mapM_cons, List.mapM_nil]
  cases term s <;> rfl

/-- The word `is` is no connective, and neither is a parenthesis. -/
theorem passes_listClause {inner : List Char} (passes : Passes 1 inner) :
    Passes 0 ([' '] ++ listClause inner) := by
  have noWord (rest : List Char) : connective? (listClause inner ++ rest) = none := by
    simp [connective?, listClause, isBlank, Connective.word]
  have opening (rest : List Char) : connective? ('(' :: (inner ++ [')']) ++ rest) = none :=
    connective?_unblank (c := '(') rfl (by decide)
  have word : Passes 0 ['i', 's'] :=
    .plain (List.all_eq_true.mp rfl) fun _ => by simp [isBlank]
  have list : Passes 0 ([' '] ++ '(' :: (inner ++ [')'])) :=
    .afterBlanks rfl opening (.parenthesised passes)
  exact .afterBlanks rfl noWord (word.append list)

/-! ## Two quoted texts in one value -/

/-- A query with one parameter, in the place of whose value there are two quoted texts with
something between them: blanks, words, an equals sign. -/
structure FoldedPair where
  kind : List Char
  symbol : List Char
  key : List Char
  mark : Char
  first : List Char
  between : List Char
  second : List Char
  isKind : isName kind = true
  isSymbol : isName symbol = true
  keyNonempty : key ≠ []
  keyChars : ∀ c ∈ key, isKeyChar c = true
  isMark : isQuote mark = true
  freshFirst : mark ∉ first
  freshSecond : mark ∉ second
  plain : ∀ c ∈ between, isPlain c = true ∧ c ≠ ','

namespace FoldedPair

variable (f : FoldedPair)

/-- The first of the quoted texts. -/
def left : QuotedText := ⟨f.mark, f.first, f.isMark, f.freshFirst⟩

/-- The second of the quoted texts. -/
def right : QuotedText := ⟨f.mark, f.second, f.isMark, f.freshSecond⟩

/-- The two quoted texts and what is between them. -/
def valueText : List Char := f.left.text ++ (f.between ++ f.right.text)

/-- What the value is read as. -/
def value : List Char := f.first ++ f.mark :: (f.between ++ f.mark :: f.second)

/-- The key and the value. -/
def listText : List Char := f.key ++ ('=' :: f.valueText)

/-- The kind and the symbol. -/
def head : List Char := f.kind ++ '.' :: f.symbol

/-- The query as it is written. -/
def chars : List Char := f.head ++ ([' '] ++ listClause f.listText)

/-- `chars` as a string. -/
def text : String := String.ofList f.chars

/-- The query that it is read as. -/
def query : Query where
  kind := String.ofList f.kind
  symbol := String.ofList f.symbol
  params := [(String.ofList f.key, String.ofList f.value)]

theorem trimmed_valueText : Trimmed f.valueText := f.left.trimmed.append f.right.trimmed f.between

theorem valueText_eq : f.valueText = f.mark :: (f.value ++ [f.mark]) := by
  simp [valueText, value, QuotedText.text, left, right]

theorem stands_value : Stands f.valueText f.value := by
  rw [f.valueText_eq]
  exact .marked f.isMark f.value

/-- The text is not one quoted text: the mark occurs in the value. -/
theorem not_quoted : ¬ ∃ t : QuotedText, t.text = f.valueText := by
  have stands := f.stands_value
  rw [f.valueText_eq] at stands ⊢
  rw [(stands.quoted_iff f.isMark).2, not_not]
  simp [value]

theorem trim_key : trim f.key = f.key := (trimmed_key f.keyNonempty f.keyChars).trim

/-- The mark ends the first quoted text and begins the second, so to both cutters what is between
them stands outside quotes. -/
theorem passes_listText (depth : Nat) : Passes (depth + 1) f.listText := by
  have between : Passes (depth + 1) f.between :=
    .plain (fun c member => (f.plain c member).1) fun outside => by cases outside
  exact (passes_key f.keyChars depth).append <| (passes_equals depth).append <|
    (f.left.passes _).append <| between.append <| f.right.passes _

theorem passesComma_listText : PassesComma f.listText := by
  have between : PassesComma f.between :=
    .plain fun c member => ⟨(isPlain_iff.mp (f.plain c member).1).1, (f.plain c member).2⟩
  exact (passesComma_key f.keyChars).append <| passesComma_equals.append <|
    f.left.passesComma.append <| between.append f.right.passesComma

theorem splitOnce_listText : splitOnce '=' f.listText = some (f.key, f.valueText) :=
  splitOnce_append fun member => (solid_key f.keyChars '=' member).notEquals rfl

theorem trimmed_listText : Trimmed f.listText :=
  (trimmed_key f.keyNonempty f.keyChars).append f.trimmed_valueText ['=']

/-- The list is one part, which is not empty. -/
theorem written_listText :
    ((parts none [] f.listText).map trim).filter (!·.isEmpty) = [f.listText] := by
  have alone : parts none [] f.listText = [f.listText] := by
    have joined := parts_join f.passesComma_listText (List.forall_mem_nil PassesComma)
    rwa [List.flatMap_nil, List.append_nil] at joined
  rw [alone, List.map_singleton, f.trimmed_listText.trim]
  simp [listText]

theorem paramList_listText :
    paramList f.listText = .ok [(String.ofList f.key, String.ofList f.value)] := by
  have valueRead : unquote f.valueText = .ok f.value := by
    rw [unquote_eq_ok_iff, f.trimmed_valueText.trim]
    exact f.stands_value
  have nonempty : f.key.isEmpty = false := by simpa using f.keyNonempty
  have entry : param f.listText = .ok (String.ofList f.key, String.ofList f.value) := by
    simp only [param, f.splitOnce_listText, f.trim_key, nonempty, valueRead, Bool.false_eq_true,
      if_false]
    rfl
  simp only [paramList, f.written_listText, List.mapM_cons, List.mapM_nil, entry]
  rfl

/-- The head has characters, and none of them is a blank. -/
theorem head_word : f.head ≠ [] ∧ ∀ c ∈ f.head, isBlank c = false :=
  ⟨by simp [head], fun c member => (names_chars f.isKind f.isSymbol c member).2⟩

/-- The two quoted texts are the text of the one value in the query. -/
theorem valueTexts_chars : valueTexts f.chars = [(f.key, f.valueText)] := by
  obtain ⟨rest, arguments, cut, isWord, between⟩ :=
    cut_listClause f.head_word.1 f.head_word.2 .none ⟨⟨[' '], rfl⟩, by simp⟩ f.listText
  have whole : splitBlank (trim f.chars) = some (f.head, rest) := cut
  simp only [valueTexts, whole, Option.bind_some, isWord, between]
  rw [listTexts, f.written_listText]
  simp [partTexts, f.splitOnce_listText, f.trim_key, f.trimmed_valueText.trim]

/-- Two quoted texts with something between them are read as one value, marks and all. -/
theorem parse_text : parse f.text = .ok (.one f.query) := by
  obtain ⟨nonempty, word⟩ := f.head_word
  have passes : Passes 0 f.chars :=
    (Passes.plain (fun c member => (names_chars f.isKind f.isSymbol c member).1) fun _ =>
      word).append <| passes_listClause (f.passes_listText 0)
  have solid : isBlankText f.chars = false := by
    have trimmed := (Trimmed.of_all nonempty word).append (trimmed_listClause f.listText) [' ']
    obtain ⟨c, rest, same, notBlank⟩ := trimmed.first
    rw [chars, same, isBlankText, List.all_cons, notBlank, Bool.false_and]
  have query : term f.chars = .ok f.query := by
    have clause := term_listClause nonempty word .none ⟨⟨[' '], rfl⟩, by simp⟩ f.listText
    rw [f.paramList_listText, head, head_names f.isKind f.isSymbol] at clause
    exact clause
  rw [parse_eq_ok_iff, text, String.toList_ofList, read_alone passes solid, query]
  rfl

/-- Where two quoted texts stand in the place of one value, the condition is accepted, and what is
read as the value is not one quoted text. -/
theorem folded : parse f.text = .ok (.one f.query) ∧
    valueTexts f.chars = [(f.key, f.valueText)] ∧ ¬ ∃ t : QuotedText, t.text = f.valueText :=
  ⟨f.parse_text, f.valueTexts_chars, f.not_quoted⟩

end FoldedPair

/-! ## Accepted conditions -/

/-- **What the marks around a value are read as.** Each query of an accepted condition is read from
its term, and each of its parameters from a key and the text of a value there. A text that begins
with a mark ends with it, all that stands in between is its value, and it is one quoted text if and
only if the mark does not occur there. -/
theorem parse_quoting {input : String} {c : Condition} (accepted : parse input = .ok c) :
    ∃ cut, terms input.toList = .ok cut ∧ List.Forall₂ ReadFrom cut.terms c.queries ∧
      ∀ text ∈ cut.terms, ∀ written ∈ valueTexts text, ∀ mark rest,
        isQuote mark = true → written.2 = mark :: rest →
        ∃ value, rest = value ++ [mark] ∧
          ((∃ t : QuotedText, t.text = written.2) ↔ mark ∉ value) := by
  obtain ⟨cut, cutRead, each⟩ := readFrom_of_parse accepted
  refine ⟨cut, cutRead, each, ?_⟩
  intro text member written among mark rest isMark begins
  obtain ⟨value, stands⟩ := exists_stands each member among
  rw [begins] at stands ⊢
  exact ⟨value, stands.quoted_iff isMark⟩

/-- A comma is missing between two parameters. -/
def missingComma : FoldedPair where
  kind := "pom".toList
  symbol := "dependency".toList
  key := "groupId".toList
  mark := '\''
  first := "g".toList
  between := " artifactId=".toList
  second := "a".toList
  isKind := rfl
  isSymbol := rfl
  keyNonempty := by decide
  keyChars := List.all_eq_true.mp rfl
  isMark := isQuote_iff.mpr (.inl rfl)
  freshFirst := by decide
  freshSecond := by decide
  plain := by
    intro c member
    have all : " artifactId=".toList.all (fun c => isPlain c && c ≠ ',') = true := rfl
    simpa using List.all_eq_true.mp all c member

theorem parse_quoting_sample :
    parse "pom.dependency is (groupId='g' artifactId='a')" =
        .ok (.one ⟨"pom", "dependency", [("groupId", "g' artifactId='a")]⟩) ∧
    ∃ cut, terms "pom.dependency is (groupId='g' artifactId='a')".toList = .ok cut ∧
      List.Forall₂ ReadFrom cut.terms [⟨"pom", "dependency", [("groupId", "g' artifactId='a")]⟩] ∧
      ∀ text ∈ cut.terms, ∀ written ∈ valueTexts text, ∀ mark rest,
        isQuote mark = true → written.2 = mark :: rest →
        ∃ value, rest = value ++ [mark] ∧
          ((∃ t : QuotedText, t.text = written.2) ↔ mark ∉ value) := by
  obtain ⟨accepted, -, -⟩ := missingComma.folded
  exact ⟨accepted, parse_quoting accepted⟩

end Uplift.Condition
