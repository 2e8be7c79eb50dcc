import Uplift.Proofs.Condition.Written
import Uplift.Proofs.Except
import Uplift.Proofs.Query

/-!
# Reading single queries

The text of a written query, with blanks around it, is read as the query that is meant
(`term_written`). The proof follows the grammar: quoted values, parameters, parameter lists,
queries.
-/

namespace Uplift

open Text

namespace Condition

/-! ## Quoted values -/

namespace QuotedText

theorem not_isBlank_mark (t : QuotedText) : isBlank t.mark = false := by
  rcases isQuote_iff.mp t.isMark with same | same <;> rw [same] <;> decide

theorem trimmed (t : QuotedText) : Trimmed t.text where
  first := ⟨t.mark, t.value ++ [t.mark], rfl, t.not_isBlank_mark⟩
  last := ⟨t.mark :: t.value, t.mark, rfl, t.not_isBlank_mark⟩

theorem passes (t : QuotedText) (depth : Nat) : Passes depth t.text :=
  .quoted t.isMark t.fresh

theorem passesComma (t : QuotedText) : PassesComma t.text := .quoted t.isMark t.fresh

/-- A quoted value loses its marks and nothing else. -/
theorem unquote_padded (t : QuotedText) (a b : Blanks) :
    unquote (a.text ++ (t.text ++ b.text)) = .ok t.value := by
  rw [unquote, trim_padded a.blank t.trimmed b.blank]
  simp [text, t.isMark]

end QuotedText

/-! ## Parameters -/

section Keys

variable {key : List Char}

theorem solid_key (chars : ∀ c ∈ key, isKeyChar c = true) : ∀ c ∈ key, Solid c :=
  fun c member => .of_isKeyChar (chars c member)

theorem trimmed_key (nonempty : key ≠ []) (chars : ∀ c ∈ key, isKeyChar c = true) : Trimmed key :=
  .of_all nonempty fun c member => (solid_key chars c member).notBlank

/-- Within parentheses no character of a key means anything. -/
theorem passes_key (chars : ∀ c ∈ key, isKeyChar c = true) (depth : Nat) : Passes (depth + 1) key :=
  .plain (fun c member => (solid_key chars c member).plain) fun outside => by cases outside

theorem passesComma_key (chars : ∀ c ∈ key, isKeyChar c = true) : PassesComma key :=
  .plain fun c member =>
    ⟨(isPlain_iff.mp (solid_key chars c member).plain).1, (solid_key chars c member).notComma⟩

theorem passes_equals (depth : Nat) : Passes (depth + 1) ['='] :=
  .plain (by simp [isPlain, isQuote]) fun outside => by cases outside

theorem passesComma_equals : PassesComma ['='] := .plain (by simp [isQuote])

end Keys

namespace WrittenParam

theorem trimmed_core (p : WrittenParam) : Trimmed p.core := by
  have whole := (trimmed_key p.keyNonempty p.keyChars).append p.value.trimmed
    (p.afterKey.text ++ '=' :: p.beforeValue.text)
  simpa [core] using whole

/-- The key is cut from the value at the first equals sign, which stands before the quoted value. -/
theorem param_core (p : WrittenParam) : param p.core = .ok p.entry := by
  have noEquals : '=' ∉ p.key ++ p.afterKey.text := by
    intro member
    rcases List.mem_append.mp member with inKey | inBlanks
    · exact (solid_key p.keyChars '=' inKey).notEquals rfl
    · exact absurd (p.afterKey.isBlank_of_mem inBlanks) (by decide)
  -- Equals signs in the value come after the one that cuts.
  have cut : splitOnce '=' p.core =
      some (p.key ++ p.afterKey.text, p.beforeValue.text ++ p.value.text) := by
    rw [core, ← List.append_assoc]
    exact splitOnce_append noEquals
  have keyRead : trim (p.key ++ p.afterKey.text) = p.key :=
    trim_padded (a := []) rfl (trimmed_key p.keyNonempty p.keyChars) p.afterKey.blank
  have valueRead : unquote (p.beforeValue.text ++ p.value.text) = .ok p.value.value := by
    simpa using p.value.unquote_padded p.beforeValue {}
  have nonempty : p.key.isEmpty = false := by simpa using p.keyNonempty
  simp only [param, cut, keyRead, nonempty, valueRead, Bool.false_eq_true, if_false]
  rfl

theorem trim_text (p : WrittenParam) : trim p.text = p.core :=
  trim_padded p.beforeKey.blank p.trimmed_core p.afterValue.blank

theorem passes (p : WrittenParam) (depth : Nat) : Passes (depth + 1) p.text := by
  have blanks (b : Blanks) : Passes (depth + 1) b.text :=
    .plain (fun c member => isPlain_of_isBlank (b.isBlank_of_mem member))
      fun outside => absurd outside (by omega)
  have whole := (blanks p.beforeKey).append <| (passes_key p.keyChars depth).append <|
    (blanks p.afterKey).append <| (passes_equals depth).append <|
      (blanks p.beforeValue).append <| (p.value.passes _).append <| blanks p.afterValue
  simpa [text, core] using whole

theorem passesComma (p : WrittenParam) : PassesComma p.text := by
  have blanks (b : Blanks) : PassesComma b.text := by
    refine .plain fun c member => ?_
    have blank := b.isBlank_of_mem member
    refine ⟨(isPlain_iff.mp (isPlain_of_isBlank blank)).1, ?_⟩
    rintro rfl
    exact absurd blank (by decide)
  have whole := (blanks p.beforeKey).append <| (passesComma_key p.keyChars).append <|
    (blanks p.afterKey).append <| passesComma_equals.append <|
      (blanks p.beforeValue).append <| p.value.passesComma.append <| blanks p.afterValue
  simpa [text, core] using whole

end WrittenParam

/-! ## Parameter lists -/

/-- The parameters of a written list are read in order. -/
theorem paramList_written (first : WrittenParam) (others : List WrittenParam) :
    paramList (WrittenArguments.listText first others) =
      .ok ((first :: others).map (·.entry)) := by
  have cut : parts none [] (WrittenArguments.listText first others) =
      (first :: others).map (·.text) := by
    refine parts_join first.passesComma fun s member => ?_
    obtain ⟨p, -, rfl⟩ := List.mem_map.mp member
    exact p.passesComma
  -- Each part is trimmed to what stands between its outer blanks, and none of them is left empty.
  have trimmed : ((first :: others).map (·.text)).map trim = (first :: others).map (·.core) := by
    rw [List.map_map]
    exact List.map_congr_left fun p _ => p.trim_text
  have kept : ((first :: others).map (·.core)).filter (!·.isEmpty) =
      (first :: others).map (·.core) := by
    rw [List.filter_eq_self]
    intro s member
    obtain ⟨p, -, rfl⟩ := List.mem_map.mp member
    simp [WrittenParam.core]
  have read : ((first :: others).map (·.core)).mapM param =
      .ok ((first :: others).map (·.entry)) := by
    refine mapM_eq_ok_iff.mpr ?_
    rw [List.forall₂_map_left_iff, List.forall₂_map_right_iff, List.forall₂_same]
    exact fun p _ => p.param_core
  simp only [paramList, cut, trimmed, kept, read]
  rfl

/-! ## Heads -/

theorem solid_of_isName {s : List Char} (h : isName s = true) : ∀ c ∈ s, Solid c := by
  simp only [isName, Bool.and_eq_true, List.all_eq_true] at h
  exact fun c member => .of_isNameChar (h.2 c member)

theorem notDot_of_isName {s : List Char} (h : isName s = true) : '.' ∉ s := by
  simp only [isName, Bool.and_eq_true, List.all_eq_true] at h
  exact fun member => absurd (h.2 '.' member) (by decide)

section Names

variable {kind symbol : List Char}

/-- No character of a head is a blank, a quotation mark or a parenthesis. -/
theorem names_chars (isKind : isName kind = true) (isSymbol : isName symbol = true) :
    ∀ c ∈ kind ++ '.' :: symbol, isPlain c = true ∧ isBlank c = false := by
  intro c member
  rcases List.mem_append.mp member with inKind | inRest
  · have solid := solid_of_isName isKind c inKind
    exact ⟨solid.plain, solid.notBlank⟩
  · rcases List.mem_cons.mp inRest with rfl | inSymbol
    · exact ⟨by decide, by decide⟩
    · have solid := solid_of_isName isSymbol c inSymbol
      exact ⟨solid.plain, solid.notBlank⟩

theorem head_names (isKind : isName kind = true) (isSymbol : isName symbol = true) :
    head (kind ++ '.' :: symbol) = .ok (kind, symbol) := by
  have cut : splitOnce '.' (kind ++ '.' :: symbol) = some (kind, symbol) :=
    splitOnce_append (notDot_of_isName isKind)
  simp [head, cut, isKind, isSymbol]

/-- A head that is read is a kind and a symbol with a dot between them. -/
theorem eq_of_head {s : List Char} (read : head s = .ok (kind, symbol)) :
    s = kind ++ '.' :: symbol ∧ isName kind = true ∧ isName symbol = true := by
  rw [head] at read
  cases split : splitOnce '.' s with
  | none => rw [split] at read; cases read
  | some cut =>
    rw [split] at read
    dsimp only at read
    split at read
    · rename_i names
      obtain ⟨rfl, rfl⟩ := Prod.mk.inj (Except.ok.inj read)
      rw [Bool.and_eq_true] at names
      exact ⟨(eq_of_splitOnce split).1, names⟩
    · cases read

end Names

/-! ## Queries -/

/-- A text without blanks is cut off at the gap after it, which loses its first blank. -/
theorem splitBlank_append {word : List Char} (solid : ∀ c ∈ word, isBlank c = false) (g : Gap)
    (rest : List Char) :
    splitBlank (word ++ (g.text ++ rest)) = some (word, g.text.tail ++ rest) := by
  obtain ⟨b, blanks, same, blank⟩ := g.exists_cons
  have passed : ∀ c ∈ word, (!isBlank c) = true := fun c member => by simp [solid c member]
  have taken : (word ++ (g.text ++ rest)).takeWhile (!isBlank ·) = word := by
    rw [List.takeWhile_append_of_pos passed]
    simp [same, blank]
  have left : (word ++ (g.text ++ rest)).dropWhile (!isBlank ·) = g.text ++ rest := by
    rw [List.dropWhile_append_of_pos passed]
    simp [same, blank]
  rw [splitBlank, List.span_eq_takeWhile_dropWhile, taken, left, same]
  rfl

theorem Gap.tail_blank (g : Gap) : isBlankText g.text.tail = true := by
  have blank := g.blank
  simp only [isBlankText, List.all_eq_true] at blank ⊢
  exact fun c member => blank c (List.mem_of_mem_tail member)

namespace WrittenArguments

theorem trimmed (a : WrittenArguments) : Trimmed a.text := by
  cases a with
  | list first others distinct =>
    exact ⟨⟨'(', _, rfl, by decide⟩, ⟨'(' :: listText first others, ')', rfl, by decide⟩⟩
  | value v => exact v.trimmed

theorem passes (a : WrittenArguments) : Passes 0 a.text := by
  cases a with
  | list first others distinct =>
    have comma : Passes 1 [','] :=
      .plain (by simp [isPlain, isQuote]) fun outside => absurd outside (by omega)
    have rest : Passes 1 ((others.map (·.text)).flatMap (',' :: ·)) := by
      induction others with
      | nil => exact .nil
      | cons p others ih =>
        have tail := ih <| distinct.sublist <|
          List.Sublist.cons_cons _ (List.sublist_cons_self _ _)
        exact (comma.append (p.passes 0)).append tail
    exact .parenthesised ((first.passes 0).append rest)
  | value v => exact v.passes 0

/-- The keys of the parameters that are meant are distinct. -/
theorem params_distinct (a : WrittenArguments) :
    a.params.Pairwise fun x y => x.1 ≠ y.1 := by
  cases a with
  | list first others distinct =>
    have keys : ((first :: others).map fun p => String.ofList p.key).Nodup := by
      have mapped := distinct.map fun _ _ => String.ofList_injective
      rwa [List.map_map] at mapped
    rw [List.nodup_iff_pairwise_ne, List.pairwise_map] at keys
    exact List.pairwise_map.mpr keys
  | value v => simp [params]

end WrittenArguments

namespace WrittenQuery

theorem head_chars (q : WrittenQuery) :
    ∀ c ∈ q.head, isPlain c = true ∧ isBlank c = false :=
  names_chars q.isKind q.isSymbol

theorem trimmed_head (q : WrittenQuery) : Trimmed q.head :=
  .of_all (by simp [head]) fun c member => (q.head_chars c member).2

theorem trimmed (q : WrittenQuery) : Trimmed q.text := by
  have whole := q.trimmed_head.append q.arguments.trimmed
    (q.afterHead.text ++ ['i', 's'] ++ q.beforeArguments.text)
  simpa [text, clause] using whole

/-- The dot ends a run of letters that begins a query. -/
theorem no_connective_at_text (q : WrittenQuery) (rest : List Char) :
    connective? (q.text ++ rest) = none := by
  have stop : ∃ c ∈ q.head, Char.isAlpha c = false := ⟨'.', by simp [head], by decide⟩
  obtain ⟨c, member, tail, dropped⟩ :=
    dropWhile_append_of_stop (b := q.afterHead.text ++ q.clause ++ rest) stop
  have stops : (q.text ++ rest).dropWhile Char.isAlpha = c :: tail := by
    simpa [text] using dropped
  exact connective?_unblank stops (q.head_chars c member).2

/-- The word `is` is no connective. -/
theorem no_connective_at_clause (q : WrittenQuery) (rest : List Char) :
    connective? (q.clause ++ rest) = none := by
  obtain ⟨b, blanks, same, blank⟩ := q.beforeArguments.exists_cons
  have stops := isAlpha_of_isBlank blank
  have letters : Char.isAlpha 'i' = true ∧ Char.isAlpha 's' = true := by decide
  simp [connective?, clause, same, letters, stops, blank, Connective.word]

theorem passes (q : WrittenQuery) : Passes 0 q.text := by
  have head : Passes 0 q.head :=
    .plain (fun c member => (q.head_chars c member).1) fun _ c member => (q.head_chars c member).2
  have word : Passes 0 ['i', 's'] :=
    .plain (List.all_eq_true.mp rfl) fun _ => by simp [isBlank]
  -- Neither a quotation mark nor a parenthesis begins a connective.
  have noWord : ∀ rest, connective? (q.arguments.text ++ rest) = none := by
    intro rest
    cases q.arguments with
    | list first others distinct => exact connective?_unblank (c := '(') rfl (by decide)
    | value v =>
      have notAlpha : v.mark.isAlpha = false := by
        rcases isQuote_iff.mp v.isMark with same | same <;> rw [same] <;> decide
      have stops : ((WrittenArguments.value v).text ++ rest).dropWhile Char.isAlpha =
          v.mark :: (v.value ++ v.mark :: rest) := by
        simp [WrittenArguments.text, QuotedText.text, notAlpha]
      exact connective?_unblank stops v.not_isBlank_mark
  have clause : Passes 0 q.clause :=
    word.append (.afterBlanks q.beforeArguments.blank noWord q.arguments.passes)
  exact head.append (.afterBlanks q.afterHead.blank q.no_connective_at_clause clause)

theorem head_read (q : WrittenQuery) : Condition.head q.head = .ok (q.kind, q.symbol) :=
  head_names q.isKind q.isSymbol

/-- The head ends at the first blank. -/
theorem splitBlank_text (q : WrittenQuery) :
    splitBlank q.text = some (q.head, q.afterHead.text.tail ++ q.clause) :=
  splitBlank_append (fun c member => (q.head_chars c member).2) q.afterHead q.clause

theorem afterIs?_clause (q : WrittenQuery) :
    afterIs? q.clause = some (q.beforeArguments.text ++ q.arguments.text) := by
  obtain ⟨b, blanks, same, blank⟩ := q.beforeArguments.exists_cons
  simp [afterIs?, clause, strip?, same, blank]

/-- A query with blanks around it is read as the query that is meant. -/
theorem term_written (q : WrittenQuery) (a b : Blanks) :
    term (a.text ++ (q.text ++ b.text)) = .ok q.query := by
  have whole : trim (a.text ++ (q.text ++ b.text)) = q.text :=
    trim_padded a.blank q.trimmed b.blank
  have clause : trimStart (q.afterHead.text.tail ++ q.clause) = q.clause := by
    rw [trimStart_append q.afterHead.tail_blank]
    exact trimStart_of_not_blank (by decide)
  have arguments : trim (q.beforeArguments.text ++ q.arguments.text) = q.arguments.text := by
    simpa using trim_padded (b := []) q.beforeArguments.blank q.arguments.trimmed rfl
  simp only [term, whole, q.splitBlank_text, q.head_read, clause, q.afterIs?_clause, arguments]
  have distinct := q.arguments.params_distinct
  cases same : q.arguments with
  | list first others keysDistinct =>
    rw [same] at distinct
    have inner : enclosed? '(' ')' (WrittenArguments.list first others keysDistinct).text =
        some (WrittenArguments.listText first others) := by
      simp [enclosed?, WrittenArguments.text]
    have set : (Query.of (String.ofList q.kind) (String.ofList q.symbol)).setAll
        ((first :: others).map (·.entry)) = q.query := by
      rw [Query.setAll_of_distinct distinct]
      simp [query, same, Query.of, WrittenArguments.params]
    simp only [inner, paramList_written, Except.bind, bind, set]
  | value v =>
    have notOpen : v.mark ≠ '(' := by
      intro opens
      have isMark := v.isMark
      rw [opens] at isMark
      exact absurd isMark (by decide)
    -- A quoted value may hold parentheses, but does not begin with one.
    have inner : enclosed? '(' ')' (WrittenArguments.value v).text = none := by
      simp [enclosed?, WrittenArguments.text, QuotedText.text, notOpen]
    have value : unquote (q.beforeArguments.text ++ (WrittenArguments.value v).text) =
        .ok v.value := by
      simpa [WrittenArguments.text] using v.unquote_padded q.beforeArguments.toBlanks {}
    simp only [inner, value, Except.bind, bind]
    simp [query, same, Query.of, Query.set, Query.setIn, WrittenArguments.params]

end WrittenQuery

/-! ## Parameter lists of any text -/

/-- The word `is` and a text in parentheses after it. -/
def listClause (inner : List Char) : List Char := ['i', 's', ' ', '('] ++ (inner ++ [')'])

theorem trimmed_listClause (inner : List Char) : Trimmed (listClause inner) where
  first := ⟨'i', 's' :: ' ' :: '(' :: (inner ++ [')']), rfl, by decide⟩
  last := ⟨['i', 's', ' ', '('] ++ inner, ')', by simp [listClause], by decide⟩

section ListClause

variable {word : List Char}

/-- A head without blanks, and a text in parentheses after it, are told apart again. -/
theorem cut_listClause (nonempty : word ≠ []) (solid : ∀ c ∈ word, isBlank c = false)
    (before : Blanks) (g : Gap) (inner : List Char) :
    ∃ rest arguments,
      splitBlank (trim (before.text ++ (word ++ (g.text ++ listClause inner)))) =
        some (word, rest) ∧
      afterIs? (trimStart rest) = some arguments ∧
      enclosed? '(' ')' (trim arguments) = some inner := by
  have whole : trim (before.text ++ (word ++ (g.text ++ listClause inner))) =
      word ++ (g.text ++ listClause inner) := by
    have trimmed := (Trimmed.of_all nonempty solid).append (trimmed_listClause inner) g.text
    simpa using trim_padded (b := []) before.blank trimmed isBlankText_nil
  have clause : trimStart (g.text.tail ++ listClause inner) = listClause inner := by
    rw [trimStart_append g.tail_blank]
    exact trimStart_of_not_blank (by decide)
  have after : afterIs? (listClause inner) = some (' ' :: '(' :: (inner ++ [')'])) := by
    simp [afterIs?, listClause, strip?, isBlank]
  have list : trim (' ' :: '(' :: (inner ++ [')'])) = '(' :: (inner ++ [')']) := by
    have trimmed : Trimmed ('(' :: (inner ++ [')'])) :=
      ⟨⟨'(', _, rfl, by decide⟩, ⟨'(' :: inner, ')', rfl, by decide⟩⟩
    simpa using trim_padded (a := [' ']) (b := []) (by decide) trimmed isBlankText_nil
  have between : enclosed? '(' ')' ('(' :: (inner ++ [')'])) = some inner := by
    simp [enclosed?]
  refine ⟨g.text.tail ++ listClause inner, ' ' :: '(' :: (inner ++ [')']), ?_, ?_, ?_⟩
  · rw [whole, splitBlank_append solid]
  · rw [clause, after]
  · rw [list, between]

/-- The query is that of the head, and its parameters are read from the list, whatever stands
there. -/
theorem term_listClause (nonempty : word ≠ []) (solid : ∀ c ∈ word, isBlank c = false)
    (before : Blanks) (g : Gap) (inner : List Char) :
    term (before.text ++ (word ++ (g.text ++ listClause inner))) = (do
      let (kind, symbol) ← head word
      let params ← paramList inner
      .ok ((Query.of (String.ofList kind) (String.ofList symbol)).setAll params)) := by
  obtain ⟨rest, arguments, cut, isWord, between⟩ := cut_listClause nonempty solid before g inner
  simp only [term, cut, isWord, between]

end ListClause

end Condition

end Uplift
