import Uplift.Proofs.Condition.RoundTrip

/-!
# The text of a query

The text that a query is shown by is one of the ways to write it down, so it is read as the query
again (`Query.parse_text`), unless a value holds a single quotation mark.
-/

namespace Uplift

open Condition Text

/-- A query whose text says what it is: names and distinct keys as the grammar has them, and no
single quotation mark in a value. -/
structure Query.Readable (q : Query) : Prop where
  kind : isName q.kind.toList = true
  symbol : isName q.symbol.toList = true
  nonempty : q.params ≠ []
  distinct : (q.params.map (·.1)).Nodup
  keyNonempty : ∀ p ∈ q.params, p.1 ≠ ""
  keyChars : ∀ p ∈ q.params, ∀ c ∈ p.1.toList, isKeyChar c = true
  values : ∀ p ∈ q.params, '\'' ∉ p.2.toList

namespace Condition

/-- A parameter as the text of a query has it, with blanks before it. -/
def WrittenParam.plain (before : Blanks) (p : String × String) (nonempty : p.1 ≠ "")
    (keyChars : ∀ c ∈ p.1.toList, isKeyChar c = true) (fresh : '\'' ∉ p.2.toList) :
    WrittenParam where
  beforeKey := before
  key := p.1.toList
  afterKey := .none
  beforeValue := .none
  value := .single p.2.toList fresh
  afterValue := .none
  keyNonempty := by simpa using nonempty
  keyChars := keyChars

/-- Parameters can be written one after the other, each with the same blanks before it. -/
theorem exists_plain (before : Blanks) {params : List (String × String)}
    (nonempty : ∀ p ∈ params, p.1 ≠ "")
    (keyChars : ∀ p ∈ params, ∀ c ∈ p.1.toList, isKeyChar c = true)
    (values : ∀ p ∈ params, '\'' ∉ p.2.toList) :
    ∃ written : List WrittenParam, written.map (·.entry) = params ∧
      written.map (·.text) =
        params.map fun p => before.text ++ (p.1 ++ "='" ++ p.2 ++ "'").toList := by
  induction params with
  | nil => exact ⟨[], rfl, rfl⟩
  | cons p params ih =>
    simp only [List.forall_mem_cons] at nonempty keyChars values
    obtain ⟨written, entries, texts⟩ := ih nonempty.2 keyChars.2 values.2
    refine ⟨.plain before p nonempty.1 keyChars.1 values.1 :: written, ?_, ?_⟩
    · rw [List.map_cons, entries]
      simp [WrittenParam.entry, WrittenParam.plain, QuotedText.single]
    · rw [List.map_cons, texts, List.map_cons]
      simp [WrittenParam.text, WrittenParam.core, WrittenParam.plain, QuotedText.single,
        QuotedText.text]

/-- Items with a separator between them are the first item and then each other one after a
separator. -/
theorem intercalate_eq_flatMap {α : Type} (sep x : List α) (xs : List (List α)) :
    sep.intercalate (x :: xs) = x ++ xs.flatMap (sep ++ ·) := by
  induction xs generalizing x with
  | nil => simp
  | cons y xs ih => rw [List.intercalate_cons_cons, ih]; simp

end Condition

/-- The text of a query is read as the query. -/
theorem Query.parse_text {q : Query} (h : q.Readable) : parse q.text = .ok (.one q) := by
  obtain ⟨p, params, same⟩ := List.exists_cons_of_ne_nil h.nonempty
  have nonempty := h.keyNonempty
  have keyChars := h.keyChars
  have values := h.values
  simp only [same, List.forall_mem_cons] at nonempty keyChars values
  obtain ⟨others, entries, texts⟩ :=
    exists_plain ⟨[' '], rfl⟩ nonempty.2 keyChars.2 values.2
  let first := WrittenParam.plain {} p nonempty.1 keyChars.1 values.1
  have read : (first :: others).map (·.entry) = q.params := by
    rw [List.map_cons, entries, same]
    simp [first, WrittenParam.entry, WrittenParam.plain, QuotedText.single]
  have keys : ((first :: others).map (·.key)).Nodup := by
    have distinct := h.distinct
    rw [← read, List.map_map] at distinct
    exact List.Nodup.of_map String.ofList (by rwa [List.map_map])
  let space : Gap := ⟨⟨[' '], rfl⟩, List.cons_ne_nil _ _⟩
  let w : WrittenCondition :=
    ⟨{}, ⟨q.kind.toList, q.symbol.toList, space, space, .list first others keys, h.kind, h.symbol⟩,
      [], {}⟩
  have text : q.text.toList = w.chars := by
    have list : WrittenArguments.listText first others =
        (", ".intercalate (q.params.map fun p => p.1 ++ "='" ++ p.2 ++ "'")).toList := by
      rw [String.toList_intercalate, same, List.map_cons, List.map_cons, intercalate_eq_flatMap,
        WrittenArguments.listText, texts]
      simp [first, WrittenParam.plain, WrittenParam.text, WrittenParam.core, QuotedText.single,
        QuotedText.text,
        List.flatMap_map]
    simp [w, space, WrittenCondition.chars, WrittenQuery.text, WrittenQuery.head,
      WrittenQuery.clause, WrittenArguments.text, list, Query.text, Query.key]
  have meant : w.first.query = q := by
    simp only [w, WrittenQuery.query, WrittenArguments.params, read, String.ofList_toList]
  rw [parse, text, read_one rfl, meant]

end Uplift
