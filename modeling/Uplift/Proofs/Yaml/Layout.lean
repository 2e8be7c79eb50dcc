import Uplift.Yaml.Writer

/-!
# How the text of a document is laid out

What is written depends on how the last line stands, but not on the text above it
(`Page.put_after`), and wherever the last line stands, a new entry of the outermost collection
begins in the same way (`Page.indent_zero`). So the text of a document is the texts of its parts in
a row:

* `write_record_cons`, `write_seq_cons`: the entries of a mapping and the items of a sequence, each
  with the text that it would have alone.
* `write_record_seq`: a sequence under a key is a line for the key, and then the sequence.
-/

namespace Uplift.Yaml

namespace Page

/-- The page with more text above what is written on it. Both texts are backwards. -/
def after (p : Page) (above : List Char) : Page := { p with text := p.text ++ above }

variable {p : Page} {above : List Char}

@[simp] theorem after_column : (p.after above).column = p.column := rfl

@[simp] theorem after_blank : (p.after above).blank = p.blank := rfl

@[simp] theorem after_fresh : (p.after above).fresh = p.fresh := rfl

@[simp] theorem after_text : (p.after above).text = p.text ++ above := rfl

theorem ite_after {c : Prop} {decided : Decidable c} (p q : Page) (above : List Char) :
    (if c then p.after above else q.after above) = (if c then p else q).after above :=
  (apply_ite (after · above) c p q).symm

theorem put_after (s : List Char) : (p.after above).put s = (p.put s).after above := by
  simp [put, after]

theorem newline_after (c : Char) : (p.after above).newline c = (p.newline c).after above := rfl

theorem indent_after (column : Int) :
    (p.after above).indent column = (p.indent column).after above := by
  have same : (!(p.after above).fresh || (p.after above).column > column.toNat ||
      ((p.after above).column = column.toNat && !(p.after above).blank)) =
    (!p.fresh || p.column > column.toNat || (p.column = column.toNat && !p.blank)) := rfl
  dsimp only [indent]
  rw [same, newline_after, ite_after, put_after]
  rfl

theorem mark_after (s : List Char) (apart opening : Bool) :
    (p.after above).mark s apart opening = (p.mark s apart opening).after above := by
  simp only [mark, after_blank, put_after, ite_after]
  rfl

theorem word_after (s : List Char) : (p.after above).word s = (p.word s).after above := by
  simp only [word, after_blank, put_after, ite_after]
  rfl

theorem singleStep_after (indent : Int) (breaks : Bool) (c : Char) :
    single.step indent (p.after above, breaks) c =
      ((single.step indent (p, breaks) c).1.after above, (single.step indent (p, breaks) c).2) := by
  by_cases blank : c = ' '
  · simp only [single.step, if_pos blank, put_after]
  · by_cases isLine : isBreak c
    · simp only [single.step, if_neg blank, if_pos isLine, newline_after, ite_after]
      rfl
    · simp only [single.step, if_neg blank, if_neg isLine, indent_after, ite_after, put_after]
      rfl

theorem foldl_single_after (indent : Int) (s : List Char) (breaks : Bool) :
    s.foldl (single.step indent) (p.after above, breaks) =
      ((s.foldl (single.step indent) (p, breaks)).1.after above,
        (s.foldl (single.step indent) (p, breaks)).2) := by
  induction s generalizing p breaks with
  | nil => rfl
  | cons c s ih => rw [List.foldl_cons, List.foldl_cons, singleStep_after, ih]

theorem single_after (indent : Int) (s : List Char) :
    (p.after above).single indent s = (p.single indent s).after above := by
  simp only [single, mark_after, foldl_single_after, indent_after, ite_after, put_after]
  rfl

theorem literalStep_after (indent : Int) (breaks : Bool) (c : Char) :
    literal.step indent (p.after above, breaks) c =
      ((literal.step indent (p, breaks) c).1.after above,
        (literal.step indent (p, breaks) c).2) := by
  by_cases isLine : isBreak c
  · simp only [literal.step, if_pos isLine, newline_after]
    rfl
  · simp only [literal.step, if_neg isLine, indent_after, ite_after, put_after]
    rfl

theorem foldl_literal_after (indent : Int) (s : List Char) (breaks : Bool) :
    s.foldl (literal.step indent) (p.after above, breaks) =
      ((s.foldl (literal.step indent) (p, breaks)).1.after above,
        (s.foldl (literal.step indent) (p, breaks)).2) := by
  induction s generalizing p breaks with
  | nil => rfl
  | cons c s ih => rw [List.foldl_cons, List.foldl_cons, literalStep_after, ih]

theorem free_after (q : Page) :
    { q.after above with blank := true, fresh := true } =
      { q with blank := true, fresh := true }.after above := rfl

theorem literal_after (indent : Int) (s : List Char) :
    (p.after above).literal indent s = (p.literal indent s).after above := by
  simp only [literal, mark_after, newline_after, free_after, foldl_literal_after]

theorem scalar_after (indent : Int) (simpleKey : Bool) (s : String) :
    (p.after above).scalar indent simpleKey s = (p.scalar indent simpleKey s).after above := by
  simp only [scalar]
  split
  · exact single_after indent s.toList
  · exact word_after _
  · exact literal_after indent s.toList
  · exact word_after _

/-- At the left edge nothing is known of the line above any more. -/
theorem indent_zero (p : Page) : p.indent 0 = ({} : Page).after (p.indent 0).text := by
  have column : (p.indent 0).column = 0 := by
    by_cases taken : (!p.fresh || p.column > 0 || (p.column = 0 && !p.blank)) = true
    · simp only [indent, Int.toNat_zero, if_pos taken, newline, put]
      rfl
    · simp only [indent, Int.toNat_zero, if_neg taken, put]
      simp at taken
      simp [taken]
  rw [after, ← column]
  rfl

end Page

open Page

mutual

/-- What is written does not depend on the text above it. -/
theorem put_after (indent : Int) (inMapping simpleKey : Bool) (p : Page) (above : List Char) :
    (v : Value) → put indent inMapping simpleKey (p.after above) v =
      (put indent inMapping simpleKey p v).after above
  | .str s => by rw [put, put, scalar_after]
  | .seq [] | .map [] => by rw [put, put, mark_after]
  | .seq (v :: rest) => by rw [put, put, putItems_after]; rfl
  | .map (e :: rest) => by rw [put, put, putEntries_after]
  | .tagged t v => by rw [put, put, mark_after, put_after]
  | .null | .bool _ | .int _ | .float _ => by simp [put, word_after]

theorem putItems_after (indent : Int) (p : Page) (above : List Char) :
    (items : List Value) →
      putItems indent (p.after above) items = (putItems indent p items).after above
  | [] => by rw [putItems, putItems]
  | v :: rest => by
    rw [putItems, putItems, indent_after, mark_after, put_after, putItems_after]

theorem putEntries_after (indent : Int) (p : Page) (above : List Char) :
    (entries : List (Value × Value)) →
      putEntries indent (p.after above) entries = (putEntries indent p entries).after above
  | [] => by rw [putEntries, putEntries]
  | (k, v) :: rest => by
    rw [putEntries, putEntries]
    simp only [indent_after]
    split
    · rw [put_after, mark_after, put_after, putEntries_after]
    · rw [mark_after, put_after, indent_after, mark_after, put_after, putEntries_after]

end

/-! ## Parts in a row -/

theorem indent_indent_zero (p : Page) : (p.indent 0).indent 0 = p.indent 0 := by
  have free : ({} : Page).indent 0 = {} := rfl
  rw [indent_zero p, indent_after, free]

/-- Entries at the left edge are written as on a page of their own. -/
theorem putEntries_zero (p : Page) (e : Value × Value) (rest : List (Value × Value)) :
    putEntries 0 p (e :: rest) = (putEntries 0 {} (e :: rest)).after (p.indent 0).text := by
  have edge : putEntries 0 p (e :: rest) = putEntries 0 (p.indent 0) (e :: rest) := by
    rw [putEntries, putEntries, indent_indent_zero]
  rw [edge, indent_zero p, putEntries_after]
  rfl

/-- Items at the left edge are written as on a page of their own. -/
theorem putItems_zero (p : Page) (v : Value) (rest : List Value) :
    putItems 0 p (v :: rest) = (putItems 0 {} (v :: rest)).after (p.indent 0).text := by
  have edge : putItems 0 p (v :: rest) = putItems 0 (p.indent 0) (v :: rest) := by
    rw [putItems, putItems, indent_indent_zero]
  rw [edge, indent_zero p, putItems_after]
  rfl

/-- The text on a page when its last line is over. -/
def Page.closed (p : Page) : String := String.ofList (p.indent 0).text.reverse

theorem closed_after (p q : Page) : (p.after (q.indent 0).text).closed = q.closed ++ p.closed := by
  simp [closed, indent_after]

theorem write_map (e : Value × Value) (rest : List (Value × Value)) :
    write (.map (e :: rest)) = (putEntries 0 {} (e :: rest)).closed := by
  rw [write, put]
  rfl

theorem write_seq (v : Value) (rest : List Value) :
    write (.seq (v :: rest)) = (putItems 0 {} (v :: rest)).closed := by
  rw [write, put]
  rfl

/-- The entries of a mapping follow each other. -/
theorem write_map_cons (e f : Value × Value) (rest : List (Value × Value)) :
    write (.map (e :: f :: rest)) = write (.map [e]) ++ write (.map (f :: rest)) := by
  have first : putEntries 0 {} (e :: f :: rest) =
      putEntries 0 (putEntries 0 {} [e]) (f :: rest) := by
    obtain ⟨k, v⟩ := e
    simp only [putEntries]
  rw [write_map, write_map, write_map, first, putEntries_zero, closed_after]

/-- The items of a sequence follow each other. -/
theorem write_seq_cons (v w : Value) (rest : List Value) :
    write (.seq (v :: w :: rest)) = write (.seq [v]) ++ write (.seq (w :: rest)) := by
  have first : putItems 0 {} (v :: w :: rest) = putItems 0 (putItems 0 {} [v]) (w :: rest) := by
    simp only [putItems]
  rw [write_seq, write_seq, write_seq, first, putItems_zero, closed_after]

/-- The text of a sequence is the texts of its items. -/
theorem write_seq_join {items : List Value} (some : items ≠ []) :
    write (.seq items) = String.join (items.map fun v => write (.seq [v])) := by
  induction items with
  | nil => exact absurd rfl some
  | cons v rest ih =>
    cases rest with
    | nil => simp
    | cons w rest =>
      rw [write_seq_cons, ih (by simp), ← String.join_cons]
      rfl

/-- The text of a record is the texts of its fields. -/
theorem write_record_join {fields : List (String × Value)} (some : fields ≠ []) :
    write (.record fields) = String.join (fields.map fun f => write (.record [f])) := by
  induction fields with
  | nil => exact absurd rfl some
  | cons f rest ih =>
    cases rest with
    | nil => simp
    | cons g rest =>
      rw [List.map_cons, String.join_cons, ← ih (by simp)]
      exact write_map_cons _ _ _

/-- A sequence under a plain key stands below the key. -/
theorem write_record_seq {key : String} {items : List Value}
    (simple : isSimpleKey (.str key) = true) (plain : styleOf key true = .plain)
    (some : items ≠ []) :
    write (.record [(key, .seq items)]) = key ++ ":\n" ++ write (.seq items) := by
  obtain ⟨v, rest, rfl⟩ := List.exists_cons_of_ne_nil some
  let line : Page :=
    { text := ':' :: key.toList.reverse, column := key.toList.length + 1
      blank := false, fresh := false }
  have named : (({} : Page).scalar 2 true key).mark [':'] false false = line := by
    simp [scalar, plain, word, mark, Page.put, line]
  have free : ({} : Page).indent 0 = {} := rfl
  have keyed : putEntries 0 {} [(.str key, .seq (v :: rest))] = putItems 0 line (v :: rest) := by
    simp [putEntries, put, free, simple, named, line]
  have below : line.closed = key ++ ":\n" := by
    have next : line.indent 0 = ({} : Page).after ('\n' :: ':' :: key.toList.reverse) := rfl
    rw [Page.closed, next]
    simp
  rw [Value.record, List.map_singleton, write_map, keyed, putItems_zero, closed_after, below,
    write_seq]

end Uplift.Yaml
