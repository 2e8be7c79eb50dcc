import Mathlib
import Uplift.Pom

/-!
# Reading past a text

A reader of project descriptions goes from the left to the right, and what it makes of a text mostly
does not depend on what follows.

* `Adds`: what a text adds to the answer of a reader, whatever follows it. The answers of several
  texts are put together by `Adds.append` and `Adds.flatMap`.
* `Skips`: a text in which a closing mark does not begin, whatever follows it.
* `adds_of_unopened`, `adds_of_stretch`: a tag that opens no stretch, and a stretch.
* `adds_fields_of_field`: a field and its value.
-/

namespace Uplift.Pom

variable {α β : Type} {f : List Char → List α} {m : Marks} {c : Char}
  {s t mark rest inside after : List Char} {name : List Char}

/-! ## What a text adds -/

/-- Before any other text, `s` adds `out` to what `f` gives. -/
def Adds (f : List Char → List α) (s : List Char) (out : List α) : Prop :=
  ∀ rest, f (s ++ rest) = out ++ f rest

theorem Adds.nil : Adds f [] [] := fun _ => rfl

theorem Adds.append {out out' : List α} (first : Adds f s out) (second : Adds f t out') :
    Adds f (s ++ t) (out ++ out') := fun rest => by
  rw [List.append_assoc, first, second, List.append_assoc]

theorem Adds.flatMap {spell : β → List Char} {out : β → List α} : ∀ {xs : List β},
    (∀ x ∈ xs, Adds f (spell x) (out x)) → Adds f (xs.flatMap spell) (xs.flatMap out)
  | [], _ => .nil
  | _ :: _, each => by
    obtain ⟨first, others⟩ := List.forall_mem_cons.mp each
    exact first.append (.flatMap others)

/-- What a whole text gives. -/
theorem Adds.eq {out : List α} (adds : Adds f s out) (nil : f [] = []) : f s = out := by
  simpa [nil] using adds []

/-- A tag with what stands between its brackets. -/
def bracketed (s : List Char) : List Char := '<' :: (s ++ ['>'])

/-- A reader takes characters other than opening brackets one by one, and each adds `out`. -/
structure PassesPlain (f : List Char → List α) (out : Char → List α) : Prop where
  nil : f [] = []
  cons : ∀ c rest, c ≠ '<' → f (c :: rest) = out c ++ f rest

theorem PassesPlain.adds {out : Char → List α} (passes : PassesPlain f out) (plain : '<' ∉ s) :
    Adds f s (s.flatMap out) := by
  induction s with
  | nil => exact .nil
  | cons c s ih =>
    obtain ⟨other, plain⟩ := not_or.mp (List.mem_cons.not.mp plain)
    have first : Adds f [c] (out c) := fun rest => passes.cons c rest (Ne.symm other)
    exact first.append (ih plain)

theorem PassesPlain.adds_nil (passes : PassesPlain f fun _ => []) (plain : '<' ∉ s) :
    Adds f s [] :=
  List.flatMap_eq_nil_iff.mpr (fun _ _ => rfl) ▸ passes.adds plain

theorem PassesPlain.adds_self {f : List Char → List Char} (passes : PassesPlain f ([·]))
    (plain : '<' ∉ s) : Adds f s s := by
  have adds := passes.adds plain
  rwa [List.flatMap_singleton'] at adds

/-! ## Marks -/

theorem strip?_append (lead rest : List Char) : Text.strip? lead (lead ++ rest) = some rest := by
  have pre : lead.isPrefixOf (lead ++ rest) = true :=
    List.isPrefixOf_iff_prefix.mpr (List.prefix_append ..)
  simp [Text.strip?, pre]

/-- A tag begins with another tag's text only if they are the same. -/
theorem strip?_bracket (closed : '>' ∉ s) (closed' : '>' ∉ name) (other : s ≠ name)
    (rest : List Char) : Text.strip? (name ++ ['>']) (s ++ '>' :: rest) = none := by
  cases found : Text.strip? (name ++ ['>']) (s ++ '>' :: rest) with
  | none => rfl
  | some t =>
    have same : s ++ '>' :: rest = name ++ '>' :: t := by simpa using eq_of_strip? found
    have split := congrArg (Text.splitOnce '>') same
    rw [Text.splitOnce_append closed, Text.splitOnce_append closed'] at split
    exact absurd (Prod.mk.inj (Option.some.inj split)).1 other

/-- A tag begins with a text without brackets only if what is in it does. -/
theorem strip?_none (closed : '>' ∉ mark) (other : ¬ mark <+: s) (rest : List Char) :
    Text.strip? mark (s ++ '>' :: rest) = none := by
  cases found : Text.strip? mark (s ++ '>' :: rest) with
  | none => rfl
  | some t =>
    have same : s ++ '>' :: rest = mark ++ t := eq_of_strip? found
    rcases List.append_eq_append_iff.mp same with ⟨u, rfl, tail⟩ | ⟨u, rfl, -⟩
    · cases u with
      | nil => exact absurd (by simp) other
      | cons d u =>
        obtain ⟨rfl, -⟩ := List.cons.inj tail
        exact absurd (by simp) closed
    · exact absurd (List.prefix_append ..) other

/-! ## Looking for the end of a stretch -/

/-- No mark begins in a text, whatever follows. -/
def Skips (mark s : List Char) : Prop :=
  ∀ rest inside after, splitAtMark mark rest = some (inside, after) →
    splitAtMark mark (s ++ rest) = some (s ++ inside, after)

theorem Skips.nil : Skips mark [] := fun _ _ _ split => split

theorem Skips.append (first : Skips mark s) (second : Skips mark t) : Skips mark (s ++ t) := by
  intro rest inside after split
  rw [List.append_assoc, List.append_assoc]
  exact first _ _ _ (second _ _ _ split)

theorem Skips.flatMap {spell : β → List Char} : ∀ {xs : List β},
    (∀ x ∈ xs, Skips mark (spell x)) → Skips mark (xs.flatMap spell)
  | [], _ => .nil
  | _ :: _, each => by
    obtain ⟨first, others⟩ := List.forall_mem_cons.mp each
    exact first.append (.flatMap others)

theorem splitAtMark_cons (other : Text.strip? mark (c :: rest) = none) :
    splitAtMark mark (c :: rest) = (splitAtMark mark rest).map fun (i, a) => (c :: i, a) := by
  rw [splitAtMark, other]

theorem splitAtMark_append (mark rest : List Char) (filled : mark ≠ []) :
    splitAtMark mark (mark ++ rest) = some ([], rest) := by
  cases mark with
  | nil => exact absurd rfl filled
  | cons c mark => rw [List.cons_append, splitAtMark, ← List.cons_append, strip?_append]

/-- The end of a stretch is where its closing mark comes first. -/
theorem splitAtMark_of_skips (skips : Skips mark inside) (filled : mark ≠ []) (rest : List Char) :
    splitAtMark mark (inside ++ (mark ++ rest)) = some (inside, rest) := by
  simpa using skips _ _ _ (splitAtMark_append mark rest filled)

theorem strip?_cons_of_ne {d : Char} (other : d ≠ c) :
    Text.strip? (c :: mark) (d :: rest) = none := by
  simp [Text.strip?, List.isPrefixOf, Ne.symm other]

theorem strip?_cons_self : Text.strip? (c :: mark) (c :: rest) = Text.strip? mark rest := by
  simp [Text.strip?, List.isPrefixOf]

theorem Skips.plain (plain : '<' ∉ s) : Skips ('<' :: mark) s := by
  induction s with
  | nil => exact .nil
  | cons c s ih =>
    obtain ⟨other, plain⟩ := not_or.mp (List.mem_cons.not.mp plain)
    intro rest inside after split
    rw [List.cons_append, splitAtMark_cons (strip?_cons_of_ne (Ne.symm other)),
      ih plain _ _ _ split]
    rfl

theorem Skips.bracketed (plain : '<' ∉ s) (closed : '>' ∉ s) (closed' : '>' ∉ name)
    (other : s ≠ name) : Skips (Pom.bracketed name) (Pom.bracketed s) := by
  intro rest inside after split
  have text : Skips (Pom.bracketed name) (s ++ ['>']) := .plain (by simp [plain])
  have start : Text.strip? (Pom.bracketed name) ('<' :: (s ++ ['>'] ++ rest)) = none := by
    rw [Pom.bracketed, strip?_cons_self, List.append_assoc]
    exact strip?_bracket closed closed' other rest
  rw [Pom.bracketed.eq_1 s, List.cons_append, splitAtMark_cons start, text _ _ _ split]
  rfl

/-- A comment ends where its closing mark comes first. -/
theorem splitAtMark_comment (unended : ¬ ['-', '-', '>'] <:+: s) (rest : List Char) :
    splitAtMark ['-', '-', '>'] (s ++ (['-', '-', '>'] ++ rest)) = some (s, rest) := by
  induction s with
  | nil => exact splitAtMark_append _ rest (by simp)
  | cons c s ih =>
    have start : Text.strip? ['-', '-', '>'] (c :: s ++ (['-', '-', '>'] ++ rest)) = none := by
      cases found : Text.strip? ['-', '-', '>'] (c :: s ++ (['-', '-', '>'] ++ rest)) with
      | none => rfl
      | some t =>
        have same := eq_of_strip? found
        -- The mark cannot begin in the comment and end in the closing mark.
        match s, same with
        | [], same => simp at same
        | [d], same => simp at same
        | d :: e :: s, same =>
          obtain ⟨rfl, rfl, rfl, -⟩ : c = '-' ∧ d = '-' ∧ e = '>' ∧ _ := by simpa using same
          exact absurd ⟨[], s, rfl⟩ unended
    have inner : ¬ ['-', '-', '>'] <:+: s := fun early =>
      unended (early.trans (List.suffix_cons c s).isInfix)
    rw [List.cons_append] at start ⊢
    rw [splitAtMark_cons start, ih inner]
    rfl

/-! ## Readers -/

theorem stretch?_of_ne (other : c ≠ '<') : stretch? m (c :: rest) = none := by
  rw [stretch?, if_neg other]

theorem stretch?_open : stretch? m ('<' :: rest) =
    (Text.strip? m.opening rest).bind (splitAtMark m.closing) := by
  rw [stretch?, if_pos rfl]

theorem without_of_stretch (found : stretch? m (c :: rest) = some (inside, after)) :
    without m (c :: rest) = without m after := by
  rw [without]
  split
  · next here =>
    obtain ⟨rfl, rfl⟩ := Prod.mk.inj (Option.some.inj (found.symm.trans here))
    rfl
  · next here => cases found.symm.trans here

theorem without_of_none (unopened : stretch? m (c :: rest) = none) :
    without m (c :: rest) = c :: without m rest := by
  rw [without]
  split
  · next here => cases unopened.symm.trans here
  · rfl

theorem insides_of_stretch (found : stretch? m (c :: rest) = some (inside, after)) :
    insides m (c :: rest) = inside :: insides m after := by
  rw [insides]
  split
  · next here =>
    obtain ⟨rfl, rfl⟩ := Prod.mk.inj (Option.some.inj (found.symm.trans here))
    rfl
  · next here => cases found.symm.trans here

theorem insides_of_none (unopened : stretch? m (c :: rest) = none) :
    insides m (c :: rest) = insides m rest := by
  rw [insides]
  split
  · next here => cases unopened.symm.trans here
  · rfl

theorem passesPlain_without (m : Marks) : PassesPlain (without m) ([·]) where
  nil := by rw [without]
  cons _ _ other := without_of_none (stretch?_of_ne other)

theorem passesPlain_insides (m : Marks) : PassesPlain (insides m) fun _ => [] where
  nil := by rw [insides]
  cons _ _ other := insides_of_none (stretch?_of_ne other)

/-- A tag with which no stretch begins is passed over. -/
theorem adds_of_unopened (plain : '<' ∉ s)
    (unopened : ∀ rest, Text.strip? m.opening (s ++ '>' :: rest) = none) :
    Adds (without m) (bracketed s) (bracketed s) ∧ Adds (insides m) (bracketed s) [] := by
  have text : '<' ∉ s ++ ['>'] := by simp [plain]
  have start (rest : List Char) : stretch? m ('<' :: (s ++ ['>'] ++ rest)) = none := by
    rw [stretch?_open, List.append_assoc]
    show (Text.strip? m.opening (s ++ '>' :: rest)).bind _ = none
    rw [unopened]
    rfl
  constructor
  · intro rest
    rw [bracketed, List.cons_append, without_of_none (start rest),
      (passesPlain_without m).adds_self text rest]
    rfl
  · intro rest
    rw [bracketed, List.cons_append, insides_of_none (start rest),
      (passesPlain_insides m).adds_nil text rest]

/-- A stretch is left out, or its inside is found. -/
theorem adds_of_stretch (opened : ∀ rest, stretch? m (s ++ rest) = some (inside, rest)) :
    Adds (without m) s [] ∧ Adds (insides m) s [inside] := by
  cases s with
  | nil => cases opened []
  | cons c s => exact ⟨fun rest => without_of_stretch (opened rest),
      fun rest => insides_of_stretch (opened rest)⟩

/-- An element whose closing tag does not come early. -/
theorem stretch?_element {name : String} (skips : Skips (bracketed ('/' :: name.toList)) inside)
    (rest : List Char) :
    stretch? (element name)
      (bracketed name.toList ++ inside ++ bracketed ('/' :: name.toList) ++ rest) =
        some (inside, rest) := by
  have split := splitAtMark_of_skips skips (by simp [bracketed]) rest
  have spelled : bracketed name.toList ++ inside ++ bracketed ('/' :: name.toList) ++ rest =
      '<' :: ((element name).opening ++ (inside ++ (bracketed ('/' :: name.toList) ++ rest))) := by
    simp [bracketed, element]
  rw [spelled, stretch?_open, strip?_append]
  exact split

theorem stretch?_comment (unended : ¬ ['-', '-', '>'] <:+: s) (rest : List Char) :
    stretch? comment (['<', '!', '-', '-'] ++ s ++ ['-', '-', '>'] ++ rest) = some (s, rest) := by
  have spelled : ['<', '!', '-', '-'] ++ s ++ ['-', '-', '>'] ++ rest =
      '<' :: (comment.opening ++ (s ++ (comment.closing ++ rest))) := by
    simp [comment]
  rw [spelled, stretch?_open, strip?_append]
  exact splitAtMark_comment unended rest

/-! ## Fields -/

theorem fieldName?_of_tag (f : Field) (rest : List Char) :
    fieldName? (f.tag.toList ++ '>' :: rest) = some (f, rest) := by
  cases f <;> rfl

theorem fieldName?_of_other (closed : '>' ∉ s) (other : ∀ f : Field, s ≠ f.tag.toList)
    (rest : List Char) : fieldName? (s ++ '>' :: rest) = none := by
  refine List.findSome?_eq_none_iff.mpr fun f _ => ?_
  have bare : '>' ∉ f.tag.toList := by cases f <;> decide
  rw [strip?_bracket closed bare (other f), Option.map_none]

theorem field?_of_ne (other : c ≠ '<') : field? (c :: rest) = none := by
  rw [field?, if_neg other]

theorem fields_of_none (other : field? (c :: rest) = none) : fields (c :: rest) = fields rest := by
  rw [fields]
  split
  · next here => cases other.symm.trans here
  · rfl

theorem passesPlain_fields : PassesPlain fields fun _ => [] where
  nil := by rw [fields]
  cons _ _ other := fields_of_none (field?_of_ne other)

/-- A tag that names no field is passed over. -/
theorem adds_fields_of_other (plain : '<' ∉ s) (closed : '>' ∉ s)
    (other : ∀ f : Field, s ≠ f.tag.toList) : Adds fields (bracketed s) [] := by
  intro rest
  have start : field? ('<' :: (s ++ ['>'] ++ rest)) = none := by
    rw [field?, if_pos rfl, List.append_assoc]
    show (fieldName? (s ++ '>' :: rest)).bind _ = none
    rw [fieldName?_of_other closed other]
    rfl
  rw [bracketed, List.cons_append, fields_of_none start,
    passesPlain_fields.adds_nil (by simp [plain]) rest]

theorem adds_fields_of_field (f : Field) (plain : '<' ∉ s) :
    Adds fields (bracketed f.tag.toList ++ s ++ bracketed ('/' :: f.tag.toList))
      [(f, Text.trim s)] := by
  intro rest
  have value : (s ++ '<' :: '/' :: (f.tag.toList ++ '>' :: rest)).takeWhile (· ≠ '<') = s := by
    rw [List.takeWhile_append_of_pos (by
      intro c member
      simpa using fun same : c = '<' => plain (same ▸ member))]
    simp
  have found : field? ('<' :: (f.tag.toList ++ '>' ::
      (s ++ '<' :: '/' :: (f.tag.toList ++ '>' :: rest)))) = some (f, Text.trim s, rest) := by
    have closing : Text.strip? ['<', '/'] ('<' :: '/' :: (f.tag.toList ++ '>' :: rest)) =
        some (f.tag.toList ++ '>' :: rest) := strip?_append ['<', '/'] _
    simp only [field?, if_pos, fieldName?_of_tag, Option.bind_eq_bind, Option.bind_some, value,
      List.drop_left, closing]
    rw [if_pos (by simp; omega)]
  have spelled : bracketed f.tag.toList ++ s ++ bracketed ('/' :: f.tag.toList) ++ rest =
      '<' :: (f.tag.toList ++ '>' :: (s ++ '<' :: '/' :: (f.tag.toList ++ '>' :: rest))) := by
    simp [bracketed]
  rw [spelled, fields]
  split
  · next here =>
    obtain ⟨rfl, rest'⟩ := Prod.mk.inj (Option.some.inj (found.symm.trans here))
    obtain ⟨rfl, rfl⟩ := Prod.mk.inj rest'
    rfl
  · next here => cases found.symm.trans here

end Uplift.Pom
