import Uplift.Catalog
import Uplift.Proofs.Yaml.Values
import Uplift.Yaml.Writer

/-!
# Tags of what is read

In a value that is read no tag stands directly before another one (`Yaml.tagsApart_of_read?`), since
a node has one tag at most. So it is with the preconditions and recipes of a catalog's rules
(`Catalog.tagsApart_of_parse`), whatever they are.
-/

namespace Uplift

namespace Yaml

variable {v : Value} {vs : List Value}

theorem itemsTagsApart_iff : itemsTagsApart vs = true ↔ ∀ v ∈ vs, tagsApart v = true := by
  induction vs with
  | nil => simp [itemsTagsApart]
  | cons v vs ih => simp [itemsTagsApart, ih]

theorem entriesTagsApart_iff {es : List (Value × Value)} :
    entriesTagsApart es = true ↔ ∀ e ∈ es, tagsApart e.1 = true ∧ tagsApart e.2 = true := by
  induction es with
  | nil => simp [entriesTagsApart]
  | cons e es ih =>
    obtain ⟨k, v⟩ := e
    simp [entriesTagsApart, ih]

/-- A tag and what it stands before. -/
theorem tagsApart_tagged {tag : String} :
    tagsApart (.tagged tag v) = true ↔ (∀ t w, v ≠ .tagged t w) ∧ tagsApart v = true := by
  cases v <;> simp [tagsApart]

theorem tagsApart_untag : ∀ {v : Value}, tagsApart v = true → tagsApart v.untag = true
  | .tagged _ w, apart => tagsApart_untag (v := w) (tagsApart_tagged.mp apart).2
  | .null, apart | .bool _, apart | .int _, apart | .float _, apart | .str _, apart | .seq _, apart
  | .map _, apart => apart

theorem tagsApart_underTag (tag : Option String) (bare : ∀ t w, v ≠ .tagged t w)
    (apart : tagsApart v = true) : tagsApart (underTag tag v) = true := by
  unfold underTag
  split
  · exact tagsApart_tagged.mpr ⟨bare, apart⟩
  · exact apart

/-! ## Nodes -/

theorem IsScalarOf.tagsApart {text : String} (scalar : IsScalarOf text v) :
    Yaml.tagsApart v = true := by
  cases v with
  | seq | map | tagged => exact scalar.elim
  | null | bool | int | float | str => rfl

namespace Node

mutual

theorem tagsApart_of_value? : ∀ {n : Node} {depth budget left : Nat} {v : Value},
    n.value? depth budget = some (v, left) → tagsApart v = true
  | .scalar _ _ _, _, _, _, _, read => by
    rcases scalarValue?_cases (value?_scalar_eq_some read).1 with own | ⟨name, w, rfl, own⟩
    · exact own.tagsApart
    · refine tagsApart_tagged.mpr ⟨?_, own.tagsApart⟩
      rintro t u rfl
      exact own
  | .seq tag _, _, _, _, _, read => by
    obtain ⟨vs, rfl, -, inner⟩ := value?_seq_eq_some read
    exact tagsApart_underTag tag (by simp) (itemsTagsApart_iff.mpr (tagsApart_of_values? inner))
  | .map tag _, _, _, _, _, read => by
    obtain ⟨es, rfl, -, inner⟩ := value?_map_eq_some read
    exact tagsApart_underTag tag (by simp)
      (entriesTagsApart_iff.mpr (tagsApart_of_entryValues? inner))
  | .alias none, _, _, _, _, read => by cases read
  | .alias (some _), _, _, _, _, read => tagsApart_of_value? (value?_alias_eq_some read).2

theorem tagsApart_of_values? : ∀ {items : List Node} {depth budget left : Nat} {vs : List Value},
    values? depth budget items = some (vs, left) → ∀ v ∈ vs, tagsApart v = true
  | [], _, _, _, _, read => by
    obtain ⟨rfl, -⟩ := Prod.mk.inj (Option.some.inj read)
    exact List.forall_mem_nil _
  | _ :: _, _, _, _, _, read => by
    obtain ⟨v, ws, middle, rfl, first, others⟩ := values?_cons_eq_some read
    exact List.forall_mem_cons.mpr ⟨tagsApart_of_value? first, tagsApart_of_values? others⟩

theorem tagsApart_of_entryValues? : ∀ {entries : List (Node × Node)} {depth budget left : Nat}
    {seen : List Value} {es : List (Value × Value)},
    entryValues? depth budget seen entries = some (es, left) →
      ∀ e ∈ es, tagsApart e.1 = true ∧ tagsApart e.2 = true
  | [], _, _, _, _, _, read => by
    obtain ⟨rfl, -⟩ := Prod.mk.inj (Option.some.inj read)
    exact List.forall_mem_nil _
  | (_, _) :: _, _, _, _, _, _, read => by
    obtain ⟨key, v, fs, afterKey, afterValue, rfl, -, keyRead, valueRead, others⟩ :=
      entryValues?_cons_eq_some read
    exact List.forall_mem_cons.mpr ⟨⟨tagsApart_of_value? keyRead, tagsApart_of_value? valueRead⟩,
      tagsApart_of_entryValues? others⟩

end

end Node

theorem tagsApart_of_read? {text : String} (read : read? text = some v) : tagsApart v = true := by
  obtain ⟨⟨n, budget⟩, -, valued⟩ := Option.bind_eq_some_iff.mp read
  obtain ⟨⟨w, left⟩, inner, same⟩ := Option.bind_eq_some_iff.mp valued
  obtain rfl := Option.some.inj same
  exact Node.tagsApart_of_value? inner

end Yaml

/-! ## Decoders -/

open Yaml

variable {α : Type} {item : Decoder α} {format : Format} {v : Value} {x : α} {xs : List α}

namespace Decoder

theorem exists_of_all : ∀ {vs : List Value} {xs : List α}, all item vs = some xs → x ∈ xs →
    ∃ v ∈ vs, item v = some x
  | [], xs, read, member => by
    obtain rfl : [] = xs := Option.some.inj read
    cases member
  | v :: vs, xs, read, member => by
    obtain ⟨y, first, rest⟩ := Option.bind_eq_some_iff.mp read
    obtain ⟨ys, others, same⟩ := Option.bind_eq_some_iff.mp rest
    obtain rfl : y :: ys = xs := Option.some.inj same
    rcases List.mem_cons.mp member with rfl | later
    · exact ⟨v, List.mem_cons_self .., first⟩
    · obtain ⟨w, there, decoded⟩ := exists_of_all others later
      exact ⟨w, List.mem_cons_of_mem _ there, decoded⟩

/-- What stands in a list was decoded from a value in it. -/
theorem exists_of_list (apart : tagsApart v = true) (read : list format item v = some xs)
    (member : x ∈ xs) : ∃ w, tagsApart w = true ∧ item w = some x := by
  have bare := tagsApart_untag apart
  unfold list at read
  split at read
  · next items under =>
    rw [under] at bare
    obtain ⟨w, there, decoded⟩ := exists_of_all read member
    exact ⟨w, itemsTagsApart_iff.mp bare w there, decoded⟩
  · obtain rfl := Option.some.inj read
    cases member
  · cases read

theorem eq_of_document {w : Value} (read : document v = some w) : v = w := by
  unfold document at read
  split at read
  · exact Option.some.inj read
  · cases read

theorem tagsApart_of_documents {ws : List Value} (apart : tagsApart v = true)
    (read : list format document v = some ws) : ∀ w ∈ ws, tagsApart w = true := by
  intro w member
  obtain ⟨u, inner, decoded⟩ := exists_of_list apart read member
  exact eq_of_document decoded ▸ inner

end Decoder

namespace Record

variable {r : Record} {names : List String} {name : String} {fallback : α}

/-- No field has a tag directly before another one. -/
def TagsApart (r : Record) : Prop := ∀ f ∈ r.fields, tagsApart f.2 = true

theorem tagsApart_of_named? : ∀ {es : List (Value × Value)} {fields : List (String × Value)},
    (∀ e ∈ es, tagsApart e.1 = true ∧ tagsApart e.2 = true) → named? names es = some fields →
    ∀ f ∈ fields, tagsApart f.2 = true
  | [], fields, _, read => by
    obtain rfl : [] = fields := Option.some.inj read
    exact List.forall_mem_nil _
  | (k, w) :: es, fields, apart, read => by
    obtain ⟨first, others⟩ := List.forall_mem_cons.mp apart
    obtain ⟨key, -, rest⟩ := Option.bind_eq_some_iff.mp read
    obtain ⟨more, found, kept⟩ := Option.bind_eq_some_iff.mp rest
    have later := tagsApart_of_named? others found
    split at kept
    · split at kept
      · cases kept
      · obtain rfl := Option.some.inj kept
        exact List.forall_mem_cons.mpr ⟨first.2, later⟩
    · obtain rfl := Option.some.inj kept
      exact later

theorem tagsApart_of? (apart : tagsApart v = true) (read : of? format names v = some r) :
    r.TagsApart := by
  have bare := tagsApart_untag apart
  unfold of? at read
  split at read
  · next es under =>
    rw [under] at bare
    obtain ⟨fields, found, rfl⟩ := Option.map_eq_some_iff.mp read
    exact tagsApart_of_named? (entriesTagsApart_iff.mp bare) found
  · next items under =>
    split at read
    · obtain rfl := Option.some.inj read
      rw [under] at bare
      exact fun f member => itemsTagsApart_iff.mp bare _ (List.of_mem_zip member).2
    · cases read
  · obtain rfl := Option.some.inj read
    exact List.forall_mem_nil _
  · cases read

theorem TagsApart.field? (apart : r.TagsApart) (found : r.field? name = some v) :
    tagsApart v = true := by
  unfold Record.field? at found
  rw [List.lookup_eq_some_iff] at found
  obtain ⟨before, after, same, -⟩ := found
  exact apart (name, v) (by rw [same]; simp)

/-- A field with a fallback is the fallback, or was decoded from a value of the record. -/
theorem TagsApart.withDefault (apart : r.TagsApart)
    (read : r.withDefault name fallback item = some x) :
    x = fallback ∨ ∃ w, tagsApart w = true ∧ item w = some x := by
  unfold Record.withDefault at read
  split at read
  · exact .inl (Option.some.inj read).symm
  · next w found => exact .inr ⟨w, apart.field? found, read⟩

end Record

/-! ## Rules -/

/-- In the recipes and preconditions of an instruction, no tag stands directly before another. -/
def RecipeInstruction.TagsApart (i : RecipeInstruction) : Prop :=
  (∀ w ∈ i.preconditions, tagsApart w = true) ∧ ∀ w ∈ i.recipeList, tagsApart w = true

theorem RecipeInstruction.tagsApart_of_decode {i : RecipeInstruction} (apart : tagsApart v = true)
    (read : RecipeInstruction.decode format v = some i) : i.TagsApart := by
  simp only [RecipeInstruction.decode, Option.bind_eq_bind, Option.bind_eq_some_iff] at read
  obtain ⟨r, record, name, -, description, -, gav, -, preconditions, first, recipes, second,
    same⟩ := read
  obtain rfl := Option.some.inj same
  have fields := Record.tagsApart_of? apart record
  have listed {name : String} {ws : List Value}
      (read : r.withDefault name [] (Decoder.list format Decoder.document) = some ws) :
      ∀ w ∈ ws, tagsApart w = true := by
    rcases fields.withDefault read with rfl | ⟨w, inner, decoded⟩
    · exact List.forall_mem_nil _
    · exact Decoder.tagsApart_of_documents inner decoded
  exact ⟨listed first, listed second⟩

theorem Instructions.tagsApart_of_decode {i : Instructions} (apart : tagsApart v = true)
    (read : Instructions.decode format v = some i) : ∀ s ∈ i.openRewrite, s.TagsApart := by
  simp only [Instructions.decode, Option.bind_eq_bind, Option.bind_eq_some_iff] at read
  obtain ⟨r, record, ai, -, steps, listed, manual, -, same⟩ := read
  obtain rfl := Option.some.inj same
  intro s member
  rcases (Record.tagsApart_of? apart record).withDefault listed with rfl | ⟨w, inner, decoded⟩
  · cases member
  · obtain ⟨u, own, there⟩ := Decoder.exists_of_list inner decoded member
    exact RecipeInstruction.tagsApart_of_decode own there

theorem Rule.tagsApart_of_decode {r : Rule} (apart : tagsApart v = true)
    (read : Rule.decode format v = some r) : ∀ s ∈ r.instructions.openRewrite, s.TagsApart := by
  simp only [Rule.decode, Option.bind_eq_bind, Option.bind_eq_some_iff] at read
  obtain ⟨f, record, id, -, order, -, category, -, effort, -, labels, -, description, -,
    precondition, -, condition, -, instructions, found, same⟩ := read
  obtain rfl := Option.some.inj same
  rcases (Record.tagsApart_of? apart record).withDefault found with rfl | ⟨w, inner, decoded⟩
  · exact List.forall_mem_nil _
  · exact Instructions.tagsApart_of_decode inner decoded

/-- The rules that a text holds have no tag directly before another one in their recipes. -/
theorem Catalog.tagsApart_of_parse {text origin : String} {rules : List Rule} {r : Rule}
    (parsed : Catalog.parse text origin = .ok rules) (member : r ∈ rules) :
    ∀ s ∈ r.instructions.openRewrite, s.TagsApart := by
  unfold Catalog.parse at parsed
  split at parsed
  · next read =>
    obtain rfl := Except.ok.inj parsed
    obtain ⟨v, valued, held⟩ := Option.bind_eq_some_iff.mp read
    have apart := tagsApart_of_read? valued
    unfold Catalog.rules? at held
    split at held
    · obtain rfl := Option.some.inj held
      cases member
    · obtain ⟨w, there, decoded⟩ := Decoder.exists_of_all held member
      exact Rule.tagsApart_of_decode (itemsTagsApart_iff.mp apart w there) decoded
    · obtain ⟨only, decoded, rfl⟩ := Option.map_eq_some_iff.mp held
      obtain rfl := List.mem_singleton.mp member
      exact Rule.tagsApart_of_decode apart decoded
  · cases parsed

end Uplift
