import Uplift.Proofs.Entries
import Uplift.Proofs.Except
import Uplift.Proofs.Yaml.Values
import Uplift.Recipe

/-!
# Recipes and their documents

What a document keeps of the recipes that are put into it. An entry keeps the options with each key
once (`Recipe.ofEntry_toEntry_eq`), so that a recipe comes back from its entry if its option keys
are pairwise different (`Recipe.ofEntry_toEntry`). A text that holds the value of a composite recipe
is read as that recipe (`Composite.read?_of_value`), although fields are looked up in its nodes and
not in its value.
-/

namespace Uplift

namespace Recipe

variable {key : String} {v : Value} {options : List (String × Value)} {r : Recipe}

def HasDistinctKeys (r : Recipe) : Prop := (r.options.map Prod.fst).Nodup

theorem insert_of_notMem (new : key ∉ options.map Prod.fst) :
    insert key v options = options ++ [(key, v)] := by
  induction options with
  | nil => rfl
  | cons o options ih =>
    obtain ⟨k, w⟩ := o
    obtain ⟨other, new⟩ := not_or.mp (List.mem_cons.not.mp new)
    rw [insert, if_neg (Ne.symm other), ih new, List.cons_append]

/-- Options with pairwise different keys are kept as they are. -/
theorem distinct_of_nodup (nodup : (options.map Prod.fst).Nodup) : distinct options = options := by
  refine Entries.foldl_put (R := fun a b => a.1 ≠ b.1) ?_ (List.pairwise_map.mp nodup)
  intro before o others
  refine insert_of_notMem fun there => ?_
  obtain ⟨b, member, same⟩ := List.mem_map.mp there
  exact others b member same

theorem optionsOf_record (name : String) (options : List (String × Value)) :
    optionsOf name (options.map fun (k, v) => (.str k, v)) = .ok options := by
  induction options with
  | nil => rfl
  | cons o options ih =>
    rw [List.map_cons, optionsOf]
    show (optionsOf name _ >>= _) = _
    rw [ih]
    rfl

/-- A recipe comes back from its entry with each option key once. -/
theorem ofEntry_toEntry_eq (r : Recipe) :
    ofEntry r.toEntry = .ok ⟨r.name, distinct r.options⟩ := by
  obtain ⟨name, options⟩ := r
  unfold toEntry
  dsimp only
  split
  · next none =>
    rw [List.isEmpty_iff.mp none]
    rfl
  · show (optionsOf name _ >>= _) = _
    rw [optionsOf_record]
    rfl

theorem ofEntry_toEntry (distinctKeys : r.HasDistinctKeys) : ofEntry r.toEntry = .ok r := by
  rw [ofEntry_toEntry_eq, distinct_of_nodup distinctKeys]

end Recipe

namespace Composite

open Yaml (Node)

variable {c : Composite} {depth budget : Nat} {nodes : List (String × Node)} {name : String}
  {o : Option Node}

theorem text_of_rel {s : String} (reads : Option.Rel (Node.Reads depth budget) o (some (.str s))) :
    o.bind Node.text? = some s := by
  cases reads with
  | some reads => exact Node.text?_of_reads reads

theorem listField?_of_rel {vs : List Value}
    (reads : Option.Rel (Node.Reads (Yaml.maxDepth - 1) budget) (nodes.lookup name)
      (some (.seq vs))) :
    listField? budget nodes name = some vs := by
  unfold listField?
  cases found : nodes.lookup name with
  | none =>
    rw [found] at reads
    cases reads
  | some n =>
    rw [found] at reads
    cases reads with
    | some reads =>
      obtain ⟨items, left, there, inner⟩ := Node.items?_of_reads reads
      show (n.items? >>= _) = _
      rw [there]
      show (Node.values? (Yaml.maxDepth - 1 - 1) budget items >>= _) = _
      rw [inner]
      rfl

theorem listField?_of_none
    (missing : Option.Rel (Node.Reads depth budget) (nodes.lookup name) none) :
    listField? budget nodes name = some [] := by
  unfold listField?
  cases found : nodes.lookup name with
  | none => rfl
  | some n =>
    rw [found] at missing
    cases missing

/-- A list that is left out if it is empty is read all the same. -/
theorem listField?_of_skipped {vs : List Value}
    (reads : Option.Rel (Node.Reads (Yaml.maxDepth - 1) budget) (nodes.lookup name)
      (if vs.isEmpty then none else some (.seq vs))) :
    listField? budget nodes name = some vs := by
  cases vs with
  | nil => exact listField?_of_none reads
  | cons v vs => exact listField?_of_rel reads

/-- A text that holds the value of a composite recipe is read as the recipe. -/
theorem read?_of_value {text : String} (holds : Yaml.read? text = some c.toValue) :
    read? text = some c := by
  obtain ⟨⟨n, budget⟩, document, valued⟩ := Option.bind_eq_some_iff.mp holds
  obtain ⟨⟨v, left⟩, read, same⟩ := Option.bind_eq_some_iff.mp valued
  obtain rfl : v = c.toValue := Option.some.inj same
  let names := ["type", "name", "displayName", "description", "preconditions", "recipeList"]
  let lists :=
    (if c.preconditions.isEmpty then [] else [("preconditions", .seq c.preconditions)]) ++
      [("recipeList", Value.seq c.recipeList)]
  let fields : List (String × Value) := [("type", .str c.type), ("name", .str c.name),
    ("displayName", .str c.displayName), ("description", .str c.description)] ++ lists
  have skipped : fields.lookup "preconditions" =
      if c.preconditions.isEmpty then none else some (.seq c.preconditions) := by
    show lists.lookup "preconditions" = _
    by_cases none : c.preconditions.isEmpty
    · simp [lists, none, List.lookup_cons]
    · simp [lists, none]
  have listed : fields.lookup "recipeList" = some (.seq c.recipeList) := by
    show lists.lookup "recipeList" = _
    by_cases none : c.preconditions.isEmpty <;> simp [lists, none, List.lookup_cons]
  have known : (∀ f ∈ fields, f.1 ∈ names) ∧ (fields.map Prod.fst).Nodup := by
    by_cases none : c.preconditions.isEmpty <;> simp [fields, lists, names, none]
  have reads : n.Reads Yaml.maxDepth budget (.record fields) := ⟨left, read⟩
  obtain ⟨nodes, found, looked⟩ := Node.record?_of_reads known.1 known.2 reads
  have preconditions := looked "preconditions"
  have recipeList := looked "recipeList"
  rw [skipped] at preconditions
  rw [listed] at recipeList
  unfold read?
  rw [document]
  show (n.record? names >>= _) = _
  rw [found]
  simp only [Option.bind_eq_bind, Option.bind_some, text_of_rel (looked "type"),
    text_of_rel (looked "name"), text_of_rel (looked "displayName"),
    text_of_rel (looked "description"), listField?_of_skipped preconditions,
    listField?_of_rel recipeList]

/-- A composite recipe comes back from its text, if its value does. -/
theorem ofYaml_toYaml (typed : c.type = documentType)
    (restored : Yaml.read? (Yaml.write c.toValue) = some c.toValue) :
    ofYaml c.toYaml = .ok c := by
  have read : read? c.toYaml = some c := read?_of_value restored
  simp only [ofYaml, read, typed, if_pos]

/-- The recipes of entries come back, if each has pairwise different option keys. -/
theorem recipes_of_entries {rs : List Recipe} (distinctKeys : ∀ r ∈ rs, r.HasDistinctKeys)
    (entries : c.recipeList = rs.map Recipe.toEntry) : c.recipes = .ok rs := by
  unfold recipes
  rw [entries, mapM_eq_ok_iff, List.forall₂_map_left_iff, List.forall₂_same]
  exact fun r member => Recipe.ofEntry_toEntry (distinctKeys r member)

end Composite

end Uplift
