import Uplift.Proofs.Recipe

/-!
# What an entry keeps of the options

The options of a recipe are a list, in which a key may come twice; the options of an entry are a
mapping. So a recipe comes back from its entry with each key where it came first, under the value
that came last. An entry comes back from its recipe, unless it has no options: then it becomes a
bare name.
-/

namespace Uplift.Recipe

variable {r : Recipe} {v : Value} {name : String} {options : List (String × Value)}

theorem insert_eq_replaceIn (key : String) (v : Value) (options : List (String × Value)) :
    insert key v options = Entries.replaceIn key v options := by
  induction options with
  | nil => rfl
  | cons o options ih => rw [insert, Entries.replaceIn, ih]

theorem distinct_eq_replaceAll (options : List (String × Value)) :
    distinct options = Entries.replaceAll [] options := by
  simp only [distinct, Entries.replaceAll, insert_eq_replaceIn]

/-- An entry that is read is a name, or a name with nothing or with a mapping. -/
theorem entry_cases (read : ofEntry v = .ok r) :
    v = .str r.name ∧ r.options = [] ∨ v = .map [(.str r.name, .null)] ∧ r.options = [] ∨
      ∃ entries, v = .map [(.str r.name, .map entries)] ∧
        optionsOf r.name entries = .ok r.options := by
  unfold ofEntry at read
  split at read
  · obtain rfl := Except.ok.inj read
    exact .inl ⟨rfl, rfl⟩
  · split at read
    · obtain rfl := Except.ok.inj read
      exact .inr (.inl ⟨rfl, rfl⟩)
    · obtain ⟨options, listed, same⟩ := bind_eq_ok_iff.mp read
      obtain rfl := Except.ok.inj same
      exact .inr (.inr ⟨_, rfl, listed⟩)
    · cases read
  · cases read
  · cases read

/-- Nothing, no entries, or no mapping at all. -/
theorem noOptions_iff (read : ofEntry v = .ok r) : r.options = [] ↔
    v = .str r.name ∨ v = .map [(.str r.name, .null)] ∨ v = .map [(.str r.name, .map [])] := by
  rcases entry_cases read with ⟨rfl, none⟩ | ⟨rfl, none⟩ | ⟨entries, rfl, listed⟩
  · exact iff_of_true none (.inl rfl)
  · exact iff_of_true none (.inr (.inl rfl))
  · have same : r.options = [] ↔ entries = [] := by
      cases entries with
      | nil => exact iff_of_true (Except.ok.inj listed).symm rfl
      | cons e entries =>
        obtain ⟨k, v⟩ := e
        unfold optionsOf at listed
        split at listed
        · obtain ⟨rest, -, filled⟩ := bind_eq_ok_iff.mp listed
          simp [← Except.ok.inj filled]
        · cases listed
    simp [same]

/-- The keys of an entry's options. -/
def optionKeys : Value → List Value
  | .map [(_, .map options)] => options.map (·.1)
  | _ => []

theorem eq_of_optionsOf {entries : List (Value × Value)}
    (read : optionsOf name entries = .ok options)
    (texts : ∀ k ∈ entries.map (·.1), ∃ key, k = .str key) :
    entries = options.map fun (k, v) => (.str k, v) := by
  induction entries generalizing options with
  | nil =>
    obtain rfl := Except.ok.inj read
    rfl
  | cons e entries ih =>
    obtain ⟨k, v⟩ := e
    rw [List.map_cons, List.forall_mem_cons] at texts
    obtain ⟨key, rfl⟩ := texts.1
    obtain ⟨rest, later, same⟩ := bind_eq_ok_iff.mp read
    obtain rfl := Except.ok.inj same
    rw [ih later texts.2]
    rfl

/-- An entry that was read is written as it was, or as a bare name if it has no options. -/
theorem toEntry_ofEntry (read : ofEntry v = .ok r) (texts : ∀ k ∈ optionKeys v, ∃ key, k = .str key)
    (once : (optionKeys v).Nodup) :
    r.HasDistinctKeys ∧ r.toEntry = if r.options = [] then .str r.name else v := by
  obtain ⟨name, options⟩ := r
  rcases entry_cases read with ⟨rfl, rfl⟩ | ⟨rfl, rfl⟩ | ⟨entries, rfl, listed⟩
  · exact ⟨List.nodup_nil, rfl⟩
  · exact ⟨List.nodup_nil, rfl⟩
  · obtain rfl := eq_of_optionsOf listed texts
    have keys : (options.map Prod.fst).map Value.str =
        optionKeys (.map [(.str name, .record options)]) := by
      simp [optionKeys, Value.record, Function.comp_def]
    have distinctKeys : (options.map Prod.fst).Nodup := .of_map _ (keys ▸ once)
    refine ⟨distinctKeys, ?_⟩
    by_cases none : options = []
    · simp [toEntry, none]
    · simp [toEntry, none, distinct_of_nodup distinctKeys, Value.record]

/-- A recipe comes back from its entry with each option key once, and so as it was if and only if
its option keys are pairwise different. An entry whose option keys are texts, each there once, is
read from its recipe as the same recipe; it is written as it was, unless it has no options. -/
theorem entry_options :
    (∀ r : Recipe, ∃ s, ofEntry r.toEntry = .ok s ∧ s.name = r.name ∧
      s.options.map (·.1) = (r.options.map (·.1)).eraseDups ∧ s.HasDistinctKeys ∧
      (∀ key, s.option? key = r.options.reverse.lookup key) ∧ (s = r ↔ r.HasDistinctKeys)) ∧
    ∀ (v : Value) (r : Recipe), ofEntry v = .ok r →
      (∀ k ∈ optionKeys v, ∃ key, k = .str key) → (optionKeys v).Nodup →
      ofEntry r.toEntry = .ok r ∧
      (r.options = [] ↔ v = .str r.name ∨ v = .map [(.str r.name, .null)] ∨
        v = .map [(.str r.name, .map [])]) ∧
      r.toEntry = if r.options = [] then .str r.name else v := by
  refine ⟨fun r => ?_, fun v r read texts once => ?_⟩
  · have keys : (distinct r.options).map (·.1) = (r.options.map (·.1)).eraseDups := by
      rw [distinct_eq_replaceAll, Entries.keys_replaceAll]
    have distinctKeys : ((distinct r.options).map (·.1)).Nodup :=
      keys ▸ Entries.nodup_eraseDups _
    refine ⟨⟨r.name, distinct r.options⟩, ofEntry_toEntry_eq r, rfl, keys, distinctKeys,
      fun key => ?_, fun same => ?_, fun distinctKeys => ?_⟩
    · rw [option?, distinct_eq_replaceAll, Entries.lookup_replaceAll]
      exact Option.or_none
    · exact same ▸ distinctKeys
    · rw [distinct_of_nodup distinctKeys]
  · obtain ⟨distinctKeys, written⟩ := toEntry_ofEntry read texts once
    exact ⟨ofEntry_toEntry distinctKeys, noOptions_iff read, written⟩

/-- A key comes again; an entry is written as it was; and an entry without options is not. -/
theorem entry_options_sample :
    let r : Recipe := ⟨"R", [("a", .int 1), ("b", .null), ("a", .int 2)]⟩
    let s : Recipe := ⟨"R", [("a", .int 2), ("b", .null)]⟩
    let v : Value := .map [(.str "R", .map [(.str "a", .int 2), (.str "b", .null)])]
    let bare : Value := .map [(.str "R", .null)]
    ofEntry r.toEntry = .ok s ∧ s ≠ r ∧ ¬ r.HasDistinctKeys ∧ ofEntry v = .ok s ∧
      ofEntry s.toEntry = .ok s ∧ s.toEntry = v ∧ ofEntry bare = .ok ⟨"R", []⟩ ∧
      toEntry ⟨"R", []⟩ = .str "R" := by
  intro r s v bare
  obtain ⟨back, again⟩ := entry_options
  have reads : ofEntry v = .ok s := rfl
  have readsBare : ofEntry bare = .ok ⟨"R", []⟩ := rfl
  obtain ⟨kept, -, written⟩ := again v s reads (by simp [v, optionKeys]) (by simp [v, optionKeys])
  obtain ⟨-, -, writtenBare⟩ := again bare ⟨"R", []⟩ readsBare (by simp [bare, optionKeys])
    (by simp [bare, optionKeys])
  obtain ⟨s', read, -, -, -, -, same⟩ := back r
  have merged : ofEntry r.toEntry = .ok s := rfl
  obtain rfl : s' = s := Except.ok.inj (read.symm.trans merged)
  have repeated : ¬ r.HasDistinctKeys := by simp [r, HasDistinctKeys]
  exact ⟨merged, fun kept => repeated (same.mp kept), repeated, reads, kept, written, readsBare,
    writtenBare⟩

end Uplift.Recipe
