import Uplift.Proofs.MatchIds
import Uplift.Proofs.Recipe
import Uplift.Proofs.Scan.Mapping

/-!
# Searches as recipes

What a query becomes on the build tool. The options of the recipe never collide, whatever the
parameters are (`SearchRecipe.apply_hasDistinctKeys`), so that a document keeps all of them. A
query with the parameters that it needs has a recipe as long as there are match ids for the rule
(`Mapper.recipeRequest_eq`); `recipes_survive` takes a list of queries through the mapping, the
document and back.
-/

namespace Uplift

/-! ## Options -/

namespace SearchRecipe

variable {t : SearchRecipe} {params : List (String × String)} {key param param' option id : String}

/-- Every name that an option of the search can have. -/
def optionNames (t : SearchRecipe) : List String :=
  t.renames.map Prod.snd ++ ([Recipe.matchIdOption] ++ t.defaults.map Prod.fst)

theorem nodup_optionNames (member : t ∈ all) : t.optionNames.Nodup := by
  have : ∀ t ∈ all, t.optionNames.Nodup := by decide
  exact this t member

theorem mem_renames_of_option? (renamed : t.option? param = some option) :
    (param, option) ∈ t.renames := by
  obtain ⟨before, after, split, -⟩ := List.lookup_eq_some_iff.mp renamed
  simp [split]

theorem option?_inj (member : t ∈ all) (renamed : t.option? param = some option)
    (renamed' : t.option? param' = some option) : param = param' := by
  have nodup := (List.nodup_append.mp (nodup_optionNames member)).1
  have same := List.inj_on_of_nodup_map nodup (mem_renames_of_option? renamed)
    (mem_renames_of_option? renamed') rfl
  exact congrArg Prod.fst same

theorem keys_options (t : SearchRecipe) (params : List (String × String)) :
    (t.options params).map Prod.fst = (params.map Prod.fst).filterMap t.option? := by
  unfold options
  rw [List.map_filterMap, List.filterMap_map]
  refine List.filterMap_congr fun p _ => ?_
  cases renamed : t.option? p.1 with
  | none => simp [renamed]
  | some option => simp [renamed]

theorem mem_keys_options (there : option ∈ (t.options params).map Prod.fst) :
    option ∈ t.renames.map Prod.snd := by
  rw [keys_options] at there
  obtain ⟨param, -, renamed⟩ := List.mem_filterMap.mp there
  exact List.mem_map_of_mem (mem_renames_of_option? renamed)

/-- No two options of a search have one key, whatever the parameters are. -/
theorem apply_hasDistinctKeys (member : t ∈ all) (nodup : (params.map Prod.fst).Nodup)
    (id : String) : (t.apply params id).HasDistinctKeys := by
  have keys : (t.apply params id).options.map Prod.fst = (t.options params).map Prod.fst ++
      ([Recipe.matchIdOption] ++ t.defaults.map Prod.fst) := by
    simp [apply]
  have renamed : ((t.options params).map Prod.fst).Nodup := by
    rw [keys_options]
    exact nodup.filterMap fun a b option first second => option?_inj member first second
  obtain ⟨-, others, apart⟩ := List.nodup_append.mp (nodup_optionNames member)
  unfold Recipe.HasDistinctKeys
  rw [keys, List.nodup_append]
  refine ⟨renamed, others, ?_⟩
  intro option there other elsewhere
  exact apart option (mem_keys_options there) other elsewhere

/-- The match id of a search is the one that it was given: no parameter becomes that option. -/
theorem matchId?_apply (member : t ∈ all) (params : List (String × String)) (id : String) :
    (t.apply params id).matchId? = some id := by
  obtain ⟨-, -, apart⟩ := List.nodup_append.mp (nodup_optionNames member)
  have found : (t.apply params id).option? Recipe.matchIdOption = some (.str id) := by
    refine List.lookup_eq_some_iff.mpr ⟨t.options params, _, List.append_assoc .., ?_⟩
    intro o there
    have renamed := mem_keys_options (List.mem_map_of_mem there)
    exact bne_iff_ne.mpr (Ne.symm (apart _ renamed _ (by simp)))
  unfold Recipe.matchId?
  rw [found]
  rfl

end SearchRecipe

/-! ## Requests -/

namespace Query

variable {q : Query}

/-- The kind and the symbol can be told from the key, if it has one dot. -/
theorem asks_iff_key {kind symbol : String} (noDot : '.' ∉ kind.toList)
    (noDot' : '.' ∉ symbol.toList) : q.asks kind symbol = true ↔ q.key = kind ++ "." ++ symbol := by
  unfold asks key
  rw [Bool.and_eq_true, decide_eq_true_iff, decide_eq_true_iff]
  constructor
  · rintro ⟨rfl, rfl⟩
    rfl
  · intro same
    have chars := congrArg String.toList same
    simp only [String.toList_append, List.append_assoc] at chars
    obtain ⟨kinds, -, symbols⟩ := (List.append_cons_inj_of_notMem noDot noDot').mp chars.symm
    exact ⟨String.toList_inj.mp kinds.symm, String.toList_inj.mp symbols.symm⟩

/-- A query that a recipe searches for, with the parameters that the search needs. -/
def IsSearch (q : Query) : Prop :=
  (q.key = "java.annotation" ∨ q.key = "java.method") ∧ (q.param? "name").isSome ∨
    q.key = "pom.dependency" ∧ ((q.param? "gavs").isSome ∨ (q.param? "groupId").isSome)

theorem IsSearch.exists_recipe (search : q.IsSearch) : ∃ t, SearchRecipe.of? q.key = some t := by
  rcases search with ⟨key | key, -⟩ | ⟨key, -⟩ <;>
  · rw [key]
    exact ⟨_, rfl⟩

end Query

namespace Mapper

variable {q : Query} {rule : String} {ids : MatchIds}

/-- A search becomes its recipe, under the next match id of the rule. -/
theorem recipeRequest_eq {t : SearchRecipe} (search : q.IsSearch)
    (found : SearchRecipe.of? q.key = some t) (room : ids.current rule < Fault.maxSequence) :
    recipeRequest q rule ids =
      .ok (.recipe (t.apply q.params (MatchIds.format rule (ids.current rule + 1))),
        ids.put rule (ids.current rule + 1)) := by
  have drawn : ids.draw rule =
      .ok (MatchIds.format rule (ids.current rule + 1), ids.put rule (ids.current rule + 1)) := by
    unfold MatchIds.draw
    exact if_pos room
  have dependency : q.asks "pom" "dependency" = true ↔ q.key = "pom" ++ "." ++ "dependency" :=
    q.asks_iff_key (by simp) (by simp)
  unfold recipeRequest
  rw [found]
  rcases search with ⟨java, name⟩ | ⟨key, coordinates⟩
  · have other : ¬ q.asks "pom" "dependency" = true := by
      rw [dependency]
      rcases java with key | key <;> simp [key]
    obtain ⟨value, given⟩ := Option.isSome_iff_exists.mp name
    simp only [other, Query.require, given, drawn]
    rfl
  · have asks : q.asks "pom" "dependency" = true := dependency.mpr key
    have enough : ¬ ((q.param? "gavs").isNone && (q.param? "groupId").isNone) = true := by
      rcases coordinates with given | given <;> simp [Option.isSome_iff_ne_none.mp given]
    simp only [asks, enough, drawn]
    rfl

end Mapper

namespace MapperTable

variable {shape : Shape} {q : Query} {rule : String} {ids : MatchIds}
  {asked : List (Shape × Query)}

/-- The requests for queries, one after the other. -/
def mapAll (t : MapperTable) (scanner : ScannerKind) (rule : String) :
    List (Shape × Query) → MatchIds → Except Fault (List Request × MatchIds)
  | [], ids => .ok ([], ids)
  | (shape, q) :: rest, ids => do
    let (r, ids) ← t.map shape scanner q rule ids
    let (rs, ids) ← t.mapAll scanner rule rest ids
    .ok (r :: rs, ids)

theorem map_openRewrite (supported : builtin.supports shape .openRewrite = true) :
    builtin.map shape .openRewrite q rule ids = Mapper.recipeRequest q rule ids := by
  have found : builtin.lookup (shape, .openRewrite) = some .recipe := by
    revert supported
    cases shape <;> decide
  unfold map
  rw [found]
  rfl

/-- The recipe of a query under a match id. -/
def IsRecipeOf (q : Query) (id : String) (r : Recipe) : Prop :=
  ∃ t ∈ SearchRecipe.all, t.key = q.key ∧ r = t.apply q.params id

/-- Searches become their recipes, under the next match ids of the rule. -/
theorem mapAll_openRewrite
    (supported : ∀ a ∈ asked, builtin.supports a.1 .openRewrite = true)
    (searches : ∀ a ∈ asked, a.2.IsSearch)
    (room : ids.current rule + asked.length ≤ Fault.maxSequence) :
    ∃ rs ids', builtin.mapAll .openRewrite rule asked ids = .ok (rs.map .recipe, ids') ∧
      (∀ other, ids'.current other =
        if other = rule then ids.current rule + asked.length else ids.current other) ∧
      List.Forall₂ (fun (a, n) r => IsRecipeOf a.2 (MatchIds.format rule n) r)
        (asked.zipIdx (ids.current rule + 1)) rs := by
  induction asked generalizing ids with
  | nil =>
    refine ⟨[], ids, rfl, fun other => ?_, .nil⟩
    split
    · next same => rw [same]; rfl
    · rfl
  | cons a asked ih =>
    obtain ⟨shape, q⟩ := a
    obtain ⟨supportedHere, supported⟩ := List.forall_mem_cons.mp supported
    obtain ⟨search, searches⟩ := List.forall_mem_cons.mp searches
    rw [List.length_cons] at room
    obtain ⟨t, found⟩ := search.exists_recipe
    have first := (map_openRewrite supportedHere).trans
      (Mapper.recipeRequest_eq search found (by omega : ids.current rule < Fault.maxSequence))
    have counted : (ids.put rule (ids.current rule + 1)).current rule = ids.current rule + 1 := by
      rw [MatchIds.current_put, if_pos rfl]
    have left : (ids.put rule (ids.current rule + 1)).current rule + asked.length ≤
        Fault.maxSequence := by
      rw [counted]
      omega
    obtain ⟨rs, ids', others, current, recipes⟩ := ih supported searches left
    rw [counted] at recipes
    obtain ⟨member, key⟩ := SearchRecipe.of?_eq_some found
    refine ⟨_ :: rs, ids', ?_, fun other => ?_, .cons ⟨t, member, key, rfl⟩ recipes⟩
    · unfold mapAll
      rw [first]
      show (builtin.mapAll .openRewrite rule asked _ >>= _) = _
      rw [others]
      rfl
    · rw [current, counted, MatchIds.current_put, List.length_cons]
      split
      · omega
      · rfl

/-- The match ids of numbers that follow each other are pairwise different. -/
theorem nodup_formats {first count : Nat} (small : first + count ≤ Fault.maxSequence + 1)
    (rule : String) : ((List.range' first count).map (MatchIds.format rule)).Nodup := by
  refine List.Nodup.map_on ?_ List.nodup_range'
  intro m hm n hn same
  rw [List.mem_range'_1] at hm hn
  exact (MatchIds.format_inj (by omega) (by omega) same).2

/-- **A query survives the mapping, the document and the way back.** Searches whose parameters have
pairwise different keys, with match ids left for all of them:

* each becomes a recipe whose options are the parameters that have an option, in their order, then
  the match id, and then what is always set;
* no two options of a recipe have one key, its match id is the one that was drawn for it, and no
  two recipes have one match id;
* a composite recipe with these recipes is read back from its text as it was, and its recipes are
  these, with the same options in the same order. -/
theorem recipes_survive
    (supported : ∀ a ∈ asked, builtin.supports a.1 .openRewrite = true)
    (searches : ∀ a ∈ asked, a.2.IsSearch)
    (distinct : ∀ a ∈ asked, (a.2.params.map Prod.fst).Nodup)
    (room : ids.current rule + asked.length ≤ Fault.maxSequence) :
    ∃ rs ids', builtin.mapAll .openRewrite rule asked ids = .ok (rs.map .recipe, ids') ∧
      (∀ other, ids'.current other =
        if other = rule then ids.current rule + asked.length else ids.current other) ∧
      List.Forall₂ (fun (a, n) r =>
        (∃ t ∈ SearchRecipe.all, t.key = a.2.key ∧ r.name = t.recipe ∧ r.options =
          (a.2.params.filterMap fun (k, v) => (t.renames.lookup k).map fun o => (o, .str v)) ++
            [("matchId", .str (MatchIds.format rule n))] ++
            t.defaults.map fun (o, b) => (o, .bool b)) ∧
        r.HasDistinctKeys ∧ r.matchId? = some (MatchIds.format rule n))
        (asked.zipIdx (ids.current rule + 1)) rs ∧
      (rs.map Recipe.matchId?).Nodup ∧
      ∀ c : Composite, c.type = Composite.documentType → c.recipeList = rs.map Recipe.toEntry →
        Yaml.read? (Yaml.write c.toValue) = some c.toValue →
        Composite.ofYaml c.toYaml = .ok c ∧ c.recipes = .ok rs := by
  obtain ⟨rs, ids', mapped, current, recipes⟩ := mapAll_openRewrite supported searches room
  have nodup : ∀ e ∈ asked.zipIdx (ids.current rule + 1), (e.1.2.params.map Prod.fst).Nodup := by
    rintro ⟨a, n⟩ member
    exact distinct a (List.fst_mem_of_mem_zipIdx member)
  have each : List.Forall₂ (fun (e : (Shape × Query) × Nat) (r : Recipe) =>
      (∃ t ∈ SearchRecipe.all, t.key = e.1.2.key ∧ r.name = t.recipe ∧ r.options =
          (e.1.2.params.filterMap fun (k, v) => (t.renames.lookup k).map fun o => (o, .str v)) ++
            [("matchId", .str (MatchIds.format rule e.2))] ++
            t.defaults.map fun (o, b) => (o, .bool b)) ∧
        r.HasDistinctKeys ∧ r.matchId? = some (MatchIds.format rule e.2))
      (asked.zipIdx (ids.current rule + 1)) rs := by
    refine ((List.forall₂_and_left _ _).mpr ⟨nodup, recipes⟩).imp ?_
    rintro ⟨⟨shape, q⟩, n⟩ r ⟨nodup, t, member, key, rfl⟩
    exact ⟨⟨t, member, key, rfl, rfl⟩, SearchRecipe.apply_hasDistinctKeys member nodup _,
      SearchRecipe.matchId?_apply member _ _⟩
  refine ⟨rs, ids', mapped, current, each, ?_, ?_⟩
  · have drawn : rs.map Recipe.matchId? = (((List.range' (ids.current rule + 1) asked.length).map
        (MatchIds.format rule)).map some) := by
      rw [← List.zipIdx_map_snd, List.map_map, List.map_map, eq_comm, ← List.forall₂_eq_eq_eq,
        List.forall₂_map_left_iff, List.forall₂_map_right_iff]
      exact each.imp fun e r recipe => recipe.2.2.symm
    rw [drawn]
    exact (nodup_formats (by omega) rule).map (Option.some_injective _)
  · intro c typed entries restored
    have distinctKeys : ∀ r ∈ rs, r.HasDistinctKeys :=
      ((List.forall₂_and_left (R := fun _ _ => True) _ _).mp
        (List.Forall₂.flip (each.imp fun e r recipe => ⟨recipe.2.1, trivial⟩))).1
    exact ⟨c.ofYaml_toYaml typed restored, c.recipes_of_entries distinctKeys entries⟩

/-- Two searches, one of them with a parameter that becomes no option. -/
def sampleSearches : List (Shape × Query) :=
  [(.annotationUse, ⟨"java", "annotation", [("kind", "type"), ("name", "a: #b")]⟩),
    (.dependency, ⟨"pom", "dependency", [("version", "1"), ("groupId", "true")]⟩)]

def sampleRecipes : List Recipe :=
  [⟨"dev.snowdrop.openrewrite.java.search.FindAnnotations",
      [("pattern", .str "a: #b"), ("matchId", .str "r-008"),
        ("matchOnMetaAnnotations", .bool false)]⟩,
    ⟨"dev.snowdrop.openrewrite.maven.search.FindDependency",
      [("version", .str "1"), ("groupId", .str "true"), ("matchId", .str "r-009")]⟩]

def sampleComposite : Composite where
  name := "r"
  displayName := "it's"
  description := ""
  recipeList := sampleRecipes.map Recipe.toEntry

theorem recipes_survive_sample :
    builtin.mapAll .openRewrite "r" sampleSearches ⟨[("r", 7)]⟩ =
      .ok (sampleRecipes.map .recipe, ⟨[("r", 9)]⟩) ∧
    Composite.ofYaml sampleComposite.toYaml = .ok sampleComposite ∧
    sampleComposite.recipes = .ok sampleRecipes := by
  have supported : ∀ a ∈ sampleSearches, builtin.supports a.1 .openRewrite = true := by decide
  have searches : ∀ a ∈ sampleSearches, a.2.IsSearch := by
    simp [sampleSearches, Query.IsSearch, Query.key, Query.param?]
  have distinct : ∀ a ∈ sampleSearches, (a.2.params.map Prod.fst).Nodup := by decide
  have room : (⟨[("r", 7)]⟩ : MatchIds).current "r" + sampleSearches.length ≤
      Fault.maxSequence := by decide
  obtain ⟨rs, ids', mapped, -, -, -, survive⟩ := recipes_survive supported searches distinct room
  have evaluated : builtin.mapAll .openRewrite "r" sampleSearches ⟨[("r", 7)]⟩ =
      .ok (sampleRecipes.map .recipe, ⟨[("r", 9)]⟩) := by decide +kernel
  obtain ⟨same, -⟩ := Prod.mk.inj (Except.ok.inj (mapped.symm.trans evaluated))
  obtain rfl := List.map_injective_iff.mpr (fun _ _ => Request.recipe.inj) same
  have restored : Yaml.read? (Yaml.write sampleComposite.toValue) =
      some sampleComposite.toValue := by
    unfold Yaml.read? Yaml.write
    rw [String.toList_ofList]
    decide +kernel
  exact ⟨evaluated, survive sampleComposite rfl rfl restored⟩

end MapperTable

end Uplift
