import Uplift.Proofs.Query
import Uplift.Proofs.Scan.SearchRecipes

/-!
# What the back ends ask of a query

Where more than one back end can answer a query, each has a mapper of its own, which asks for
parameters of its own. For searches in the sources they ask for the same one, and so whichever back
end serves such a search accepts it or reports the same parameter. For dependencies they differ in
one thing: the list of coordinates may be under `name` where the descriptors are read, and not where
a recipe searches (`Query.NamesCoordinates`). `map_agree_iff` says that this is all.
-/

namespace Uplift

open Scan

variable {q : Query} {rule : String} {ids : MatchIds} {shape shape' : Shape}

/-- A query for a dependency whose coordinates are under `name`, and nowhere else. -/
def Query.NamesCoordinates (q : Query) : Prop :=
  q.key = "pom.dependency" ∧ q.param? "gavs" = none ∧ q.param? "groupId" = none ∧
    (q.param? "name").isSome

/-- A query becomes a request if it has what is asked for, and if not, a parameter is reported as
missing. -/
def Demands (has : Prop) (key : String) (q : Query) (result : Except Fault (Request × MatchIds)) :
    Prop :=
  has ∧ (∃ made, result = .ok made) ∨ ¬ has ∧ result = .error (.missingParameter key q.key)

/-- Of two mappings of a query both make a request, or both report the same parameter as missing. -/
def Agree (q : Query) (x y : Except Fault (Request × MatchIds)) : Prop :=
  (∃ made, x = .ok made) ∧ (∃ made, y = .ok made) ∨
    ∃ key, x = .error (.missingParameter key q.key) ∧ y = .error (.missingParameter key q.key)

theorem Agree.symm {x y : Except Fault (Request × MatchIds)} (agree : Agree q x y) :
    Agree q y x := by
  rcases agree with ⟨left, right⟩ | ⟨key, left, right⟩
  · exact .inl ⟨right, left⟩
  · exact .inr ⟨key, right, left⟩

/-- Two mappings that report the same parameter agree exactly if they ask for the same. -/
theorem Demands.agree_iff {has has' : Prop} {key : String}
    {x y : Except Fault (Request × MatchIds)} (left : Demands has key q x)
    (right : Demands has' key q y) : Agree q x y ↔ (has ↔ has') := by
  rcases left with ⟨here, made, rfl⟩ | ⟨gone, rfl⟩ <;>
    rcases right with ⟨here', made', rfl⟩ | ⟨gone', rfl⟩
  · simp [Agree, here, here']
  · simp [Agree, here, gone']
  · simp [Agree, gone, here']
  · simp [Agree, gone, gone']

/-! ## What each mapper asks for -/

namespace Mapper

theorem demands_symbol : Demands (q.param? "name").isSome "name" q (symbol.run q rule ids) := by
  cases name : q.param? "name" with
  | none =>
    refine .inr ⟨by simp, ?_⟩
    simp only [run, Query.require_eq_error_iff.mpr ⟨name, rfl⟩]
    rfl
  | some value =>
    refine .inl ⟨rfl, (.symbol q.symbol value, ids), ?_⟩
    simp only [run, Query.require_eq_ok_iff.mpr name]
    rfl

theorem exists_coordinates (given : (q.param? "gavs").isSome ∨ (q.param? "groupId").isSome ∨
    (q.param? "name").isSome) : ∃ gavs, coordinates q = .ok gavs := by
  unfold coordinates
  split
  · exact ⟨_, rfl⟩
  · rename_i none
    rw [Option.or_eq_none_iff] at none
    split
    · exact ⟨_, rfl⟩
    · exact ⟨_, rfl⟩
    · exact ⟨_, rfl⟩
    · rename_i group
      simp [none.1, none.2, group] at given

theorem demands_dependency :
    Demands ((q.param? "gavs").isSome ∨ (q.param? "groupId").isSome ∨ (q.param? "name").isSome)
      "gavs" q (dependency.run q rule ids) := by
  by_cases given :
    (q.param? "gavs").isSome ∨ (q.param? "groupId").isSome ∨ (q.param? "name").isSome
  · obtain ⟨gavs, read⟩ := exists_coordinates given
    refine .inl ⟨given, (.dependency gavs, ids), ?_⟩
    simp only [run, read]
    rfl
  · refine .inr ⟨given, ?_⟩
    simp only [not_or, Option.not_isSome_iff_eq_none] at given
    obtain ⟨gavs, group, name⟩ := given
    simp only [run, coordinates, gavs, group, name, Option.none_or]
    rfl

/-- Where the descriptors are read, coordinates may be under `name`. -/
theorem dependency_of_names (names : q.NamesCoordinates) :
    ∃ gavs, q.param? "name" = some gavs ∧
      dependency.run q rule ids = .ok (.dependency gavs, ids) := by
  obtain ⟨-, gavs, -, given⟩ := names
  obtain ⟨name, named⟩ := Option.isSome_iff_exists.mp given
  refine ⟨name, named, ?_⟩
  simp only [run, coordinates, gavs, named, Option.none_or]
  rfl

/-- A recipe that searches the sources asks for the name. -/
theorem demands_recipe_java (java : q.key = "java.annotation" ∨ q.key = "java.method")
    (room : ids.current rule < Fault.maxSequence) :
    Demands (q.param? "name").isSome "name" q (recipe.run q rule ids) := by
  cases name : q.param? "name" with
  | some value =>
    have search : q.IsSearch := .inl ⟨java, by simp [name]⟩
    obtain ⟨t, found⟩ := search.exists_recipe
    exact .inl ⟨rfl, _, recipeRequest_eq search found room⟩
  | none =>
    refine .inr ⟨by simp, ?_⟩
    have other : ¬ q.asks "pom" "dependency" = true := by
      rw [q.asks_iff_key (by simp) (by simp)]
      rcases java with key | key <;> simp [key]
    obtain ⟨t, found⟩ : ∃ t, SearchRecipe.of? q.key = some t := by
      rcases java with key | key <;> rw [key] <;> exact ⟨_, rfl⟩
    simp only [run, recipeRequest, found, other, Query.require_eq_error_iff.mpr ⟨name, rfl⟩]
    rfl

/-- A recipe that searches dependencies asks for coordinates under their own keys. -/
theorem demands_recipe_pom (pom : q.key = "pom.dependency")
    (room : ids.current rule < Fault.maxSequence) :
    Demands ((q.param? "gavs").isSome ∨ (q.param? "groupId").isSome) "gavs" q
      (recipe.run q rule ids) := by
  by_cases given : (q.param? "gavs").isSome ∨ (q.param? "groupId").isSome
  · have search : q.IsSearch := .inr ⟨pom, given⟩
    obtain ⟨t, found⟩ := search.exists_recipe
    exact .inl ⟨given, _, recipeRequest_eq search found room⟩
  · refine .inr ⟨given, ?_⟩
    simp only [not_or, Option.not_isSome_iff_eq_none] at given
    have dependency : q.asks "pom" "dependency" = true :=
      (q.asks_iff_key (by simp) (by simp)).mpr pom
    obtain ⟨t, found⟩ : ∃ t, SearchRecipe.of? q.key = some t := by
      rw [pom]
      exact ⟨_, rfl⟩
    simp only [run, recipeRequest, found, dependency, given]
    rfl

end Mapper

namespace MapperTable

theorem builtin_openRewrite (supported : builtin.supports shape .openRewrite = true) :
    builtin.map shape .openRewrite q rule ids = Mapper.recipe.run q rule ids :=
  map_openRewrite supported

theorem builtin_jdtls (supported : builtin.supports shape .jdtls = true) :
    builtin.map shape .jdtls q rule ids = Mapper.symbol.run q rule ids := by
  have found : builtin.lookup (shape, .jdtls) = some .symbol := by
    revert supported
    cases shape <;> decide
  unfold map
  rw [found]

theorem builtin_maven (supported : builtin.supports shape .maven = true) :
    builtin.map shape .maven q rule ids = Mapper.dependency.run q rule ids := by
  have found : builtin.lookup (shape, .maven) = some .dependency := by
    revert supported
    cases shape <;> decide
  unfold map
  rw [found]

/-- Searches in the sources are served alike by recipes and by the symbol server. -/
theorem agree_java (java : q.key = "java.annotation" ∨ q.key = "java.method")
    (room : ids.current rule < Fault.maxSequence)
    (recipes : builtin.supports shape .openRewrite = true)
    (symbols : builtin.supports shape' .jdtls = true) :
    Agree q (builtin.map shape .openRewrite q rule ids) (builtin.map shape' .jdtls q rule ids) := by
  rw [builtin_openRewrite recipes, builtin_jdtls symbols]
  exact ((Mapper.demands_recipe_java java room).agree_iff Mapper.demands_symbol).mpr Iff.rfl

theorem agree_pom_iff (pom : q.key = "pom.dependency")
    (room : ids.current rule < Fault.maxSequence)
    (recipes : builtin.supports shape .openRewrite = true)
    (descriptors : builtin.supports shape' .maven = true) :
    Agree q (builtin.map shape .openRewrite q rule ids) (builtin.map shape' .maven q rule ids) ↔
      ¬ q.NamesCoordinates := by
  rw [builtin_openRewrite recipes, builtin_maven descriptors,
    (Mapper.demands_recipe_pom pom room).agree_iff Mapper.demands_dependency,
    Query.NamesCoordinates]
  cases q.param? "gavs" <;> cases q.param? "groupId" <;> simp [pom]

end MapperTable

/-! ## Two back ends for one query -/

section BackEnds

variable {σ : Type} {o : Outside σ} {a b : ScannerKind}

/-- What a built-in back end can answer. -/
theorem of_supports (capable : (builtin o a).supports q = true) :
    match a with
    | .openRewrite => (q.key = "java.annotation" ∨ q.key = "java.method") ∧ q.kind = "java" ∨
        q.key = "pom.dependency" ∧ q.kind = "pom"
    | .jdtls => q.kind = "java"
    | .maven => q.kind = "pom"
    | .file => q.kind = "file" := by
  have kind_of_key (kind symbol : String) (noDot : '.' ∉ kind.toList)
      (noDot' : '.' ∉ symbol.toList) (key : q.key = kind ++ "." ++ symbol) : q.kind = kind := by
    have asks := (q.asks_iff_key noDot noDot').mpr key
    simp only [Query.asks, Bool.and_eq_true, decide_eq_true_eq] at asks
    exact asks.1
  cases a with
  | openRewrite =>
    obtain ⟨t, found⟩ := Option.isSome_iff_exists.mp capable
    obtain ⟨member, key⟩ := SearchRecipe.of?_eq_some found
    simp only [SearchRecipe.all, List.mem_cons, List.not_mem_nil, or_false] at member
    rcases member with rfl | rfl | rfl
    · exact .inl ⟨.inl key.symm, kind_of_key "java" "annotation" (by simp) (by simp) key.symm⟩
    · exact .inl ⟨.inr key.symm, kind_of_key "java" "method" (by simp) (by simp) key.symm⟩
    · exact .inr ⟨key.symm, kind_of_key "pom" "dependency" (by simp) (by simp) key.symm⟩
  | jdtls => simpa [builtin, SymbolSearch.scanner] using capable
  | maven =>
    have asks : q.kind = "pom" ∧ q.symbol = "dependency" := by
      simpa [builtin, Dependencies.scanner, Query.asks] using capable
    exact asks.1
  | file =>
    have asks : q.kind = "file" ∧ q.symbol = "name" ∨ q.kind = "file" ∧ q.symbol = "content" := by
      simpa [builtin, FileSearch.scanner, FileSearch.scannerWith, Query.asks] using capable
    exact asks.elim And.left And.left

/-- Two built-in back ends that can answer the same query are the recipes and one other, which is
told by the key. -/
theorem keys_of_supports (different : a ≠ b) (left : (builtin o a).supports q = true)
    (right : (builtin o b).supports q = true) :
    (q.key = "java.annotation" ∨ q.key = "java.method") ∧
        (a = .openRewrite ∧ b = .jdtls ∨ a = .jdtls ∧ b = .openRewrite) ∨
      q.key = "pom.dependency" ∧
        (a = .openRewrite ∧ b = .maven ∨ a = .maven ∧ b = .openRewrite) := by
  have left := of_supports left
  have right := of_supports right
  cases a <;> cases b <;> simp_all

theorem agree_of_supports (different : a ≠ b) (left : (builtin o a).supports q = true)
    (right : (builtin o b).supports q = true) (room : ids.current rule < Fault.maxSequence)
    (mapped : MapperTable.builtin.supports shape a = true)
    (mapped' : MapperTable.builtin.supports shape' b = true) :
    Agree q (MapperTable.builtin.map shape a q rule ids)
      (MapperTable.builtin.map shape' b q rule ids) ↔ ¬ q.NamesCoordinates := by
  rcases keys_of_supports different left right with ⟨java, pair⟩ | ⟨pom, pair⟩
  · have other : ¬ q.NamesCoordinates := by
      rintro ⟨pom, -⟩
      rcases java with key | key <;> simp [key] at pom
    refine iff_of_true ?_ other
    rcases pair with ⟨rfl, rfl⟩ | ⟨rfl, rfl⟩
    · exact MapperTable.agree_java java room mapped mapped'
    · exact (MapperTable.agree_java java room mapped' mapped).symm
  · rcases pair with ⟨rfl, rfl⟩ | ⟨rfl, rfl⟩
    · exact MapperTable.agree_pom_iff pom room mapped mapped'
    · rw [← MapperTable.agree_pom_iff pom room mapped' mapped]
      exact ⟨Agree.symm, Agree.symm⟩

/-- A built-in scanner that a query is resolved to is the one of its kind, and can answer. -/
theorem Scan.Registry.supports_of_resolve {kinds : List ScannerKind}
    {configured : Option ScannerKind} {s : Scanner σ}
    (resolved : (Registry.ofList (kinds.map (builtin o))).resolve q configured = .ok s) :
    (builtin o s.kind).supports q = true := by
  obtain ⟨member, capable⟩ := of_resolve resolved
  rwa [eq_builtin_of_mem member] at capable

end BackEnds

namespace MapperTable

/-- **What the back ends ask of a query.** As long as there are match ids for the rule:

* a search for annotations or methods is accepted by the recipes and by the symbol server, or both
  report the same parameter as missing;
* a dependency query is accepted by the recipes and by the reader of descriptors, or both report the
  same parameter as missing, unless its coordinates are under `name` and nowhere else;
* such a query is accepted by the reader of descriptors, and the recipes report `gavs` as missing;
* so of two different scanners that the query can be resolved to, whatever is registered and
  configured, both accept it or report the same parameter, unless it is such a query. -/
theorem map_agree_iff (room : ids.current rule < Fault.maxSequence) :
    ((q.key = "java.annotation" ∨ q.key = "java.method") → ∀ shape shape',
      builtin.supports shape .openRewrite = true → builtin.supports shape' .jdtls = true →
      Agree q (builtin.map shape .openRewrite q rule ids) (builtin.map shape' .jdtls q rule ids)) ∧
    (q.key = "pom.dependency" → ∀ shape shape',
      builtin.supports shape .openRewrite = true → builtin.supports shape' .maven = true →
      (Agree q (builtin.map shape .openRewrite q rule ids) (builtin.map shape' .maven q rule ids) ↔
        ¬ q.NamesCoordinates)) ∧
    (q.NamesCoordinates → ∀ shape shape',
      builtin.supports shape .openRewrite = true → builtin.supports shape' .maven = true →
      builtin.map shape .openRewrite q rule ids = .error (.missingParameter "gavs" q.key) ∧
      ∃ gavs, q.param? "name" = some gavs ∧
        builtin.map shape' .maven q rule ids = .ok (.dependency gavs, ids)) ∧
    ∀ (σ : Type) (o : Outside σ) (kinds kinds' : List ScannerKind)
      (configured configured' : Option ScannerKind) (s s' : Scanner σ),
      (Registry.ofList (kinds.map (Scan.builtin o))).resolve q configured = .ok s →
      (Registry.ofList (kinds'.map (Scan.builtin o))).resolve q configured' = .ok s' →
      s.kind ≠ s'.kind → ∀ shape shape',
      builtin.supports shape s.kind = true → builtin.supports shape' s'.kind = true →
      (Agree q (builtin.map shape s.kind q rule ids) (builtin.map shape' s'.kind q rule ids) ↔
        ¬ q.NamesCoordinates) := by
  refine ⟨fun java shape shape' => agree_java java room,
    fun pom shape shape' => agree_pom_iff pom room,
    fun names shape shape' recipes descriptors => ⟨?_, ?_⟩, ?_⟩
  · obtain ⟨pom, gavs, group, -⟩ := names
    rw [builtin_openRewrite recipes]
    rcases Mapper.demands_recipe_pom pom room with ⟨given, -⟩ | ⟨-, missing⟩
    · simp [gavs, group] at given
    · exact missing
  · rw [builtin_maven descriptors]
    exact Mapper.dependency_of_names names
  · intro σ o kinds kinds' configured configured' s s' resolved resolved' different shape shape'
    exact agree_of_supports different (Registry.supports_of_resolve resolved)
      (Registry.supports_of_resolve resolved') room

/-- A dependency query as a value without a key makes it. -/
def namedDependency : Query := ⟨"pom", "dependency", [("name", "org.acme:core")]⟩

/-- Which of two back ends is configured decides whether the query is accepted. -/
theorem map_agree_iff_sample : ({} : MatchIds).current "r1" < Fault.maxSequence ∧
    builtin.map .dependency .openRewrite namedDependency "r1" {} =
      .error (.missingParameter "gavs" "pom.dependency") ∧
    builtin.map .dependency .maven namedDependency "r1" {} =
      .ok (.dependency "org.acme:core", {}) ∧
    ∃ s s' : Scanner Unit,
      (Registry.ofList ([.maven, .openRewrite].map (Scan.builtin Service.idle))).resolve
        namedDependency (some .openRewrite) = .ok s ∧
      (Registry.ofList ([.maven, .openRewrite].map (Scan.builtin Service.idle))).resolve
        namedDependency (some .maven) = .ok s' ∧
      ¬ Agree namedDependency (builtin.map .dependency s.kind namedDependency "r1" {})
        (builtin.map .dependency s'.kind namedDependency "r1" {}) := by
  have room : ({} : MatchIds).current "r1" < Fault.maxSequence := by decide
  have names : namedDependency.NamesCoordinates := ⟨by decide, rfl, rfl, rfl⟩
  obtain ⟨-, -, apart, resolved⟩ := map_agree_iff (q := namedDependency) room
  obtain ⟨missing, gavs, given, accepted⟩ :=
    apart names .dependency .dependency (by decide) (by decide)
  obtain rfl := Option.some.inj given
  refine ⟨room, missing.trans (by decide), accepted, Scan.builtin Service.idle .openRewrite,
    Scan.builtin Service.idle .maven, rfl, rfl, fun agree => ?_⟩
  exact (resolved Unit Service.idle [.maven, .openRewrite] [.maven, .openRewrite]
    (some .openRewrite) (some .maven) _ _ rfl rfl (by decide) .dependency .dependency (by decide)
    (by decide)).mp agree names

end MapperTable

end Uplift
