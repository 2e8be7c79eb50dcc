import Uplift.Proofs.Coordinate
import Uplift.Proofs.Entries
import Uplift.Proofs.Scan.Dependencies

/-!
# Ways to ask for dependencies

A coordinate can be asked for in a list, by name, or part by part. The mapper puts the parts
together, the search takes the list apart at its commas, and each item is read as a coordinate.

* `parts_of_writesAll`: a list of coordinates is taken apart into these coordinates.
* `Query.AsksFor`: the queries that ask for one coordinate. Whichever of them it is, the search is
  asked for a text in which the coordinate is written (`GivenBy.exists_coordinates`).
* `scan_congr`: queries whose texts have the same parts are answered alike.
* `coordinates_survive`: all of this, and which texts are coordinates.
-/

namespace Uplift

open Text

namespace Coordinate

/-- The coordinate can stand in a list. -/
def CommaFree (c : Coordinate) : Prop := ∀ s ∈ c.components, ',' ∉ s.toList

/-- The text is a list of the coordinates: each of them written down, with commas between them. -/
def WritesAll (cs : List Coordinate) (gavs : String) : Prop :=
  ∃ texts, List.Forall₂ Writes cs texts ∧ gavs = ",".intercalate texts

theorem writesAll_text (cs : List Coordinate) : WritesAll cs (",".intercalate (cs.map text)) :=
  ⟨cs.map text, List.forall₂_map_right_iff.mpr (List.forall₂_same.mpr fun c _ => c.writes_text),
    rfl⟩

/-- The parameters of a query that asks for the coordinate part by part. -/
def params (c : Coordinate) : List (String × String) :=
  ("groupId", c.group) :: ("artifactId", c.artifact) :: c.version.toList.map ("version", ·)

/-- The parameters of the query give the coordinate: in a list of one, by name, or part by part.
Nothing is said of other parameters, nor of the order in which they stand. -/
inductive GivenBy (c : Coordinate) (q : Query) : Prop
  | list {text} : q.param? "gavs" = some text → c.Writes text → GivenBy c q
  | name {text} : q.param? "gavs" = none → q.param? "name" = some text → c.Writes text → GivenBy c q
  | parts {group artifact} : q.param? "gavs" = none → q.param? "name" = none →
      q.param? "groupId" = some group → WithBlanks c.group.toList group.toList →
      q.param? "artifactId" = some artifact → WithBlanks c.artifact.toList artifact.toList →
      Option.Rel (fun s text => WithBlanks s.toList text.toList) c.version (q.param? "version") →
      GivenBy c q

end Coordinate

/-- The query asks for the dependency with this coordinate. -/
structure Query.AsksFor (q : Query) (c : Coordinate) : Prop where
  dependency : q.asks "pom" "dependency" = true
  given : c.GivenBy q

namespace Coordinate

variable {c : Coordinate} {q : Query} {text : String}

theorem Writes.notMem_comma (writes : c.Writes text) (commaFree : c.CommaFree) :
    ',' ∉ text.toList := by
  obtain ⟨written, around, joined⟩ := writes
  rw [joined]
  intro member
  rcases eq_or_mem_of_mem_intercalate member with colon | ⟨part, among, inPart⟩
  · cases colon
  · obtain ⟨s, component, blanks⟩ := exists_of_mem_left around.flip among
    exact WithBlanks.notMem blanks (by decide) (commaFree s component) inPart

/-- The text that is made of the query is the coordinate written down. -/
theorem GivenBy.exists_coordinates (given : c.GivenBy q) :
    ∃ gavs, Mapper.coordinates q = .ok gavs ∧ c.Writes gavs := by
  unfold Mapper.coordinates
  cases given with
  | list gavs writes =>
    rw [gavs]
    exact ⟨_, rfl, writes⟩
  | name gavs name writes =>
    rw [gavs, name]
    exact ⟨_, rfl, writes⟩
  | @parts g a noList noName group isGroup artifact isArtifact isVersion =>
    rw [noList, noName, group, artifact]
    obtain ⟨group, artifact, version⟩ := c
    generalize q.param? "version" = given at isVersion
    cases isVersion with
    | none =>
      exact ⟨_, rfl, [g.toList, a.toList], .cons isGroup (.cons isArtifact .nil), by
        simp [List.intercalate]⟩
    | @some _ v isVersion =>
      exact ⟨_, rfl, [g.toList, a.toList, v.toList],
        .cons isGroup (.cons isArtifact (.cons isVersion .nil)), by simp [List.intercalate]⟩

theorem givenBy_of_perm {params : List (String × String)} (order : params.Perm c.params) :
    c.GivenBy ⟨"pom", "dependency", params⟩ := by
  have keys : (c.params.map (·.1)).Nodup := by
    cases version : c.version <;> simp [Coordinate.params, version]
  have find (key : String) : (⟨"pom", "dependency", params⟩ : Query).param? key =
      c.params.lookup key := Entries.lookup_of_perm keys order
  have others : c.params.lookup "gavs" = none ∧ c.params.lookup "name" = none := by
    cases version : c.version <;> simp [Coordinate.params, version, List.lookup_cons]
  have version : c.params.lookup "version" = c.version := by
    cases version : c.version <;> simp [Coordinate.params, version, List.lookup_cons]
  refine .parts ((find _).trans others.1) ((find _).trans others.2) (find _) (.refl _) (find _)
    (.refl _) ?_
  rw [find, version]
  cases c.version with
  | none => exact .none
  | some v => exact .some (.refl _)

end Coordinate

namespace Scan.Dependencies

variable {σ : Type} {cs : List Coordinate} {gavs gavs' : String} {q q' : Query} {c : Context}

/-- A list of coordinates is taken apart into these coordinates. -/
theorem parts_of_writesAll (separable : ∀ c ∈ cs, c.Separable) (commaFree : ∀ c ∈ cs, c.CommaFree)
    (writes : Coordinate.WritesAll cs gavs) : parts gavs = cs.map .wanted := by
  obtain ⟨texts, each, rfl⟩ := writes
  have noComma : ∀ part ∈ texts.map String.toList, ',' ∉ part := by
    intro part member
    obtain ⟨text, among, rfl⟩ := List.mem_map.mp member
    obtain ⟨c, asked, written⟩ := exists_of_mem_left each.flip among
    exact Coordinate.Writes.notMem_comma written (commaFree c asked)
  have reads : List.Forall₂ (fun c text => Coordinate.parse? text = some c) cs texts :=
    forall₂_imp_of_mem (fun c asked text written =>
      Coordinate.parse?_eq_some_iff.mpr ⟨separable c asked, written⟩) each
  have solid : ∀ s ∈ texts.map String.toList, (!isBlankText s) = true := by
    intro s member
    obtain ⟨text, among, rfl⟩ := List.mem_map.mp member
    obtain ⟨c, -, read⟩ := exists_of_mem_left reads.flip among
    rw [Coordinate.not_blank_of_parse? read]
    rfl
  cases texts with
  | nil =>
    cases reads
    rfl
  | cons text texts =>
    rw [parts, String.toList_intercalate, show ",".toList = [','] from rfl,
      List.splitOn_intercalate ',' noComma (by simp), List.filter_eq_self.mpr solid, List.map_map]
    refine (map_eq_map_iff.mpr (reads.imp fun c text read => ?_)).symm
    simp [read]

/-- What a list of coordinates is made of decides what the search finds. -/
theorem search_congr {config : ScanConfig} {root : String} (same : parts gavs = parts gavs') :
    search config root gavs = search config root gavs' := by
  funext t
  simp only [search, same]

theorem map_dependency (read : Mapper.coordinates q = .ok gavs) (rule : String) (ids : MatchIds) :
    MapperTable.builtin.map .dependency .maven q rule ids = .ok (.dependency gavs, ids) := by
  have ran : Mapper.dependency.run q rule ids = .ok (.dependency gavs, ids) := by
    rw [Mapper.run, read]
    rfl
  exact ran

/-- What becomes of a query is decided by its route, which its kind and symbol decide. -/
theorem request_cases (mappers : c.mappers = .builtin) (kind symbol : String) :
    (∃ e, ∀ (q : Query) (gavs : String) (w : World σ), q.kind = kind → q.symbol = symbol →
      Mapper.coordinates q = .ok gavs → c.request .maven q w = (.error e, w)) ∨
    ∀ (q : Query) (gavs : String) (w : World σ), q.kind = kind → q.symbol = symbol →
      Mapper.coordinates q = .ok gavs → c.request .maven q w = (.ok (.dependency gavs), w) := by
  cases routed : c.routing.resolve kind symbol with
  | error f =>
    refine .inl ⟨.fault f, fun q gavs w isKind isSymbol _ => ?_⟩
    simp only [Context.request, isKind, isSymbol, routed]
  | ok route =>
    -- Only dependencies have a mapper on this scanner.
    by_cases shape : route.shape = .dependency
    · refine .inr fun q gavs w isKind isSymbol read => ?_
      have mapped : MapperTable.builtin.map .dependency .maven q c.rule w.ids =
          .ok (.dependency gavs, w.ids) := map_dependency read c.rule w.ids
      simp only [Context.request, isKind, isSymbol, routed, mappers, shape, mapped]
    · refine .inl ⟨.fault (.configuration (.noMapper route.shape .maven)),
        fun q gavs w isKind isSymbol _ => ?_⟩
      have unmapped : MapperTable.builtin.map route.shape .maven q c.rule w.ids =
          .error (.configuration (.noMapper route.shape .maven)) := by
        cases other : route.shape with
        | dependency => exact absurd other shape
        | _ => rfl
      simp only [Context.request, isKind, isSymbol, routed, mappers, unmapped]

/-- Queries whose texts have the same parts are answered alike. -/
theorem scan_congr (mappers : c.mappers = .builtin) (kind : q.kind = q'.kind)
    (symbol : q.symbol = q'.symbol) (read : Mapper.coordinates q = .ok gavs)
    (read' : Mapper.coordinates q' = .ok gavs') (same : parts gavs = parts gavs') (w : World σ) :
    scanner.scan c q w = scanner.scan c q' w := by
  change (c.request .maven q >>= _) w = (c.request .maven q' >>= _) w
  rcases request_cases mappers q'.kind q'.symbol with ⟨e, fails⟩ | asks
  · rw [RuleScan.bind_run_error (fails q gavs w kind symbol read),
      RuleScan.bind_run_error (fails q' gavs' w rfl rfl read')]
  · rw [RuleScan.bind_run_ok (asks q gavs w kind symbol read),
      RuleScan.bind_run_ok (asks q' gavs' w rfl rfl read')]
    show (search c.config.scan c.root gavs w.tree, w) =
      (search c.config.scan c.root gavs' w.tree, w)
    rw [search_congr same]

/-- Whichever way the coordinate is asked for, the search is asked for it and for nothing else. -/
theorem exists_parts_of_asksFor {a : Coordinate} (separable : a.Separable) (commaFree : a.CommaFree)
    (asks : q.AsksFor a) : ∃ gavs, Mapper.coordinates q = .ok gavs ∧ parts gavs = [.wanted a] := by
  obtain ⟨gavs, read, writes⟩ := asks.given.exists_coordinates
  have listed : Coordinate.WritesAll [a] gavs :=
    ⟨[gavs], .cons writes .nil, by rw [String.intercalate_singleton]⟩
  refine ⟨gavs, read, parts_of_writesAll ?_ ?_ listed⟩
  · simpa using separable
  · simpa using commaFree

theorem scan_alike {a : Coordinate} (separable : a.Separable) (commaFree : a.CommaFree)
    (mappers : c.mappers = .builtin) (asks : q.AsksFor a) (asks' : q'.AsksFor a) (w : World σ) :
    scanner.scan c q w = scanner.scan c q' w := by
  obtain ⟨gavs, read, taken⟩ := exists_parts_of_asksFor separable commaFree asks
  obtain ⟨gavs', read', taken'⟩ := exists_parts_of_asksFor separable commaFree asks'
  obtain ⟨kind, symbol⟩ : q.kind = "pom" ∧ q.symbol = "dependency" := by
    simpa [Query.asks] using asks.dependency
  obtain ⟨kind', symbol'⟩ : q'.kind = "pom" ∧ q'.symbol = "dependency" := by
    simpa [Query.asks] using asks'.dependency
  exact scan_congr mappers (kind.trans kind'.symm) (symbol.trans symbol'.symm) read read'
    (taken.trans taken'.symm) w

/-- Coordinates that are written in a list, or asked for in any of the ways there are, come to the
search as they are; and a text is read as a coordinate if it has two or three parts, none of them
blank. -/
theorem coordinates_survive :
    (∀ cs : List Coordinate, Coordinate.WritesAll cs (",".intercalate (cs.map Coordinate.text))) ∧
    (∀ (cs : List Coordinate) (gavs : String), (∀ a ∈ cs, a.Separable) → (∀ a ∈ cs, a.CommaFree) →
      Coordinate.WritesAll cs gavs →
      parts gavs = cs.map .wanted ∧ wanted (parts gavs) = cs ∧ sentinels (parts gavs) = []) ∧
    (∀ a : Coordinate, a.Separable → a.CommaFree →
      (∀ params : List (String × String), params.Perm a.params →
        Query.AsksFor ⟨"pom", "dependency", params⟩ a) ∧
      (∀ q : Query, q.AsksFor a → ∃ gavs, parts gavs = [.wanted a] ∧ ∀ rule ids,
        MapperTable.builtin.map .dependency .maven q rule ids = .ok (.dependency gavs, ids)) ∧
      ∀ (q q' : Query) (c : Context) (w : World σ), q.AsksFor a → q'.AsksFor a →
        c.mappers = .builtin → scanner.scan c q w = scanner.scan c q' w) ∧
    ∀ text : String,
      ((∃ a, Coordinate.parse? text = some a) ↔
        ((text.toList.splitOn ':').length = 2 ∨ (text.toList.splitOn ':').length = 3) ∧
          ∀ part ∈ text.toList.splitOn ':', isBlankText part = false) ∧
      ∀ a, Coordinate.parse? text = some a →
        a.Separable ∧ a.Writes text ∧ Coordinate.parse? a.text = some a := by
  refine ⟨Coordinate.writesAll_text, fun cs gavs separable commaFree writes => ?_,
    fun a separable commaFree => ⟨fun params order => ⟨rfl, Coordinate.givenBy_of_perm order⟩,
      fun q asks => ?_, fun q q' c w asks asks' mappers =>
        scan_alike separable commaFree mappers asks asks' w⟩,
    fun text => ⟨Coordinate.exists_parse?_iff, fun a read => ?_⟩⟩
  · have taken := parts_of_writesAll separable commaFree writes
    refine ⟨taken, ?_, ?_⟩
    · simp [taken, wanted, List.filterMap_map]
    · simp [taken, sentinels, List.filterMap_map]
  · obtain ⟨gavs, read, taken⟩ := exists_parts_of_asksFor separable commaFree asks
    exact ⟨gavs, taken, map_dependency read⟩
  · obtain ⟨separable, writes⟩ := Coordinate.parse?_eq_some_iff.mp read
    exact ⟨separable, writes, Coordinate.parse?_text read⟩

/-- Two coordinates in a list with blanks, and one of them asked for in two ways. -/
theorem coordinates_survive_sample :
    let a : Coordinate := ⟨"h", "b", some "1"⟩
    let byParts : Query := ⟨"pom", "dependency", [("version", "1"), ("groupId", "h"),
      ("artifactId", "b")]⟩
    let byName : Query := ⟨"pom", "dependency", [("name", "h :b: 1")]⟩
    a.Separable ∧ a.CommaFree ∧ byParts.AsksFor a ∧ byName.AsksFor a ∧
      pomContext.mappers = .builtin ∧
      parts "g:a,h :b: 1" = [.wanted ⟨"g", "a", none⟩, .wanted a] ∧
      scanner.scan pomContext byParts ⟨pomTree samplePom, {}, ()⟩ =
        scanner.scan pomContext byName ⟨pomTree samplePom, {}, ()⟩ ∧
      Coordinate.parse? "h :b: 1" = some a ∧ Coordinate.parse? a.text = some a := by
  intro a byParts byName
  obtain ⟨-, listed, single, texts⟩ := @coordinates_survive Unit
  let other : Coordinate := ⟨"g", "a", none⟩
  have plain : ∀ s ∈ ["g", "a", "h", "b", "1"], s.toList ≠ [] ∧ ':' ∉ s.toList ∧ ',' ∉ s.toList ∧
      ∀ c ∈ s.toList, isBlank c = false := by simp [isBlank]
  have separable (x : Coordinate) (known : x.components ⊆ ["g", "a", "h", "b", "1"]) :
      x.Separable := by
    intro s component
    obtain ⟨filled, noColon, -, solid⟩ := plain s (known component)
    exact ⟨.of_all filled solid, noColon⟩
  have commaFree (x : Coordinate) (known : x.components ⊆ ["g", "a", "h", "b", "1"]) :
      x.CommaFree := fun s component => (plain s (known component)).2.2.1
  have isKnown : a.components ⊆ ["g", "a", "h", "b", "1"] := by simp [a, Coordinate.components]
  have isKnown' : other.components ⊆ ["g", "a", "h", "b", "1"] := by
    simp [other, Coordinate.components]
  have written : a.Writes "h :b: 1" := by
    refine ⟨[['h', ' '], ['b'], [' ', '1']], .cons ⟨[], [' '], rfl, rfl, ?_⟩
      (.cons ⟨[], [], rfl, rfl, ?_⟩ (.cons ⟨[' '], [], rfl, rfl, ?_⟩ .nil)), ?_⟩ <;>
        simp [a, List.intercalate]
  have inList : Coordinate.WritesAll [other, a] "g:a,h :b: 1" :=
    ⟨["g:a", "h :b: 1"], .cons other.writes_text (.cons written .nil), by decide +kernel⟩
  obtain ⟨byOrder, -, alike⟩ := single a (separable a isKnown) (commaFree a isKnown)
  have asks : byParts.AsksFor a := byOrder _ (by decide)
  have asks' : byName.AsksFor a := ⟨rfl, .name rfl rfl written⟩
  have read : Coordinate.parse? "h :b: 1" = some a :=
    Coordinate.parse?_eq_some_iff.mpr ⟨separable a isKnown, written⟩
  refine ⟨separable a isKnown, commaFree a isKnown, asks, asks', rfl, ?_,
    alike byParts byName pomContext _ asks asks' rfl, read, ((texts _).2 a read).2.2⟩
  refine (listed [other, a] "g:a,h :b: 1" ?_ ?_ inList).1
  · exact List.forall_mem_cons.mpr ⟨separable other isKnown', by simpa using separable a isKnown⟩
  · exact List.forall_mem_cons.mpr ⟨commaFree other isKnown', by simpa using commaFree a isKnown⟩

end Scan.Dependencies

end Uplift
