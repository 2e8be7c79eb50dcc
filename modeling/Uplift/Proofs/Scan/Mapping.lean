import Uplift.Proofs.Query
import Uplift.Proofs.Scan.Faults

/-!
# Queries without a mapper

A service is built only if every route of its table has a mapper. The mapper of a query is looked up
for the scanner that answers it, which need not be the scanner of its route: one may be configured
for all queries, and a scanner that cannot answer is passed over. `Service.scanQuery_noMapper_iff`
says when a service that was built meets a pair without a mapper.
-/

namespace Uplift

theorem SearchRecipe.of?_eq_some {key : String} {t : SearchRecipe} (found : of? key = some t) :
    t ∈ all ∧ t.key = key := by
  have same := List.find?_some (p := fun t : SearchRecipe => decide (t.key = key)) found
  exact ⟨List.mem_of_find?_eq_some found, of_decide_eq_true same⟩

theorem MatchIds.draw_eq_error {ids : MatchIds} {rule : String} {f : Fault}
    (failed : ids.draw rule = .error f) : f = .sequenceExhausted rule := by
  simp only [draw] at failed
  split at failed
  · cases failed
  · exact (Except.error.inj failed).symm

namespace Mapper

/-- The faults of a mapper that runs. -/
def Reports (f : Fault) : Prop :=
  (∃ key query, f = .missingParameter key query) ∨ (∃ rule, f = .sequenceExhausted rule) ∨
    ∃ key, f = .configuration (.noSearchRecipe key)

theorem reports_of_require {q : Query} {key : String} {f : Fault}
    (failed : q.require key = .error f) : Reports f :=
  .inl ⟨key, q.key, (Query.require_eq_error_iff.mp failed).2⟩

theorem reports_of_recipeRequest {q : Query} {rule : String} {ids : MatchIds} {f : Fault}
    (failed : recipeRequest q rule ids = .error f) : Reports f := by
  have drawing {g : String × MatchIds → Request × MatchIds}
      (failed : (ids.draw rule >>= fun drawn => .ok (g drawn)) = .error f) : Reports f := by
    rcases bind_eq_error_iff.mp failed with draw | ⟨drawn, -, none⟩
    · exact .inr (.inl ⟨rule, ids.draw_eq_error draw⟩)
    · cases none
  unfold recipeRequest at failed
  split at failed
  · split at failed
    · dsimp only at failed
      split at failed
      · exact .inl ⟨_, _, (Except.error.inj failed).symm⟩
      · exact drawing failed
    · rcases bind_eq_error_iff.mp failed with name | ⟨name, -, rest⟩
      · exact reports_of_require name
      · exact drawing rest
  · exact .inr (.inr ⟨_, (Except.error.inj failed).symm⟩)

theorem reports_of_coordinates {q : Query} {f : Fault} (failed : coordinates q = .error f) :
    Reports f := by
  unfold coordinates at failed
  split at failed
  · cases failed
  · split at failed
    · cases failed
    · cases failed
    · cases failed
    · exact .inl ⟨_, _, (Except.error.inj failed).symm⟩

/-- A mapper that runs reports a parameter that is missing, a search without a recipe, or that the
match ids are used up. -/
theorem reports_of_run {m : Mapper} {q : Query} {rule : String} {ids : MatchIds} {f : Fault}
    (failed : m.run q rule ids = .error f) : Reports f := by
  cases m with
  | recipe => exact reports_of_recipeRequest failed
  | dependency =>
    rcases bind_eq_error_iff.mp failed with gavs | ⟨gavs, -, none⟩
    · exact reports_of_coordinates gavs
    · cases none
  | symbol | fileName | fileContent =>
    rcases bind_eq_error_iff.mp failed with missing | ⟨value, -, none⟩
    · exact reports_of_require missing
    · cases none

theorem Reports.ne_noMapper {f : Fault} (reports : Reports f) (shape : Shape)
    (kind : ScannerKind) : f ≠ .configuration (.noMapper shape kind) := by
  rcases reports with ⟨key, query, rfl⟩ | ⟨rule, rfl⟩ | ⟨key, rfl⟩ <;> simp

end Mapper

namespace MapperTable

variable {t : MapperTable} {shape shape' : Shape} {kind kind' : ScannerKind}

theorem map_noMapper_iff {q : Query} {rule : String} {ids : MatchIds} :
    t.map shape kind q rule ids = .error (.configuration (.noMapper shape' kind')) ↔
      shape = shape' ∧ kind = kind' ∧ t.supports shape kind = false := by
  unfold map supports
  cases found : t.lookup (shape, kind) with
  | some m => simpa using fun failed => (Mapper.reports_of_run failed).ne_noMapper shape' kind' rfl
  | none => simp

/-- A table is valid for routes if and only if each of them has a mapper. -/
theorem validate_eq_ok_iff {routing : RoutingTable} :
    t.validate routing = .ok () ↔ ∀ r ∈ routing.routes, t.supports r.shape r.scanner = true := by
  unfold validate
  cases unmapped : routing.routes.find? fun r => !t.supports r.shape r.scanner with
  | none => simpa using unmapped
  | some r =>
    have fails := List.find?_some unmapped
    have member := List.mem_of_find?_eq_some unmapped
    simp only [reduceCtorEq, false_iff]
    intro all
    simp [all r member] at fails

end MapperTable

namespace RoutingTable

variable {t : RoutingTable} {kind symbol : String} {route : Route}

/-- The route of a query is the one of its key, or the one for all others. -/
theorem mem_entries_of_resolve (resolved : t.resolve kind symbol = .ok route) :
    (kind ++ "." ++ symbol, route) ∈ t.entries ∨ t.fallback = some route := by
  unfold resolve at resolved
  cases found : t.entries.lookup (kind ++ "." ++ symbol) with
  | some r =>
    simp only [found, Option.some_or, Except.ok.injEq] at resolved
    obtain ⟨before, after, split, -⟩ := List.lookup_eq_some_iff.mp found
    simp [split, resolved]
  | none =>
    cases default : t.fallback with
    | none => simp [found, default] at resolved
    | some r =>
      simp only [found, default, Option.none_or, Except.ok.injEq] at resolved
      exact .inr (congrArg some resolved)

theorem mem_routes_of_resolve (resolved : t.resolve kind symbol = .ok route) :
    route ∈ t.routes := by
  rcases mem_entries_of_resolve resolved with entry | default
  · exact List.mem_append_left _ (List.mem_map_of_mem entry)
  · simp [routes, default]

theorem resolve_ne_noMapper (shape : Shape) (scanner : ScannerKind) :
    t.resolve kind symbol ≠ .error (.configuration (.noMapper shape scanner)) := by
  unfold resolve
  dsimp only
  split <;> simp

end RoutingTable

namespace Scan

variable {σ : Type}

/-- A request cannot be made for want of a mapper exactly if the shape of the query's route has none
on the scanner. -/
theorem Context.request_noMapper_iff {c : Context} {scanner kind : ScannerKind} {shape : Shape}
    {q : Query} {w w' : World σ} :
    c.request scanner q w = (.error (.fault (.configuration (.noMapper shape kind))), w') ↔
      w' = w ∧ scanner = kind ∧ ∃ route, c.routing.resolve q.kind q.symbol = .ok route ∧
        route.shape = shape ∧ c.mappers.supports shape kind = false := by
  unfold request
  cases resolved : c.routing.resolve q.kind q.symbol with
  | error f =>
    constructor
    · intro failed
      have same := ScanError.fault.inj (Except.error.inj (Prod.mk.inj failed).1)
      exact absurd (resolved.trans (congrArg _ same)) (RoutingTable.resolve_ne_noMapper shape kind)
    · rintro ⟨-, -, route, found, -⟩
      cases found
  | ok route =>
    have unmapped : c.mappers.map route.shape scanner q c.rule w.ids =
        .error (.configuration (.noMapper shape kind)) ↔
          route.shape = shape ∧ scanner = kind ∧ c.mappers.supports route.shape scanner = false :=
      MapperTable.map_noMapper_iff
    cases mapped : c.mappers.map route.shape scanner q c.rule w.ids with
    | ok request =>
      simp only [mapped]
      constructor
      · intro failed
        cases (Prod.mk.inj failed).1
      · rintro ⟨-, rfl, _, found, rfl, unsupported⟩
        obtain rfl := Except.ok.inj found
        cases mapped.symm.trans (unmapped.mpr ⟨rfl, rfl, unsupported⟩)
    | error f =>
      rw [mapped] at unmapped
      simp only [mapped]
      constructor
      · intro failed
        obtain ⟨fault, rfl⟩ := Prod.mk.inj failed
        obtain ⟨rfl, rfl, unsupported⟩ :=
          unmapped.mp (congrArg _ (ScanError.fault.inj (Except.error.inj fault)))
        exact ⟨rfl, rfl, route, rfl, rfl, unsupported⟩
      · rintro ⟨rfl, rfl, _, found, rfl, unsupported⟩
        obtain rfl := Except.ok.inj found
        rw [Except.error.inj (unmapped.mpr ⟨rfl, rfl, unsupported⟩)]

namespace Registry

theorem mem_insertInto {s x : Scanner σ} {ss : List (Scanner σ)} (member : x ∈ insertInto s ss) :
    x = s ∨ x ∈ ss := by
  induction ss with
  | nil => exact .inl (List.mem_singleton.mp member)
  | cons y ss ih =>
    unfold insertInto at member
    split at member
    · exact (List.mem_cons.mp member).imp id (List.mem_cons_of_mem _)
    · rcases List.mem_cons.mp member with rfl | later
      · exact .inr (List.mem_cons_self ..)
      · exact (ih later).imp id (List.mem_cons_of_mem _)

/-- The scanners of a registry are those that were put in. -/
theorem mem_ofList {x : Scanner σ} {ss : List (Scanner σ)} (member : x ∈ (ofList ss).scanners) :
    x ∈ ss := by
  -- The registry that the scanners are put into need not be empty, for the induction.
  have inserted : ∀ r : Registry σ, x ∈ (ss.foldl insert r).scanners → x ∈ r.scanners ∨ x ∈ ss := by
    clear member
    intro r member
    induction ss generalizing r with
    | nil => exact .inl member
    | cons s ss ih =>
      rcases ih (r.insert s) member with before | later
      · rcases mem_insertInto before with rfl | old
        · exact .inr (List.mem_cons_self ..)
        · exact .inl old
      · exact .inr (List.mem_cons_of_mem _ later)
  exact (inserted {} member).resolve_left List.not_mem_nil

/-- A scanner that a query is resolved to is in the registry and can answer it. -/
theorem of_resolve {r : Registry σ} {q : Query} {configured : Option ScannerKind} {s : Scanner σ}
    (resolved : r.resolve q configured = .ok s) : s ∈ r.scanners ∧ s.supports q = true := by
  unfold resolve at resolved
  split at resolved
  · next found =>
    obtain rfl := Except.ok.inj resolved
    obtain ⟨bound, serves⟩ := Option.filter_eq_some_iff.mp found
    obtain ⟨kind, -, got⟩ := Option.bind_eq_some_iff.mp bound
    exact ⟨List.mem_of_find?_eq_some got, serves⟩
  · split at resolved
    · next found =>
      obtain rfl := Except.ok.inj resolved
      have serves := List.find?_some found
      simp only [Bool.and_eq_true] at serves
      exact ⟨List.mem_of_find?_eq_some found, serves.2⟩
    · cases resolved

theorem faultless_resolve (r : Registry σ) (q : Query) (configured : Option ScannerKind) :
    Faultless (r.resolve q configured) := by
  unfold resolve
  split
  · exact .ok _
  · split
    · exact .ok _
    · exact .error (by simp)

/-- In a registry of built-in scanners, each is the one of its kind. -/
theorem eq_builtin_of_mem {o : Outside σ} {kinds : List ScannerKind} {s : Scanner σ}
    (member : s ∈ (ofList (kinds.map (builtin o))).scanners) : s = builtin o s.kind := by
  obtain ⟨kind, -, rfl⟩ := List.mem_map.mp (mem_ofList member)
  rw [builtin_kind]

end Registry

/-! ## Services -/

namespace Service

variable {o : Outside σ} {kinds : List ScannerKind} {root : String} {config : Config}
  {mappers : MapperTable} {registry : Registry σ} {s : Service σ} {rule : String} {q : Query}
  {w w' : World σ} {shape : Shape} {kind : ScannerKind}

theorem of_eq_ok_iff : Service.of root config registry mappers = .ok s ↔
    (∀ r ∈ config.routes.routes, mappers.supports r.shape r.scanner = true) ∧
      s = ⟨root, config, registry, mappers⟩ := by
  rw [← MapperTable.validate_eq_ok_iff]
  unfold Service.of
  cases validated : mappers.validate config.routes with
  | error f => simp
  | ok => simp [eq_comm]

/-- A query that has a route and a scanner is the scanner's. -/
theorem scanQuery_eq {route : Route} {scanner : Scanner σ}
    (routed : s.config.routes.resolve q.kind q.symbol = .ok route)
    (resolved : s.registry.resolve q (some (s.config.scan.defaultScanner.getD route.scanner)) =
      .ok scanner) : s.scanQuery rule q w = scanner.scan (s.context rule) q w := by
  simp only [scanQuery, routed]
  have run : (ScanM.ofExcept (s.registry.resolve q
      (some (s.config.scan.defaultScanner.getD route.scanner))) : ScanM σ (Scanner σ)) w =
        (.ok scanner, w) := by
    rw [ScanM.ofExcept, resolved]
  exact RuleScan.bind_run_ok run _

/-- A query fails for want of a mapper only if it has a route and a scanner. -/
theorem exists_scanner_of_noMapper
    (failed :
      s.scanQuery rule q w = (.error (.fault (.configuration (.noMapper shape kind))), w')) :
    ∃ route scanner, s.config.routes.resolve q.kind q.symbol = .ok route ∧
      s.registry.resolve q (some (s.config.scan.defaultScanner.getD route.scanner)) =
        .ok scanner := by
  simp only [scanQuery] at failed
  cases routed : s.config.routes.resolve q.kind q.symbol with
  | error f =>
    rw [routed] at failed
    have same := ScanError.fault.inj (Except.error.inj (Prod.mk.inj failed).1)
    exact absurd (routed.trans (congrArg _ same)) (RoutingTable.resolve_ne_noMapper shape kind)
  | ok route =>
    rw [routed] at failed
    cases resolved : s.registry.resolve q
        (some (s.config.scan.defaultScanner.getD route.scanner)) with
    | ok scanner => exact ⟨route, scanner, rfl, resolved⟩
    | error e =>
      have run : (ScanM.ofExcept (s.registry.resolve q
          (some (s.config.scan.defaultScanner.getD route.scanner))) : ScanM σ (Scanner σ)) w =
            (.error e, w) := by
        rw [ScanM.ofExcept, resolved]
      have same := (Prod.mk.inj ((RuleScan.bind_run_error run _).symm.trans failed)).1
      exact absurd (resolved.trans (congrArg _ (Except.error.inj same)))
        (s.registry.faultless_resolve q _ _)

/-- When a service with built-in scanners, built because every route of its table has a mapper,
still meets a query without one: the query is answered by another scanner than its route's, and the
shape of the route has no mapper there. Nothing is asked or changed then. -/
theorem scanQuery_noMapper_iff
    (built : Service.of root config (.ofList (kinds.map (builtin o))) .builtin = .ok s) :
    s.scanQuery rule q w = (.error (.fault (.configuration (.noMapper shape kind))), w') ↔
      w' = w ∧ ∃ route scanner, config.routes.resolve q.kind q.symbol = .ok route ∧
        route.shape = shape ∧
        (Registry.ofList (kinds.map (builtin o))).resolve q
          (some (config.scan.defaultScanner.getD route.scanner)) = .ok scanner ∧
        scanner.kind = kind ∧ kind ≠ route.scanner ∧
        MapperTable.builtin.supports shape kind = false := by
  obtain ⟨valid, rfl⟩ := of_eq_ok_iff.mp built
  -- A scanner of the registry has no such fault of its own: it comes from the request.
  have scanned {route : Route} {scanner : Scanner σ}
      (resolved : (Registry.ofList (kinds.map (builtin o))).resolve q
        (some (config.scan.defaultScanner.getD route.scanner)) = .ok scanner) (c : Context) :
      scanner.scan c q w = (.error (.fault (.configuration (.noMapper shape kind))), w') ↔
        c.request scanner.kind q w =
          (.error (.fault (.configuration (.noMapper shape kind))), w') := by
    have member := (Registry.of_resolve resolved).1
    rw [Registry.eq_builtin_of_mem member, builtin_kind]
    exact builtin_scan_fault_iff o scanner.kind c q
  constructor
  · intro failed
    obtain ⟨route, scanner, routed, resolved⟩ := exists_scanner_of_noMapper failed
    rw [scanQuery_eq routed resolved, scanned resolved, Context.request_noMapper_iff] at failed
    obtain ⟨rfl, sameKind, route', routed', rfl, unsupported⟩ := failed
    obtain rfl := Except.ok.inj (routed.symm.trans routed')
    refine ⟨rfl, route, scanner, routed, rfl, resolved, sameKind, ?_, unsupported⟩
    -- The route's own scanner was looked at when the service was built.
    rintro rfl
    have supported := valid route (RoutingTable.mem_routes_of_resolve routed)
    cases supported.symm.trans unsupported
  · rintro ⟨rfl, route, scanner, routed, rfl, resolved, sameKind, -, unsupported⟩
    rw [scanQuery_eq routed resolved, scanned resolved, Context.request_noMapper_iff]
    exact ⟨rfl, sameKind, route, routed, rfl, unsupported⟩

/-- A configuration that sends annotations to the symbol server. -/
def symbolRouted : Config where
  routing := some { entries := [("java.annotation", ⟨.jdtls, .symbol, "annotations by symbol"⟩)] }

/-- Programs that cannot be started. -/
def idle : Outside Unit where
  run _ tree outside := (.error (.spawn "not found"), tree, outside)
  ask _ _ outside := (.error .noCommand, outside)

/-- Without a symbol server, the search by recipe answers the query. -/
theorem scanQuery_noMapper_sample :
    ∃ s, Service.of "app" symbolRouted
        (.ofList ([.maven, .file, .openRewrite].map (builtin idle))) .builtin = .ok s ∧
      s.scanQuery "r1" ⟨"java", "annotation", [("name", "org.acme.Entity")]⟩ ⟨{}, {}, ()⟩ =
        (.error (.fault (.configuration (.noMapper .symbol .openRewrite))), ⟨{}, {}, ()⟩) := by
  let kinds : List ScannerKind := [.maven, .file, .openRewrite]
  let registry := Registry.ofList (kinds.map (builtin idle))
  have built : Service.of "app" symbolRouted registry .builtin =
      .ok ⟨"app", symbolRouted, registry, .builtin⟩ := of_eq_ok_iff.mpr ⟨by decide, rfl⟩
  refine ⟨_, built, (scanQuery_noMapper_iff built).mpr ⟨rfl, ?_⟩⟩
  exact ⟨⟨.jdtls, .symbol, "annotations by symbol"⟩, builtin idle .openRewrite, rfl, rfl, rfl, rfl,
    by decide, by decide⟩

/-! ## The routes that are built in -/

theorem java_key_ne {symbol key : String} (other : key.toList.head? ≠ some 'j') :
    "java" ++ "." ++ symbol ≠ key := by
  rintro rfl
  exact other (by simp)

/-- Whatever scanner can answer a query has a mapper for the shape of its built-in route. -/
theorem supports_of_builtin_route {route : Route}
    (routed : RoutingTable.builtin.resolve q.kind q.symbol = .ok route)
    (serves : (builtin o kind).supports q = true) :
    MapperTable.builtin.supports route.shape kind = true := by
  obtain ⟨resource, symbol, params⟩ := q
  -- The queries that each scanner serves, and the built-in route of each.
  cases kind with
  | maven =>
    obtain ⟨rfl, rfl⟩ : resource = "pom" ∧ symbol = "dependency" := by
      simpa [builtin, Dependencies.scanner, Query.asks] using serves
    obtain rfl := Except.ok.inj routed
    decide
  | file =>
    have either :
        (resource = "file" ∧ symbol = "name") ∨ resource = "file" ∧ symbol = "content" := by
      simpa [builtin, FileSearch.scanner, FileSearch.scannerWith, Query.asks] using serves
    rcases either with ⟨rfl, rfl⟩ | ⟨rfl, rfl⟩ <;>
    · obtain rfl := Except.ok.inj routed
      decide
  | jdtls =>
    obtain rfl : resource = "java" := by simpa [builtin, SymbolSearch.scanner] using serves
    rcases RoutingTable.mem_entries_of_resolve routed with entry | default
    · simp only [RoutingTable.builtin, List.mem_cons, Prod.mk.injEq, List.not_mem_nil,
        or_false] at entry
      rcases entry with ⟨-, rfl⟩ | ⟨-, rfl⟩ | ⟨-, rfl⟩ | ⟨key, -⟩ | ⟨key, -⟩ | ⟨key, -⟩
      · decide
      · decide
      · decide
      · exact absurd key (java_key_ne (by decide))
      · exact absurd key (java_key_ne (by decide))
      · exact absurd key (java_key_ne (by decide))
    · obtain rfl := Option.some.inj default
      decide
  | openRewrite =>
    obtain ⟨recipe, found⟩ := Option.isSome_iff_exists.mp serves
    obtain ⟨member, key⟩ := SearchRecipe.of?_eq_some found
    have spelled : resource ++ "." ++ symbol = recipe.key := key.symm
    unfold RoutingTable.resolve at routed
    dsimp only at routed
    rw [spelled] at routed
    -- Its key alone tells the route, and there are three recipes.
    simp only [SearchRecipe.all, List.mem_cons, List.not_mem_nil, or_false] at member
    rcases member with rfl | rfl | rfl <;>
    · obtain rfl := Except.ok.inj routed
      decide

/-- With the routes that are built in, no query fails for want of a mapper, whatever scanners there
are and whichever is configured. -/
theorem scanQuery_ne_noMapper (routes : config.routing = none)
    (built : Service.of root config (.ofList (kinds.map (builtin o))) .builtin = .ok s) :
    s.scanQuery rule q w ≠ (.error (.fault (.configuration (.noMapper shape kind))), w') := by
  intro failed
  obtain ⟨-, route, scanner, routed, rfl, resolved, rfl, -, unsupported⟩ :=
    (scanQuery_noMapper_iff built).mp failed
  obtain ⟨member, serves⟩ := Registry.of_resolve resolved
  rw [Registry.eq_builtin_of_mem member] at serves
  rw [Config.routes, routes] at routed
  cases (supports_of_builtin_route routed serves).symm.trans unsupported

end Service

end Scan

end Uplift
