import Uplift.Proofs.Entries
import Uplift.Scan.Registry

/-!
# Registries and their history

A registry holds the latest scanner of each kind, in the order in which the kinds first came
(`Holds.ofList`, from `Holds.insert`). No two of its scanners are of one kind, so that a configured
scanner which was passed over has no second of its kind among the others (`resolve_eq`).
`resolve_ofList` says what a query is resolved to, whatever came before.
-/

namespace Uplift.Scan.Registry

variable {σ : Type} {r : Registry σ} {s x : Scanner σ} {ss history : List (Scanner σ)}
  {kind : ScannerKind} {q : Query} {configured : Option ScannerKind}

/-! ## One scanner more -/

theorem find?_insertInto (s : Scanner σ) (ss : List (Scanner σ)) (kind : ScannerKind) :
    (insertInto s ss).find? (·.kind = kind) =
      if s.kind = kind then some s else ss.find? (·.kind = kind) := by
  induction ss with
  | nil => by_cases here : s.kind = kind <;> simp [insertInto, here]
  | cons x ss ih =>
    rw [insertInto]
    by_cases replaced : x.kind = s.kind
    · by_cases here : s.kind = kind
      · simp [replaced, here]
      · simp [replaced, here]
    · rw [if_neg replaced, List.find?_cons, List.find?_cons, ih]
      by_cases here : x.kind = kind
      · have other : ¬ s.kind = kind := fun same => replaced (here.trans same.symm)
        simp [here, other]
      · simp [here]

/-- A scanner of a new kind comes last, and another one of a kind takes the place of the first. -/
theorem kinds_insertInto (s : Scanner σ) (ss : List (Scanner σ)) :
    (insertInto s ss).map (·.kind) =
      if s.kind ∈ ss.map (·.kind) then ss.map (·.kind) else ss.map (·.kind) ++ [s.kind] := by
  induction ss with
  | nil => simp [insertInto]
  | cons x ss ih =>
    rw [insertInto]
    by_cases replaced : x.kind = s.kind
    · simp [replaced]
    · rw [if_neg replaced, List.map_cons, ih, List.map_cons]
      have other : ¬ s.kind = x.kind := fun same => replaced same.symm
      by_cases there : s.kind ∈ ss.map (·.kind)
      · rw [if_pos there, if_pos (List.mem_cons_of_mem _ there)]
      · rw [if_neg there, if_neg (by simpa [other] using there)]
        rfl

/-! ## All that came before -/

/-- The scanner of a kind that came last. -/
def latest (history : List (Scanner σ)) (kind : ScannerKind) : Option (Scanner σ) :=
  history.reverse.find? (·.kind = kind)

/-- The kinds, in the order in which they first came. -/
def firstKinds (history : List (Scanner σ)) : List ScannerKind := (history.map (·.kind)).eraseDups

/-- The latest scanner of each kind, in the order in which the kinds first came. -/
def standing (history : List (Scanner σ)) : List (Scanner σ) :=
  (firstKinds history).filterMap (latest history)

theorem latest_append (history : List (Scanner σ)) (s : Scanner σ) (kind : ScannerKind) :
    latest (history ++ [s]) kind = if s.kind = kind then some s else latest history kind := by
  by_cases here : s.kind = kind <;> simp [latest, here]

theorem firstKinds_append (history : List (Scanner σ)) (s : Scanner σ) :
    firstKinds (history ++ [s]) =
      if s.kind ∈ firstKinds history then firstKinds history
      else firstKinds history ++ [s.kind] := by
  rw [firstKinds, List.map_append, List.map_singleton, Entries.eraseDups_concat, firstKinds]
  simp only [List.mem_eraseDups]

/-- The registry holds the latest scanner of each kind that came, and in the order of the kinds. -/
structure Holds (history : List (Scanner σ)) (r : Registry σ) : Prop where
  kinds : r.kinds = firstKinds history
  distinct : r.kinds.Nodup
  latest : ∀ kind, r.get? kind = latest history kind

theorem Holds.insert (holds : Holds history r) (s : Scanner σ) :
    Holds (history ++ [s]) (r.insert s) := by
  have kinds : (r.insert s).kinds =
      if s.kind ∈ r.kinds then r.kinds else r.kinds ++ [s.kind] := kinds_insertInto s r.scanners
  constructor
  · rw [kinds, firstKinds_append, holds.kinds]
  · rw [kinds]
    split
    · exact holds.distinct
    · rename_i new
      exact holds.distinct.append (List.nodup_singleton _) (by simpa using new)
  · intro kind
    rw [latest_append, ← holds.latest]
    exact find?_insertInto s r.scanners kind

theorem Holds.ofList (history : List (Scanner σ)) : Holds history (ofList history) := by
  induction history using List.reverseRecOn with
  | nil => exact ⟨rfl, List.nodup_nil, fun _ => rfl⟩
  | append_singleton history s ih =>
    have last : Registry.ofList (history ++ [s]) = (Registry.ofList history).insert s := by
      simp [Registry.ofList, List.foldl_append]
    rw [last]
    exact ih.insert s

/-! ## Distinct kinds -/

/-- With distinct kinds each scanner is the one of its kind. -/
theorem get?_of_mem (distinct : r.kinds.Nodup) (member : s ∈ r.scanners) :
    r.get? s.kind = some s := by
  obtain ⟨x, found⟩ : ∃ x, r.get? s.kind = some x :=
    Option.isSome_iff_exists.mp (List.find?_isSome.mpr ⟨s, member, by simp⟩)
  have same : x.kind = s.kind := by simpa using List.find?_some found
  rw [found, List.inj_on_of_nodup_map distinct (List.mem_of_find?_eq_some found) member same]

/-- The scanners are what the registry finds under their kinds. -/
theorem scanners_eq (distinct : r.kinds.Nodup) : r.scanners = r.kinds.filterMap r.get? := by
  have each : ∀ s ∈ r.scanners, (r.get? ∘ Scanner.kind) s = some s := fun s member =>
    get?_of_mem distinct member
  rw [kinds, List.filterMap_map, List.filterMap_congr each, List.filterMap_some]

theorem Holds.scanners_eq (holds : Holds history r) : r.scanners = standing history := by
  rw [Registry.scanners_eq holds.distinct, standing, holds.kinds]
  exact List.filterMap_congr fun kind _ => holds.latest kind

/-! ## Resolution -/

/-- The configured scanner, if it is there and can answer. -/
def chosen (r : Registry σ) (q : Query) (configured : Option ScannerKind) : Option (Scanner σ) :=
  (configured.bind r.get?).filter (·.supports q)

theorem chosen_eq_some_iff : r.chosen q configured = some s ↔
    (∃ kind, configured = some kind ∧ r.get? kind = some s) ∧ s.supports q = true := by
  rw [chosen, Option.filter_eq_some_iff, Option.bind_eq_some_iff]

/-- Where the configured scanner is passed over, it is enough to look for the first that can answer:
no other scanner is of its kind. -/
theorem other?_eq (distinct : r.kinds.Nodup) (passed : r.chosen q configured = none) :
    r.other? q configured = r.scanners.find? (·.supports q) := by
  refine List.find?_congr fun x member => ?_
  by_cases own : some x.kind = configured
  · have incapable : x.supports q = false := by
      by_contra capable
      rw [Bool.not_eq_false] at capable
      have found : r.chosen q configured = some x :=
        chosen_eq_some_iff.mpr ⟨⟨x.kind, own.symm, get?_of_mem distinct member⟩, capable⟩
      rw [passed] at found
      cases found
    simp [incapable]
  · simp [own]

theorem resolve_eq (distinct : r.kinds.Nodup) (q : Query) (configured : Option ScannerKind) :
    r.resolve q configured =
      match (r.chosen q configured).or (r.scanners.find? (·.supports q)) with
      | some s => .ok s
      | none => .error (.noScanner q.text (configured.map r.skipped) r.kinds) := by
  rw [resolve, ← chosen]
  cases passed : r.chosen q configured with
  | some s => rfl
  | none =>
    rw [Option.none_or]
    cases first : r.scanners.find? (·.supports q) <;>
      simp only [other?_eq distinct passed, first]

/-! ## Resolution after a history -/

/-- Why a configured scanner is passed over. -/
def passedOver (history : List (Scanner σ)) (kind : ScannerKind) : Skipped :=
  if kind ∈ firstKinds history then .incapable kind else .unregistered kind

theorem Holds.skipped_eq (holds : Holds history r) (kind : ScannerKind) :
    r.skipped kind = passedOver history kind := by
  have registered : (r.get? kind).isSome = true ↔ kind ∈ firstKinds history := by
    rw [← holds.kinds, get?, List.find?_isSome]
    simp [Registry.kinds]
  rw [skipped, passedOver]
  by_cases there : kind ∈ firstKinds history
  · rw [if_pos there, if_pos (registered.mpr there)]
  · rw [if_neg there, if_neg (registered.not.mpr there)]

/-- The configured scanner is there and can answer. -/
def Serves (history : List (Scanner σ)) (q : Query) (configured : Option ScannerKind)
    (s : Scanner σ) : Prop :=
  (∃ kind, configured = some kind ∧ latest history kind = some s) ∧ s.supports q = true

theorem Holds.serves_iff (holds : Holds history r) :
    Serves history q configured s ↔ r.chosen q configured = some s := by
  simp only [chosen_eq_some_iff, holds.latest, Serves]

theorem Holds.mem_of_serves (holds : Holds history r) (serves : Serves history q configured s) :
    s ∈ standing history := by
  obtain ⟨⟨kind, -, found⟩, -⟩ := serves
  rw [← holds.scanners_eq]
  exact List.mem_of_find?_eq_some ((holds.latest kind).trans found)

/-- A scanner is the first of the other ones that can answer. -/
def First (history : List (Scanner σ)) (q : Query) (configured : Option ScannerKind)
    (s : Scanner σ) : Prop :=
  ∃ before after, standing history = before ++ s :: after ∧ some s.kind ≠ configured ∧
    s.supports q = true ∧ ∀ x ∈ before, x.supports q = false

theorem Holds.first_iff (holds : Holds history r) (passed : r.chosen q configured = none) :
    First history q configured s ↔ (standing history).find? (·.supports q) = some s := by
  rw [List.find?_eq_some_iff_append]
  constructor
  · rintro ⟨before, after, split, -, capable, incapable⟩
    exact ⟨capable, before, after, split, fun x earlier => by simp [incapable x earlier]⟩
  · rintro ⟨capable, before, after, split, incapable⟩
    refine ⟨before, after, split, ?_, capable, fun x earlier => by simpa using incapable x earlier⟩
    -- A scanner of the configured kind that can answer would not have been passed over.
    rintro rfl
    have member : s ∈ r.scanners := by simp [holds.scanners_eq, split]
    have found := chosen_eq_some_iff.mpr ⟨⟨s.kind, rfl, get?_of_mem holds.distinct member⟩, capable⟩
    rw [passed] at found
    cases found

theorem Holds.resolve_eq_ok_iff (holds : Holds history r) :
    r.resolve q configured = .ok s ↔ Serves history q configured s ∨
      (∀ x, ¬ Serves history q configured x) ∧ First history q configured s := by
  simp only [resolve_eq holds.distinct, holds.serves_iff, holds.scanners_eq]
  cases passed : r.chosen q configured with
  | some x => simp
  | none =>
    rw [holds.first_iff passed]
    cases (standing history).find? (·.supports q) <;> simp

theorem Holds.resolve_eq_error_iff (holds : Holds history r) {e : ScanError} :
    r.resolve q configured = .error e ↔ (∀ s ∈ standing history, s.supports q = false) ∧
      e = .noScanner q.text (configured.map (passedOver history)) (firstKinds history) := by
  have why : configured.map r.skipped = configured.map (passedOver history) :=
    Option.map_congr fun kind _ => holds.skipped_eq kind
  rw [resolve_eq holds.distinct, holds.scanners_eq, holds.kinds, why]
  cases picked : r.chosen q configured with
  | some s =>
    have serves := holds.serves_iff.mpr picked
    have capable : ¬ ∀ s ∈ standing history, s.supports q = false := by
      intro incapable
      cases serves.2.symm.trans (incapable s (holds.mem_of_serves serves))
    simp [capable]
  | none =>
    have nothing : (∀ s ∈ standing history, s.supports q = false) ↔
        (standing history).find? (·.supports q) = none := by simp
    rw [nothing, Option.none_or]
    cases (standing history).find? (·.supports q) with
    | some s => simp
    | none => simp [eq_comm]

/-- **What a query is resolved to, whatever came before.** After any history of registrations:

* the kinds are pairwise different and in the order in which they first came, and under each of them
  is the scanner that came last;
* a query is resolved to the configured scanner if that is there and can answer, and otherwise to
  the first of the others that can answer;
* it is not resolved exactly if no scanner can answer, and the error then says of the configured
  scanner whether it is not there or cannot answer. -/
theorem resolve_ofList (history : List (Scanner σ)) :
    (ofList history).kinds = firstKinds history ∧ (firstKinds history).Nodup ∧
    (ofList history).scanners = standing history ∧
    (∀ kind, (ofList history).get kind =
      match latest history kind with
      | some s => .ok s
      | none => .error (.unsupportedScanner kind.id)) ∧
    ∀ (q : Query) (configured : Option ScannerKind),
      (∀ s, (ofList history).resolve q configured = .ok s ↔ Serves history q configured s ∨
        (∀ x, ¬ Serves history q configured x) ∧ First history q configured s) ∧
      (∀ s, (ofList history).resolve q configured = .ok s → s.supports q = true) ∧
      ((∃ e, (ofList history).resolve q configured = .error e) ↔
        ∀ s ∈ standing history, s.supports q = false) ∧
      ∀ e, (ofList history).resolve q configured = .error e →
        e.kind = "NoScannerAvailable" ∧
        match configured with
        | none => e.message = "no scanner available for " ++ q.text ++
            ": no registered scanner supports it " ++ ScanError.listing (firstKinds history)
        | some kind => e.message = "no scanner available for " ++ q.text ++ ": " ++
            (if kind ∈ firstKinds history then
              "configured scanner " ++ kind.id ++ " does not support it"
            else "configured scanner " ++ kind.id ++ " is not registered") ++
            "; no other scanner does " ++ ScanError.listing (firstKinds history) := by
  have holds := Holds.ofList history
  refine ⟨holds.kinds, holds.kinds ▸ holds.distinct, holds.scanners_eq, fun kind => ?_,
    fun q configured => ⟨fun s => holds.resolve_eq_ok_iff, fun s resolved => ?_, ?_,
      fun e failed => ?_⟩⟩
  · cases last : latest history kind <;> simp only [get, holds.latest, last]
  · rcases holds.resolve_eq_ok_iff.mp resolved with serves | ⟨-, first⟩
    · exact serves.2
    · obtain ⟨-, -, -, -, capable, -⟩ := first
      exact capable
  · constructor
    · rintro ⟨e, failed⟩
      exact (holds.resolve_eq_error_iff.mp failed).1
    · intro incapable
      exact ⟨_, holds.resolve_eq_error_iff.mpr ⟨incapable, rfl⟩⟩
  · obtain ⟨-, rfl⟩ := holds.resolve_eq_error_iff.mp failed
    refine ⟨rfl, ?_⟩
    cases configured with
    | none => rfl
    | some kind =>
      dsimp only [Option.map_some]
      rw [passedOver]
      by_cases there : kind ∈ firstKinds history
      · rw [if_pos there, if_pos there]
        rfl
      · rw [if_neg there, if_neg there]
        rfl

/-- A scanner that finds nothing, for the queries of one kind of resource. -/
def finding (kind : ScannerKind) (resource : String) : Scanner Unit where
  kind := kind
  supports q := q.kind = resource
  scan _ _ := pure []

/-- A scanner is replaced by one of its kind that answers other queries. -/
def replacing : List (Scanner Unit) :=
  [finding .maven "pom", finding .file "file", finding .maven "java"]

theorem resolve_ofList_sample :
    (ofList replacing).kinds = [.maven, .file] ∧
    (ofList replacing).resolve ⟨"java", "class", []⟩ (some .maven) = .ok (finding .maven "java") ∧
    (ofList replacing).resolve ⟨"file", "name", []⟩ (some .maven) = .ok (finding .file "file") ∧
    ∃ e, (ofList replacing).resolve ⟨"pom", "dependency", []⟩ (some .jdtls) = .error e ∧
      e.message = "no scanner available for pom.dependency is (): " ++
        "configured scanner jdtls is not registered; no other scanner does " ++
        "(registered: [maven, file])" := by
  obtain ⟨kinds, -, -, -, resolves⟩ := resolve_ofList replacing
  refine ⟨kinds.trans rfl, ?_, ?_, ?_⟩
  · exact ((resolves _ _).1 _).mpr (.inl ⟨⟨.maven, rfl, rfl⟩, rfl⟩)
  · refine ((resolves _ _).1 _).mpr (.inr ⟨?_, [finding .maven "java"], [], rfl, ?_, rfl, ?_⟩)
    · rintro s ⟨⟨kind, same, found⟩, capable⟩
      obtain rfl := Option.some.inj same
      obtain rfl := Option.some.inj found
      exact absurd capable (by decide)
    · decide
    · intro s earlier
      obtain rfl := List.mem_singleton.mp earlier
      decide
  · have incapable : ∀ s ∈ standing replacing, s.supports ⟨"pom", "dependency", []⟩ = false := by
      intro s member
      have either : s ∈ [finding .maven "java", finding .file "file"] := member
      rcases List.mem_pair.mp either with rfl | rfl <;> decide
    obtain ⟨e, failed⟩ := (resolves ⟨"pom", "dependency", []⟩ (some .jdtls)).2.2.1.mpr incapable
    refine ⟨e, failed, ?_⟩
    rw [((resolves _ _).2.2.2 e failed).2]
    decide +kernel

end Uplift.Scan.Registry
