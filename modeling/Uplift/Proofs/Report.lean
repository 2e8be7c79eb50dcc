import Uplift.Proofs.Entries
import Uplift.Proofs.Instant
import Uplift.Proofs.Json.RoundTrip
import Uplift.Proofs.Transform
import Uplift.Proofs.Value.Records
import Uplift.Report

/-!
# Reports, written and read

A report comes back from its text (`Report.ofJson_toJson`). For each part of a report there are two
lemmas: what is written of it is a value that JSON has (`plain`), and it is read as it was
(`decode_encode`), a field that is left out included. A part need only fit the fields that it is
read into (`Fits`). What does not fit is a leap second that is not the end of a minute; and the
tasks keep the order of their keys, whatever rules they are of (`Report.ofJson_toJson_exceptions`).
-/

namespace Uplift

open Json (Plain)

variable {f : Format}

/-! ## Rules -/

namespace AiInstruction

theorem decode_encode (i : AiInstruction) : decode f i.encode = some i := by
  unfold decode encode
  rw [Record.of?_record f (by simp) (by simp)]
  simp

theorem plain (i : AiInstruction) : Plain 2 i.encode :=
  .record (by simp [Plain.strings])

end AiInstruction

namespace RecipeInstruction

/-- The documents of a recipe are such as JSON has, and no mapping in them has a key twice. -/
def Fits (i : RecipeInstruction) : Prop :=
  ∀ v ∈ i.preconditions ++ i.recipeList, Plain 100 v ∧ Decoder.hasDistinctKeys v = true

variable {i : RecipeInstruction}

theorem decode_encode (fits : i.Fits) : decode f i.encode = some i := by
  have documents (vs : List Value) (part : ∀ v ∈ vs, v ∈ i.preconditions ++ i.recipeList) :
      Decoder.list f Decoder.document (.seq vs) = some vs := by
    have read : Decoder.list f Decoder.document (.seq (vs.map id)) = some vs :=
      Decoder.list_map f fun v member => if_pos (fits v (part v member)).2
    rwa [List.map_id] at read
  unfold decode encode
  rw [Record.of?_record f (by simp) (by simp)]
  simp [documents i.preconditions (by simp +contextual),
    documents i.recipeList (by simp +contextual)]

theorem plain (fits : i.Fits) : Plain 102 i.encode := by
  have documents (vs : List Value) (part : ∀ v ∈ vs, v ∈ i.preconditions ++ i.recipeList) :
      Plain 101 (.seq vs) := .seq fun v member => (fits v (part v member)).1
  refine .record ?_
  simp [Plain.strings, documents i.preconditions (by simp +contextual),
    documents i.recipeList (by simp +contextual)]

end RecipeInstruction

namespace Rule

variable {α : Type} {item : Decoder α} {enc : α → Value} {xs : List α} {name key : String}
  {rest : List (String × Value)} {items : List Value} {fallback : α}

theorem withDefault_listField_ne (other : name ≠ key) :
    Record.withDefault ⟨listField key items ++ rest⟩ name fallback item =
      Record.withDefault ⟨rest⟩ name fallback item := by
  unfold listField
  split
  · rfl
  · simp [other]

/-- A list that is left out if it is empty is read all the same. -/
theorem withDefault_listField (each : ∀ x ∈ xs, item (enc x) = some x)
    (absent : Record.withDefault ⟨rest⟩ name [] (Decoder.list f item) = some []) :
    Record.withDefault ⟨listField name (xs.map enc) ++ rest⟩ name [] (Decoder.list f item) =
      some xs := by
  cases xs with
  | nil => exact absent
  | cons x xs =>
    show Record.withDefault ⟨(name, .seq ((x :: xs).map enc)) :: rest⟩ name [] _ = _
    rw [Record.withDefault_cons, if_pos rfl, Decoder.list_map f each]

end Rule

namespace Instructions

def Fits (i : Instructions) : Prop := ∀ r ∈ i.openRewrite, r.Fits

variable {i : Instructions}

theorem decodeTodo_encode (t : String) : decodeTodo f (.record [("todo", .str t)]) = some t := by
  unfold decodeTodo
  rw [Record.of?_record f (by simp) (by simp)]
  simp

theorem decode_encode (fits : i.Fits) : decode f i.encode = some i := by
  obtain ⟨ai, openRewrite, manual⟩ := i
  let fields := Rule.listField "ai" (ai.map AiInstruction.encode) ++
    (Rule.listField "openrewrite" (openRewrite.map RecipeInstruction.encode) ++
      (Rule.listField "manual" (manual.map fun t => .record [("todo", .str t)]) ++ []))
  have written : Instructions.encode ⟨ai, openRewrite, manual⟩ = .record fields := by
    simp [encode, fields]
  have read : Record.of? f ["ai", "openrewrite", "manual"] (.record fields) = some ⟨fields⟩ := by
    refine Record.of?_record f ?_ ?_
    all_goals
      simp only [fields, Rule.listField]
      split <;> split <;> split <;> simp
  have first : Record.withDefault ⟨fields⟩ "ai" [] (Decoder.list f (AiInstruction.decode f)) =
      some ai :=
    Rule.withDefault_listField (fun i _ => i.decode_encode) (by
      rw [Rule.withDefault_listField_ne (by decide), Rule.withDefault_listField_ne (by decide)]
      rfl)
  have second : Record.withDefault ⟨fields⟩ "openrewrite" []
      (Decoder.list f (RecipeInstruction.decode f)) = some openRewrite := by
    rw [Rule.withDefault_listField_ne (by decide)]
    refine Rule.withDefault_listField (fun i member => i.decode_encode (fits i member)) ?_
    rw [Rule.withDefault_listField_ne (by decide)]
    rfl
  have third : Record.withDefault ⟨fields⟩ "manual" [] (Decoder.list f (decodeTodo f)) =
      some manual := by
    rw [Rule.withDefault_listField_ne (by decide), Rule.withDefault_listField_ne (by decide)]
    exact Rule.withDefault_listField (fun t _ => decodeTodo_encode t) (by simp)
  unfold decode
  rw [written, read]
  simp [first, second, third]

theorem plain (fits : i.Fits) : Plain 104 i.encode := by
  have listed {name : String} {items : List Value} (each : ∀ v ∈ items, Plain 102 v) :
      ∀ f ∈ Rule.listField name items, Plain 103 f.2 := by
    unfold Rule.listField
    split
    · simp
    · simpa using Plain.seq each
  refine .record ?_
  rw [List.forall_mem_append, List.forall_mem_append]
  refine ⟨⟨listed ?_, listed ?_⟩, listed ?_⟩
  · intro v member
    obtain ⟨a, -, rfl⟩ := List.mem_map.mp member
    exact a.plain.mono (by decide)
  · intro v member
    obtain ⟨r, there, rfl⟩ := List.mem_map.mp member
    exact RecipeInstruction.plain (fits r there)
  · intro v member
    obtain ⟨t, -, rfl⟩ := List.mem_map.mp member
    exact .record (by simp)

end Instructions

namespace Precondition

theorem decode_encode (p : Precondition) : decode f p.encode = some p := by
  unfold decode encode
  rw [Record.of?_record f (by simp) (by simp)]
  simp

end Precondition

namespace Rule

/-- The numbers of a rule are in the ranges of their fields. -/
structure Fits (r : Rule) : Prop where
  order : -2147483648 ≤ r.order ∧ r.order ≤ 2147483647
  effort : r.effort ≤ 4294967295
  instructions : r.instructions.Fits

variable {r : Rule}

theorem decodeWhen_encode (c : String) :
    decodeWhen f (.record [("condition", .str c)]) = some c := by
  unfold decodeWhen
  rw [Record.of?_record f (by simp) (by simp)]
  simp

theorem decode_encode (fits : r.Fits) : decode f r.encode = some r := by
  obtain ⟨id, order, category, effort, labels, description, precondition, condition,
    instructions⟩ := r
  have orderRead : Decoder.int32 (.int order) = some order := Decoder.intWithin_int fits.order
  have effortRead : Decoder.nat32 (.int effort) = some effort := Decoder.nat32_int fits.effort
  have instructionsRead := Instructions.decode_encode (f := f) fits.instructions
  cases precondition with
  | none =>
    unfold decode encode
    rw [Record.of?_record f (by simp) (by simp)]
    simp [orderRead, effortRead, decodeWhen_encode, instructionsRead]
  | some p =>
    have preconditionRead := p.decode_encode (f := f)
    have given : Decoder.nullable (Precondition.decode f) p.encode = some (some p) :=
      congrArg (Option.map some) preconditionRead
    unfold decode encode
    rw [Record.of?_record f (by simp) (by simp)]
    simp [orderRead, effortRead, decodeWhen_encode, instructionsRead, given]

theorem plain (fits : r.Fits) : Plain 105 r.encode := by
  have order := fits.order
  have effort := fits.effort
  have orderPlain : Plain 104 (.int r.order) := .int (by omega) (by omega)
  have effortPlain : Plain 104 (.int r.effort) := .int (by omega) (by omega)
  have conditionPlain : Plain 104 (.record [("condition", .str r.condition)]) := .record (by simp)
  refine .record ?_
  cases r.precondition with
  | none =>
    simp [orderPlain, effortPlain, conditionPlain, Plain.strings,
      Instructions.plain fits.instructions]
  | some p =>
    have preconditionPlain : Plain 104 p.encode := .record (by simp)
    simp [orderPlain, effortPlain, conditionPlain, preconditionPlain, Plain.strings,
      Instructions.plain fits.instructions]

end Rule

/-! ## Matches -/

/-- A number that fits 32 bits. -/
def Small (n : Nat) : Prop := n ≤ 4294967295

theorem Small.plain {n depth : Nat} (small : Small n) : Plain depth (.int n) := by
  unfold Small at small
  exact .int (by omega) (by omega)

theorem Decoder.partition_tag {tag : Value} {entries : List (Value × Value)}
    (untagged : ∀ e ∈ entries, e.1 ≠ .str "type") :
    List.partition (fun (k, _) => decide (k = .str "type")) ((.str "type", tag) :: entries) =
      ([(.str "type", tag)], entries) := by
  rw [List.partition_eq_filter_filter, List.filter_cons_of_pos (by simp),
    List.filter_cons_of_neg (by simp), List.filter_eq_nil_iff.mpr fun e member => by
      simp [untagged e member], List.filter_eq_self.mpr fun e member => by simp [untagged e member]]

/-- What a tag stands before is told apart from it. -/
theorem Decoder.tagged?_record {tag : String} {fields : List (String × Value)}
    (untagged : "type" ∉ fields.map Prod.fst) :
    tagged? (.record (("type", .str tag) :: fields)) = some (tag, .record fields) := by
  have other : ∀ e ∈ Json.entriesOf fields, e.1 ≠ .str "type" := by
    intro e member same
    obtain ⟨field, there, rfl⟩ := List.mem_map.mp member
    exact untagged (List.mem_map.mpr ⟨field, there, Value.str.inj same⟩)
  have whole : Value.record (("type", .str tag) :: fields) =
      .map ((.str "type", .str tag) :: Json.entriesOf fields) := rfl
  rw [whole, tagged?, partition_tag other]
  rfl

theorem SymbolMatch.decode_fields {s : SymbolMatch} (kind : Small s.kind) (line : Small s.line) :
    SymbolMatch.decode (.record s.fields) = some s := by
  obtain ⟨name, kindNumber, uri, lineNumber, container⟩ := s
  have kindRead : Decoder.nat32 (.int kindNumber) = some kindNumber := Decoder.nat32_int kind
  have lineRead : Decoder.nat32 (.int lineNumber) = some lineNumber := Decoder.nat32_int line
  cases container with
  | none | some c =>
    unfold decode fields
    rw [Record.of?_record .json (by simp) (by simp)]
    simp [kindRead, lineRead]

theorem TableRow.list_columns (columns : List (String × String)) :
    Decoder.list .json (Decoder.pair Decoder.text Decoder.text)
      (.seq (columns.map fun (h, v) => .seq [.str h, .str v])) = some columns :=
  Decoder.list_map .json fun _ _ => rfl

theorem TableRow.plain_columns (columns : List (String × String)) :
    Plain 2 (.seq (columns.map fun (h, v) => .seq [.str h, .str v])) := by
  refine .seq fun v member => ?_
  obtain ⟨column, -, rfl⟩ := List.mem_map.mp member
  exact .seq (by simp)

theorem TableRow.decode_fields (r : TableRow) : TableRow.decode (.record r.fields) = some r := by
  unfold decode fields
  rw [Record.of?_record .json (by simp) (by simp)]
  simp [TableRow.list_columns]

theorem Coordinate.decode_fields (c : Coordinate) :
    Coordinate.decode (.record c.fields) = some c := by
  obtain ⟨group, artifact, version⟩ := c
  cases version with
  | none | some v =>
    unfold decode fields
    rw [Record.of?_record .json (by simp) (by simp)]
    simp

theorem Location.decode_fields {l : Location} (line : Small l.line) (column : Small l.column) :
    Location.decode (.record l.fields) = some l := by
  have lineRead : Decoder.nat32 (.int l.line) = some l.line := Decoder.nat32_int line
  have columnRead : Decoder.nat32 (.int l.column) = some l.column := Decoder.nat32_int column
  unfold decode fields
  rw [Record.of?_record .json (by simp) (by simp)]
  simp [lineRead, columnRead]

namespace Finding

/-- The numbers of a finding are in the ranges of their fields. -/
def Fits : Finding → Prop
  | .symbol s => Small s.kind ∧ Small s.line
  | .location l => Small l.line ∧ Small l.column
  | .row _ | .dependency _ => True

variable {x : Finding}

theorem decode_encode (fits : x.Fits) : decode x.encode = some x := by
  cases x with
  | symbol s =>
    have untagged : "type" ∉ s.fields.map Prod.fst := by
      unfold SymbolMatch.fields
      cases s.container <;> simp
    rw [encode, decode, Decoder.tagged?_record untagged]
    show (SymbolMatch.decode (.record s.fields)).map Finding.symbol = _
    rw [SymbolMatch.decode_fields fits.1 fits.2]
    rfl
  | row r =>
    have untagged : "type" ∉ r.fields.map Prod.fst := by simp [TableRow.fields]
    rw [encode, decode, Decoder.tagged?_record untagged]
    show (TableRow.decode (.record r.fields)).map Finding.row = _
    rw [TableRow.decode_fields]
    rfl
  | dependency c =>
    have untagged : "type" ∉ c.fields.map Prod.fst := by
      unfold Coordinate.fields
      cases c.version <;> simp
    rw [encode, decode, Decoder.tagged?_record untagged]
    show (Coordinate.decode (.record c.fields)).map Finding.dependency = _
    rw [Coordinate.decode_fields]
    rfl
  | location l =>
    have untagged : "type" ∉ l.fields.map Prod.fst := by simp [Location.fields]
    rw [encode, decode, Decoder.tagged?_record untagged]
    show (Location.decode (.record l.fields)).map Finding.location = _
    rw [Location.decode_fields fits.1 fits.2]
    rfl

theorem plain (fits : x.Fits) : Plain 3 x.encode := by
  cases x with
  | symbol s =>
    refine .record ?_
    unfold SymbolMatch.fields
    cases s.container <;> simp [fits.1.plain, fits.2.plain]
  | row r =>
    refine .record ?_
    simp [TableRow.fields, TableRow.plain_columns]
  | dependency c =>
    refine .record ?_
    unfold Coordinate.fields
    cases c.version <;> simp
  | location l =>
    refine .record ?_
    simp [Location.fields, fits.1.plain, fits.2.plain]

end Finding

namespace Match

variable {m : Match}

theorem decode_encode (fits : m.finding.Fits) : decode m.encode = some m := by
  have scanner : ∀ k : ScannerKind, Decoder.name ScannerKind.ofId? (.str k.id) = some k := by
    intro k
    cases k <;> decide
  unfold decode encode
  rw [Record.of?_record .json (by simp) (by simp)]
  simp [scanner, Finding.decode_encode fits]

theorem plain (fits : m.finding.Fits) : Plain 4 m.encode :=
  .record (by simp [Finding.plain fits])

end Match

/-! ## Tasks -/

namespace Outcome

theorem decode_encode (o : Outcome) : decode o.encode = some o := by
  obtain ⟨success, message, details, error⟩ := o
  cases error with
  | none | some e =>
    unfold decode encode
    rw [Record.of?_record .json (by simp) (by simp)]
    simp

theorem plain (o : Outcome) : Plain 2 o.encode := by
  refine .record ?_
  cases o.error <;> simp [Plain.strings]

end Outcome

namespace Task

structure Fits (t : Task) : Prop where
  rule : t.rule.Fits
  found : ∀ m ∈ t.found, m.finding.Fits

variable {t : Task}

theorem decode_encode (fits : t.Fits) : decode t.encode = some t := by
  obtain ⟨rule, provider, found, precondition, result⟩ := t
  have ruleRead := Rule.decode_encode (f := .json) fits.rule
  have providerRead : ∀ k : ProviderKind, Decoder.name ProviderKind.ofId? (.str k.id) = some k := by
    intro k
    cases k <;> decide
  have statusRead : ∀ s : PreconditionStatus,
      Decoder.name PreconditionStatus.ofId? (.str s.id) = some s := by
    intro s
    cases s <;> decide
  have foundRead : Decoder.list .json Match.decode (.seq (found.map Match.encode)) = some found :=
    Decoder.list_map .json fun m member => Match.decode_encode (fits.found m member)
  cases result with
  | none =>
    unfold decode encode
    rw [Record.of?_record .json (by simp) (by simp)]
    simp [ruleRead, providerRead, statusRead, foundRead]
  | some o =>
    have given : Decoder.nullable Outcome.decode o.encode = some (some o) :=
      congrArg (Option.map some) o.decode_encode
    unfold decode encode
    rw [Record.of?_record .json (by simp) (by simp)]
    simp [ruleRead, providerRead, statusRead, foundRead, given]

theorem plain (fits : t.Fits) : Plain 106 t.encode := by
  have found : Plain 105 (.seq (t.found.map Match.encode)) := by
    refine .seq fun v member => ?_
    obtain ⟨m, there, rfl⟩ := List.mem_map.mp member
    exact (Match.plain (fits.found m there)).mono (by decide)
  refine .record ?_
  cases t.result with
  | none => simp [Rule.plain fits.rule, found]
  | some o => simp [Rule.plain fits.rule, found, o.plain.mono (by decide : 2 ≤ 105)]

end Task

/-! ## Reports -/

namespace Report

/-- The tasks are in the order of their keys, and everything in the report fits its field. -/
structure Fits (r : Report) : Prop where
  timestamp : r.timestamp.Valid
  sorted : Sorted r.tasks
  tasks : ∀ e ∈ r.tasks, e.2.Fits

variable {r : Report} {id : String} {t : Task} {ts : List (String × Task)}

/-- A task after all others is put at the end. -/
theorem insertTask_last (after : ∀ e ∈ ts, e.1 < id) : insertTask id t ts = ts ++ [(id, t)] := by
  induction ts with
  | nil => rfl
  | cons e ts ih =>
    obtain ⟨first, rest⟩ := List.forall_mem_cons.mp after
    obtain ⟨k, u⟩ := e
    rw [insertTask, if_neg first.ne', if_neg first.not_gt, ih rest, List.cons_append]

/-- Tasks in the order of their keys are put in as they are. -/
theorem foldl_insertTask (sorted : Sorted ts) :
    ts.foldl (fun acc (id, t) => insertTask id t acc) [] = ts := by
  refine Entries.foldl_put (R := fun a b : String × Task => a.1 < b.1) ?_ sorted
  intro before e earlier
  exact insertTask_last earlier

theorem decode_encode (fits : r.Fits) : decode r.encode = some r := by
  have time := Instant.parse?_text fits.timestamp
  have tasks : Decoder.entries Task.decode (.record (r.tasks.map fun (id, t) => (id, t.encode))) =
      some r.tasks :=
    Decoder.entries_record fun e member => Task.decode_encode (fits.tasks e member)
  unfold decode encode
  rw [Record.of?_record .json (by simp) (by simp)]
  simp [time, tasks, foldl_insertTask fits.sorted]

theorem plain (fits : r.Fits) : Plain 108 r.encode := by
  have tasks : Plain 107 (.record (r.tasks.map fun (id, t) => (id, t.encode))) := by
    refine .record fun f member => ?_
    obtain ⟨e, there, rfl⟩ := List.mem_map.mp member
    exact Task.plain (fits.tasks e there)
  exact .record (by simp [tasks])

theorem toJson_eq (fits : r.Fits) : r.toJson = .ok (Json.pretty r.encode) :=
  if_pos (plain fits).hasForm

theorem ofJson_pretty (fits : r.Fits) : ofJson (Json.pretty r.encode) = .ok r := by
  unfold ofJson
  rw [Json.parse?_pretty ((plain fits).mono (by decide)), Option.bind_some, decode_encode fits]

/-- **A report comes back from its text.** -/
theorem ofJson_toJson (fits : r.Fits) : ∃ text, r.toJson = .ok text ∧ ofJson text = .ok r :=
  ⟨_, toJson_eq fits, ofJson_pretty fits⟩

/-- A recipe's documents, nested, with a key that is a number's text. -/
def sampleRecipeSteps : List Value :=
  [.str "org.example.Step",
    .record [("org.example.Change", .record [("1", .seq [.null, .bool true, .int (-7)])])]]

/-- A task with findings of each kind, and nothing left out. -/
def fullTask : Task where
  rule :=
    { id := "a", order := -1, category := "potential", effort := 4294967295, labels := ["x=y"],
      description := "\"quoted\"\n", precondition := some ⟨"file.name", "pom.xml"⟩,
      condition := "pom.dependency is (gavs='g:a')",
      instructions :=
        { ai := [⟨"", []⟩]
          openRewrite := [⟨"n", "d", [], [.record []], sampleRecipeSteps⟩]
          manual := ["look"] } }
  provider := .ai
  found := [⟨"s", .jdtls, .symbol ⟨"C", 5, "file:///C.java", 0, some "p"⟩⟩,
    ⟨"s", .openRewrite, .row ⟨"a-1", [("h", "1"), ("h", "2")]⟩⟩,
    ⟨"s", .maven, .dependency ⟨"g", "a", none⟩⟩,
    ⟨"s", .file, .location ⟨"pom.xml", 3, 1, ""⟩⟩]
  precondition := .satisfied
  result := some ⟨false, "failed", ["why"], none⟩

/-- A task with everything left out that can be. -/
def bareTask (id : String) : Task where
  rule := { id, condition := "" }
  provider := .manual

/-- Two tasks, written in a leap second. -/
def sampleReport : Report where
  title := "t"
  projectPath := "/p"
  timestamp := ⟨736144, 86399, 1500000000⟩
  tasks := [("a", fullTask), ("b", bareTask "b")]

theorem bareTask_fits (id : String) : (bareTask id).Fits :=
  { rule :=
      { order := by simp [bareTask]
        effort := by simp [bareTask]
        instructions := by simp [bareTask, Instructions.Fits] }
    found := by simp [bareTask] }

theorem ofJson_toJson_sample : sampleReport.Fits ∧
    ∃ text, sampleReport.toJson = .ok text ∧ ofJson text = .ok sampleReport := by
  have steps : ∀ v ∈ [.record []] ++ sampleRecipeSteps,
      Plain 100 v ∧ Decoder.hasDistinctKeys v = true := by
    have nested : Plain 100 (.record [("org.example.Change",
        .record [("1", .seq [.null, .bool true, .int (-7)])])]) := by
      have number : Plain 97 (.int (-7)) := .int (by decide) (by decide)
      refine .record (List.forall_mem_singleton.mpr (.record (List.forall_mem_singleton.mpr ?_)))
      exact .seq (by simp [number])
    have empty : Plain 100 (.record []) := .record (by simp)
    simp only [sampleRecipeSteps, List.cons_append, List.nil_append, List.forall_mem_cons]
    exact ⟨⟨empty, by decide⟩, ⟨.str, by decide⟩, ⟨nested, by decide +kernel⟩, by simp⟩
  have fullFits : fullTask.Fits :=
    { rule :=
        { order := by decide
          effort := by decide
          instructions := List.forall_mem_singleton.mpr steps }
      found := by simp [fullTask, Finding.Fits, Small] }
  have fits : sampleReport.Fits :=
    { timestamp := ⟨by decide, by decide⟩
      sorted := List.pairwise_pair.mpr (by decide +kernel)
      tasks := by simp [sampleReport, fullFits, bareTask_fits] }
  exact ⟨fits, ofJson_toJson fits⟩

/-- A report without tasks, written in a leap second at the beginning of a minute. -/
def leapReport : Report := ⟨"t", "/p", ⟨736144, 0, 1000000000⟩, []⟩

/-- Two tasks under keys that are not the ids of their rules. -/
def keyedReport : Report where
  title := "t"
  projectPath := "/p"
  timestamp := ⟨736144, 0, 0⟩
  tasks := [("a", bareTask "z"), ("b", bareTask "y")]

/-- A leap second that is not the end of a minute is read as the second after it, and tasks under
other keys than the ids of their rules are not read in the order of these ids. -/
theorem ofJson_toJson_exceptions :
    (∃ text r, leapReport.toJson = .ok text ∧ ofJson text = .ok r ∧ r ≠ leapReport) ∧
    ∃ text r, keyedReport.toJson = .ok text ∧ ofJson text = .ok r ∧
      ¬ (r.tasks.map fun task => task.2.rule.id).Pairwise (· ≤ ·) := by
  constructor
  · let next : Report := { leapReport with timestamp := ⟨736144, 1, 0⟩ }
    have fits : next.Fits := ⟨⟨by decide, by decide⟩, .nil, by simp [next, leapReport]⟩
    have same : leapReport.encode = next.encode := by decide +kernel
    refine ⟨Json.pretty next.encode, next, ?_, ofJson_pretty fits, by decide⟩
    rw [← toJson_eq fits, toJson, toJson, same]
  · have fits : keyedReport.Fits :=
      { timestamp := ⟨by decide, by decide⟩
        sorted := List.pairwise_pair.mpr (by decide +kernel)
        tasks := by simp [keyedReport, bareTask_fits] }
    exact ⟨_, keyedReport, toJson_eq fits, ofJson_pretty fits, by decide +kernel⟩

end Report

end Uplift
