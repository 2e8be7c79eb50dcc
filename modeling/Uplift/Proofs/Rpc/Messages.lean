import Uplift.Proofs.Value.Records
import Uplift.Rpc.Session

/-!
# What messages say

The messages that a peer may write, told by their form. A message is an object, or the array of what
such an object has under its names, in order. Either way it has parts (`part?`), and a part that is
null is as good as missing. `Incoming.SaidBy` lists the parts that count and which form each must
have; beyond these an object may hold what it likes. Whatever has the form is understood
(`Incoming.decode_of_said`).
-/

namespace Uplift

/-! ## Parts -/

/-- What a value has under a name, or, if it is an array, at a place. Null is nothing. -/
def Value.part? (v : Value) (name : String) (place : Nat) : Option Value :=
  let found : Option Value := match v with
    | .map entries => entries.lookup (.str name)
    | .seq items => items[place]?
    | _ => none
  found.filter (· ≠ .null)

/-- An object that names nothing twice, or an array with no more items than there are places. -/
inductive Value.Shaped (places : Nat) : Value → Prop
  | object {fields : List (String × Value)} : (fields.map Prod.fst).Nodup →
      Shaped places (.record fields)
  | array {items : List Value} : items.length ≤ places → Shaped places (.seq items)

namespace Record

variable {α : Type} {item : Decoder α} {r : Record} {name : String} {v : Value}
  {names : List String} {fields : List (String × Value)}

theorem part?_record (fields : List (String × Value)) (name : String) (place : Nat) :
    (Value.record fields).part? name place = (fields.lookup name).filter (· ≠ .null) := by
  show ((List.map _ fields).lookup (Value.str name)).filter _ = _
  congr 1
  induction fields with
  | nil => rfl
  | cons f fields ih =>
    rw [List.map_cons, List.lookup_cons, List.lookup_cons, ih]
    by_cases same : name = f.1
    · simp [same]
    · have other : Value.str name ≠ Value.str f.1 := fun equal => same (Value.str.inj equal)
      simp [beq_eq_false_iff_ne.mpr same, beq_eq_false_iff_ne.mpr other]

/-- Among the fields that are known, each is found as among all. -/
theorem lookup_known (known : name ∈ names) :
    (fields.filter fun f => names.contains f.1).lookup name = fields.lookup name := by
  induction fields with
  | nil => rfl
  | cons f fields ih =>
    by_cases same : name = f.1
    · have kept : names.contains f.1 = true := List.contains_iff_mem.mpr (same ▸ known)
      rw [List.filter_cons, if_pos kept, List.lookup_cons, List.lookup_cons, same]
      simp
    · have passed : (f :: fields).lookup name = fields.lookup name := by
        rw [List.lookup_cons, beq_eq_false_iff_ne.mpr same]
      rw [passed, ← ih]
      by_cases kept : names.contains f.1 = true
      · rw [List.filter_cons, if_pos kept, List.lookup_cons, beq_eq_false_iff_ne.mpr same]
      · rw [List.filter_cons, if_neg kept]

/-- What stands at a place is found under the name of that place. -/
theorem lookup_zip {items : List Value} {place : Nat} (distinct : names.Nodup)
    (named : names[place]? = some name) : (names.zip items).lookup name = items[place]? := by
  induction names generalizing items place with
  | nil => simp at named
  | cons first names ih =>
    obtain ⟨new, distinct⟩ := List.nodup_cons.mp distinct
    cases items with
    | nil => simp
    | cons v items =>
      rw [List.zip_cons_cons, List.lookup_cons]
      cases place with
      | zero =>
        obtain rfl : first = name := by simpa using named
        simp
      | succ place =>
        have later : names[place]? = some name := by simpa using named
        have other : name ≠ first := fun same => new (same ▸ List.mem_of_getElem? later)
        simp [beq_eq_false_iff_ne.mpr other, ih distinct later]

/-- A value of the right shape is a record, and the record has its parts. -/
theorem exists_of_shaped (names : List String) (shaped : v.Shaped names.length)
    (distinct : names.Nodup) :
    ∃ r, of? .json names v = some r ∧ ∀ place name, names[place]? = some name →
      (r.field? name).filter (· ≠ .null) = v.part? name place := by
  cases shaped with
  | @object fields once =>
    refine ⟨⟨fields.filter fun f => names.contains f.1⟩, ?_, fun place name named => ?_⟩
    · show (named? names _).map _ = _
      rw [named?_fields once]
      rfl
    · rw [part?_record]
      exact congrArg _ (lookup_known (List.mem_of_getElem? named))
  | @array items few =>
    refine ⟨⟨names.zip items⟩, if_pos few, fun place name named => ?_⟩
    exact congrArg _ (lookup_zip distinct named)

theorem optional_of_none (part : (r.field? name).filter (· ≠ .null) = none) :
    r.optional name item = some none := by
  unfold optional
  cases found : r.field? name with
  | none => rfl
  | some w =>
    obtain rfl : w = .null := by simpa [found] using part
    rfl

theorem optional_of_some (part : (r.field? name).filter (· ≠ .null) = some v) :
    r.optional name item = (item v).map some := by
  obtain ⟨found, filled⟩ := Option.filter_eq_some_iff.mp part
  unfold optional
  rw [found]
  cases v with
  | null => simp at filled
  | _ => rfl

theorem required_of_some (part : (r.field? name).filter (· ≠ .null) = some v) :
    r.required name item = item v := by
  rw [required, (Option.filter_eq_some_iff.mp part).1]
  rfl

end Record

namespace Rpc

/-! ## Errors and messages -/

/-- What says an error: a code and a text, of which neither is missing. -/
structure Refusal.SaidBy (e : Refusal) (v : Value) : Prop where
  shaped : v.Shaped 2
  code : v.part? "code" 0 = some (.int e.code)
  message : v.part? "message" 1 = some (.str e.message)
  fits : -9223372036854775808 ≤ e.code ∧ e.code ≤ 9223372036854775807

/-- What says a message: its id and its result are any values, its method is a text, and its error
has the form of one. Each of them may be missing. -/
structure Incoming.SaidBy (m : Incoming) (v : Value) : Prop where
  shaped : v.Shaped 4
  id : v.part? "id" 0 = m.id
  method : v.part? "method" 1 = m.method.map .str
  result : v.part? "result" 2 = m.result
  error : Option.Rel Refusal.SaidBy m.error (v.part? "error" 3)

/-- An error is understood. -/
theorem Refusal.decode_of_said {e : Refusal} {v : Value} (said : e.SaidBy v) :
    Refusal.decode v = some e := by
  obtain ⟨r, read, parts⟩ :=
    Record.exists_of_shaped ["code", "message"] said.shaped (by decide)
  have code : r.required "code" Decoder.int64 = some e.code := by
    rw [Record.required_of_some ((parts 0 "code" rfl).trans said.code)]
    exact Decoder.intWithin_int said.fits
  have message : r.required "message" Decoder.text = some e.message := by
    rw [Record.required_of_some ((parts 1 "message" rfl).trans said.message), Decoder.text_str]
  rw [Refusal.decode, read]
  show (do some (Refusal.mk (← r.required "code" _) (← r.required "message" _))) = _
  rw [code, message]
  rfl

/-- A message is understood. -/
theorem Incoming.decode_of_said {m : Incoming} {v : Value} (said : m.SaidBy v) :
    Incoming.decode v = some m := by
  obtain ⟨r, read, parts⟩ :=
    Record.exists_of_shaped ["id", "method", "result", "error"] said.shaped (by decide)
  have anything {name : String} {part : Option Value}
      (found : (r.field? name).filter (· ≠ .null) = part) :
      r.optional name some = some part := by
    cases part with
    | none => exact Record.optional_of_none found
    | some w => exact Record.optional_of_some found
  have id := anything ((parts 0 "id" rfl).trans said.id)
  have result := anything ((parts 2 "result" rfl).trans said.result)
  have method : r.optional "method" Decoder.text = some m.method := by
    have found := (parts 1 "method" rfl).trans said.method
    cases named : m.method with
    | none => exact Record.optional_of_none (by rw [found, named]; rfl)
    | some name => exact Record.optional_of_some (v := .str name) (by rw [found, named]; rfl)
  have error : r.optional "error" Refusal.decode = some m.error := by
    have found := parts 3 "error" rfl
    have each := said.error
    generalize v.part? "error" 3 = part, m.error = expected at found each ⊢
    cases each with
    | none => exact Record.optional_of_none found
    | some said => rw [Record.optional_of_some found, Refusal.decode_of_said said]; rfl
  rw [Incoming.decode, read]
  show (do some (Incoming.mk (← r.optional "id" _) (← r.optional "method" _)
    (← r.optional "result" _) (← r.optional "error" _))) = _
  rw [id, method, result, error]
  rfl

end Rpc

end Uplift
