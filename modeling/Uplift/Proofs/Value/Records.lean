import Uplift.Proofs.Entries
import Uplift.Value.Decode

/-!
# Records that were written

A record with pairwise different field names is read as its fields, in either format
(`Record.of?_record`), and a list is read item by item (`Decoder.list_map`). The small lemmas say
what each decoder answers for a value that was written for it.
-/

namespace Uplift

namespace Decoder

variable {α : Type} {item : Decoder α} {enc : α → Value} {xs : List α} {n : Nat} {m : Int}

@[simp] theorem text_str (s : String) : text (.str s) = some s := rfl

@[simp] theorem truth_bool (b : Bool) : truth (.bool b) = some b := rfl

theorem intWithin_int {low high : Int} (within : low ≤ m ∧ m ≤ high) :
    intWithin low high (.int m) = some m := if_pos within

theorem nat32_int (small : n ≤ 4294967295) : nat32 (.int n) = some n := by
  rw [nat32, intWithin_int (by omega)]
  rfl

theorem all_map (each : ∀ x ∈ xs, item (enc x) = some x) : all item (xs.map enc) = some xs := by
  induction xs with
  | nil => rfl
  | cons x xs ih =>
    obtain ⟨first, rest⟩ := List.forall_mem_cons.mp each
    rw [List.map_cons, all, first, ih rest]
    rfl

theorem list_map (format : Format) (each : ∀ x ∈ xs, item (enc x) = some x) :
    list format item (.seq (xs.map enc)) = some xs := all_map each

@[simp] theorem list_strings (format : Format) (ts : List String) :
    list format text (.strings ts) = some ts := list_map format fun s _ => text_str s

theorem mapM_entries {fields : List (String × α)}
    (each : ∀ f ∈ fields, item (enc f.2) = some f.2) :
    (fields.map fun (k, x) => (Value.str k, enc x)).mapM
      (fun (k, v) => do some (← k.asStr?, ← item v)) = some fields := by
  induction fields with
  | nil => rfl
  | cons f fields ih =>
    obtain ⟨first, rest⟩ := List.forall_mem_cons.mp each
    rw [List.map_cons, List.mapM_cons, ih rest]
    show ((do some (← some f.1, ← item (enc f.2))) >>= _) = _
    rw [first]
    rfl

theorem entries_record {fields : List (String × α)}
    (each : ∀ f ∈ fields, item (enc f.2) = some f.2) :
    entries item (.record (fields.map fun (k, x) => (k, enc x))) = some fields := by
  show List.mapM _ (List.map _ (List.map _ fields)) = _
  rw [List.map_map]
  exact mapM_entries each

@[simp] theorem nullable_str (item : Decoder α) (s : String) :
    nullable item (.str s) = (item (.str s)).map some := rfl

@[simp] theorem nullable_record (item : Decoder α) (fields : List (String × Value)) :
    nullable item (.record fields) = (item (.record fields)).map some := rfl

end Decoder

namespace Record

variable {α : Type} {item : Decoder α} {name key : String} {v : Value} {fallback : α}
  {names : List String} {fields : List (String × Value)}

/-! ## Fields -/

theorem field?_cons : field? ⟨(key, v) :: fields⟩ name =
    if name = key then some v else field? ⟨fields⟩ name := by
  unfold field?
  rw [List.lookup_cons]
  by_cases same : name = key
  · simp [same]
  · simp [same, beq_eq_false_iff_ne.mpr same]

@[simp] theorem required_cons : required ⟨(key, v) :: fields⟩ name item =
    if name = key then item v else required ⟨fields⟩ name item := by
  unfold required
  rw [field?_cons]
  split <;> rfl

@[simp] theorem optional_cons : optional ⟨(key, v) :: fields⟩ name item =
    if name = key then Decoder.nullable item v else optional ⟨fields⟩ name item := by
  unfold optional
  rw [field?_cons]
  by_cases same : name = key
  · rw [if_pos same, if_pos same]
  · rw [if_neg same, if_neg same]

@[simp] theorem optional_nil : optional ⟨[]⟩ name item = some none := rfl

@[simp] theorem withDefault_cons : withDefault ⟨(key, v) :: fields⟩ name fallback item =
    if name = key then item v else withDefault ⟨fields⟩ name fallback item := by
  unfold withDefault
  rw [field?_cons]
  by_cases same : name = key
  · rw [if_pos same, if_pos same]
  · rw [if_neg same, if_neg same]

@[simp] theorem withDefault_nil : withDefault ⟨[]⟩ name fallback item = some fallback := rfl

/-! ## Records -/

/-- Of fields with different names, those that are asked for are kept. -/
theorem named?_fields (distinct : (fields.map Prod.fst).Nodup) :
    named? names (fields.map fun (k, v) => (.str k, v)) =
      some (fields.filter fun f => names.contains f.1) := by
  induction fields with
  | nil => rfl
  | cons f fields ih =>
    obtain ⟨new, distinct⟩ := List.nodup_cons.mp distinct
    rw [List.map_cons, named?, ih distinct]
    show (if names.contains f.1 then _ else _) = _
    by_cases named : names.contains f.1 = true
    · have once : f.1 ∉ (fields.filter fun f => names.contains f.1).map Prod.fst := fun again =>
        new ((List.filter_sublist.map Prod.fst).subset again)
      have free := Entries.not_any_of_notMem once
      rw [if_pos named, List.filter_cons, if_pos named]
      exact if_neg free
    · rw [if_neg named, List.filter_cons, if_neg named]

/-- A record that was written is read as its fields. -/
theorem of?_record (format : Format) (known : ∀ f ∈ fields, f.1 ∈ names)
    (distinct : (fields.map Prod.fst).Nodup) :
    of? format names (.record fields) = some ⟨fields⟩ := by
  have all : fields.filter (fun f => names.contains f.1) = fields :=
    List.filter_eq_self.mpr fun f member => List.contains_iff_mem.mpr (known f member)
  show (named? names _).map _ = _
  rw [named?_fields distinct, all]
  rfl

end Record

end Uplift
