import Uplift.Proofs.Entries
import Uplift.Query

/-!
# Parameters as an ordered map

A query starts without parameters, and they are set one after the other. A parameter that is set
again keeps its place and takes the new value. Whoever asks for a parameter, or reads them all in
order, takes them for a map that remembers in which order its keys came.

* `LastSet`, `Ordered`: what such a map holds, in terms of the settings alone. No two lists of
  entries are the map of the same settings (`Ordered.unique`).
* `setAll_insertionOrdered`: the parameters are this map, and the kind and the symbol stay.
-/

namespace Uplift.Query

variable {q : Query} {kind symbol key value : String} {f : Fault}
  {params settings entries : List (String × String)}

/-! ## One setting -/

theorem setIn_eq_replaceIn (key value : String) (params : List (String × String)) :
    setIn key value params = Entries.replaceIn key value params := by
  induction params with
  | nil => rfl
  | cons p params ih => rw [setIn, Entries.replaceIn, ih]

/-- A new key goes to the end. -/
theorem setIn_of_new (new : ∀ p ∈ params, p.1 ≠ key) :
    setIn key value params = params ++ [(key, value)] := by
  induction params with
  | nil => rfl
  | cons p params ih =>
    rw [setIn, if_neg (new p List.mem_cons_self),
      ih fun x member => new x (List.mem_cons_of_mem p member)]
    rfl

theorem mem_setIn {p : String × String} (member : p ∈ setIn key value params) :
    p = (key, value) ∨ p ∈ params := by
  induction params with
  | nil => exact .inl (List.mem_singleton.mp member)
  | cons first params ih =>
    rw [setIn] at member
    split at member
    · rename_i same
      rcases List.mem_cons.mp member with rfl | later
      · exact .inl (by rw [same])
      · exact .inr (List.mem_cons_of_mem _ later)
    · rcases List.mem_cons.mp member with rfl | later
      · exact .inr List.mem_cons_self
      · exact (ih later).imp_right (List.mem_cons_of_mem _)

/-! ## Settings one after the other -/

theorem setAll_head (q : Query) (params : List (String × String)) :
    (q.setAll params).kind = q.kind ∧ (q.setAll params).symbol = q.symbol := by
  induction params generalizing q with
  | nil => exact ⟨rfl, rfl⟩
  | cons p params ih => exact ih (q.set p.1 p.2)

/-- Setting distinct new keys one after the other appends them in order. -/
theorem setAll_of_distinct (distinct : (q.params ++ params).Pairwise fun a b => a.1 ≠ b.1) :
    q.setAll params = { q with params := q.params ++ params } := by
  induction params generalizing q with
  | nil => simp [setAll]
  | cons p params ih =>
    have fresh : ∀ a ∈ q.params, a.1 ≠ p.1 := fun a member =>
      (List.pairwise_append.mp distinct).2.2 a member p List.mem_cons_self
    have step : q.set p.1 p.2 = { q with params := q.params ++ [p] } := by
      rw [set, setIn_of_new fresh]
    change (q.set p.1 p.2).setAll params = _
    rw [step, ih (by simpa using distinct)]
    simp

/-- Whatever is set was there or is among what was set. -/
theorem mem_setAll {p : String × String} (member : p ∈ (q.setAll params).params) :
    p ∈ q.params ∨ p ∈ params := by
  induction params generalizing q with
  | nil => exact .inl member
  | cons first params ih =>
    rcases ih (q := q.set first.1 first.2) member with before | later
    · rcases mem_setIn before with rfl | before
      · exact .inr List.mem_cons_self
      · exact .inl before
    · exact .inr (List.mem_cons_of_mem _ later)

theorem params_setAll (q : Query) (params : List (String × String)) :
    (q.setAll params).params = Entries.replaceAll q.params params := by
  induction params generalizing q with
  | nil => rfl
  | cons p params ih =>
    refine (ih (q.set p.1 p.2)).trans ?_
    rw [set, setIn_eq_replaceIn]
    rfl

/-- Of the values that are set under a key, the last one stays. -/
theorem param?_setAll (key : String) : (q.setAll params).param? key =
    (params.reverse.lookup key).or (q.param? key) := by
  rw [param?, params_setAll, Entries.lookup_replaceAll, param?]

/-- The keys stand where they were set first. -/
theorem keys_setAll (kind symbol : String) (params : List (String × String)) :
    ((Query.of kind symbol).setAll params).params.map (·.1) =
      (params.map (·.1)).eraseDups := by
  rw [params_setAll]
  exact Entries.keys_replaceAll params

theorem nodup_setAll (kind symbol : String) (params : List (String × String)) :
    (((Query.of kind symbol).setAll params).params.map (·.1)).Nodup := by
  rw [keys_setAll]
  exact Entries.nodup_eraseDups _

/-- A query that starts without parameters has what was set last. -/
theorem param?_setAll_of (kind symbol : String) (params : List (String × String)) (key : String) :
    ((Query.of kind symbol).setAll params).param? key = params.reverse.lookup key := by
  rw [param?_setAll]
  exact Option.or_none

/-- A query whose parameters are set one after the other has those that were set last under their
keys, and no others. -/
theorem mem_setAll_of_iff {p : String × String} :
    p ∈ ((Query.of kind symbol).setAll params).params ↔
      params.reverse.lookup p.1 = some p.2 := by
  rw [← param?_setAll_of kind symbol params, param?,
    Entries.lookup_eq_some_iff (nodup_setAll kind symbol params)]

theorem setAll_ne_nil (filled : params ≠ []) :
    ((Query.of kind symbol).setAll params).params ≠ [] := by
  obtain ⟨⟨k, v⟩, rest, rfl⟩ := List.exists_cons_of_ne_nil filled
  intro none
  have found := param?_setAll_of kind symbol ((k, v) :: rest) k
  rw [param?, none, List.reverse_cons, List.lookup_append] at found
  simp at found

/-! ## Parameters that must be there -/

theorem require_eq_ok_iff : q.require key = .ok value ↔ q.param? key = some value := by
  cases found : q.param? key <;> simp [require, found]

theorem require_eq_error_iff : q.require key = .error f ↔
    q.param? key = none ∧ f = .missingParameter key q.key := by
  cases found : q.param? key <;> simp [require, found, eq_comm]

/-! ## The map of the settings -/

/-- The key was set to the value, and not set again after that. -/
def LastSet (settings : List (String × String)) (key value : String) : Prop :=
  ∃ before after, settings = before ++ (key, value) :: after ∧ key ∉ after.map (·.1)

theorem lastSet_iff : LastSet settings key value ↔ settings.reverse.lookup key = some value :=
  Entries.lookup_reverse_eq_some_iff.symm

/-- The entries of an ordered map into which the settings went one after the other: each key that
was set, under the value that it was set to last, before the keys that were first set after it. -/
structure Ordered (settings entries : List (String × String)) : Prop where
  mem_iff : ∀ key value, (key, value) ∈ entries ↔ LastSet settings key value
  order : (entries.map (·.1)).Pairwise fun k l =>
    (settings.map (·.1)).idxOf k < (settings.map (·.1)).idxOf l

namespace Ordered

variable {entries' : List (String × String)}

theorem distinct (ordered : Ordered settings entries) : (entries.map (·.1)).Nodup :=
  ordered.order.imp fun before same => (same ▸ before).ne rfl

theorem pairwise (ordered : Ordered settings entries) : entries.Pairwise fun p p' =>
    (settings.map (·.1)).idxOf p.1 < (settings.map (·.1)).idxOf p'.1 := by
  have order := ordered.order
  rwa [List.pairwise_map] at order

/-- The settings leave nothing open. -/
theorem unique (left : Ordered settings entries) (right : Ordered settings entries') :
    entries = entries' := by
  have sameEntries : entries.Perm entries' := by
    rw [List.perm_ext_iff_of_nodup (.of_map _ left.distinct) (.of_map _ right.distinct)]
    intro p
    exact (left.mem_iff p.1 p.2).trans (right.mem_iff p.1 p.2).symm
  exact sameEntries.eq_of_pairwise (fun _ _ _ _ before after => absurd after before.asymm)
    left.pairwise right.pairwise

end Ordered

theorem ordered_setAll (kind symbol : String) (settings : List (String × String)) :
    Ordered settings ((Query.of kind symbol).setAll settings).params := by
  constructor
  · intro key value
    rw [lastSet_iff]
    exact mem_setAll_of_iff
  · rw [keys_setAll]
    exact Entries.pairwise_idxOf_eraseDups _

/-- However parameters are set, they are an ordered map: the keys that were set, each one once and
in the order in which they were first set. A key has the value that it was set to last. A key that
was never set has none, and where it is required, it is reported with the query that lacks it. The
kind and the symbol stay. -/
theorem setAll_insertionOrdered (kind symbol : String) (settings : List (String × String)) :
    let q := (Query.of kind symbol).setAll settings
    let keys := settings.map (·.1)
    (q.params.map (·.1)).Nodup ∧
    (∀ key, key ∈ q.params.map (·.1) ↔ key ∈ keys) ∧
    (q.params.map (·.1)).Pairwise (fun k l => keys.idxOf k < keys.idxOf l) ∧
    (∀ entries, entries = q.params ↔ Ordered settings entries) ∧
    (∀ key value, q.param? key = some value ↔ LastSet settings key value) ∧
    (∀ key, q.param? key = none ↔ key ∉ keys) ∧
    (∀ key value, q.require key = .ok value ↔ LastSet settings key value) ∧
    (∀ key f, q.require key = .error f ↔
      key ∉ keys ∧ f = .missingParameter key (kind ++ "." ++ symbol)) ∧
    q.kind = kind ∧ q.symbol = symbol := by
  intro q keys
  have ordered : Ordered settings q.params := ordered_setAll kind symbol settings
  have found (key : String) : q.param? key = settings.reverse.lookup key :=
    param?_setAll_of kind symbol settings key
  have given (key value : String) : q.param? key = some value ↔ LastSet settings key value := by
    rw [found, lastSet_iff]
  have missing (key : String) : q.param? key = none ↔ key ∉ keys := by
    rw [found]
    exact Entries.lookup_reverse_eq_none_iff
  obtain ⟨sameKind, sameSymbol⟩ := setAll_head (Query.of kind symbol) settings
  have sameKey : q.key = kind ++ "." ++ symbol := by
    rw [Query.key, sameKind, sameSymbol]
    rfl
  refine ⟨ordered.distinct, fun key => ?_, ordered.order, fun entries => ⟨?_, ?_⟩, given, missing,
    fun key value => ?_, fun key f => ?_, sameKind, sameSymbol⟩
  · rw [keys_setAll, List.mem_eraseDups]
  · rintro rfl
    exact ordered
  · exact fun other => other.unique ordered
  · rw [require_eq_ok_iff, given]
  · rw [require_eq_error_iff, missing, sameKey]

/-- A parameter that is set again stays where it is. -/
example : ((Query.of "pom" "dependency").setAll
    [("groupId", "g"), ("artifactId", "a"), ("groupId", "h")]).params =
      [("groupId", "h"), ("artifactId", "a")] := rfl

end Uplift.Query
