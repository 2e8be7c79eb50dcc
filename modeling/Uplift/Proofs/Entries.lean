import Mathlib

/-!
# Entries under keys

What readers do with entries that come one after the other. If each one is put behind all that are
there already, they are kept as they are (`foldl_put`); so it is with pairwise different keys, and
with keys in their order. Under pairwise different keys, each entry is found
(`lookup_eq_some_iff`), in whatever order the entries stand (`lookup_of_perm`).

Where a key comes again, its entry stays in its place and takes the new value (`replaceIn`): of
entries that come one after the other, each key is kept where it came first (`keys_replaceAll`,
`pairwise_idxOf_eraseDups`), under the value that came last (`lookup_replaceAll`,
`lookup_reverse_eq_some_iff`).
-/

namespace Uplift.Entries

variable {α : Type} {key : String} {entries : List (String × α)}

theorem not_any_of_notMem (new : key ∉ entries.map Prod.fst) :
    ¬ entries.any (·.1 = key) = true := by
  intro again
  obtain ⟨e, member, same⟩ := List.any_eq_true.mp again
  exact new (List.mem_map.mpr ⟨e, member, of_decide_eq_true same⟩)

theorem foldl_put {put : List α → α → List α} {R : α → α → Prop} {before xs : List α}
    (last : ∀ before x, (∀ b ∈ before, R b x) → put before x = before ++ [x])
    (related : (before ++ xs).Pairwise R) : xs.foldl put before = before ++ xs := by
  induction xs generalizing before with
  | nil => rw [List.foldl_nil, List.append_nil]
  | cons x xs ih =>
    have behind : ∀ b ∈ before, R b x := fun b earlier =>
      (List.pairwise_append.mp related).2.2 b earlier x (List.mem_cons_self ..)
    have next : before ++ x :: xs = (before ++ [x]) ++ xs := by simp
    rw [next] at related
    rw [List.foldl_cons, last before x behind, ih related, next]

theorem lookup_eq_some_iff {κ β : Type} [BEq κ] [LawfulBEq κ] {entries : List (κ × β)} {k : κ}
    {b : β} (distinct : (entries.map (·.1)).Nodup) :
    entries.lookup k = some b ↔ (k, b) ∈ entries := by
  rw [List.lookup_eq_some_iff]
  constructor
  · rintro ⟨before, after, rfl, -⟩
    simp
  · intro member
    obtain ⟨before, after, rfl⟩ := List.append_of_mem member
    rw [List.map_append, List.map_cons, List.nodup_append] at distinct
    refine ⟨before, after, rfl, fun e earlier => bne_iff_ne.mpr ?_⟩
    exact (distinct.2.2 e.1 (List.mem_map_of_mem earlier) k List.mem_cons_self).symm

theorem lookup_of_perm {κ β : Type} [BEq κ] [LawfulBEq κ] {entries entries' : List (κ × β)} {k : κ}
    (distinct : (entries'.map (·.1)).Nodup) (order : entries.Perm entries') :
    entries.lookup k = entries'.lookup k := by
  have distinct' : (entries.map (·.1)).Nodup := (order.map _).nodup_iff.mpr distinct
  ext b
  rw [lookup_eq_some_iff distinct, lookup_eq_some_iff distinct', order.mem_iff]

/-! ## The last entry under a key -/

section Last

variable {κ β : Type} [BEq κ] [LawfulBEq κ] {entries : List (κ × β)} {k : κ} {b : β}

theorem lookup_reverse_eq_some_iff : entries.reverse.lookup k = some b ↔
    ∃ before after, entries = before ++ (k, b) :: after ∧ k ∉ after.map (·.1) := by
  rw [List.lookup_eq_some_iff]
  constructor
  · rintro ⟨after, before, split, none⟩
    refine ⟨before.reverse, after.reverse, ?_, fun again => ?_⟩
    · rw [← List.reverse_reverse entries, split]
      simp
    · obtain ⟨e, later, rfl⟩ := List.mem_map.mp again
      exact bne_iff_ne.mp (none e (List.mem_reverse.mp later)) rfl
  · rintro ⟨before, after, rfl, none⟩
    refine ⟨after.reverse, before.reverse, by simp, fun e later => bne_iff_ne.mpr ?_⟩
    rintro rfl
    exact none (List.mem_map_of_mem (List.mem_reverse.mp later))

theorem lookup_reverse_eq_none_iff : entries.reverse.lookup k = none ↔ k ∉ entries.map (·.1) := by
  rw [List.lookup_eq_none_iff]
  constructor
  · intro none there
    obtain ⟨e, member, rfl⟩ := List.mem_map.mp there
    exact bne_iff_ne.mp (none e (List.mem_reverse.mpr member)) rfl
  · intro none e member
    refine bne_iff_ne.mpr ?_
    rintro rfl
    exact none (List.mem_map_of_mem (List.mem_reverse.mp member))

end Last

/-! ## Keys that come again -/

section Replacing

variable {κ β : Type} [DecidableEq κ]

/-- Puts a value under a key: in place of the one that is there, or at the end. -/
def replaceIn (k : κ) (b : β) : List (κ × β) → List (κ × β)
  | [] => [(k, b)]
  | e :: rest => if e.1 = k then (e.1, b) :: rest else e :: replaceIn k b rest

/-- A key is put where it was, or at the end. -/
theorem keys_replaceIn (k : κ) (b : β) (entries : List (κ × β)) :
    (replaceIn k b entries).map (·.1) =
      if k ∈ entries.map (·.1) then entries.map (·.1) else entries.map (·.1) ++ [k] := by
  induction entries with
  | nil => rfl
  | cons e entries ih =>
    by_cases here : e.1 = k
    · simp [replaceIn, here]
    · rw [replaceIn, if_neg here, List.map_cons, ih]
      by_cases later : k ∈ entries.map (·.1)
      · simp [later, Ne.symm here]
      · simp only [if_neg later, List.map_cons, List.mem_cons, Ne.symm here, false_or]
        rfl

theorem lookup_replaceIn (k l : κ) (b : β) (entries : List (κ × β)) :
    (replaceIn k b entries).lookup l = if l = k then some b else entries.lookup l := by
  induction entries with
  | nil =>
    by_cases same : l = k
    · simp [replaceIn, same]
    · simp [replaceIn, List.lookup_cons, same, beq_eq_false_iff_ne.mpr same]
  | cons e entries ih =>
    obtain ⟨first, old⟩ := e
    by_cases here : first = k
    · subst here
      by_cases same : l = first
      · simp [replaceIn, same]
      · simp [replaceIn, List.lookup_cons, same, beq_eq_false_iff_ne.mpr same]
    · by_cases same : l = first
      · subst same
        simp [replaceIn, here]
      · simp [replaceIn, here, List.lookup_cons, beq_eq_false_iff_ne.mpr same, ih]

/-- Entries that are put in one after the other. -/
def replaceAll (before entries : List (κ × β)) : List (κ × β) :=
  entries.foldl (fun acc e => replaceIn e.1 e.2 acc) before

/-- Of the values that are put under a key, the last one stays. -/
theorem lookup_replaceAll (l : κ) (before entries : List (κ × β)) :
    (replaceAll before entries).lookup l = (entries.reverse.lookup l).or (before.lookup l) := by
  induction entries generalizing before with
  | nil => rfl
  | cons e entries ih =>
    rw [List.reverse_cons, List.lookup_append, Option.or_assoc]
    refine (ih _).trans (congrArg _ ?_)
    obtain ⟨k, b⟩ := e
    rw [lookup_replaceIn]
    by_cases here : l = k
    · simp [here]
    · simp [here, List.lookup_cons, beq_eq_false_iff_ne.mpr here]

theorem eraseDups_concat (xs : List κ) (x : κ) :
    (xs ++ [x]).eraseDups = if x ∈ xs then xs.eraseDups else xs.eraseDups ++ [x] := by
  by_cases old : x ∈ xs <;> simp [List.eraseDups_append, List.removeAll, old, List.eraseDups_cons]

/-- Without their repetitions, elements stand in the order in which they first came. -/
theorem pairwise_idxOf_eraseDups (xs : List κ) :
    xs.eraseDups.Pairwise fun a b => xs.idxOf a < xs.idxOf b := by
  induction xs using List.reverseRecOn with
  | nil => exact .nil
  | append_singleton xs x ih =>
    -- What came before keeps its first place.
    have kept : xs.eraseDups.Pairwise fun a b => (xs ++ [x]).idxOf a < (xs ++ [x]).idxOf b := by
      refine ih.imp_of_mem fun a_mem b_mem less => ?_
      rwa [List.idxOf_append_of_mem (List.mem_eraseDups.mp a_mem),
        List.idxOf_append_of_mem (List.mem_eraseDups.mp b_mem)]
    rw [eraseDups_concat]
    split
    · exact kept
    · next new =>
      refine List.pairwise_append.mpr ⟨kept, List.pairwise_singleton _ x, fun a old b last => ?_⟩
      obtain rfl := List.mem_singleton.mp last
      have there : a ∈ xs := List.mem_eraseDups.mp old
      rw [List.idxOf_append_of_mem there, List.idxOf_append_of_notMem new]
      exact (List.idxOf_lt_length_of_mem there).trans_le (Nat.le_add_right _ _)

theorem nodup_eraseDups (xs : List κ) : xs.eraseDups.Nodup :=
  (pairwise_idxOf_eraseDups xs).imp fun less same => (same ▸ less).ne rfl

/-- Keys stand where they were put first. -/
theorem keys_replaceAll (entries : List (κ × β)) :
    (replaceAll [] entries).map (·.1) = (entries.map (·.1)).eraseDups := by
  induction entries using List.reverseRecOn with
  | nil => rfl
  | append_singleton entries e ih =>
    have last : replaceAll [] (entries ++ [e]) = replaceIn e.1 e.2 (replaceAll [] entries) := by
      rw [replaceAll, List.foldl_append]
      rfl
    rw [last, keys_replaceIn, ih, List.map_append, List.map_singleton, eraseDups_concat]
    simp only [List.mem_eraseDups]

end Replacing

end Uplift.Entries
