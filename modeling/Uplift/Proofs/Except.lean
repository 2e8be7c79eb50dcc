import Mathlib

/-!
# Computations that may fail

When a computation in several steps succeeds: each of its steps does (`bind_eq_ok_iff`), and so does
each item's of a list (`mapM_eq_ok_iff`, `exists_of_mem_mapM`). When it fails, one of its steps does
(`bind_eq_error_iff`), and so does an item of a list (`exists_of_mapM_error`).
-/

namespace Uplift

variable {α β ε : Type}

theorem bind_eq_ok_iff {x : Except ε α} {f : α → Except ε β} {b : β} :
    (x >>= f) = .ok b ↔ ∃ a, x = .ok a ∧ f a = .ok b := by
  cases x with
  | error e => simp [bind, Except.bind]
  | ok a => simp [bind, Except.bind]

theorem bind_eq_error_iff {x : Except ε α} {f : α → Except ε β} {e : ε} :
    (x >>= f) = .error e ↔ x = .error e ∨ ∃ a, x = .ok a ∧ f a = .error e := by
  cases x with
  | error e' => simp [bind, Except.bind]
  | ok a => simp [bind, Except.bind]

/-- An item of a list has its counterpart in a related list. -/
theorem exists_of_mem_left {r : α → β → Prop} {xs : List α} {ys : List β} {x : α}
    (each : List.Forall₂ r xs ys) (member : x ∈ xs) : ∃ y ∈ ys, r x y := by
  induction each with
  | nil => cases member
  | cons head _ ih =>
    rcases List.mem_cons.mp member with rfl | later
    · exact ⟨_, List.mem_cons_self, head⟩
    · obtain ⟨y, among, here⟩ := ih later
      exact ⟨y, List.mem_cons_of_mem _ among, here⟩

theorem forall₂_imp_of_mem {r r' : α → β → Prop} {xs : List α} {ys : List β}
    (imp : ∀ x ∈ xs, ∀ y, r x y → r' x y) (each : List.Forall₂ r xs ys) :
    List.Forall₂ r' xs ys := by
  induction each with
  | nil => exact .nil
  | cons head _ ih =>
    rw [List.forall_mem_cons] at imp
    exact .cons (imp.1 _ head) (ih imp.2)

theorem map_eq_map_iff {γ : Type} {f : α → γ} {g : β → γ} {xs : List α} {ys : List β} :
    xs.map f = ys.map g ↔ List.Forall₂ (fun x y => f x = g y) xs ys := by
  rw [← List.forall₂_eq_eq_eq, List.forall₂_map_left_iff, List.forall₂_map_right_iff]

/-- A list is read if and only if each of its items is. -/
theorem mapM_eq_ok_iff {f : α → Except ε β} {xs : List α} {ys : List β} :
    xs.mapM f = .ok ys ↔ List.Forall₂ (fun x y => f x = .ok y) xs ys := by
  induction xs generalizing ys with
  | nil =>
    rw [List.mapM_nil, List.forall₂_nil_left_iff]
    exact ⟨fun h => (Except.ok.inj h).symm, fun h => h ▸ rfl⟩
  | cons x xs ih =>
    rw [List.mapM_cons, bind_eq_ok_iff, List.forall₂_cons_left_iff]
    constructor
    · rintro ⟨y, head, rest⟩
      obtain ⟨ys', tail, same⟩ := bind_eq_ok_iff.mp rest
      obtain rfl := Except.ok.inj same
      exact ⟨y, ys', head, ih.mp tail, rfl⟩
    · rintro ⟨y, ys', head, tail, rfl⟩
      exact ⟨y, head, bind_eq_ok_iff.mpr ⟨ys', ih.mpr tail, rfl⟩⟩

/-- If a list is read, so is each of its items. -/
theorem exists_of_mapM_ok {f : α → Except ε β} {xs : List α} {ys : List β} {x : α}
    (read : xs.mapM f = .ok ys) (member : x ∈ xs) : ∃ y, f x = .ok y := by
  obtain ⟨y, -, here⟩ := exists_of_mem_left (mapM_eq_ok_iff.mp read) member
  exact ⟨y, here⟩

/-- A list is not read because of the first of its items that is not. -/
theorem exists_of_mapM_error {f : α → Except ε β} {xs : List α} {e : ε}
    (failed : xs.mapM f = .error e) : ∃ front x back, xs = front ++ x :: back ∧
      (∀ x' ∈ front, ∃ y, f x' = .ok y) ∧ f x = .error e := by
  induction xs with
  | nil => cases failed
  | cons x xs ih =>
    rw [List.mapM_cons] at failed
    rcases bind_eq_error_iff.mp failed with here | ⟨y, read, later⟩
    · exact ⟨[], x, xs, rfl, by simp, here⟩
    · rcases bind_eq_error_iff.mp later with rest | ⟨ys, -, done⟩
      · obtain ⟨front, x', back, rfl, before, fails⟩ := ih rest
        exact ⟨x :: front, x', back, rfl, List.forall_mem_cons.mpr ⟨⟨y, read⟩, before⟩, fails⟩
      · cases done

/-- Whatever is read is read from one of the items. -/
theorem exists_of_mem_mapM {f : α → Except ε β} {xs : List α} {ys : List β} {y : β}
    (read : xs.mapM f = .ok ys) (member : y ∈ ys) : ∃ x ∈ xs, f x = .ok y :=
  exists_of_mem_left (mapM_eq_ok_iff.mp read).flip member

end Uplift
