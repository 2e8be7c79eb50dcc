import Mathlib

/-!
# Decimal digits

The digits of a number, with zeros before them or without, spell that number again. Readers of
numbers take all the digits that there are, so that what follows must not begin with one.
-/

namespace Uplift.Text

variable {n zeros : Nat} {c : Char} {ds rest : List Char}

/-- The number that digits spell after a number that was read already. -/
def spelled (n : Nat) (ds : List Char) : Nat :=
  ds.foldl (fun n c => n * 10 + (c.toNat - '0'.toNat)) n

/-- The digits of a number after some zeros. -/
def padded (zeros n : Nat) : List Char := List.replicate zeros '0' ++ Nat.toDigits 10 n

theorem spelled_padded (zeros n : Nat) : spelled 0 (padded zeros n) = n := by
  have same := @Nat.ofDigitChars_eq_foldl 10 (padded zeros n) 0
  simp only [Nat.mul_comm 10] at same
  unfold spelled
  rw [← same, padded, Nat.ofDigitChars_append, Nat.ofDigitChars_replicate_zero, Nat.mul_zero,
    Nat.ofDigitChars_ten_toDigits]

theorem isDigit_of_mem_padded (member : c ∈ padded zeros n) : c.isDigit = true := by
  rcases List.mem_append.mp member with zero | digit
  · rw [List.eq_of_mem_replicate zero]
    decide
  · exact Nat.isDigit_of_mem_toDigits (by decide) (by decide) digit

theorem padded_ne_nil : padded zeros n ≠ [] := by simp [padded, Nat.toDigits_ne_nil]

theorem length_padded {count : Nat} (small : n < 10 ^ count) (some : 0 < count) :
    (padded (count - (Nat.toDigits 10 n).length) n).length = count := by
  have atMost := (Nat.length_toDigits_le_iff (by decide) some).mpr small
  rw [padded, List.length_append, List.length_replicate]
  omega

/-- Only the number zero has a zero for its first digit. -/
theorem head?_toDigits (positive : 0 < n) : (Nat.toDigits 10 n).head? ≠ some '0' := by
  induction n using Nat.strongRecOn with
  | ind n ih =>
    by_cases one : n < 10
    · rw [Nat.toDigits_of_lt_base one]
      simpa [Nat.digitChar_eq_zero] using positive.ne'
    · have split := Nat.toDigits_of_base_le (by decide : 1 < 10) (Nat.le_of_not_lt one)
      rw [split, List.head?_append_of_ne_nil _ Nat.toDigits_ne_nil]
      exact ih (n / 10) (by omega) (by omega)

/-- The characters after a number do not begin with another digit. -/
def NoDigit (rest : List Char) : Prop := ∀ c ∈ rest.head?, c.isDigit = false

theorem takeWhile_digits (digits : ∀ c ∈ ds, c.isDigit = true) (ends : NoDigit rest) :
    (ds ++ rest).takeWhile Char.isDigit = ds := by
  rw [List.takeWhile_append_of_pos digits]
  cases rest with
  | nil => rw [List.takeWhile_nil, List.append_nil]
  | cons c rest =>
    rw [List.takeWhile_cons_of_neg (by simp [ends c rfl]), List.append_nil]

theorem dropWhile_digits (digits : ∀ c ∈ ds, c.isDigit = true) (ends : NoDigit rest) :
    (ds ++ rest).dropWhile Char.isDigit = rest := by
  rw [List.dropWhile_append_of_pos digits]
  cases rest with
  | nil => rfl
  | cons c rest => rw [List.dropWhile_cons_of_neg (by simp [ends c rfl])]

end Uplift.Text
