import Mathlib
import Uplift.Text.Lines

/-!
# Texts as bytes

A text is read back from its bytes (`ofBytes?_toBytes`), and only a line feed is written with the
byte of a line feed (`lineFeed_not_mem_toBytes`).
-/

namespace Uplift.Text

theorem toBytes_append (a b : String) : toBytes (a ++ b) = toBytes a ++ toBytes b := by
  simp [toBytes, String.toUTF8_eq_toByteArray, String.toByteArray_append]

theorem ofBytes?_toBytes (s : String) : ofBytes? (toBytes s) = some s := by
  have whole : (⟨(toBytes s).toArray⟩ : ByteArray) = s.toByteArray := by
    simp [toBytes, String.toUTF8_eq_toByteArray]
  rw [ofBytes?, whole]
  simp [String.fromUTF8?, String.fromUTF8, s.isValidUTF8]

theorem toBytes_eq_flatMap (s : String) :
    toBytes s = s.toList.flatMap String.utf8EncodeChar := by
  have encoded : s.toByteArray = s.toList.utf8Encode := by
    conv_lhs => rw [← String.ofList_toList (s := s)]
    exact String.toByteArray_ofList
  rw [toBytes, String.toUTF8_eq_toByteArray, encoded]
  simp [List.utf8Encode]

/-- A byte of a character's encoding is the character's code, or has its highest bit set. -/
theorem mem_utf8EncodeChar {c : Char} {b : UInt8} (member : b ∈ String.utf8EncodeChar c) :
    b.toNat = c.toNat ∨ 128 ≤ b.toNat := by
  have high {m : Nat} (low : 128 ≤ m) (fits : m < 256) : 128 ≤ (UInt8.ofNat m).toNat := by
    rwa [UInt8.toNat_ofNat', Nat.mod_eq_of_lt fits]
  rw [String.utf8EncodeChar.eq_1] at member
  split at member
  · next single =>
    obtain rfl := List.mem_singleton.mp member
    have fits : c.val.toNat < 2 ^ 8 := by omega
    exact .inl (by rw [UInt8.toNat_ofNat', Nat.mod_eq_of_lt fits]; rfl)
  -- One case for each length of the encoding; every byte in it has a marker in its highest bits.
  · right
    split at member
    · simp only [List.mem_cons, List.not_mem_nil, or_false] at member
      rcases member with rfl | rfl <;> exact high (by omega) (by omega)
    · split at member
      · simp only [List.mem_cons, List.not_mem_nil, or_false] at member
        rcases member with rfl | rfl | rfl <;> exact high (by omega) (by omega)
      · simp only [List.mem_cons, List.not_mem_nil, or_false] at member
        rcases member with rfl | rfl | rfl | rfl <;> exact high (by omega) (by omega)

/-- Only a line feed is written with the byte of a line feed. -/
theorem lineFeed_not_mem_toBytes {s : String} (noLineFeed : '\n' ∉ s.toList) :
    10 ∉ toBytes s := by
  rw [toBytes_eq_flatMap]
  intro member
  obtain ⟨c, among, here⟩ := List.mem_flatMap.mp member
  rcases mem_utf8EncodeChar here with code | high
  · have lineFeed : c = '\n' := Char.toNat_inj.mp code.symm
    exact noLineFeed (lineFeed ▸ among)
  · exact absurd high (by decide)

end Uplift.Text
