/-
# Hexadecimal strings of a fixed size

A word travels through the scripting runtime as 0x and two digits for each byte, in
either case.  Code compares such words as strings, so what a comparison says of the
words depends on how they are spelled: the zero word has one spelling, and two words
are equal exactly when their spellings agree up to case.
-/

import Mathlib.Data.Nat.Digits.Defs
import Mordant.Script.Unicode

namespace Mordant.Script

/-- The value of a hexadecimal digit. -/
def hexValue (unit : UInt16) : ℕ :=
  if unit ≤ 57 then unit.toNat - 48
  else if unit ≤ 70 then unit.toNat - 55
  else unit.toNat - 87

/-- A string of 0x and two hexadecimal digits for each byte. -/
@[ext]
structure FixedHex (size : ℕ) where
  text : Text
  spelled : matchesDigits isHexDigit "0x" (2 * size) text = true
  deriving DecidableEq

namespace FixedHex

variable {size : ℕ}

/-- The values of the digits. -/
def digits (word : FixedHex size) : List ℕ := (word.text.drop 2).map hexValue

/-- The number the digits stand for. -/
def toNat (word : FixedHex size) : ℕ := Nat.ofDigits 16 word.digits.reverse

/-- The bytes, as the encoder reads them. -/
def value (word : FixedHex size) : BitVec (8 * size) := BitVec.ofNat _ word.toNat

theorem spelling_of_zero :
    matchesDigits isHexDigit "0x" (2 * size) (lit "0x" ++ List.replicate (2 * size) 0x30) =
      true := by
  have hlength : (lit "0x").length = 2 := by decide
  simp [matchesDigits, hlength, isHexDigit, isLowerHexDigit]

/-- `0x` and nothing but zeros, which is what a literal zero is spelled as. -/
def zero : FixedHex size := ⟨lit "0x" ++ List.replicate (2 * size) 0x30, spelling_of_zero⟩

section

variable {word other : FixedHex size} {unit : UInt16}

theorem text_eq (word : FixedHex size) : word.text = lit "0x" ++ word.text.drop 2 := by
  obtain ⟨rest, hrest⟩ := matchesDigits_prefix word.spelled
  rw [← hrest, List.drop_left' (by decide)]

theorem length_drop (word : FixedHex size) : (word.text.drop 2).length = 2 * size := by
  have hspelled := word.spelled
  simp only [matchesDigits, Bool.and_eq_true, decide_eq_true_eq] at hspelled
  exact hspelled.1.2

theorem isHexDigit_of_mem (word : FixedHex size) (h : unit ∈ word.text.drop 2) :
    isHexDigit unit = true := by
  have hspelled := word.spelled
  simp only [matchesDigits, Bool.and_eq_true, decide_eq_true_eq] at hspelled
  exact List.all_eq_true.mp hspelled.2 unit h

theorem toNat_of_isHexDigit (h : isHexDigit unit = true) :
    (48 ≤ unit.toNat ∧ unit.toNat ≤ 57) ∨ (97 ≤ unit.toNat ∧ unit.toNat ≤ 102) ∨
      (65 ≤ unit.toNat ∧ unit.toNat ≤ 70) := by
  simpa only [isHexDigit, isLowerHexDigit, UInt16.le_iff_toNat_le, UInt16.reduceToNat,
    Bool.or_eq_true, Bool.and_eq_true, decide_eq_true_eq, or_assoc] using h

theorem hexValue_lt (h : isHexDigit unit = true) : hexValue unit < 16 := by
  have hrange := toNat_of_isHexDigit h
  simp only [hexValue, UInt16.le_iff_toNat_le, UInt16.reduceToNat]
  split_ifs <;> omega

/-- A digit is known by its value, up to case. -/
theorem lowerUnit_eq (h : isHexDigit unit = true) : lowerUnit unit = hexDigit (hexValue unit) := by
  have hrange := toNat_of_isHexDigit h
  rw [← UInt16.toNat_inj]
  simp only [lowerUnit, hexDigit, hexValue, UInt16.le_iff_toNat_le, UInt16.reduceToNat,
    UInt16.toNat_ofNat']
  split_ifs <;> first | omega | (simp only [UInt16.toNat_add, UInt16.reduceToNat]; omega)

theorem hexValue_hexDigit : ∀ digit < 16, hexValue (hexDigit digit) = digit := by decide

/-- Zero is the only digit with its value. -/
theorem eq_of_hexValue_eq_zero (h : isHexDigit unit = true) (hzero : hexValue unit = 0) :
    unit = 0x30 := by
  have hrange := toNat_of_isHexDigit h
  rw [← UInt16.toNat_inj]
  simp only [hexValue, UInt16.le_iff_toNat_le, UInt16.reduceToNat] at hzero ⊢
  split_ifs at hzero <;> omega

theorem digits_lt {digit : ℕ} (h : digit ∈ word.digits) : digit < 16 := by
  obtain ⟨unit, hunit, rfl⟩ := List.mem_map.mp h
  exact hexValue_lt (word.isHexDigit_of_mem hunit)

theorem length_digits (word : FixedHex size) : word.digits.length = 2 * size := by
  rw [digits, List.length_map, length_drop]

theorem toNat_lt (word : FixedHex size) : word.toNat < 2 ^ (8 * size) := by
  have hbound : word.toNat < 16 ^ word.digits.reverse.length :=
    Nat.ofDigits_lt_base_pow_length (by decide) fun digit h => digits_lt (List.mem_reverse.mp h)
  rw [List.length_reverse, length_digits] at hbound
  calc word.toNat < 16 ^ (2 * size) := hbound
    _ = 2 ^ (8 * size) := by
        rw [show (16 : ℕ) = 2 ^ 4 by decide, ← Nat.pow_mul]
        congr 1
        omega

/-- Words are equal exactly when they have the same digits. -/
theorem value_eq_iff : word.value = other.value ↔ word.digits = other.digits := by
  constructor
  · intro hvalue
    have hnat := congrArg BitVec.toNat hvalue
    rw [value, value, BitVec.toNat_ofNat, BitVec.toNat_ofNat, Nat.mod_eq_of_lt word.toNat_lt,
      Nat.mod_eq_of_lt other.toNat_lt] at hnat
    refine List.reverse_injective (Nat.ofDigits_inj_of_len_eq (by decide) ?_ ?_ ?_ hnat)
    · rw [List.length_reverse, List.length_reverse, length_digits, length_digits]
    · exact fun digit h => digits_lt (List.mem_reverse.mp h)
    · exact fun digit h => digits_lt (List.mem_reverse.mp h)
  · intro hdigits
    rw [value, value, toNat, toNat, hdigits]

theorem isAscii (word : FixedHex size) : IsAscii word.text := by
  have hprefix : ∀ unit ∈ lit "0x", unit < 128 := forall_of_all (by decide)
  rw [text_eq]
  intro unit hmem
  rcases List.mem_append.mp hmem with hmem | hmem
  · exact hprefix unit hmem
  · have hrange := toNat_of_isHexDigit (word.isHexDigit_of_mem hmem)
    simp only [UInt16.lt_iff_toNat_lt, UInt16.reduceToNat]
    omega

theorem toLowerCase_text (cases : CaseMapping) (word : FixedHex size) :
    cases.toLowerCase word.text = lit "0x" ++ word.digits.map hexDigit := by
  rw [cases.lower_ascii _ word.isAscii, text_eq, List.map_append, digits, List.map_map]
  congr 1
  exact List.map_congr_left fun unit h => lowerUnit_eq (word.isHexDigit_of_mem h)

/-- Comparing spellings in lower case compares the words. -/
theorem toLowerCase_eq_iff (cases : CaseMapping) :
    cases.toLowerCase word.text = cases.toLowerCase other.text ↔ word.value = other.value := by
  rw [toLowerCase_text, toLowerCase_text, List.append_cancel_left_eq, value_eq_iff]
  constructor
  · intro hmap
    have hback : ∀ w : FixedHex size, (w.digits.map hexDigit).map hexValue = w.digits := by
      intro w
      rw [List.map_map]
      exact (List.map_congr_left fun digit h => hexValue_hexDigit digit (digits_lt h)).trans
        (List.map_id _)
    rw [← hback word, hmap, hback]
  · intro hdigits
    rw [hdigits]

theorem digits_zero : (zero : FixedHex size).digits = List.replicate (2 * size) 0 := by
  have hlength : (lit "0x").length = 2 := by decide
  rw [digits, zero, List.drop_left' hlength, List.map_replicate]
  rfl

theorem value_zero : (zero : FixedHex size).value = 0 := by
  rw [value, toNat, digits_zero, List.reverse_replicate, Nat.ofDigits_replicate_zero]
  rfl

/-- Comparing with the spelling of zero tells the zero word. -/
theorem text_eq_zero_iff : word.text = (zero : FixedHex size).text ↔ word.value = 0 := by
  rw [← value_zero, value_eq_iff, digits_zero, List.eq_replicate_iff]
  constructor
  · intro htext
    rw [FixedHex.ext htext, digits_zero]
    exact ⟨List.length_replicate, fun digit h => List.eq_of_mem_replicate h⟩
  · rintro ⟨-, hdigits⟩
    have hrest : word.text.drop 2 = List.replicate (2 * size) 0x30 := by
      refine List.eq_replicate_iff.mpr ⟨word.length_drop, fun unit hmem => ?_⟩
      exact eq_of_hexValue_eq_zero (word.isHexDigit_of_mem hmem)
        (hdigits _ (List.mem_map_of_mem hmem))
    rw [text_eq, hrest, zero]

end

end FixedHex

end Mordant.Script
