/-
# Unicode in the scripting runtime

Text leaves the runtime as UTF-8.  On ASCII text that is one byte for each code unit,
and any other text has a byte outside ASCII, so a reader of either form that refuses
what is not ASCII refuses the same texts.  The case mappings are the runtime's own; on
ASCII they move letters and nothing else.
-/

import Mordant.Script.Text

namespace Mordant.Script

/-! ## Case -/

def upperUnit (unit : UInt16) : UInt16 := if 97 ≤ unit ∧ unit ≤ 122 then unit - 32 else unit

def IsAscii (text : Text) : Prop := ∀ unit ∈ text, unit < 128

/-- The case mappings, which the code applies to ASCII only. -/
structure CaseMapping where
  toUpperCase : Text → Text
  toLowerCase : Text → Text
  upper_ascii : ∀ text, IsAscii text → toUpperCase text = text.map upperUnit
  lower_ascii : ∀ text, IsAscii text → toLowerCase text = text.map lowerUnit

/-- The mappings that leave everything else alone. -/
def CaseMapping.ascii : CaseMapping where
  toUpperCase text := text.map upperUnit
  toLowerCase text := text.map lowerUnit
  upper_ascii _ _ := rfl
  lower_ascii _ _ := rfl

/-! ## UTF-8 -/

/-- The bytes of a code point. -/
def utf8Scalar (code : ℕ) : List UInt8 :=
  if code < 0x80 then [UInt8.ofNat code]
  else if code < 0x800 then [UInt8.ofNat (0xC0 + code / 64), UInt8.ofNat (0x80 + code % 64)]
  else if code < 0x10000 then
    [UInt8.ofNat (0xE0 + code / 4096), UInt8.ofNat (0x80 + code / 64 % 64),
      UInt8.ofNat (0x80 + code % 64)]
  else
    [UInt8.ofNat (0xF0 + code / 262144), UInt8.ofNat (0x80 + code / 4096 % 64),
      UInt8.ofNat (0x80 + code / 64 % 64), UInt8.ofNat (0x80 + code % 64)]

/-- The code point of a unit that is not half of a pair. -/
def loneScalar (unit : UInt16) : ℕ :=
  if isHighSurrogate unit || isLowSurrogate unit then 0xFFFD else unit.toNat

/-- `new TextEncoder().encode`. -/
def encodeUtf8 : Text → List UInt8
  | [] => []
  | [unit] => utf8Scalar (loneScalar unit)
  | high :: low :: rest =>
      if isHighSurrogate high && isLowSurrogate low then
        utf8Scalar (0x10000 + (high.toNat - 0xD800) * 0x400 + (low.toNat - 0xDC00)) ++
          encodeUtf8 rest
      else utf8Scalar (loneScalar high) ++ encodeUtf8 (low :: rest)

section

variable {unit : UInt16} {text : Text}

theorem not_surrogate_of_ascii (h : unit < 128) :
    isHighSurrogate unit = false ∧ isLowSurrogate unit = false := by
  simp only [isHighSurrogate, isLowSurrogate, UInt16.lt_iff_toNat_lt, UInt16.le_iff_toNat_le,
    UInt16.reduceToNat, Bool.and_eq_false_iff, decide_eq_false_iff_not] at h ⊢
  omega

theorem utf8Scalar_ascii (h : unit < 128) :
    utf8Scalar (loneScalar unit) = [unit.toUInt8] := by
  obtain ⟨hhigh, hlow⟩ := not_surrogate_of_ascii h
  simp only [UInt16.lt_iff_toNat_lt, UInt16.reduceToNat] at h
  rw [loneScalar, hhigh, hlow, Bool.or_self, if_neg Bool.false_ne_true, utf8Scalar, if_pos h]
  rfl

/-- ASCII text is its own encoding. -/
theorem encodeUtf8_ascii (h : IsAscii text) : encodeUtf8 text = text.map UInt16.toUInt8 := by
  fun_induction encodeUtf8 text with
  | case1 => rfl
  | case2 unit => exact utf8Scalar_ascii (h unit (List.mem_singleton_self _))
  | case3 high low rest hpair ih =>
      simp [(not_surrogate_of_ascii (h high List.mem_cons_self)).1] at hpair
  | case4 high low rest hpair ih =>
      rw [utf8Scalar_ascii (h high List.mem_cons_self),
        ih fun unit hmem => h unit (List.mem_cons_of_mem _ hmem)]
      rfl

/-- A code point outside ASCII starts with a byte outside ASCII. -/
theorem exists_high_utf8Scalar {code : ℕ} (h : 128 ≤ code) (hbound : code < 0x110000) :
    ∃ byte ∈ utf8Scalar code, 128 ≤ byte := by
  simp only [utf8Scalar, if_neg (Nat.not_lt.mpr h)]
  split_ifs <;>
    exact ⟨_, List.mem_cons_self, by
      simp only [UInt8.le_iff_toNat_le, UInt8.toNat_ofNat', UInt8.reduceToNat]; omega⟩

theorem loneScalar_high (h : 128 ≤ unit) : 128 ≤ loneScalar unit ∧ loneScalar unit < 0x110000 := by
  have hbound := unit.toNat_lt
  simp only [UInt16.le_iff_toNat_le, UInt16.reduceToNat] at h
  unfold loneScalar
  split_ifs <;> omega

/-- So text outside ASCII has a byte outside ASCII. -/
theorem exists_high_encodeUtf8 (h : ¬ IsAscii text) : ∃ byte ∈ encodeUtf8 text, 128 ≤ byte := by
  simp only [IsAscii, not_forall, UInt16.not_lt, exists_prop] at h
  fun_induction encodeUtf8 text with
  | case1 => simp at h
  | case2 unit =>
      obtain ⟨unit', hmem, hhigh⟩ := h
      rw [List.mem_singleton] at hmem
      subst hmem
      exact exists_high_utf8Scalar (loneScalar_high hhigh).1 (loneScalar_high hhigh).2
  | case3 high low rest hpair ih =>
      have hhigh := high.toNat_lt
      have hlow := low.toNat_lt
      simp only [isHighSurrogate, isLowSurrogate, Bool.and_eq_true, decide_eq_true_eq,
        UInt16.le_iff_toNat_le, UInt16.reduceToNat] at hpair
      have hcode : 128 ≤ 0x10000 + (high.toNat - 0xD800) * 0x400 + (low.toNat - 0xDC00) ∧
          0x10000 + (high.toNat - 0xD800) * 0x400 + (low.toNat - 0xDC00) < 0x110000 := by
        omega
      obtain ⟨byte, hmem, hbyte⟩ := exists_high_utf8Scalar hcode.1 hcode.2
      exact ⟨byte, List.mem_append_left _ hmem, hbyte⟩
  | case4 high low rest hpair ih =>
      obtain ⟨unit, hmem, hunit⟩ := h
      rcases List.mem_cons.mp hmem with rfl | hmem
      · obtain ⟨byte, hbyte, hle⟩ :=
          exists_high_utf8Scalar (loneScalar_high hunit).1 (loneScalar_high hunit).2
        exact ⟨byte, List.mem_append_left _ hbyte, hle⟩
      · obtain ⟨byte, hbyte, hle⟩ := ih ⟨unit, hmem, hunit⟩
        exact ⟨byte, List.mem_append_right _ hbyte, hle⟩

end

/-! ## Characters -/

/-- The code units of a character. -/
def charUnits (c : Char) : Text :=
  if c.toNat < 0x10000 then [UInt16.ofNat c.toNat]
  else
    [UInt16.ofNat (0xD800 + (c.toNat - 0x10000) / 0x400),
      UInt16.ofNat (0xDC00 + (c.toNat - 0x10000) % 0x400)]

/-- The text that characters are. -/
def units (chars : List Char) : Text := chars.flatMap charUnits

/-- The bytes of characters. -/
def utf8Bytes (chars : List Char) : List UInt8 := chars.flatMap String.utf8EncodeChar

section

variable {c : Char} {chars other : List Char} {text : Text}

/-- The bytes of a character are those of its code point. -/
theorem utf8EncodeChar_eq : String.utf8EncodeChar c = utf8Scalar c.toNat := by
  have hc : c.toNat < 0xD800 ∨ 0xDFFF < c.toNat ∧ c.toNat < 0x110000 := c.valid
  have hval : c.val.toNat = c.toNat := rfl
  have hone : c.toNat < 0x80 ↔ c.toNat ≤ 0x7f := Nat.lt_succ_iff
  have htwo : c.toNat < 0x800 ↔ c.toNat ≤ 0x7ff := Nat.lt_succ_iff
  have hthree : c.toNat < 0x10000 ↔ c.toNat ≤ 0xffff := Nat.lt_succ_iff
  simp only [String.utf8EncodeChar, utf8Scalar, hval, hone, htwo, hthree]
  split_ifs with hone htwo hthree
  · rfl
  · rw [show c.toNat / 64 % 0x20 + 0xc0 = 0xC0 + c.toNat / 64 by omega,
      Nat.add_comm (c.toNat % 64)]
  · rw [show c.toNat / 4096 % 0x10 + 0xe0 = 0xE0 + c.toNat / 4096 by omega,
      Nat.add_comm (c.toNat / 64 % 64), Nat.add_comm (c.toNat % 64)]
  · rw [show c.toNat / 262144 % 0x08 + 0xf0 = 0xF0 + c.toNat / 262144 by omega,
      Nat.add_comm (c.toNat / 4096 % 64), Nat.add_comm (c.toNat / 64 % 64),
      Nat.add_comm (c.toNat % 64)]

/-- A character outside the pairs is one unit, and none of a pair. -/
theorem charUnits_of_lt (h : c.toNat < 0x10000) :
    ∃ unit : UInt16, charUnits c = [unit] ∧ unit.toNat = c.toNat ∧
      isHighSurrogate unit = false ∧ isLowSurrogate unit = false := by
  have hc : c.toNat < 0xD800 ∨ 0xDFFF < c.toNat ∧ c.toNat < 0x110000 := c.valid
  have hunit : (UInt16.ofNat c.toNat).toNat = c.toNat := UInt16.toNat_ofNat_of_lt h
  refine ⟨UInt16.ofNat c.toNat, if_pos h, hunit, ?_, ?_⟩ <;>
  · simp only [isHighSurrogate, isLowSurrogate, UInt16.le_iff_toNat_le, UInt16.reduceToNat,
      Bool.and_eq_false_iff, decide_eq_false_iff_not, hunit]
    omega

/-- Any other character is a pair. -/
theorem charUnits_of_le (h : 0x10000 ≤ c.toNat) :
    ∃ high low : UInt16, charUnits c = [high, low] ∧
      high.toNat = 0xD800 + (c.toNat - 0x10000) / 0x400 ∧
      low.toNat = 0xDC00 + (c.toNat - 0x10000) % 0x400 ∧
      isHighSurrogate high = true ∧ isLowSurrogate low = true := by
  have hc : c.toNat < 0xD800 ∨ 0xDFFF < c.toNat ∧ c.toNat < 0x110000 := c.valid
  have hhigh : (UInt16.ofNat (0xD800 + (c.toNat - 0x10000) / 0x400)).toNat =
      0xD800 + (c.toNat - 0x10000) / 0x400 := UInt16.toNat_ofNat_of_lt (show _ < 65536 by omega)
  have hlow : (UInt16.ofNat (0xDC00 + (c.toNat - 0x10000) % 0x400)).toNat =
      0xDC00 + (c.toNat - 0x10000) % 0x400 := UInt16.toNat_ofNat_of_lt (show _ < 65536 by omega)
  refine ⟨_, _, if_neg (by omega), hhigh, hlow, ?_, ?_⟩ <;>
  · simp only [isHighSurrogate, isLowSurrogate, UInt16.le_iff_toNat_le, UInt16.reduceToNat,
      Bool.and_eq_true, decide_eq_true_eq, hhigh, hlow]
    omega

theorem encodeUtf8_charUnits :
    encodeUtf8 (charUnits c ++ text) = String.utf8EncodeChar c ++ encodeUtf8 text := by
  rw [utf8EncodeChar_eq]
  rcases Nat.lt_or_ge c.toNat 0x10000 with h | h
  · obtain ⟨unit, hunits, hunit, hhigh, hlow⟩ := charUnits_of_lt h
    have hlone : loneScalar unit = c.toNat := by
      rw [loneScalar, hhigh, hlow, Bool.or_self, if_neg Bool.false_ne_true, hunit]
    rw [hunits, List.singleton_append]
    cases text with
    | nil => rw [encodeUtf8, encodeUtf8, hlone, List.append_nil]
    | cons low rest => rw [encodeUtf8, hhigh, Bool.false_and, if_neg Bool.false_ne_true, hlone]
  · obtain ⟨high, low, hunits, hhigh, hlow, hishigh, hislow⟩ := charUnits_of_le h
    have hcode : 0x10000 + (high.toNat - 0xD800) * 0x400 + (low.toNat - 0xDC00) = c.toNat := by
      omega
    rw [hunits, List.cons_append, List.singleton_append, encodeUtf8, hishigh, hislow,
      Bool.and_self, if_pos rfl, hcode]

/-- The text of characters is encoded as they are. -/
theorem encodeUtf8_units : encodeUtf8 (units chars) = utf8Bytes chars := by
  induction chars with
  | nil => rfl
  | cons c chars ih =>
      rw [units, List.flatMap_cons, encodeUtf8_charUnits]
      exact congrArg (String.utf8EncodeChar c ++ ·) ih

theorem toUTF8_ofList : (String.ofList chars).toUTF8.data.toList = utf8Bytes chars := by
  simp [String.toUTF8, List.utf8Encode, utf8Bytes]

/-- The bytes tell the characters. -/
theorem utf8Bytes_injective : Function.Injective utf8Bytes := by
  intro chars other h
  rw [← toUTF8_ofList, ← toUTF8_ofList] at h
  exact String.ofList_injective
    (String.toByteArray_inj.mp (ByteArray.ext (Array.toList_inj.mp h)))

@[simp] theorem units_append : units (chars ++ other) = units chars ++ units other :=
  List.flatMap_append

end

end Mordant.Script
