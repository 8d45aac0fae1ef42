/-
# Integers in decimal

An integer is spelled by a sign and digits.  The spelling is a number of the document grammar,
is ASCII, and reads back as the integer.
-/

import Mordant.Script.Parse
import Mordant.Script.Unicode

namespace Mordant.Script

/-- The digits of an integer, behind its sign. -/
def decimal (n : ℤ) : List Char :=
  if n < 0 then '-' :: Nat.toDigits 10 n.natAbs else Nat.toDigits 10 n.natAbs

/-- The integer that digits behind a sign spell. -/
def readDecimal (text : Text) : ℤ :=
  let digits (text : Text) : ℕ := text.foldl (fun value unit => value * 10 + (unit.toNat - 48)) 0
  if text.head? = some 45 then -(digits text.tail) else digits text

section

variable {c : Char} {chars : List Char} {n : ℤ}

theorem charUnits_ascii (h : c.toNat < 128) : charUnits c = [UInt16.ofNat c.toNat] :=
  if_pos (by omega)

theorem digit_bounds (h : c ∈ Nat.toDigits 10 n.natAbs) : 48 ≤ c.toNat ∧ c.toNat ≤ 57 := by
  have hdigit := Nat.isDigit_of_mem_toDigits (by decide) (by decide) h
  simpa [Char.isDigit, UInt32.le_iff_toNat_le] using hdigit

/-- Digits, as units. -/
theorem units_digits (h : ∀ c ∈ chars, 48 ≤ c.toNat ∧ c.toNat ≤ 57) :
    units chars = chars.map fun c => UInt16.ofNat c.toNat := by
  induction chars with
  | nil => rfl
  | cons c chars ih =>
      obtain ⟨hc, hrest⟩ := List.forall_mem_cons.mp h
      rw [units, List.flatMap_cons, charUnits_ascii (by omega), ← units, ih hrest]
      rfl

theorem isDecimal_units (h : ∀ c ∈ chars, 48 ≤ c.toNat ∧ c.toNat ≤ 57) :
    ∀ unit ∈ units chars, isDecimal unit = true := by
  rw [units_digits h]
  intro unit hunit
  obtain ⟨c, hc, rfl⟩ := List.mem_map.mp hunit
  have := h c hc
  have hsize : (UInt16.ofNat c.toNat).toNat = c.toNat :=
    UInt16.toNat_ofNat_of_lt (show _ < 65536 by omega)
  simp only [isDecimal, UInt16.le_iff_toNat_le, hsize, UInt16.reduceToNat, Bool.and_eq_true,
    decide_eq_true_eq]
  exact this

/-- Only zero is spelled with a leading zero. -/
theorem head_toDigits {n : ℕ} (h : 0 < n) : (Nat.toDigits 10 n).head? ≠ some '0' := by
  induction n using Nat.strongRecOn with
  | _ n ih =>
      rcases Nat.lt_or_ge n 10 with hsmall | hlarge
      · have hdigits : ∀ n < 10, 0 < n → [Nat.digitChar n].head? ≠ some '0' := by decide
        rw [Nat.toDigits_of_lt_base hsmall]
        exact hdigits n hsmall h
      · rw [Nat.toDigits_of_base_le (by decide) hlarge]
        have hhead := ih (n / 10) (by omega) (by omega)
        cases hdigits : Nat.toDigits 10 (n / 10) with
        | nil => exact absurd hdigits Nat.toDigits_ne_nil
        | cons first rest =>
            rw [hdigits] at hhead
            exact hhead

/-- Digits without a needless zero are a number, with whatever may follow the digits. -/
theorem isNumberLiteral_digits (m : ℕ) (sign rest : Text) (hsign : sign = [] ∨ sign = [45])
    (hrest : isFraction rest = true) (hstop : ∀ unit ∈ rest.head?, isDecimal unit = false) :
    isNumberLiteral (sign ++ units (Nat.toDigits 10 m) ++ rest) = true := by
  have hbounds : ∀ c ∈ Nat.toDigits 10 m, 48 ≤ c.toNat ∧ c.toNat ≤ 57 := fun c hc =>
    digit_bounds (n := m) hc
  have hdecimal := isDecimal_units hbounds
  have hunits := units_digits hbounds
  have hends : rest.takeWhile isDecimal = [] ∧ rest.dropWhile isDecimal = rest := by
    cases rest with
    | nil => exact ⟨rfl, rfl⟩
    | cons unit rest =>
        have hunit : ¬ isDecimal unit = true := by
          rw [hstop unit rfl]
          decide
        exact ⟨List.takeWhile_cons_of_neg hunit, List.dropWhile_cons_of_neg hunit⟩
  have htake : (units (Nat.toDigits 10 m) ++ rest).takeWhile isDecimal =
      units (Nat.toDigits 10 m) := by
    rw [List.takeWhile_append_of_pos hdecimal, hends.1, List.append_nil]
  have hdrop : (units (Nat.toDigits 10 m) ++ rest).dropWhile isDecimal = rest := by
    rw [List.dropWhile_append_of_pos hdecimal, hends.2]
  cases hdigits : Nat.toDigits 10 m with
  | nil => exact absurd hdigits Nat.toDigits_ne_nil
  | cons first others =>
      rw [hdigits, List.map_cons] at hunits
      rw [hdigits] at htake hdrop hdecimal
      have hfirst : (UInt16.ofNat first.toNat).toNat = first.toNat := by
        have := hbounds first (by rw [hdigits]; exact List.mem_cons_self)
        exact UInt16.toNat_ofNat_of_lt (show _ < 65536 by omega)
      have hunsigned : (if (sign ++ units (first :: others) ++ rest).head? = some 45 then
          (sign ++ units (first :: others) ++ rest).tail
          else sign ++ units (first :: others) ++ rest) = units (first :: others) ++ rest := by
        rcases hsign with rfl | rfl
        · rw [List.nil_append, if_neg]
          intro hhead
          rw [hunits, List.cons_append] at hhead
          have hmem : (45 : UInt16) ∈ units (first :: others) := by
            rw [hunits, ← Option.some.inj hhead]
            exact List.mem_cons_self
          exact absurd (hdecimal 45 hmem) (by decide)
        · rfl
      -- a zero in front is alone
      have hzero : (units (first :: others)).head? ≠ some 48 ∨
          (units (first :: others)).length = 1 := by
        rcases Nat.eq_zero_or_pos m with rfl | hpos
        · obtain ⟨rfl, rfl⟩ := List.cons.inj (hdigits.symm.trans (Nat.toDigits_zero 10))
          exact .inr rfl
        · refine .inl fun hhead => head_toDigits hpos ?_
          rw [hunits] at hhead
          have hnat := congrArg UInt16.toNat (Option.some.inj hhead)
          rw [hfirst] at hnat
          rw [hdigits]
          exact congrArg some (Char.toNat_inj.mp hnat)
      rw [isNumberLiteral, hunsigned, htake, hdrop]
      simp only [hrest, Bool.and_true, Bool.and_eq_true, Bool.or_eq_true, decide_eq_true_eq]
      exact ⟨by rw [hunits]; exact List.cons_ne_nil _ _, hzero⟩

theorem isNumberLiteral_append {rest : Text} (hrest : isFraction rest = true)
    (hstop : ∀ unit ∈ rest.head?, isDecimal unit = false) :
    isNumberLiteral (units (decimal n) ++ rest) = true := by
  rw [decimal]
  by_cases hneg : n < 0
  · rw [if_pos hneg]
    exact isNumberLiteral_digits _ [45] rest (.inr rfl) hrest hstop
  · rw [if_neg hneg]
    exact isNumberLiteral_digits _ [] rest (.inl rfl) hrest hstop

theorem isLiteralUnit_decimal : (units (decimal n)).all isNumberUnit = true := by
  have hdigits : ∀ unit ∈ units (Nat.toDigits 10 n.natAbs), isNumberUnit unit = true := by
    intro unit hunit
    have := isDecimal_units (fun c hc => digit_bounds hc) unit hunit
    rw [isDecimal] at this
    rw [isNumberUnit, this]
    rfl
  rw [decimal, List.all_eq_true]
  split_ifs
  · intro unit hunit
    rcases List.mem_cons.mp hunit with rfl | hunit
    · decide
    · exact hdigits unit hunit
  · exact hdigits

/-- The digits of a number are read as the number. -/
theorem foldl_digits (chars : List Char) (value : ℕ)
    (h : ∀ c ∈ chars, 48 ≤ c.toNat ∧ c.toNat ≤ 57) :
    (units chars).foldl (fun value unit => value * 10 + (unit.toNat - 48)) value =
      Nat.ofDigitChars 10 chars value := by
  rw [units_digits h]
  induction chars generalizing value with
  | nil => rfl
  | cons c chars ih =>
      obtain ⟨hc, hrest⟩ := List.forall_mem_cons.mp h
      have hsize : (UInt16.ofNat c.toNat).toNat = c.toNat :=
        UInt16.toNat_ofNat_of_lt (show _ < 65536 by omega)
      rw [List.map_cons, List.foldl_cons, ih _ hrest, Nat.ofDigitChars_cons, hsize,
        Nat.mul_comm value]
      rfl

/-- An integer is read back. -/
theorem readDecimal_decimal : readDecimal (units (decimal n)) = n := by
  have hbounds : ∀ c ∈ Nat.toDigits 10 n.natAbs, 48 ≤ c.toNat ∧ c.toNat ≤ 57 := fun c hc =>
    digit_bounds hc
  have hread := foldl_digits _ 0 hbounds
  rw [Nat.ofDigitChars_ten_toDigits] at hread
  rw [decimal]
  split_ifs with hneg
  · show -(((units (Nat.toDigits 10 n.natAbs)).foldl _ 0 : ℕ) : ℤ) = n
    rw [hread]
    omega
  · have hhead : ¬ (units (Nat.toDigits 10 n.natAbs)).head? = some 45 := by
      intro hhead
      exact absurd (isDecimal_units hbounds 45 (List.mem_of_head? hhead)) (by decide)
    rw [readDecimal]
    simp only [if_neg hhead, hread]
    omega

/-! ## A number format -/

/-- Integers in decimal, and other numbers by numerator and denominator. -/
def writeRatio (value : ℚ) : Text :=
  units (decimal value.num) ++
    if value.den = 1 then [] else 101 :: units (Nat.toDigits 10 value.den)

def readRatio (text : Text) : Number :=
  let numerator := readDecimal (text.takeWhile (· ≠ 101))
  match text.dropWhile (· ≠ 101) with
  | [] => .ofInt numerator
  | _ :: denominator => .finite (Rat.divInt numerator (readDecimal denominator))

theorem decimal_natCast (m : ℕ) : decimal m = Nat.toDigits 10 m := by
  rw [decimal, if_neg (by omega), Int.natAbs_natCast]

theorem isNumberUnit_toDigits (m : ℕ) :
    ∀ unit ∈ units (Nat.toDigits 10 m), isNumberUnit unit = true := by
  have hunits := isLiteralUnit_decimal (n := m)
  rw [decimal_natCast] at hunits
  exact List.all_eq_true.mp hunits

/-- No exponent is in an integer. -/
theorem ne_exponent_of_decimal : ∀ unit ∈ units (decimal n), (unit ≠ 101 : Bool) = true := by
  have hdigits : ∀ unit ∈ units (Nat.toDigits 10 n.natAbs), unit ≠ 101 := by
    rintro unit hunit rfl
    exact absurd (isDecimal_units (fun c hc => digit_bounds hc) 101 hunit) (by decide)
  intro unit hunit
  rw [decimal] at hunit
  split_ifs at hunit
  · rcases List.mem_cons.mp hunit with rfl | hunit
    · decide
    · exact decide_eq_true (hdigits unit hunit)
  · exact decide_eq_true (hdigits unit hunit)

/-- A denominator is an exponent, as the grammar reads it. -/
theorem isFraction_denominator (m : ℕ) :
    isFraction (101 :: units (Nat.toDigits 10 m)) = true := by
  have hbounds : ∀ c ∈ Nat.toDigits 10 m, 48 ≤ c.toNat ∧ c.toNat ≤ 57 := fun c hc =>
    digit_bounds (n := m) hc
  have hdecimal := isDecimal_units hbounds
  have hnonempty : units (Nat.toDigits 10 m) ≠ [] := by
    rw [units_digits hbounds]
    exact fun h => Nat.toDigits_ne_nil (List.map_eq_nil_iff.mp h)
  have hsign : ¬ ((units (Nat.toDigits 10 m)).head? = some 43 ∨
      (units (Nat.toDigits 10 m)).head? = some 45) := by
    rintro (hhead | hhead)
    · exact absurd (hdecimal _ (List.mem_of_head? hhead)) (by decide)
    · exact absurd (hdecimal _ (List.mem_of_head? hhead)) (by decide)
  show isExponent (101 :: units (Nat.toDigits 10 m)) = true
  rw [isExponent]
  simp only [if_neg hsign, List.all_eq_true.mpr hdecimal, decide_eq_true hnonempty]
  rfl

/-- Such a format exists. -/
def ratioFormat : NumberFormat where
  write := writeRatio
  read := readRatio
  literal value := by
    rw [writeRatio]
    by_cases hone : value.den = 1
    · rw [if_pos hone]
      exact isNumberLiteral_append rfl fun _ h => nomatch h
    · rw [if_neg hone]
      apply isNumberLiteral_append (isFraction_denominator value.den)
      intro unit hunit
      obtain rfl := Option.some.inj hunit
      rfl
  units value := by
    rw [writeRatio, List.all_append, isLiteralUnit_decimal, Bool.true_and]
    split_ifs
    · rfl
    · rw [List.all_cons, List.all_eq_true.mpr (isNumberUnit_toDigits value.den)]
      rfl
  read_write value := by
    have htake : ∀ rest : Text, rest = [] ∨ (∃ tail, rest = 101 :: tail) →
        (units (decimal value.num) ++ rest).takeWhile (· ≠ 101) = units (decimal value.num) ∧
          (units (decimal value.num) ++ rest).dropWhile (· ≠ 101) = rest := by
      intro rest hrest
      rw [List.takeWhile_append_of_pos ne_exponent_of_decimal,
        List.dropWhile_append_of_pos ne_exponent_of_decimal]
      rcases hrest with rfl | ⟨tail, rfl⟩
      · exact ⟨List.append_nil _, rfl⟩
      · exact ⟨List.append_nil _, rfl⟩
    rw [writeRatio, readRatio]
    split_ifs with hone
    · obtain ⟨hnum, hrest⟩ := htake [] (.inl rfl)
      simp only [hnum, hrest, readDecimal_decimal]
      rw [Number.ofInt]
      exact congrArg Number.finite (Rat.ext rfl hone.symm)
    · obtain ⟨hnum, hrest⟩ := htake (101 :: units (Nat.toDigits 10 value.den)) (.inr ⟨_, rfl⟩)
      have hden : readDecimal (units (Nat.toDigits 10 value.den)) = value.den := by
        rw [← decimal_natCast, readDecimal_decimal]
      simp only [hnum, hrest, readDecimal_decimal, hden]
      exact congrArg Number.finite (Rat.num_divInt_den value)

end

end Mordant.Script
