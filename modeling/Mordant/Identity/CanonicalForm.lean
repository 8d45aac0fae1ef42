/-
# Canonical forms

What a profile asks of the printed bytes, and which bytes it gives back, without loops
or buffers.  A canonical form is printable again, and the loops of the contract compute
it.
-/

import Mordant.Identity.Normalization

namespace Mordant.Identity

open Evm Foundation
open Normalization (lowerHex requirePrintableAscii newBytes isUpperAlpha canonicalBytes upperAlnum
  lowerAlnum vatStep caseInsensitiveStep alnumUpperFixed digitsFixed hexAddress caseInsensitiveAlnum
  refusing)

/-! ## Classes of bytes -/

namespace Byte

def isPrintable (b : UInt8) : Bool := 0x20 ≤ b && b ≤ 0x7E
def isDigit (b : UInt8) : Bool := 0x30 ≤ b && b ≤ 0x39
def isUpper (b : UInt8) : Bool := 0x41 ≤ b && b ≤ 0x5A
def isLower (b : UInt8) : Bool := 0x61 ≤ b && b ≤ 0x7A
def isAlnum (b : UInt8) : Bool := isDigit b || isUpper b || isLower b
def isSeparator (b : UInt8) : Bool := b = 0x20 || b = 0x2E || b = 0x2D

def isHex (b : UInt8) : Bool :=
  isDigit b || (0x61 ≤ b && b ≤ 0x66) || (0x41 ≤ b && b ≤ 0x46)

def upper (b : UInt8) : UInt8 := if isLower b then b - 32 else b
def lower (b : UInt8) : UInt8 := if isUpper b then b + 32 else b

end Byte

open Byte

/-- Something to canonicalize: printable ASCII, and not nothing. -/
def Printable (raw : Bytes) : Prop := raw ≠ [] ∧ raw.all isPrintable = true

instance (raw : Bytes) : Decidable (Printable raw) := inferInstanceAs (Decidable (_ ∧ _))

/-- A profile's length, where it has one. -/
def HasLength (fixedLength : ℕ) (raw : Bytes) : Prop := fixedLength = 0 ∨ raw.length = fixedLength

instance (fixedLength : ℕ) (raw : Bytes) : Decidable (HasLength fixedLength raw) :=
  inferInstanceAs (Decidable (_ ∨ _))

/-- The canonical form of printable bytes. -/
def canonicalForm (profile : ℕ) (raw : Bytes) (fixedLength : ℕ) : Option Bytes :=
  match profile with
  | 1 => if raw.all isAlnum ∧ HasLength fixedLength raw then some (raw.map upper) else none
  | 2 => if raw.all isDigit ∧ HasLength fixedLength raw then some raw else none
  | 3 =>
      let kept := raw.filter fun b => !isSeparator b
      if kept.all isAlnum ∧ 3 ≤ kept.length ∧ ((kept.map upper).take 2).all isUpper then
        some (kept.map upper)
      else none
  | 4 =>
      if raw.length = 42 ∧ raw.take 1 = [0x30] ∧
          ((raw.drop 1).take 1 = [0x78] ∨ (raw.drop 1).take 1 = [0x58]) ∧
          (raw.drop 2).all isHex then
        some ([0x30, 0x78] ++ (raw.drop 2).map lower)
      else none
  | 5 => some raw
  | 6 =>
      let kept := raw.filter isAlnum
      if kept ≠ [] then some (kept.map upper) else none
  | _ => none

theorem canonicalForm_unknown {profile : ℕ} {raw : Bytes} {fixedLength : ℕ}
    (h : profile ∉ [1, 2, 3, 4, 5, 6]) : canonicalForm profile raw fixedLength = none := by
  simp only [List.mem_cons, List.not_mem_nil, or_false, not_or] at h
  unfold canonicalForm
  split <;> simp_all

section

variable {raw : Bytes} {fixedLength : ℕ}

theorem isPrintable_upper {b : UInt8} (h : isPrintable b = true) :
    isPrintable (upper b) = true := by
  simp only [isPrintable, upper, isLower, UInt8.le_iff_toNat_le, UInt8.reduceToNat,
    Bool.and_eq_true, decide_eq_true_eq] at h ⊢
  split_ifs
  · simp only [UInt8.toNat_sub, UInt8.reduceToNat]
    omega
  · exact h

theorem isPrintable_lower {b : UInt8} (h : isPrintable b = true) :
    isPrintable (lower b) = true := by
  simp only [isPrintable, lower, isUpper, UInt8.le_iff_toNat_le, UInt8.reduceToNat,
    Bool.and_eq_true, decide_eq_true_eq] at h ⊢
  split_ifs
  · simp only [UInt8.toNat_add, UInt8.reduceToNat]
    omega
  · exact h

theorem all_isPrintable_map {f : UInt8 → UInt8}
    (hf : ∀ b, isPrintable b = true → isPrintable (f b) = true) (h : raw.all isPrintable = true) :
    (raw.map f).all isPrintable = true := by
  rw [List.all_map, List.all_eq_true]
  exact fun b hmem => hf b (List.all_eq_true.mp h b hmem)

theorem all_isPrintable_of_subset {part : Bytes} (hpart : part ⊆ raw)
    (h : raw.all isPrintable = true) : part.all isPrintable = true :=
  List.all_eq_true.mpr fun b hmem => List.all_eq_true.mp h b (hpart hmem)

/-- Canonical forms are printable again. -/
theorem canonicalForm_printable {profile : ℕ} {out : Bytes} (h : raw.all isPrintable = true)
    (hform : canonicalForm profile raw fixedLength = some out) : out.all isPrintable = true := by
  have hupper : ∀ part ⊆ raw, (part.map upper).all isPrintable = true := fun part hpart =>
    all_isPrintable_map (fun _ => isPrintable_upper) (all_isPrintable_of_subset hpart h)
  unfold canonicalForm at hform
  split at hform
  · obtain ⟨-, hout⟩ := Option.ite_none_right_eq_some.mp hform
    exact Option.some.inj hout ▸ hupper raw (List.Subset.refl _)
  · obtain ⟨-, hout⟩ := Option.ite_none_right_eq_some.mp hform
    exact Option.some.inj hout ▸ h
  · obtain ⟨-, hout⟩ := Option.ite_none_right_eq_some.mp hform
    exact Option.some.inj hout ▸ hupper _ (List.filter_subset_self _)
  · obtain ⟨-, hout⟩ := Option.ite_none_right_eq_some.mp hform
    rw [← Option.some.inj hout, List.all_append, all_isPrintable_map (fun _ => isPrintable_lower)
      (all_isPrintable_of_subset (List.drop_subset 2 raw) h)]
    rfl
  · exact Option.some.inj hform ▸ h
  · obtain ⟨-, hout⟩ := Option.ite_none_right_eq_some.mp hform
    exact Option.some.inj hout ▸ hupper _ (List.filter_subset_self _)
  · exact nomatch hform

end

/-! ## The contract -/

section

variable {raw : Bytes} {fixedLength : ℕ}

theorem upperAlnum_eq (b : UInt8) :
    upperAlnum b = if isAlnum b then some (upper b) else none := by
  simp only [upperAlnum, isAlnum, isDigit, isUpper, isLower, upper, ge_iff_le,
    Bool.or_eq_true, Bool.and_eq_true, decide_eq_true_eq]
  split_ifs <;> first | rfl | (exfalso; tauto)

theorem lowerAlnum_eq (b : UInt8) :
    lowerAlnum b = if isAlnum b then some (lower b) else none := by
  simp only [lowerAlnum, isAlnum, isDigit, isUpper, isLower, lower, ge_iff_le,
    Bool.or_eq_true, Bool.and_eq_true, decide_eq_true_eq]
  split_ifs <;> first | rfl | (exfalso; tauto)

theorem lowerHex_eq (b : UInt8) :
    lowerHex b = if isHex b then some (lower b) else none := by
  simp only [lowerHex, isHex, isDigit, isUpper, lower, ge_iff_le, Bool.or_eq_true,
    Bool.and_eq_true, decide_eq_true_eq, UInt8.le_iff_toNat_le, UInt8.reduceToNat]
  split_ifs <;> first | rfl | (exfalso; omega)

theorem vatStep_eq (b : UInt8) :
    vatStep b =
      if isSeparator b then .drop else if isAlnum b then .keep (upper b) else .refuse := by
  simp only [vatStep, isSeparator, upperAlnum_eq, Bool.or_eq_true,
    decide_eq_true_eq, or_assoc]
  split_ifs <;> rfl

theorem caseInsensitiveStep_eq (b : UInt8) :
    caseInsensitiveStep b =
      if !isAlnum b then .drop else if isAlnum b then .keep (upper b) else .refuse := by
  rw [caseInsensitiveStep, upperAlnum_eq]
  by_cases halnum : isAlnum b = true <;> simp [halnum]

@[simp]
theorem refusing_toOption {α : Type} {loop : Except ℕ α} :
    (refusing loop).toOption = loop.toOption := toOption_mapError

theorem requirePrintableAscii_toOption :
    (requirePrintableAscii raw).toOption =
      if Printable raw then some () else none := by
  by_cases hempty : raw = []
  · simp [requirePrintableAscii, Printable, hempty]
  · simp [requirePrintableAscii, Printable, hempty, checkAll_toOption, isPrintable]

theorem length_newBytes (n : ℕ) : (newBytes n).length = n :=
  List.length_replicate

theorem not_hasLength_iff :
    (fixedLength ≠ 0 ∧ raw.length ≠ fixedLength) ↔ ¬ HasLength fixedLength raw := by
  rw [HasLength, not_or]

theorem alnumUpperFixed_toOption :
    (alnumUpperFixed raw fixedLength).toOption =
      if raw.all isAlnum ∧ HasLength fixedLength raw then some (raw.map upper) else none := by
  simp only [alnumUpperFixed, toOption_bind, refusing_toOption, toOption_revertIf,
    toOption_pure, fill_from_start upperAlnum_eq (length_newBytes _), not_hasLength_iff]
  by_cases halnum : raw.all isAlnum = true <;> by_cases hlength : HasLength fixedLength raw <;>
    simp only [halnum, hlength, if_true, if_false, not_true_eq_false, not_false_eq_true, and_true,
      and_false, Bool.false_eq_true, Option.bind_some, Option.bind_none]

theorem digitsFixed_toOption :
    (digitsFixed raw fixedLength).toOption =
      if raw.all isDigit ∧ HasLength fixedLength raw then some raw else none := by
  have hclass : (fun character : UInt8 => !(character < 0x30 || character > 0x39)) = isDigit := by
    funext b
    simp [isDigit, ← decide_not]
  simp only [digitsFixed, toOption_bind, refusing_toOption, toOption_revertIf,
    toOption_pure, checkAll_toOption, hclass, not_hasLength_iff]
  by_cases hdigit : raw.all isDigit = true <;> by_cases hlength : HasLength fixedLength raw <;>
    simp only [hdigit, hlength, if_true, if_false, not_true_eq_false, not_false_eq_true, and_true,
      and_false, Bool.false_eq_true, Option.bind_some, Option.bind_none]

/-- The first two bytes are capitals. -/
theorem isUpperAlpha_getD (out : Bytes) (hlength : 3 ≤ out.length) :
    (isUpperAlpha (out.getD 0 0) = false ∨
        isUpperAlpha (out.getD 1 0) = false) ↔ ¬ (out.take 2).all isUpper = true := by
  obtain ⟨first, second, third, rest, rfl⟩ : ∃ a b c rest, out = a :: b :: c :: rest := by
    match out, hlength with
    | a :: b :: c :: rest, _ => exact ⟨a, b, c, rest, rfl⟩
  simp [isUpperAlpha, isUpper, or_iff_not_imp_left]

theorem vat_toOption :
    (Normalization.vat raw).toOption = canonicalForm 3 raw fixedLength := by
  have hloop := compact_from_start vatStep_eq (length_newBytes raw.length).ge
  simp only [Normalization.vat, toOption_bind, refusing_toOption, toOption_revertIf,
    toOption_pure, canonicalForm]
  set kept := raw.filter fun b => !isSeparator b with hkept
  by_cases halnum : kept.all isAlnum = true
  · rw [if_pos halnum, Option.map_eq_some_iff] at hloop
    obtain ⟨⟨out, length⟩, hscan, hout⟩ := hloop
    obtain ⟨hout, rfl⟩ := Prod.mk.inj hout
    simp only [hscan, Option.bind_some, hout, halnum, true_and]
    by_cases hshort : kept.length < 3
    · simp [hshort, Nat.not_le.mpr hshort]
    · have hlong : 3 ≤ kept.length := Nat.not_lt.mp hshort
      have hupper := isUpperAlpha_getD (kept.map upper) (by rwa [List.length_map])
      simp only [hshort, if_false, Option.bind_some, hupper, hlong, true_and]
      split_ifs <;> simp_all
  · rw [if_neg halnum, Option.map_eq_none_iff] at hloop
    simp [hloop, halnum]

theorem hexAddress_toOption :
    (hexAddress raw).toOption = canonicalForm 4 raw fixedLength := by
  simp only [hexAddress, toOption_bind, refusing_toOption, toOption_revertIf,
    canonicalForm]
  by_cases hlength : raw.length = 42
  · obtain ⟨first, second, rest, rfl⟩ : ∃ a b rest, raw = a :: b :: rest := by
      obtain _ | ⟨a, _ | ⟨b, rest⟩⟩ := raw
      · cases hlength
      · cases hlength
      · exact ⟨a, b, rest, rfl⟩
    have hrest : (newBytes 40).length = rest.length := by
      rw [List.length_cons, List.length_cons] at hlength
      rw [length_newBytes]
      omega
    have hfill : (fill lowerHex 2 rest
        (((newBytes 42).set 0 0x30).set 1 0x78)).toOption =
          if rest.all isHex then some ([0x30, 0x78] ++ rest.map lower) else none :=
      @fill_toOption _ _ _ _ _ lowerHex_eq rest [0x30, 0x78] _ hrest
    have hprefix : ((first :: second :: rest).getD 0 0 ≠ 0x30 ∨
          ((first :: second :: rest).getD 1 0 ≠ 0x78 ∧
            (first :: second :: rest).getD 1 0 ≠ 0x58)) ↔
        ¬ ((first :: second :: rest).take 1 = [0x30] ∧
          (((first :: second :: rest).drop 1).take 1 = [0x78] ∨
            ((first :: second :: rest).drop 1).take 1 = [0x58])) := by
      simp [imp_iff_not_or]
    simp only [hlength, ne_eq, not_true_eq_false, if_false, Option.bind_some, hprefix, true_and,
      List.drop_succ_cons, List.drop_zero, hfill]
    split_ifs <;> simp_all
  · simp [hlength]

theorem caseInsensitiveAlnum_toOption :
    (caseInsensitiveAlnum raw).toOption = canonicalForm 6 raw fixedLength := by
  have hloop := compact_from_start caseInsensitiveStep_eq (length_newBytes raw.length).ge
  simp only [caseInsensitiveAlnum, toOption_bind, refusing_toOption,
    toOption_revertIf, toOption_pure, canonicalForm]
  simp only [Bool.not_not] at hloop
  set kept := raw.filter isAlnum with hkept
  have halnum : kept.all isAlnum = true := by
    rw [List.all_eq_true]
    exact fun b hmem => (List.mem_filter.mp hmem).2
  rw [if_pos halnum, Option.map_eq_some_iff] at hloop
  obtain ⟨⟨out, length⟩, hscan, hout⟩ := hloop
  obtain ⟨hout, rfl⟩ := Prod.mk.inj hout
  simp only [hscan, Option.bind_some, hout, List.length_eq_zero_iff]
  by_cases hempty : kept = [] <;> simp [hempty]

/-- The contract computes the canonical form of what is printable. -/
theorem contract_canonicalBytes (profile : UInt8) :
    (canonicalBytes profile raw fixedLength).toOption =
      if Printable raw then canonicalForm profile.toNat raw fixedLength else none := by
  rw [canonicalBytes, toOption_bind, requirePrintableAscii_toOption]
  by_cases hprintable : Printable raw
  · rw [if_pos hprintable, if_pos hprintable, Option.bind_some]
    split_ifs with h₁ h₂ h₃ h₄ h₅ h₆
    · rw [h₁, alnumUpperFixed_toOption]
      rfl
    · rw [h₂, digitsFixed_toOption]
      rfl
    · rw [h₃]
      exact vat_toOption
    · rw [h₄]
      exact hexAddress_toOption
    · rw [h₅]
      rfl
    · rw [h₆]
      exact caseInsensitiveAlnum_toOption
    · rw [canonicalForm_unknown, toOption_error]
      have hknown : ∀ known : UInt8, profile ≠ known → profile.toNat ≠ known.toNat :=
        fun known hne heq => hne (UInt8.toNat_inj.mp heq)
      simp only [List.mem_cons, List.not_mem_nil, or_false, not_or]
      exact ⟨hknown _ h₁, hknown _ h₂, hknown _ h₃, hknown _ h₄, hknown _ h₅, hknown _ h₆⟩
  · rw [if_neg hprintable, if_neg hprintable, Option.bind_none]

example : (canonicalBytes 3 (stringBytes "fr 40.303-265045") 0).toOption =
    some (stringBytes "FR40303265045") := by decide

end

end Mordant.Identity
