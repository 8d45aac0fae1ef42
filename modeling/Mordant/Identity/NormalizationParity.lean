/-
# Parity of the canonicalizations

The patterns and replacements of the client compute the canonical form the loops of the
contract compute, so the two accept the same identifiers and give the same bytes and
digests, on bytes and on text that is written as those bytes.
-/

import Mordant.Identity.CanonicalForm
import Mordant.Identity.ClientNormalization

namespace Mordant.Identity

open Evm Foundation Script Byte
open Normalization (canonicalBytes namespaceDigest)

/-! ## The client -/

/-- The text with the bytes as its code units. -/
def units (raw : Bytes) : Text := raw.map UInt8.toUInt16

section

variable {raw : Bytes} {fixedLength : ℕ}

theorem toUInt16_eq_iff {a b : UInt8} : a.toUInt16 = b.toUInt16 ↔ a = b := by
  rw [← UInt16.toNat_inj, ← UInt8.toNat_inj, UInt8.toNat_toUInt16, UInt8.toNat_toUInt16]

theorem isDigit_unit (b : UInt8) : Client.isDigit b.toUInt16 = isDigit b := by
  simp only [Client.isDigit, isDigit, UInt16.le_iff_toNat_le, UInt8.le_iff_toNat_le,
    UInt8.toNat_toUInt16, UInt8.reduceToNat, UInt16.reduceToNat]

theorem isUpper_unit (b : UInt8) : Client.isUpper b.toUInt16 = isUpper b := by
  simp only [Client.isUpper, isUpper, UInt16.le_iff_toNat_le, UInt8.le_iff_toNat_le,
    UInt8.toNat_toUInt16, UInt8.reduceToNat, UInt16.reduceToNat]

theorem isLower_unit (b : UInt8) : Client.isLower b.toUInt16 = isLower b := by
  simp only [Client.isLower, isLower, UInt16.le_iff_toNat_le, UInt8.le_iff_toNat_le,
    UInt8.toNat_toUInt16, UInt8.reduceToNat, UInt16.reduceToNat]

theorem isAlnum_unit (b : UInt8) : Client.isAlnum b.toUInt16 = isAlnum b := by
  rw [Client.isAlnum, isDigit_unit, isUpper_unit, isLower_unit, isAlnum]

theorem isSeparator_unit (b : UInt8) : Client.isSeparator b.toUInt16 = isSeparator b := by
  simp only [Client.isSeparator, isSeparator, ← UInt16.toNat_inj, ← UInt8.toNat_inj,
    UInt8.toNat_toUInt16, UInt8.reduceToNat, UInt16.reduceToNat]

theorem isHexDigit_unit (b : UInt8) : isHexDigit b.toUInt16 = isHex b := by
  simp only [isHexDigit, isLowerHexDigit, isHex, isDigit, UInt16.le_iff_toNat_le,
    UInt8.le_iff_toNat_le, UInt8.toNat_toUInt16, UInt8.reduceToNat, UInt16.reduceToNat]

theorem upperUnit_unit (b : UInt8) : upperUnit b.toUInt16 = (upper b).toUInt16 := by
  have hbound := b.toNat_lt
  rw [← UInt16.toNat_inj, UInt8.toNat_toUInt16]
  simp only [upperUnit, upper, isLower, UInt16.le_iff_toNat_le, UInt8.le_iff_toNat_le,
    UInt8.toNat_toUInt16, UInt8.reduceToNat, UInt16.reduceToNat, Bool.and_eq_true,
    decide_eq_true_eq]
  split_ifs with hlower
  · simp only [UInt16.toNat_sub, UInt8.toNat_sub, UInt8.toNat_toUInt16, UInt8.reduceToNat,
      UInt16.reduceToNat]
    omega
  · exact UInt8.toNat_toUInt16 b

theorem lowerUnit_unit (b : UInt8) : lowerUnit b.toUInt16 = (lower b).toUInt16 := by
  have hbound := b.toNat_lt
  rw [← UInt16.toNat_inj, UInt8.toNat_toUInt16]
  simp only [lowerUnit, lower, isUpper, UInt16.le_iff_toNat_le, UInt8.le_iff_toNat_le,
    UInt8.toNat_toUInt16, UInt8.reduceToNat, UInt16.reduceToNat, Bool.and_eq_true,
    decide_eq_true_eq]
  split_ifs with hupper
  · simp only [UInt16.toNat_add, UInt8.toNat_add, UInt8.toNat_toUInt16, UInt8.reduceToNat,
      UInt16.reduceToNat]
    omega
  · exact UInt8.toNat_toUInt16 b

/-- A class of units, on bytes. -/
theorem all_units {p : UInt16 → Bool} {q : UInt8 → Bool} (hclass : ∀ b, p b.toUInt16 = q b) :
    (∀ unit ∈ units raw, p unit = true) ↔ raw.all q = true := by
  rw [units, List.forall_mem_map, List.all_eq_true]
  exact forall₂_congr fun b _ => by rw [hclass]

theorem filter_units {p : UInt16 → Bool} {q : UInt8 → Bool} (hclass : ∀ b, p b.toUInt16 = q b) :
    (units raw).filter p = units (raw.filter q) := by
  rw [units, units, List.filter_map]
  congr 1
  exact List.filter_congr fun b _ => hclass b

theorem isAscii_units (h : raw.all isPrintable = true) : IsAscii (units raw) := by
  rw [IsAscii, units, List.forall_mem_map]
  intro b hmem
  have hprintable := List.all_eq_true.mp h b hmem
  simp only [isPrintable, Bool.and_eq_true, decide_eq_true_eq, UInt8.le_iff_toNat_le,
    UInt8.reduceToNat] at hprintable
  simp only [UInt16.lt_iff_toNat_lt, UInt8.toNat_toUInt16, UInt16.reduceToNat]
  omega

theorem encodeUtf8_units (h : IsAscii (units raw)) : encodeUtf8 (units raw) = raw := by
  rw [encodeUtf8_ascii h, units, List.map_map]
  exact List.map_id'' (fun b => UInt8.toUInt8_toUInt16 b) raw

/-- ASCII text is written with its own code units. -/
theorem units_encodeUtf8 {text : Text} (h : IsAscii text) : units (encodeUtf8 text) = text := by
  rw [encodeUtf8_ascii h, units, List.map_map]
  refine (List.map_congr_left fun unit hmem => ?_).trans (List.map_id text)
  have hunit := h unit hmem
  simp only [UInt16.lt_iff_toNat_lt, UInt16.reduceToNat] at hunit
  rw [Function.comp_apply, id, ← UInt16.toNat_inj, UInt8.toNat_toUInt16, UInt16.toNat_toUInt8,
    Nat.mod_eq_of_lt (by omega)]

theorem units_injective : Function.Injective units :=
  List.map_injective_iff.mpr fun _ _ => toUInt16_eq_iff.mp

theorem length_units : (units raw).length = raw.length := List.length_map _

theorem units_eq_nil_iff : units raw = [] ↔ raw = [] := List.map_eq_nil_iff

theorem upper_units (cases : CaseMapping) (h : IsAscii (units raw)) :
    cases.toUpperCase (units raw) = units (raw.map upper) := by
  rw [cases.upper_ascii _ h, units, units, List.map_map, List.map_map]
  exact List.map_congr_left fun b _ => upperUnit_unit b

theorem lower_units (cases : CaseMapping) (h : IsAscii (units raw)) :
    cases.toLowerCase (units raw) = units (raw.map lower) := by
  rw [cases.lower_ascii _ h, units, units, List.map_map, List.map_map]
  exact List.map_congr_left fun b _ => lowerUnit_unit b

theorem client_requirePrintableAscii :
    (Client.requirePrintableAscii (units raw)).toOption =
      if Printable raw then some () else none := by
  have hclass : ∀ b : UInt8,
      (!(decide (b.toUInt16 < 0x20) || decide (b.toUInt16 > 0x7E))) = isPrintable b := by
    intro b
    simp only [isPrintable, Bool.not_or, ← decide_not, UInt16.not_lt, gt_iff_lt,
      UInt16.le_iff_toNat_le, UInt8.le_iff_toNat_le, UInt8.toNat_toUInt16, UInt8.reduceToNat,
      UInt16.reduceToNat]
  have hall : (units raw).all (fun code => !(code < 0x20 || code > 0x7E)) =
      raw.all isPrintable := by
    rw [units, List.all_map]
    exact congrArg raw.all (funext hclass)
  by_cases hempty : raw = []
  · simp [Client.requirePrintableAscii, Printable, hempty, units]
  · simp only [Client.requirePrintableAscii, toOption_bind, toOption_revertIf, toOption_mapError,
      checkAll_toOption, hall, length_units, List.length_eq_zero_iff, hempty, if_false,
      Option.bind_some, Printable, ne_eq, not_false_eq_true, true_and]

theorem accepts_alnumPattern (hne : raw ≠ []) :
    accepts Client.alnumPattern (units raw) = raw.all isAlnum := by
  rw [Bool.eq_iff_iff, Client.alnumPattern, accepts_oneOrMore_iff, all_units isAlnum_unit]
  exact and_iff_right (units_eq_nil_iff.not.mpr hne)

theorem accepts_digitsPattern (hne : raw ≠ []) :
    accepts Client.digitsPattern (units raw) = raw.all isDigit := by
  rw [Bool.eq_iff_iff, Client.digitsPattern, accepts_oneOrMore_iff, all_units isDigit_unit]
  exact and_iff_right (units_eq_nil_iff.not.mpr hne)

theorem take_units (n : ℕ) : (units raw).take n = units (raw.take n) := List.map_take.symm

theorem drop_units (n : ℕ) : (units raw).drop n = units (raw.drop n) := List.map_drop.symm

theorem isUpperAlnum_upper (b : UInt8) : (isUpper (upper b) || isDigit (upper b)) = isAlnum b := by
  rw [Bool.eq_iff_iff]
  simp only [isAlnum, isDigit, isUpper, upper, isLower, UInt8.le_iff_toNat_le, UInt8.reduceToNat,
    Bool.or_eq_true, Bool.and_eq_true, decide_eq_true_eq]
  split_ifs with hlower
  · simp only [UInt8.toNat_sub, UInt8.reduceToNat]
    omega
  · omega

theorem isUpperAlnum_unit (b : UInt8) :
    Client.isUpperAlnum b.toUInt16 = (isUpper b || isDigit b) := by
  rw [Client.isUpperAlnum, isUpper_unit, isDigit_unit]

/-- Two capitals and something more, nothing but capitals and digits. -/
theorem accepts_vatPattern {kept : Bytes} (hlength : 3 ≤ kept.length) :
    accepts Client.vatPattern (units (kept.map upper)) = true ↔
      kept.all isAlnum = true ∧ ((kept.map upper).take 2).all isUpper = true := by
  obtain ⟨first, second, third, rest, rfl⟩ : ∃ a b c rest, kept = a :: b :: c :: rest := by
    match kept, hlength with
    | a :: b :: c :: rest, _ => exact ⟨a, b, c, rest, rfl⟩
  have hhead : ∀ b : UInt8, isUpper (upper b) = true → isAlnum b = true := by
    intro b hupper
    rw [← isUpperAlnum_upper, hupper, Bool.true_or]
  rw [Client.vatPattern, accepts_times_iff, accepts_oneOrMore_iff, take_units, drop_units,
    all_units isUpper_unit, all_units isUpperAlnum_unit]
  simp only [length_units, List.map_cons, List.take_succ_cons,
    List.take_zero, List.drop_succ_cons, List.drop_zero, List.all_cons, List.all_nil, List.all_map,
    Function.comp_def, isUpperAlnum_upper, Bool.and_eq_true, Bool.and_true]
  constructor
  · rintro ⟨-, ⟨hfirst, hsecond⟩, -, hthird, hrest⟩
    exact ⟨⟨hhead _ hfirst, hhead _ hsecond, hthird, hrest⟩, hfirst, hsecond⟩
  · rintro ⟨⟨-, -, hthird, hrest⟩, hupper⟩
    exact ⟨by simp, hupper, List.cons_ne_nil _ _, hthird, hrest⟩

theorem vat_refused_iff {kept : Bytes} :
    (accepts Client.vatPattern (units (kept.map upper)) = false ∨ kept.length < 3) ↔
      ¬ (kept.all isAlnum = true ∧ 3 ≤ kept.length ∧
        ((kept.map upper).take 2).all isUpper = true) := by
  rw [← Bool.not_eq_true]
  by_cases hlength : 3 ≤ kept.length
  · rw [accepts_vatPattern hlength]
    simp only [hlength, true_and, Nat.not_lt.mpr hlength, or_false]
  · simp only [hlength, Nat.not_le.mp hlength, false_and, and_false, not_false_eq_true, or_true]

/-- The prefix and forty digits. -/
theorem accepts_hexPattern :
    accepts Client.hexPattern (units raw) = true ↔
      raw.length = 42 ∧ raw.take 1 = [0x30] ∧
        ((raw.drop 1).take 1 = [0x78] ∨ (raw.drop 1).take 1 = [0x58]) ∧
        (raw.drop 2).all isHex = true := by
  rw [Client.hexPattern, accepts_times_iff, accepts_times_iff, accepts_times_iff, accepts_nil_iff]
  simp only [take_units, drop_units, length_units, units_eq_nil_iff, List.drop_drop]
  rw [all_units isHexDigit_unit]
  match raw with
  | [] => simp
  | [a] => simp
  | a :: b :: rest =>
      have hzero : a.toUInt16 = 0x30 ↔ a = 0x30 := @toUInt16_eq_iff a 0x30
      have hx : b.toUInt16 = 0x78 ↔ b = 0x78 := @toUInt16_eq_iff b 0x78
      have hX : b.toUInt16 = 0x58 ↔ b = 0x58 := @toUInt16_eq_iff b 0x58
      simp only [units, List.length_cons, List.take_succ_cons, List.take_zero, List.drop_succ_cons,
        List.drop_zero, List.map_cons, List.map_nil, List.forall_mem_singleton, List.cons.injEq,
        and_true, Bool.or_eq_true, decide_eq_true_eq, hzero, hx, hX, List.drop_eq_nil_iff]
      constructor
      · rintro ⟨-, ha, -, hb, hle, hhex, hge⟩
        rw [List.take_of_length_le hge] at hhex
        exact ⟨by omega, ha, hb, hhex⟩
      · rintro ⟨hlength, ha, hb, hhex⟩
        rw [List.take_of_length_le (by omega)]
        exact ⟨by omega, ha, by omega, hb, by omega, hhex, by omega⟩

/-- The client computes the canonical form of what is printable. -/
theorem client_canonicalBytes (cases : CaseMapping) (profile : ℕ) :
    (Client.canonicalBytes cases profile (units raw) fixedLength).toOption =
      if Printable raw then (canonicalForm profile raw fixedLength).map units else none := by
  rw [Client.canonicalBytes, toOption_bind, client_requirePrintableAscii]
  by_cases hprintable : Printable raw
  · have hascii : ∀ part ⊆ raw, IsAscii (units part) := fun part hpart =>
      isAscii_units (all_isPrintable_of_subset hpart hprintable.2)
    rw [if_pos hprintable, if_pos hprintable, Option.bind_some]
    split_ifs with h₁ h₂ h₃ h₄ h₅ h₆
    · subst h₁
      rw [upper_units cases (hascii raw (List.Subset.refl _)), accepts_alnumPattern hprintable.1]
      simp only [toOption_bind, toOption_revertIf, toOption_pure, length_units, not_hasLength_iff,
        canonicalForm, Client.profileAlnumUpperFixed]
      by_cases halnum : raw.all isAlnum = true <;>
        by_cases hlength : HasLength fixedLength raw <;> simp [halnum, hlength]
    · subst h₂
      rw [accepts_digitsPattern hprintable.1]
      simp only [toOption_bind, toOption_revertIf, toOption_pure, length_units, not_hasLength_iff,
        canonicalForm, Client.profileDigitsFixed]
      by_cases hdigit : raw.all isDigit = true <;>
        by_cases hlength : HasLength fixedLength raw <;> simp [hdigit, hlength]
    · subst h₃
      have hkept : ((units raw).filter fun unit => !Client.isSeparator unit) =
          units (raw.filter fun b => !isSeparator b) :=
        filter_units fun b => by rw [isSeparator_unit]
      rw [hkept, upper_units cases (hascii _ (List.filter_subset_self _))]
      simp only [toOption_bind, toOption_revertIf, toOption_pure, length_units, List.length_map,
        canonicalForm, Client.profileVat]
      set kept := raw.filter fun b => !isSeparator b
      rw [if_congr vat_refused_iff rfl rfl]
      split_ifs <;> rfl
    · subst h₄
      have hrest := hascii _ (List.drop_subset 2 raw)
      have hprefix : lit "0x" = units [0x30, 0x78] := by decide
      have hjoin : ∀ part, units [0x30, 0x78] ++ units part = units ([0x30, 0x78] ++ part) :=
        fun part => List.map_append.symm
      rw [drop_units, lower_units cases hrest, hprefix, hjoin]
      simp only [toOption_bind, toOption_revertIf, toOption_pure, canonicalForm,
        Client.profileHexAddress]
      rw [if_congr (Bool.not_eq_true _ ▸ accepts_hexPattern.not) rfl rfl]
      split_ifs <;> rfl
    · rw [h₅]
      rfl
    · subst h₆
      rw [filter_units isAlnum_unit, upper_units cases (hascii _ (List.filter_subset_self _))]
      simp only [toOption_bind, toOption_revertIf, toOption_pure, length_units, List.length_map,
        canonicalForm, Client.profileInvoiceCaseInsensitive, List.length_eq_zero_iff]
      by_cases hempty : raw.filter isAlnum = [] <;> simp [hempty]
    · rw [canonicalForm_unknown, toOption_error, Option.map_none]
      simp only [List.mem_cons, List.not_mem_nil, or_false, not_or]
      exact ⟨h₁, h₂, h₃, h₄, h₅, h₆⟩
  · rw [if_neg hprintable, if_neg hprintable, Option.bind_none]

/-- The same, as the bytes the text is written with. -/
theorem client_canonicalBytes_encoded (cases : CaseMapping) (profile : ℕ) :
    (Client.canonicalBytes cases profile (units raw) fixedLength).toOption.map encodeUtf8 =
      if Printable raw then canonicalForm profile raw fixedLength else none := by
  rw [client_canonicalBytes]
  by_cases hprintable : Printable raw
  · rw [if_pos hprintable, if_pos hprintable]
    cases hform : canonicalForm profile raw fixedLength with
    | none => rfl
    | some out =>
        have hout := canonicalForm_printable hprintable.2 hform
        exact congrArg some (encodeUtf8_units (isAscii_units hout))
  · rw [if_neg hprintable, if_neg hprintable, Option.map_none]

end

/-! ## Agreement -/

/-- A `uint8` argument of a call, which the decoder refuses where it does not fit. -/
def uint8Argument (n : ℕ) : Option UInt8 := if n < 256 then some (UInt8.ofNat n) else none

/-- Client and contract make the same of an identifier that the one has as text and the
other as bytes. -/
structure Agree (cases : CaseMapping) (crypto : Crypto) (text : Text) (raw : Bytes) : Prop where
  canonicalBytes : ∀ profile fixedLength,
    (Client.canonicalBytes cases profile text fixedLength).toOption.map encodeUtf8 =
      (uint8Argument profile).bind fun profile =>
        (canonicalBytes profile raw fixedLength).toOption
  normalize : ∀ profile fixedLength,
    (Client.normalize cases crypto profile text fixedLength).toOption =
      (uint8Argument profile).bind fun profile =>
        (Normalization.normalize crypto profile raw fixedLength).toOption
  namespaceDigest :
    (Client.namespaceDigest cases crypto text).toOption =
      (namespaceDigest crypto raw).toOption

section

variable {cases : CaseMapping} {crypto : Crypto} {raw : Bytes} {text : Text}

theorem canonicalBytes_agree (profile fixedLength : ℕ) :
    (Client.canonicalBytes cases profile (units raw) fixedLength).toOption.map encodeUtf8 =
      (uint8Argument profile).bind fun profile =>
        (canonicalBytes profile raw fixedLength).toOption := by
  rw [client_canonicalBytes_encoded, uint8Argument]
  by_cases hfits : profile < 256
  · rw [if_pos hfits, Option.bind_some, contract_canonicalBytes, UInt8.toNat_ofNat',
      Nat.mod_eq_of_lt hfits]
  · rw [if_neg hfits, Option.bind_none, canonicalForm_unknown, ite_self]
    simp only [List.mem_cons, List.not_mem_nil, or_false, not_or]
    omega

/-- Digests agree where the canonical bytes do. -/
theorem normalize_agree {profile fixedLength : ℕ}
    (h : (Client.canonicalBytes cases profile text fixedLength).toOption.map encodeUtf8 =
      (uint8Argument profile).bind fun profile =>
        (canonicalBytes profile raw fixedLength).toOption) :
    (Client.normalize cases crypto profile text fixedLength).toOption =
      (uint8Argument profile).bind fun profile =>
        (Normalization.normalize crypto profile raw fixedLength).toOption := by
  have hclient : (Client.normalize cases crypto profile text fixedLength).toOption =
      ((Client.canonicalBytes cases profile text fixedLength).toOption.map encodeUtf8).map
        fun out => crypto.keccak256 (abiEncodeBytes
          [crypto.keccakText "mordant.normalized-field/2", uintWord profile] out) := by
    rw [Client.normalize, toOption_bind, Option.map_map, Option.map_eq_bind]
    rfl
  rw [hclient, h, uint8Argument]
  by_cases hfits : profile < 256
  · rw [if_pos hfits, Option.bind_some, Option.bind_some, Normalization.normalize,
      toOption_bind, UInt8.toNat_ofNat', Nat.mod_eq_of_lt hfits, Option.map_eq_bind]
    rfl
  · rw [if_neg hfits, Option.bind_none, Option.bind_none, Option.map_none]

theorem namespaceDigest_agree :
    (Client.namespaceDigest cases crypto (units raw)).toOption =
      (namespaceDigest crypto raw).toOption := by
  simp only [Client.namespaceDigest, namespaceDigest, toOption_bind]
  rw [client_requirePrintableAscii, requirePrintableAscii_toOption]
  by_cases hprintable : Printable raw
  · have hne : raw.length ≠ 0 := List.length_eq_zero_iff.not.mpr hprintable.1
    have hlower := all_isPrintable_map (fun _ => isPrintable_lower) hprintable.2
    rw [if_pos hprintable, Option.bind_some, Option.bind_some,
      lower_units cases (isAscii_units hprintable.2), accepts_alnumPattern hprintable.1,
      encodeUtf8_units (isAscii_units hlower)]
    simp only [toOption_revertIf, toOption_pure, refusing_toOption,
      fill_from_start lowerAlnum_eq (length_newBytes _), hne, if_false, Option.bind_some]
    by_cases halnum : raw.all isAlnum = true <;> simp [halnum]
  · rw [if_neg hprintable, Option.bind_none, Option.bind_none]

theorem agree_units : Agree cases crypto (units raw) raw where
  canonicalBytes := canonicalBytes_agree
  normalize profile fixedLength := normalize_agree (canonicalBytes_agree profile fixedLength)
  namespaceDigest := namespaceDigest_agree

/-- Text outside ASCII is refused. -/
theorem client_requirePrintableAscii_of_not_ascii (h : ¬ IsAscii text) :
    (Client.requirePrintableAscii text).toOption = none := by
  have hall : ¬ text.all (fun code => !(code < 0x20 || code > 0x7E)) = true := by
    rw [IsAscii] at h
    intro hall
    refine h fun unit hmem => ?_
    have hunit := List.all_eq_true.mp hall unit hmem
    simp only [Bool.not_or, ← decide_not, UInt16.not_lt, gt_iff_lt, Bool.and_eq_true,
      decide_eq_true_eq, UInt16.le_iff_toNat_le, UInt16.reduceToNat] at hunit
    simp only [UInt16.lt_iff_toNat_lt, UInt16.reduceToNat]
    omega
  rw [Client.requirePrintableAscii, toOption_bind, toOption_mapError, checkAll_toOption,
    if_neg hall, toOption_revertIf]
  split_ifs <;> rfl

/-- Text outside ASCII is refused, and so are its bytes. -/
theorem agree_of_not_ascii (h : ¬ IsAscii text) : Agree cases crypto text (encodeUtf8 text) := by
  have hclient := client_requirePrintableAscii_of_not_ascii h
  have hcontract : ¬ Printable (encodeUtf8 text) := by
    rintro ⟨-, hall⟩
    obtain ⟨byte, hmem, hhigh⟩ := exists_high_encodeUtf8 h
    have hbyte := List.all_eq_true.mp hall byte hmem
    simp only [isPrintable, Bool.and_eq_true, decide_eq_true_eq, UInt8.le_iff_toNat_le,
      UInt8.reduceToNat] at hbyte hhigh
    omega
  have hbytes : ∀ profile fixedLength,
      (Client.canonicalBytes cases profile text fixedLength).toOption.map encodeUtf8 =
        (uint8Argument profile).bind fun profile =>
          (canonicalBytes profile (encodeUtf8 text) fixedLength).toOption := by
    intro profile fixedLength
    rw [Client.canonicalBytes, toOption_bind, hclient, Option.bind_none, Option.map_none]
    cases huint : uint8Argument profile with
    | none => rfl
    | some profile =>
        rw [Option.bind_some, contract_canonicalBytes, if_neg hcontract]
  exact
    { canonicalBytes := hbytes
      normalize := fun profile fixedLength => normalize_agree (hbytes profile fixedLength)
      namespaceDigest := by
        simp only [Client.namespaceDigest, namespaceDigest, toOption_bind]
        rw [hclient, requirePrintableAscii_toOption, if_neg hcontract, Option.bind_none,
          Option.bind_none] }

/-- Contract and client canonicalize alike, whatever the bytes, whether the client has
them as code units or as the encoding of its text. -/
theorem normalization_agrees (cases : CaseMapping) (crypto : Crypto) :
    (∀ raw, Agree cases crypto (units raw) raw) ∧
      ∀ text, Agree cases crypto text (encodeUtf8 text) := by
  refine ⟨fun raw => agree_units, fun text => ?_⟩
  by_cases hascii : IsAscii text
  · have hagree : Agree cases crypto (units (encodeUtf8 text)) (encodeUtf8 text) := agree_units
    rwa [units_encodeUtf8 hascii] at hagree
  · exact agree_of_not_ascii hascii

end

end Mordant.Identity
