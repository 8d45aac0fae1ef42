/-
# The kernel of canonicalization

Which printed identifiers a profile makes one: those that are equal after the folding
and the deletions it declares, and no others.  A canonical form is its own canonical
form, so what is recorded once is what is compared ever after.
-/

import Mordant.Identity.NormalizationParity

namespace Mordant.Identity

open Evm Foundation Script Byte

/-! ## Folding of bytes -/

section

theorem lower_upper (b : UInt8) : lower (upper b) = lower b := by
  rw [← UInt8.toNat_inj]
  simp only [lower, upper, isUpper, isLower, UInt8.le_iff_toNat_le, UInt8.reduceToNat,
    Bool.and_eq_true, decide_eq_true_eq]
  split_ifs <;> simp only [UInt8.toNat_sub, UInt8.toNat_add, UInt8.reduceToNat] at * <;> omega

theorem upper_lower (b : UInt8) : upper (lower b) = upper b := by
  rw [← UInt8.toNat_inj]
  simp only [lower, upper, isUpper, isLower, UInt8.le_iff_toNat_le, UInt8.reduceToNat,
    Bool.and_eq_true, decide_eq_true_eq]
  split_ifs <;> simp only [UInt8.toNat_sub, UInt8.toNat_add, UInt8.reduceToNat] at * <;> omega

theorem upper_upper (b : UInt8) : upper (upper b) = upper b := by
  rw [← upper_lower, lower_upper, upper_lower]

theorem lower_lower (b : UInt8) : lower (lower b) = lower b := by
  rw [← lower_upper, upper_lower, lower_upper]

theorem isAlnum_upper (b : UInt8) : isAlnum (upper b) = isAlnum b := by
  rw [← isUpperAlnum_upper (upper b), upper_upper, isUpperAlnum_upper]

theorem isHex_lower {b : UInt8} (h : isHex b = true) : isHex (lower b) = true := by
  simp only [isHex, isDigit, lower, isUpper, UInt8.le_iff_toNat_le, UInt8.reduceToNat,
    Bool.or_eq_true, Bool.and_eq_true, decide_eq_true_eq] at h ⊢
  split_ifs
  · simp only [UInt8.toNat_add, UInt8.reduceToNat]
    omega
  · omega

theorem isSeparator_of_isAlnum {b : UInt8} (h : isAlnum b = true) : isSeparator b = false := by
  simp only [isAlnum, isDigit, isUpper, isLower, isSeparator, ← UInt8.toNat_inj,
    UInt8.le_iff_toNat_le, UInt8.reduceToNat, Bool.or_eq_true, Bool.and_eq_true,
    decide_eq_true_eq, Bool.or_eq_false_iff, decide_eq_false_iff_not] at h ⊢
  omega

variable {x y : Bytes}

theorem map_upper_upper : (x.map upper).map upper = x.map upper := by
  rw [List.map_map]
  exact List.map_congr_left fun b _ => upper_upper b

theorem map_lower_lower : (x.map lower).map lower = x.map lower := by
  rw [List.map_map]
  exact List.map_congr_left fun b _ => lower_lower b

theorem map_lower_map_upper : (x.map upper).map lower = x.map lower := by
  rw [List.map_map]
  exact List.map_congr_left fun b _ => lower_upper b

theorem map_upper_map_lower : (x.map lower).map upper = x.map upper := by
  rw [List.map_map]
  exact List.map_congr_left fun b _ => upper_lower b

/-- Folding to capitals and folding to small letters identify the same texts. -/
theorem map_upper_eq_iff : x.map upper = y.map upper ↔ x.map lower = y.map lower := by
  constructor
  · intro h
    rw [← map_lower_map_upper, h, map_lower_map_upper]
  · intro h
    rw [← map_upper_map_lower, h, map_upper_map_lower]

theorem all_isAlnum_map_upper : (x.map upper).all isAlnum = x.all isAlnum := by
  rw [List.all_map]
  exact congrArg x.all (funext isAlnum_upper)

theorem filter_isAlnum_of_all (h : x.all isAlnum = true) : x.filter isAlnum = x :=
  List.filter_eq_self.mpr (List.all_eq_true.mp h)

theorem filter_separators_of_all (h : x.all isAlnum = true) :
    (x.filter fun b => !isSeparator b) = x := by
  rw [List.filter_eq_self]
  intro b hmem
  rw [isSeparator_of_isAlnum (List.all_eq_true.mp h b hmem), Bool.not_false]

end

/-! ## What a profile declares equal -/

/-- The equivalence a profile declares: case folding where case is not significant, after
dropping what its registry does not print, and otherwise nothing. -/
def Equivalent (profile : ℕ) (x y : Bytes) : Prop :=
  match profile with
  | 1 | 4 => x.map lower = y.map lower
  | 3 => (x.filter fun b => !isSeparator b).map lower = (y.filter fun b => !isSeparator b).map lower
  | 6 => (x.filter isAlnum).map upper = (y.filter isAlnum).map upper
  | _ => x = y

section

variable {profile fixedLength : ℕ} {x y out out' : Bytes}

/-- The form of an address is its printed text in small letters. -/
theorem canonicalForm_address (h : canonicalForm 4 x fixedLength = some out) :
    x.length = 42 ∧ (x.drop 2).all isHex = true ∧ out = x.map lower := by
  obtain ⟨⟨hlength, hzero, hx, hhex⟩, hout⟩ := Option.ite_none_right_eq_some.mp h
  match x with
  | [] => exact nomatch hlength
  | [a] => exact nomatch hlength
  | a :: b :: rest =>
      simp only [List.take_succ_cons, List.take_zero, List.drop_succ_cons, List.drop_zero,
        List.cons.injEq, and_true] at hzero hx
      refine ⟨hlength, hhex, (Option.some.inj hout).symm.trans ?_⟩
      rw [hzero]
      rcases hx with rfl | rfl <;> rfl

/-- Two accepted identifiers have one form exactly when the profile declares them equal. -/
theorem canonicalForm_eq_iff (hx : canonicalForm profile x fixedLength = some out)
    (hy : canonicalForm profile y fixedLength = some out') :
    out = out' ↔ Equivalent profile x y := by
  have hknown : profile ∈ [1, 2, 3, 4, 5, 6] := by
    by_contra hunknown
    rw [canonicalForm_unknown hunknown] at hx
    exact nomatch hx
  simp only [List.mem_cons, List.not_mem_nil, or_false] at hknown
  rcases hknown with rfl | rfl | rfl | rfl | rfl | rfl
  · obtain ⟨-, hout⟩ := Option.ite_none_right_eq_some.mp hx
    obtain ⟨-, hout'⟩ := Option.ite_none_right_eq_some.mp hy
    rw [← Option.some.inj hout, ← Option.some.inj hout']
    exact map_upper_eq_iff
  · obtain ⟨-, hout⟩ := Option.ite_none_right_eq_some.mp hx
    obtain ⟨-, hout'⟩ := Option.ite_none_right_eq_some.mp hy
    rw [← Option.some.inj hout, ← Option.some.inj hout', Equivalent]
    all_goals decide
  · obtain ⟨-, hout⟩ := Option.ite_none_right_eq_some.mp hx
    obtain ⟨-, hout'⟩ := Option.ite_none_right_eq_some.mp hy
    rw [← Option.some.inj hout, ← Option.some.inj hout']
    exact map_upper_eq_iff
  · rw [(canonicalForm_address hx).2.2, (canonicalForm_address hy).2.2]
    exact Iff.rfl
  · rw [← Option.some.inj hx, ← Option.some.inj hy, Equivalent]
    all_goals decide
  · obtain ⟨-, hout⟩ := Option.ite_none_right_eq_some.mp hx
    obtain ⟨-, hout'⟩ := Option.ite_none_right_eq_some.mp hy
    rw [← Option.some.inj hout, ← Option.some.inj hout']
    exact Iff.rfl

/-- A canonical form is its own canonical form. -/
theorem canonicalForm_idempotent (hx : canonicalForm profile x fixedLength = some out) :
    canonicalForm profile out fixedLength = some out := by
  have hknown : profile ∈ [1, 2, 3, 4, 5, 6] := by
    by_contra hunknown
    rw [canonicalForm_unknown hunknown] at hx
    exact nomatch hx
  simp only [List.mem_cons, List.not_mem_nil, or_false] at hknown
  rcases hknown with rfl | rfl | rfl | rfl | rfl | rfl
  · obtain ⟨⟨halnum, hlength⟩, hout⟩ := Option.ite_none_right_eq_some.mp hx
    rw [← Option.some.inj hout]
    have hlength' : HasLength fixedLength (x.map upper) := by
      rwa [HasLength, List.length_map]
    exact (if_pos ⟨all_isAlnum_map_upper.trans halnum, hlength'⟩).trans
      (congrArg some map_upper_upper)
  · obtain ⟨-, hout⟩ := Option.ite_none_right_eq_some.mp hx
    rwa [Option.some.inj hout] at hx
  · obtain ⟨⟨halnum, hlong, hcapitals⟩, hout⟩ := Option.ite_none_right_eq_some.mp hx
    rw [← Option.some.inj hout]
    have halnum' := all_isAlnum_map_upper.trans halnum
    rw [canonicalForm, filter_separators_of_all halnum', map_upper_upper, List.length_map]
    exact if_pos ⟨halnum', hlong, hcapitals⟩
  · obtain ⟨hlength, hhex, rfl⟩ := canonicalForm_address hx
    obtain ⟨⟨-, hzero, hprefix, -⟩, hout⟩ := Option.ite_none_right_eq_some.mp hx
    have hhex' : ((x.map lower).drop 2).all isHex = true := by
      rw [← List.map_drop, List.all_map, List.all_eq_true]
      exact fun b hmem => isHex_lower (List.all_eq_true.mp hhex b hmem)
    have hstart : ∃ rest, x.map lower = 0x30 :: 0x78 :: rest :=
      ⟨_, (Option.some.inj hout).symm⟩
    obtain ⟨rest, hrest⟩ := hstart
    have hlower : rest.map lower = rest := by
      have hmap := @map_lower_lower x
      rw [hrest] at hmap
      exact (List.cons.inj (List.cons.inj hmap).2).2
    have hlength' : (0x30 :: 0x78 :: rest : Bytes).length = 42 := by
      rw [← hrest, List.length_map, hlength]
    rw [hrest] at hhex' ⊢
    refine (if_pos ⟨hlength', rfl, Or.inl rfl, hhex'⟩).trans (congrArg some ?_)
    exact congrArg ([0x30, 0x78] ++ ·) hlower
  · rfl
  · obtain ⟨hsome, hout⟩ := Option.ite_none_right_eq_some.mp hx
    rw [← Option.some.inj hout]
    have halnum : ((x.filter isAlnum).map upper).all isAlnum = true := by
      rw [all_isAlnum_map_upper, List.all_eq_true]
      exact fun b hmem => (List.mem_filter.mp hmem).2
    have hsome' : (x.filter isAlnum).map upper ≠ [] := List.map_eq_nil_iff.not.mpr hsome
    rw [canonicalForm, filter_isAlnum_of_all halnum, map_upper_upper]
    exact if_pos hsome'

/-- A canonical form is not empty. -/
theorem canonicalForm_ne_nil (hne : x ≠ []) (hx : canonicalForm profile x fixedLength = some out) :
    out ≠ [] := by
  intro hnil
  have hfix := canonicalForm_idempotent hx
  rw [hnil] at hx hfix
  unfold canonicalForm at hx hfix
  split at hx
  · obtain ⟨-, hout⟩ := Option.ite_none_right_eq_some.mp hx
    exact hne (List.map_eq_nil_iff.mp (Option.some.inj hout))
  · obtain ⟨-, hout⟩ := Option.ite_none_right_eq_some.mp hx
    exact hne (Option.some.inj hout)
  · simp at hfix
  · simp at hfix
  · exact hne (Option.some.inj hx)
  · simp at hfix
  · exact nomatch hx

theorem canonicalForm_isPrintable (h : Printable x)
    (hx : canonicalForm profile x fixedLength = some out) : Printable out :=
  ⟨canonicalForm_ne_nil h.1 hx, canonicalForm_printable h.2 hx⟩

end

/-! ## Contract and client -/

/-- A way to canonicalize, `bytes` of what it takes, identifies what the profile declares
equal, and nothing else. -/
structure NormalizesExactly {α : Type} (canonical : ℕ → α → ℕ → Option α) (bytes : α → Bytes) :
    Prop where
  /-- A canonical form is accepted again, and is its own canonical form. -/
  idempotent : ∀ profile fixedLength x out, canonical profile x fixedLength = some out →
    canonical profile out fixedLength = some out
  /-- Two accepted identifiers have one canonical form exactly when they are declared
  equal. -/
  kernel : ∀ profile fixedLength x y out out', canonical profile x fixedLength = some out →
    canonical profile y fixedLength = some out' →
    (out = out' ↔ Equivalent profile (bytes x) (bytes y))

/-- `canonicalBytes` of the contract, whose profile is a `uint8`. -/
def Normalization.canonical (profile : ℕ) (raw : Bytes) (fixedLength : ℕ) : Option Bytes :=
  (uint8Argument profile).bind fun profile =>
    (Normalization.canonicalBytes profile raw fixedLength).toOption

/-- `canonicalBytes` of the client. -/
def Client.canonical (cases : CaseMapping) (profile : ℕ) (text : Text) (fixedLength : ℕ) :
    Option Text :=
  (Client.canonicalBytes cases profile text fixedLength).toOption

theorem contract_canonical_iff {profile fixedLength : ℕ} {raw out : Bytes} :
    Normalization.canonical profile raw fixedLength = some out ↔
      Printable raw ∧ canonicalForm profile raw fixedLength = some out := by
  rw [Normalization.canonical, uint8Argument]
  split_ifs with hfits
  · rw [Option.bind_some, contract_canonicalBytes, UInt8.toNat_ofNat_of_lt' hfits]
    exact Option.ite_none_right_eq_some
  · have hunknown : profile ∉ [1, 2, 3, 4, 5, 6] := by
      simp only [List.mem_cons, List.not_mem_nil, or_false]
      omega
    rw [Option.bind_none, canonicalForm_unknown hunknown]
    exact iff_of_false (Option.some_ne_none _).symm fun h => Option.some_ne_none _ h.2.symm

/-- The client accepts printable text only, and that is written with its own code units. -/
theorem client_canonical_iff {cases : CaseMapping} {profile fixedLength : ℕ} {text out : Text} :
    Client.canonical cases profile text fixedLength = some out ↔
      ∃ raw form, text = units raw ∧ out = units form ∧ Printable raw ∧
        canonicalForm profile raw fixedLength = some form := by
  by_cases hascii : IsAscii text
  · obtain ⟨raw, rfl⟩ : ∃ raw, text = units raw := ⟨_, (units_encodeUtf8 hascii).symm⟩
    rw [Client.canonical, client_canonicalBytes, Option.ite_none_right_eq_some,
      Option.map_eq_some_iff]
    constructor
    · rintro ⟨hprintable, form, hform, rfl⟩
      exact ⟨raw, form, rfl, rfl, hprintable, hform⟩
    · rintro ⟨raw', form, htext, rfl, hprintable, hform⟩
      obtain rfl := units_injective htext
      exact ⟨hprintable, form, hform, rfl⟩
  · constructor
    · intro h
      rw [Client.canonical, Client.canonicalBytes, toOption_bind,
        client_requirePrintableAscii_of_not_ascii hascii, Option.bind_none] at h
      cases h
    · rintro ⟨raw, form, rfl, -, hprintable, -⟩
      exact absurd (isAscii_units hprintable.2) hascii

theorem contract_normalizes_exactly : NormalizesExactly Normalization.canonical id where
  idempotent profile fixedLength x out h := by
    obtain ⟨hprintable, hform⟩ := contract_canonical_iff.mp h
    exact contract_canonical_iff.mpr
      ⟨canonicalForm_isPrintable hprintable hform, canonicalForm_idempotent hform⟩
  kernel profile fixedLength x y out out' hx hy :=
    canonicalForm_eq_iff (contract_canonical_iff.mp hx).2 (contract_canonical_iff.mp hy).2

theorem client_normalizes_exactly (cases : CaseMapping) :
    NormalizesExactly (Client.canonical cases) encodeUtf8 where
  idempotent profile fixedLength x out h := by
    obtain ⟨raw, form, rfl, rfl, hprintable, hform⟩ := client_canonical_iff.mp h
    exact client_canonical_iff.mpr ⟨form, form, rfl, rfl,
      canonicalForm_isPrintable hprintable hform, canonicalForm_idempotent hform⟩
  kernel profile fixedLength x y out out' hx hy := by
    obtain ⟨raw, form, rfl, rfl, hprintable, hform⟩ := client_canonical_iff.mp hx
    obtain ⟨raw', form', rfl, rfl, hprintable', hform'⟩ := client_canonical_iff.mp hy
    rw [encodeUtf8_units (isAscii_units hprintable.2),
      encodeUtf8_units (isAscii_units hprintable'.2), ← canonicalForm_eq_iff hform hform']
    exact units_injective.eq_iff

/-- **Canonicalization identifies exactly what each profile declares equal**, in the
contracts and on the client. -/
theorem normalization_exact (cases : CaseMapping) :
    NormalizesExactly Normalization.canonical id ∧
      NormalizesExactly (Client.canonical cases) encodeUtf8 :=
  ⟨contract_normalizes_exactly, client_normalizes_exactly cases⟩

/-- The tolerant profile merges two invoices that no strict profile merges. -/
example : Equivalent 6 (stringBytes "INV-001") (stringBytes "inv0-01") ∧
    ¬ Equivalent 5 (stringBytes "INV-001") (stringBytes "inv0-01") := by
  rw [Equivalent, Equivalent]
  all_goals decide

end Mordant.Identity
