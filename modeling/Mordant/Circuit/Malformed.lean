/-
# Comparisons of malformed vectors

The equality gadget squares `left + right - 1` and multiplies the 256 slots up, so on
any vectors whatever it computes the square of a product over the integers modulo T.
A vector of bits matches an identifier exactly if it spells it.  Nothing makes a
participant encrypt bits, though, and other vectors match where their product happens
to be one or minus one: the vector of twos matches every identifier whose number of ones
is a multiple of sixteen.
-/

import Mathlib.FieldTheory.Finite.Basic
import Mathlib.Tactic.NormNum.Prime
import Mordant.Circuit.Release

namespace Mordant.Circuit

open Foundation

variable {m T : ℕ}

/-! ## Vectors of bits -/

/-- The encoding of an identifier. -/
def encodeDigest (m T : ℕ) (digest : Digest) : Slots m T :=
  Slots.ofSlots m T (writeBytesBits (fun _ => 0) 0 digest.toList)

/-- The first 256 slots each hold a bit. -/
def HoldsBits (v : Slots m T) : Prop := ∀ i < obligationBits, v.get i = 0 ∨ v.get i = 1

/-- The first 256 slots are the bits of the identifier. -/
def Spells (v : Slots m T) (digest : Digest) : Prop :=
  Carries v (byteBit digest.toList) obligationBits

section

variable [Fact (1 < T)] {v : Slots m T} {digest : Digest}

theorem bit_inj {a b : Bool} : bit (ZMod T) a = bit (ZMod T) b ↔ a = b := by
  cases a <;> cases b <;> simp [bit]

theorem bit_eq_one_iff {b : Bool} : bit (ZMod T) b = 1 ↔ b = true := by
  rw [← bit_true, bit_inj]

/-- A vector spells at most one identifier. -/
theorem spells_unique {other : Digest} (h : Spells v digest) (hother : Spells v other) :
    digest = other :=
  digest_eq_iff.mpr fun i hi => bit_inj.mp ((h i hi).symm.trans (hother i hi))

/-- A vector of bits matches what it spells and nothing else, and its comparison holds a
bit as well. -/
theorem equal256_bits (hm : 512 ≤ m) (hv : HoldsBits v) {equal : Slots m T}
    (hequal : equal256 v (encodeDigest m T digest) = .ok equal) :
    (equal.get 0 = 1 ↔ Spells v digest) ∧ (equal.get 0 ≠ 0 → equal.get 0 = 1) := by
  obtain ⟨equal', hequal', -, hget⟩ := equal256_ok hm v (encodeDigest m T digest)
  obtain rfl := Except.ok.inj (hequal.symm.trans hequal')
  have hcarries : Carries v (fun i => decide (v.get i = 1)) obligationBits := by
    intro i hi
    rcases hv i hi with hzero | hone
    · simp [hzero, bit]
    · simp [hone, bit]
  rw [hget _ _ hcarries (digestBits_carries hm digest)]
  refine ⟨?_, fun hne => ?_⟩
  · rw [bit_eq_one_iff, blockEqual_iff]
    refine forall₂_congr fun i hi => ?_
    have hbit : v.get i = bit (ZMod T) (decide (v.get i = 1)) := hcarries i hi
    rw [Nat.zero_add, ← @bit_inj T, ← hbit]
  · rw [bit_eq_one_iff]
    by_contra hfalse
    rw [Bool.not_eq_true] at hfalse
    exact hne (by rw [hfalse, bit_false])

end

/-! ## What the release check lets through -/

/-- The check accepts a one in slot 0 and releases it as true. -/
def ReleasesTrue (v : Slots m T) : Prop :=
  requireCanonicalReleaseVector v.decode = .ok () ∧ releasedBit v.decode = true

theorem releasesTrue_iff [Fact (1 < T)] (hm : 0 < m) {v : Slots m T}
    (hzero : ∀ i, i ≠ 0 → i < 2 * m → v.get i = 0) : ReleasesTrue v ↔ v.get 0 = 1 := by
  rw [ReleasesTrue, requireCanonicalReleaseVector_ok_iff hm, releasedBit_decode hm, beq_iff_eq]
  constructor
  · rintro ⟨-, hval⟩
    have hpos : NeZero T := ⟨Nat.ne_zero_of_lt (Fact.out : 1 < T)⟩
    exact ZMod.val_injective T (hval.trans (ZMod.val_one T).symm)
  · intro hone
    rw [hone, ZMod.val_one]
    exact ⟨⟨le_rfl, hzero⟩, rfl⟩

/-! ## Sessions at the governed parameters -/

/-- The slots of `Parameters`: `LogN` is 15 and `PlaintextModulus` 65537. -/
abbrev GovernedSlots := Slots 16384 65537

local instance prime_governedModulus : Fact (Nat.Prime 65537) := ⟨by norm_num⟩

local instance one_lt_governedModulus : Fact (1 < 65537) := ⟨by decide⟩

/-- The product of a vector with the encoding of an identifier. -/
def matchProduct (v : GovernedSlots) (digest : Digest) : ZMod 65537 :=
  ∏ i ∈ Finset.range 256, agreement v (encodeDigest 16384 65537 digest) i

/-- What the comparison of a vector with an identifier comes to. -/
structure ComparisonLaw (v : GovernedSlots) (digest : Digest) (equal : GovernedSlots) : Prop where
  product : equal.get 0 = matchProduct v digest ^ 2
  releases_iff : ReleasesTrue equal ↔ matchProduct v digest = 1 ∨ matchProduct v digest = -1
  bits : HoldsBits v → (ReleasesTrue equal ↔ Spells v digest)

/-- The inputs of a session in which one side's vectors are arbitrary and the other's
encode identifiers. -/
def session (first : Bool) (policyA policyB currency receivable : GovernedSlots)
    (currencyId receivableId : Digest) : CircuitInputsV5 16384 65537 :=
  let honestCurrency := encodeDigest 16384 65537 currencyId
  let honestReceivable := encodeDigest 16384 65537 receivableId
  if first then
    ⟨some policyA, some policyB, some currency, some honestCurrency, some receivable,
      some honestReceivable⟩
  else
    ⟨some policyA, some policyB, some honestCurrency, some currency, some honestReceivable,
      some receivable⟩

/-- `equal256` does not care which side is which. -/
theorem equal256_comm (left right : Slots m T) : equal256 left right = equal256 right left := by
  rw [equal256, equal256, add_comm left]

theorem comparisonLaw_of_equal256 {v equal : GovernedSlots} {digest : Digest}
    (hequal : equal256 v (encodeDigest 16384 65537 digest) = .ok equal) :
    ComparisonLaw v digest equal := by
  obtain ⟨equal', hequal', hzero, hproduct⟩ :=
    equal256_product (by decide) v (encodeDigest 16384 65537 digest)
  obtain rfl := Except.ok.inj (hequal.symm.trans hequal')
  have hreleases := releasesTrue_iff (by decide) hzero
  refine ⟨hproduct, ?_, fun hv => hreleases.trans (equal256_bits (by decide) hv hequal).1⟩
  rw [hreleases, hproduct]
  exact sq_eq_one_iff

/-- The outputs of a session, whichever side is the arbitrary one. -/
theorem recompute_session {first : Bool} {policyA policyB currency receivable : GovernedSlots}
    {currencyId receivableId : Digest} {overlap flags currencyEqual identityEqual : GovernedSlots}
    (hoverlap : windowOverlap policyA policyB = .ok overlap)
    (hflags : bothExclusive policyA policyB = .ok flags)
    (hcurrency : equal256 currency (encodeDigest 16384 65537 currencyId) = .ok currencyEqual)
    (hidentity : equal256 receivable (encodeDigest 16384 65537 receivableId) = .ok identityEqual) :
    recomputeCircuitV5
        (session first policyA policyB currency receivable currencyId receivableId) =
      .ok ⟨identityEqual,
        mulBoolean (mulBoolean overlap flags) (mulBoolean currencyEqual identityEqual)⟩ := by
  cases first with
  | true => exact recomputeCircuitV5_ok hoverlap hflags hcurrency hidentity
  | false =>
      rw [equal256_comm] at hcurrency hidentity
      exact recomputeCircuitV5_ok hoverlap hflags hcurrency hidentity

/-- **What a participant can make of a comparison.** Whatever one side encrypts, each of
the two comparisons is the square of a product, which is released as a match exactly
where the product is one or minus one.  As far as that side's vectors hold bits, a match
means that they spell the other side's identifiers, one vector matches one identifier
only, and a policy conflict needs both matches. -/
theorem comparison_law (first : Bool) (policyA policyB currency receivable : GovernedSlots)
    (currencyId receivableId : Digest) :
    ∃ out currencyEqual overlap flags,
      recomputeCircuitV5
        (session first policyA policyB currency receivable currencyId receivableId) = .ok out ∧
      equal256 currency (encodeDigest 16384 65537 currencyId) = .ok currencyEqual ∧
      windowOverlap policyA policyB = .ok overlap ∧ bothExclusive policyA policyB = .ok flags ∧
      out.policyConflict =
        mulBoolean (mulBoolean overlap flags) (mulBoolean currencyEqual out.sameEconomicAsset) ∧
      ComparisonLaw receivable receivableId out.sameEconomicAsset ∧
      ComparisonLaw currency currencyId currencyEqual ∧
      (HoldsBits receivable → ReleasesTrue out.sameEconomicAsset →
        ∀ other outOther,
          recomputeCircuitV5 (session first policyA policyB currency receivable currencyId other) =
              .ok outOther →
            ReleasesTrue outOther.sameEconomicAsset → other = receivableId) ∧
      (HoldsBits receivable → HoldsBits currency → out.policyConflict.get 0 ≠ 0 →
        Spells receivable receivableId ∧ Spells currency currencyId) := by
  have hm : 512 ≤ 16384 := by decide
  obtain ⟨overlap, hoverlap, -⟩ := windowOverlap_ok hm policyA policyB
  obtain ⟨flags, hflags, -⟩ := bothExclusive_ok hm policyA policyB
  obtain ⟨currencyEqual, hcurrency, -⟩ :=
    equal256_product hm currency (encodeDigest 16384 65537 currencyId)
  obtain ⟨identityEqual, hidentity, -⟩ :=
    equal256_product hm receivable (encodeDigest 16384 65537 receivableId)
  have hlaw := comparisonLaw_of_equal256 hidentity
  refine ⟨_, currencyEqual, overlap, flags,
    recompute_session hoverlap hflags hcurrency hidentity, hcurrency, hoverlap, hflags, rfl, hlaw,
    comparisonLaw_of_equal256 hcurrency, ?_, ?_⟩
  · intro hbits hreleases other outOther hother hotherReleases
    obtain ⟨otherEqual, hotherEqual, -⟩ :=
      equal256_product hm receivable (encodeDigest 16384 65537 other)
    obtain rfl := Except.ok.inj
      (hother.symm.trans (recompute_session hoverlap hflags hcurrency hotherEqual))
    have hotherSpells :=
      ((comparisonLaw_of_equal256 hotherEqual).bits hbits).mp hotherReleases
    exact spells_unique hotherSpells ((hlaw.bits hbits).mp hreleases)
  · intro hreceivable hcurrencyBits hconflict
    obtain ⟨hspellsId, hbitId⟩ := equal256_bits hm hreceivable hidentity
    obtain ⟨hspellsCurrency, hbitCurrency⟩ := equal256_bits hm hcurrencyBits hcurrency
    -- neither factor of a product that is not zero is
    rw [mulBoolean, mulBoolean, mulBoolean, Slots.get_mul, Slots.get_mul currencyEqual] at hconflict
    have hfactors := right_ne_zero_of_mul hconflict
    exact ⟨hspellsId.mp (hbitId (right_ne_zero_of_mul hfactors)),
      hspellsCurrency.mp (hbitCurrency (left_ne_zero_of_mul hfactors))⟩

/-- A session of a vector of bits that spells the other side's identifier. -/
theorem comparison_law_spelled :
    ∃ out, recomputeCircuitV5 (session true 0 0 (encodeDigest 16384 65537 samplePledge.currency)
        (encodeDigest 16384 65537 samplePledge.receivableID) samplePledge.currency
        samplePledge.receivableID) = .ok out ∧
      ReleasesTrue out.sameEconomicAsset := by
  have hspells : Spells (encodeDigest 16384 65537 samplePledge.receivableID)
      samplePledge.receivableID := digestBits_carries (by decide) _
  have hbits : HoldsBits (encodeDigest 16384 65537 samplePledge.receivableID) := by
    intro i hi
    rw [hspells i hi]
    cases byteBit samplePledge.receivableID.toList i with
    | false => exact .inl bit_false
    | true => exact .inr bit_true
  obtain ⟨out, -, -, -, hout, -, -, -, -, hlaw, -⟩ :=
    comparison_law true 0 0 (encodeDigest 16384 65537 samplePledge.currency)
      (encodeDigest 16384 65537 samplePledge.receivableID) samplePledge.currency
      samplePledge.receivableID
  exact ⟨out, hout, (hlaw.bits hbits).mpr hspells⟩

/-! ## Forged matches -/

/-- A vector of twos. -/
def twos : GovernedSlots := Slots.ofSlots 16384 65537 fun _ => 2

/-- The number of ones of an identifier. -/
def weight (digest : Digest) : ℕ :=
  ((Finset.range 256).filter fun i => byteBit digest.toList i = true).card

theorem matchProduct_twos (digest : Digest) : matchProduct twos digest = 2 ^ weight digest := by
  have hfactor : ∀ i ∈ Finset.range 256,
      agreement twos (encodeDigest 16384 65537 digest) i =
        if byteBit digest.toList i = true then 2 else 1 := by
    intro i hi
    have hi : i < 256 := Finset.mem_range.mp hi
    have hbit : (encodeDigest 16384 65537 digest).get i =
        bit (ZMod 65537) (byteBit digest.toList i) := digestBits_carries (by decide) digest i hi
    have htwo : twos.get i = 2 := Slots.get_ofSlots (by omega)
    rw [agreement, htwo, hbit]
    cases byteBit digest.toList i with
    | false => rw [bit_false]; decide
    | true => rw [bit_true]; decide
  rw [matchProduct, Finset.prod_congr rfl hfactor, Finset.prod_ite, Finset.prod_const_one, mul_one,
    Finset.prod_const, weight]

theorem orderOf_two : orderOf (2 : ZMod 65537) = 32 := by
  have hprime : Fact (Nat.Prime 2) := ⟨Nat.prime_two⟩
  exact orderOf_eq_prime_pow (p := 2) (n := 4) (by decide) (by decide)

/-- One vector matches every identifier whose number of ones is a multiple of sixteen. -/
theorem twos_match_iff {digest : Digest} {equal : GovernedSlots}
    (hequal : equal256 twos (encodeDigest 16384 65537 digest) = .ok equal) :
    ReleasesTrue equal ↔ 16 ∣ weight digest := by
  have hlaw := comparisonLaw_of_equal256 hequal
  rw [hlaw.releases_iff, ← sq_eq_one_iff, matchProduct_twos, ← pow_mul,
    ← orderOf_dvd_iff_pow_eq_one,
    orderOf_two]
  omega


/-- Sixteen ones, the bits of the bytes at `start` and after it. -/
def sixteenOnes (start : Fin 32) : Digest :=
  Vector.ofFn fun i => if i = start ∨ i = start + 1 then 0xFF else 0

/-- Two identifiers that one vector of twos matches, as the receivable and as the
currency; it spells neither. -/
theorem match_forged :
    sixteenOnes 0 ≠ sixteenOnes 2 ∧
    ∀ id ∈ [sixteenOnes 0, sixteenOnes 2],
      ¬ Spells twos id ∧
      ∃ out currencyEqual,
        recomputeCircuitV5 (session true 0 0 twos twos id id) = .ok out ∧
        ReleasesTrue out.sameEconomicAsset ∧
        equal256 twos (encodeDigest 16384 65537 id) = .ok currencyEqual ∧
        ReleasesTrue currencyEqual := by
  refine ⟨by decide, fun id hid => ⟨fun hspells => ?_, ?_⟩⟩
  · have htwo : twos.get 0 = 2 := Slots.get_ofSlots (by decide)
    have hnoBit : ∀ b, (2 : ZMod 65537) ≠ bit (ZMod 65537) b := by decide
    exact hnoBit _ (htwo.symm.trans (hspells 0 (by decide)))
  · have hweight : 16 ∣ weight id := by
      rcases List.mem_pair.mp hid with rfl | rfl <;> decide
    obtain ⟨overlap, hoverlap, -⟩ := windowOverlap_ok (T := 65537) (m := 16384) (by decide) 0 0
    obtain ⟨flags, hflags, -⟩ := bothExclusive_ok (T := 65537) (m := 16384) (by decide) 0 0
    obtain ⟨equal, hequal, -⟩ :=
      equal256_product (by decide) twos (encodeDigest 16384 65537 id)
    have hreleases := (twos_match_iff hequal).mpr hweight
    exact ⟨_, equal, recompute_session hoverlap hflags hequal hequal, hreleases, hequal, hreleases⟩

end Mordant.Circuit
