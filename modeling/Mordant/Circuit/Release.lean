/-
# What the circuit releases

Two results about `recomputeCircuitV5`.  On any six vectors, Boolean or not, it
returns, clears every slot but the first, and never separates a conflict from
the identity it implies.  On the encodings of two pledges the first slots are
the two questions the circuit is for.
-/

import Mordant.Circuit.Comparison

namespace Mordant.Circuit

open Foundation

variable {m T : ℕ}

/-! ## The release check -/

theorem requireZeros_ok_iff {values : List ℕ} {index : ℕ} :
    requireZeros index values = .ok () ↔ ∀ value ∈ values, value = 0 := by
  induction values generalizing index with
  | nil => exact ⟨fun _ value hmem => absurd hmem List.not_mem_nil, fun _ => rfl⟩
  | cons value rest ih =>
      rw [requireZeros, revertIf_bind_ok_iff, ih, List.forall_mem_cons, not_not]

/-- The check accepts a bit followed by zeros. -/
theorem requireCanonicalReleaseVector_ok_iff (hm : 0 < m) {v : Slots m T} :
    requireCanonicalReleaseVector v.decode = .ok () ↔
      (v.get 0).val ≤ 1 ∧ ∀ i, i ≠ 0 → i < 2 * m → v.get i = 0 := by
  obtain ⟨n, hn⟩ : ∃ n, 2 * m = n + 1 := ⟨2 * m - 1, by omega⟩
  rw [Slots.decode, hn, List.range_succ_eq_map, List.map_cons, requireCanonicalReleaseVector,
    revertIf_bind_ok_iff, requireZeros_ok_iff, not_lt]
  refine and_congr Iff.rfl ⟨fun hzeros i hne hi => ?_, fun hzeros value hmem => ?_⟩
  · obtain ⟨j, rfl⟩ := Nat.exists_eq_succ_of_ne_zero hne
    refine (ZMod.val_eq_zero _).mp (hzeros _ ?_)
    exact List.mem_map.mpr ⟨j + 1, List.mem_map.mpr ⟨j, List.mem_range.mpr (by omega), rfl⟩, rfl⟩
  · obtain ⟨i, hi, rfl⟩ := List.mem_map.mp hmem
    obtain ⟨j, hj, rfl⟩ := List.mem_map.mp hi
    have hj := List.mem_range.mp hj
    rw [hzeros (j + 1) (Nat.succ_ne_zero j) (by omega), ZMod.val_zero]

theorem releasedBit_decode (hm : 0 < m) (v : Slots m T) :
    releasedBit v.decode = ((v.get 0).val == 1) := by
  obtain ⟨n, hn⟩ : ∃ n, 2 * m = n + 1 := ⟨2 * m - 1, by omega⟩
  rw [Slots.decode, hn, List.range_succ_eq_map, List.map_cons, releasedBit, List.headD_cons]

/-- A bit is released canonically, whatever the modulus. -/
theorem bit_val_le (b : Bool) : (bit (ZMod T) b).val ≤ 1 := by
  cases b with
  | false => rw [bit_false, ZMod.val_zero]; exact Nat.zero_le 1
  | true =>
      rw [bit_true, ZMod.val_one_eq_one_mod]
      exact Nat.mod_le 1 T

/-! ## The circuit as a product -/

/-- The circuit multiplies its four tests and releases the last one beside the
product. -/
theorem recomputeCircuitV5_ok
    {policyA policyB currencyA currencyB receivableA receivableB : Slots m T}
    {overlap flags currency identity : Slots m T}
    (hoverlap : windowOverlap policyA policyB = .ok overlap)
    (hflags : bothExclusive policyA policyB = .ok flags)
    (hcurrency : equal256 currencyA currencyB = .ok currency)
    (hidentity : equal256 receivableA receivableB = .ok identity) :
    recomputeCircuitV5 ⟨some policyA, some policyB, some currencyA, some currencyB,
        some receivableA, some receivableB⟩ =
      .ok ⟨identity,
        mulBoolean (mulBoolean overlap flags) (mulBoolean currency identity)⟩ := by
  simp only [recomputeCircuitV5, bind_ok_iff]
  exact ⟨⟨policyA, policyB, currencyA, currencyB, receivableA, receivableB⟩, rfl, overlap,
    hoverlap, flags, hflags, currency, hcurrency, identity, hidentity, rfl⟩

/-- Where the identity vanishes, so does the conflict. -/
theorem conflict_get_zero {overlap flags currency identity : Slots m T} {i : ℕ}
    (h : identity.get i = 0) :
    (mulBoolean (mulBoolean overlap flags) (mulBoolean currency identity)).get i = 0 := by
  rw [mulBoolean, mulBoolean, mulBoolean, Slots.get_mul, Slots.get_mul currency, h, mul_zero,
    mul_zero]

/-- **Coherence of the release.** For any six vectors the outputs are zero off
slot 0, a conflict without the identity has slot 0 zero as well, and two vectors
the release check accepts never release (false, true). -/
theorem recompute_coherent (hm : 512 ≤ m)
    (policyA policyB currencyA currencyB receivableA receivableB : Slots m T) :
    ∃ out, recomputeCircuitV5 ⟨some policyA, some policyB, some currencyA, some currencyB,
        some receivableA, some receivableB⟩ = .ok out ∧
      (∀ i, i ≠ 0 → i < 2 * m →
        out.sameEconomicAsset.get i = 0 ∧ out.policyConflict.get i = 0) ∧
      (out.sameEconomicAsset.get 0 = 0 → out.policyConflict.get 0 = 0) ∧
      (requireCanonicalReleaseVector out.sameEconomicAsset.decode = .ok () →
        requireCanonicalReleaseVector out.policyConflict.decode = .ok () →
        ¬ (releasedBit out.sameEconomicAsset.decode = false ∧
          releasedBit out.policyConflict.decode = true)) := by
  obtain ⟨overlap, hoverlap, -⟩ := windowOverlap_ok hm policyA policyB
  obtain ⟨flags, hflags, -⟩ := bothExclusive_ok hm policyA policyB
  obtain ⟨currency, hcurrency, -, -⟩ := equal256_ok hm currencyA currencyB
  obtain ⟨identity, hidentity, hzero, -⟩ := equal256_ok hm receivableA receivableB
  have hpos : 0 < m := by omega
  refine ⟨_, recomputeCircuitV5_ok hoverlap hflags hcurrency hidentity, ?_, ?_, ?_⟩
  · intro i hne hi
    exact ⟨hzero i hne hi, conflict_get_zero (hzero i hne hi)⟩
  · exact conflict_get_zero
  · rintro hsame - ⟨hfalse, htrue⟩
    have hle : (identity.get 0).val ≤ 1 :=
      ((requireCanonicalReleaseVector_ok_iff hpos).mp hsame).1
    rw [releasedBit_decode hpos] at hfalse htrue
    -- an accepted identity that releases false is zero
    have hidentityZero : identity.get 0 = 0 := by
      apply (ZMod.val_eq_zero _).mp
      have hne : (identity.get 0).val ≠ 1 := by simpa using hfalse
      omega
    rw [conflict_get_zero hidentityZero, ZMod.val_zero] at htrue
    exact absurd htrue (by decide)

/-- The result at the deployed parameters, for one choice of malformed vectors. -/
theorem recompute_coherent_sample :
    ∃ out, recomputeCircuitV5 (m := 16384) (T := 65537)
        ⟨some 2, some 3, some 5, some 7, some 11, some 13⟩ = .ok out ∧
      (out.sameEconomicAsset.get 0 = 0 → out.policyConflict.get 0 = 0) := by
  obtain ⟨out, hout, -, hcoherent, -⟩ :=
    recompute_coherent (m := 16384) (T := 65537) (by decide) 2 3 5 7 11 13
  exact ⟨out, hout, hcoherent⟩

/-! ## The encodings of pledges -/

section

theorem natCast_toNat (b : Bool) : ((b.toNat : ℕ) : ZMod T) = bit (ZMod T) b := by
  cases b with
  | false => rw [Bool.toNat_false, Nat.cast_zero, bit_false]
  | true => rw [Bool.toNat_true, Nat.cast_one, bit_true]

/-- The bits of the policy vector: the two times side by side. -/
def windowBits (p : PlainPledge) (i : ℕ) : Bool :=
  if i < 64 then p.activeFrom.getMsbD i else p.activeUntil.getMsbD (i - 64)

theorem policyValues_apply (p : PlainPledge) {i : ℕ} (hi : i < 128) :
    policyValues p i = (windowBits p i).toNat := by
  have hne : i ≠ exclusiveSlot := by simp only [exclusiveSlot]; omega
  rw [policyValues, Function.update_of_ne hne, show fromStart = 0 from rfl,
    show untilStart = 64 from rfl, windowBits]
  by_cases hblock : i < 64
  · rw [if_pos hblock, writeUint64Bits_apply, if_neg (by omega), writeUint64Bits_apply,
      if_pos (by omega), Nat.sub_zero]
  · rw [if_neg hblock, writeUint64Bits_apply, if_pos (by omega)]

theorem policyBits_carries (hm : 512 ≤ m) (p : PlainPledge) :
    Carries (Slots.ofSlots m T (policyValues p)) (windowBits p) 128 := by
  intro i hi
  rw [Slots.get_ofSlots (by omega), policyValues_apply p hi, natCast_toNat]

theorem policyBits_exclusive (hm : 512 ≤ m) (p : PlainPledge) :
    (Slots.ofSlots m T (policyValues p)).get exclusiveSlot = bit (ZMod T) p.exclusive := by
  have hslot : exclusiveSlot < 2 * m := by simp only [exclusiveSlot]; omega
  rw [Slots.get_ofSlots hslot, policyValues, Function.update_self, natCast_toNat]

theorem digestBits_carries (hm : 512 ≤ m) (d : Digest) :
    Carries (Slots.ofSlots m T (writeBytesBits (fun _ => 0) 0 d.toList)) (byteBit d.toList)
      obligationBits := by
  intro i hi
  have hlength : d.toList.length = 32 := Vector.length_toList
  have hi : i < 256 := hi
  rw [Slots.get_ofSlots (by omega), writeBytesBits_apply, if_pos (by omega), Nat.sub_zero,
    natCast_toNat]

/-- The two halves of the policy vector spell the two times. -/
theorem windowBits_from (p : PlainPledge) :
    blockValue (windowBits p) 0 64 = p.activeFrom.toNat := by
  have hbits : blockValue (windowBits p) 0 64 = blockValue p.activeFrom.getMsbD 0 64 :=
    blockValue_congr fun i hi => if_pos (by omega)
  rw [hbits, blockValue_getMsbD _ (le_refl 64), Nat.sub_self, Nat.pow_zero, Nat.div_one]

theorem windowBits_until (p : PlainPledge) :
    blockValue (windowBits p) 64 64 = p.activeUntil.toNat := by
  have hbits : blockValue (windowBits p) 64 64 = blockValue p.activeUntil.getMsbD 0 64 :=
    blockValue_congr fun i hi => by
      rw [windowBits, if_neg (by omega), Nat.add_sub_cancel_left, Nat.zero_add]
  rw [hbits, blockValue_getMsbD _ (le_refl 64), Nat.sub_self, Nat.pow_zero, Nat.div_one]

theorem digest_blockEqual (a b : Digest) :
    blockEqual (byteBit a.toList) (byteBit b.toList) 0 obligationBits = decide (a = b) := by
  rw [Bool.eq_iff_iff, blockEqual_iff, decide_eq_true_iff, digest_eq_iff]
  simp only [Nat.zero_add, obligationBits]

/-- `equal256` on two encoded digests. -/
theorem equal256_digests (hm : 512 ≤ m) (a b : Digest) :
    ∃ equal, equal256 (Slots.ofSlots m T (writeBytesBits (fun _ => 0) 0 a.toList))
        (Slots.ofSlots m T (writeBytesBits (fun _ => 0) 0 b.toList)) = .ok equal ∧
      (∀ i, i ≠ 0 → i < 2 * m → equal.get i = 0) ∧
      equal.get 0 = bit (ZMod T) (decide (a = b)) := by
  obtain ⟨equal, hequal, hzero, hfirst⟩ := equal256_ok (T := T) hm
    (Slots.ofSlots m T (writeBytesBits (fun _ => 0) 0 a.toList))
    (Slots.ofSlots m T (writeBytesBits (fun _ => 0) 0 b.toList))
  refine ⟨equal, hequal, hzero, ?_⟩
  rw [hfirst _ _ (digestBits_carries hm a) (digestBits_carries hm b), digest_blockEqual]

end

/-- The policy both pledges would have to meet to conflict. -/
def PolicyConflicts (a b : PlainPledge) : Prop :=
  a.receivableID = b.receivableID ∧ a.currency = b.currency ∧
    (a.exclusive = true ∧ b.exclusive = true) ∧
    a.activeFrom.toNat < b.activeUntil.toNat ∧ b.activeFrom.toNat < a.activeUntil.toNat

instance (a b : PlainPledge) : Decidable (PolicyConflicts a b) :=
  inferInstanceAs (Decidable (_ ∧ _ ∧ (_ ∧ _) ∧ _ ∧ _))

/-- What an accepted pledge is encrypted to under full-FHE identity. -/
theorem encryptPledge_ok {p : PlainPledge} {c : CipherPledge m T}
    (h : encryptPledgeForMode m T p .fullFHE256 = .ok c) :
    c.policyBits = Slots.ofSlots m T (policyValues p) ∧
      c.currencyBits = Slots.ofSlots m T (writeBytesBits (fun _ => 0) 0 p.currency.toList) ∧
      c.receivableIDBits =
        some (Slots.ofSlots m T (writeBytesBits (fun _ => 0) 0 p.receivableID.toList)) := by
  simp only [encryptPledgeForMode, bind_ok_iff] at h
  obtain ⟨-, -, -, -, hc⟩ := h
  cases hc
  exact ⟨rfl, rfl, rfl⟩

/-- What the circuit makes of the encodings of two pledges. -/
theorem outputs_of_encodings (hm : 512 ≤ m) {a b : PlainPledge}
    {ca cb : CipherPledge m T} (ha : encryptPledgeForMode m T a .fullFHE256 = .ok ca)
    (hb : encryptPledgeForMode m T b .fullFHE256 = .ok cb) :
    ∃ out, recomputeCircuitV5 ⟨some ca.policyBits, some cb.policyBits, some ca.currencyBits,
        some cb.currencyBits, ca.receivableIDBits, cb.receivableIDBits⟩ = .ok out ∧
      out.sameEconomicAsset.get 0 = bit (ZMod T) (decide (a.receivableID = b.receivableID)) ∧
      out.policyConflict.get 0 = bit (ZMod T) (decide (PolicyConflicts a b)) ∧
      ∀ i, i ≠ 0 → i < 2 * m →
        out.sameEconomicAsset.get i = 0 ∧ out.policyConflict.get i = 0 := by
  obtain ⟨hpolicyA, hcurrencyA, hidA⟩ := encryptPledge_ok ha
  obtain ⟨hpolicyB, hcurrencyB, hidB⟩ := encryptPledge_ok hb
  rw [hpolicyA, hpolicyB, hcurrencyA, hcurrencyB, hidA, hidB]
  obtain ⟨overlap, hoverlap, hoverlapGet⟩ := windowOverlap_ok hm
    (Slots.ofSlots m T (policyValues a)) (Slots.ofSlots m T (policyValues b))
  obtain ⟨flags, hflags, hflagsGet⟩ := bothExclusive_ok hm
    (Slots.ofSlots m T (policyValues a)) (Slots.ofSlots m T (policyValues b))
  obtain ⟨currency, hcurrency, -, hcurrencyGet⟩ :=
    equal256_digests (T := T) hm a.currency b.currency
  obtain ⟨identity, hidentity, hzero, hidentityGet⟩ :=
    equal256_digests (T := T) hm a.receivableID b.receivableID
  refine ⟨_, recomputeCircuitV5_ok hoverlap hflags hcurrency hidentity, hidentityGet, ?_,
    fun i hne hi => ⟨hzero i hne hi, conflict_get_zero (hzero i hne hi)⟩⟩
  have hoverlapBit := hoverlapGet _ _ (policyBits_carries hm a) (policyBits_carries hm b)
  rw [windowBits_from, windowBits_from, windowBits_until, windowBits_until] at hoverlapBit
  rw [policyBits_exclusive hm, policyBits_exclusive hm] at hflagsGet
  simp only [mulBoolean, Slots.get_mul, hoverlapBit, hflagsGet, hcurrencyGet,
    hidentityGet, bit_mul]
  congr 1
  rw [Bool.eq_iff_iff]
  simp only [Bool.and_eq_true, decide_eq_true_iff]
  rw [PolicyConflicts]
  tauto

/-- **Correctness of the circuit.** On the encodings of two accepted pledges,
slot 0 of the first output is the equality of the receivables, slot 0 of the
second is the policy conflict, every other slot is zero, and the release check
accepts both. -/
theorem recompute_correct (hm : 512 ≤ m) (a b : PlainPledge) (ca cb : CipherPledge m T)
    (ha : encryptPledgeForMode m T a .fullFHE256 = .ok ca)
    (hb : encryptPledgeForMode m T b .fullFHE256 = .ok cb) :
    ∃ out, recomputeCircuitV5 ⟨some ca.policyBits, some cb.policyBits, some ca.currencyBits,
        some cb.currencyBits, ca.receivableIDBits, cb.receivableIDBits⟩ = .ok out ∧
      out.sameEconomicAsset.get 0 = (if a.receivableID = b.receivableID then 1 else 0) ∧
      out.policyConflict.get 0 = (if PolicyConflicts a b then 1 else 0) ∧
      (∀ i, i ≠ 0 → i < 2 * m →
        out.sameEconomicAsset.get i = 0 ∧ out.policyConflict.get i = 0) ∧
      requireCanonicalReleaseVector out.sameEconomicAsset.decode = .ok () ∧
      requireCanonicalReleaseVector out.policyConflict.decode = .ok () := by
  obtain ⟨out, hout, hsame, hconflict, hzero⟩ := outputs_of_encodings hm ha hb
  have hpos : 0 < m := by omega
  refine ⟨out, hout, ?_, ?_, hzero, ?_, ?_⟩
  · rw [hsame, bit]
    simp only [decide_eq_true_iff]
  · rw [hconflict, bit]
    simp only [decide_eq_true_iff]
  · apply (requireCanonicalReleaseVector_ok_iff hpos).mpr
    exact ⟨by rw [hsame]; exact bit_val_le _, fun i hne hi => (hzero i hne hi).1⟩
  · apply (requireCanonicalReleaseVector_ok_iff hpos).mpr
    exact ⟨by rw [hconflict]; exact bit_val_le _, fun i hne hi => (hzero i hne hi).2⟩

/-- A pledge of one unit of one receivable. -/
def samplePledge : PlainPledge where
  activeFrom := 1000
  activeUntil := 2000
  amount := #v[0, 0, 0, 1]
  currency := Vector.replicate 32 1
  obligationID := Vector.replicate 32 2
  receivableID := Vector.replicate 32 3
  exclusive := true
  receivableCommitment := Vector.replicate 32 0
  authorizationCommitment := Vector.replicate 32 4
  privateMetadataCommitment := Vector.replicate 32 5

/-- The same pledge against itself conflicts, at the deployed parameters. -/
theorem recompute_correct_sample :
    ∃ ca out, encryptPledgeForMode 16384 65537 samplePledge .fullFHE256 = .ok ca ∧
      recomputeCircuitV5 ⟨some ca.policyBits, some ca.policyBits, some ca.currencyBits,
        some ca.currencyBits, ca.receivableIDBits, ca.receivableIDBits⟩ = .ok out ∧
      out.sameEconomicAsset.get 0 = 1 ∧ out.policyConflict.get 0 = 1 := by
  obtain ⟨ca, hca⟩ : ∃ ca, encryptPledgeForMode 16384 65537 samplePledge .fullFHE256 = .ok ca :=
    ⟨_, rfl⟩
  obtain ⟨out, hout, hsame, hconflict, -⟩ :=
    recompute_correct (by decide) samplePledge samplePledge ca ca hca hca
  refine ⟨ca, out, hca, hout, hsame, hconflict.trans ?_⟩
  exact if_pos (by decide)

end Mordant.Circuit
