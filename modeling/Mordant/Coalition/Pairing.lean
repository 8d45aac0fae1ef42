/-
# The two halves of a session

An evaluator compares two enrollments only as the halves of one session.  Each half names
the other as its counterparty, so a half has one counterparty at most: whatever else is
paired with it comes from the same side of the same session.
-/

import Mordant.Coalition.Derivation

namespace Mordant.Coalition

open Evm Foundation

/-- Two bindings of one session, each to the side the other names. -/
structure CrossCertified (left right : SessionBindingV5) : Prop where
  sessionCommitment : left.sessionCommitment = right.sessionCommitment
  sessionNullifier : left.sessionNullifier = right.sessionNullifier
  counterpartyA : left.counterpartyScopeCommitment = right.ownScopeCommitment
  counterpartyB : right.counterpartyScopeCommitment = left.ownScopeCommitment
  scopes : left.ownScopeCommitment ≠ right.ownScopeCommitment
  governanceRecords : left.governanceRecord ≠ right.governanceRecord
  sources : left.sourceRecordCommitment ≠ right.sourceRecordCommitment
  authorizationEpoch : left.authorizationEpoch = right.authorizationEpoch
  submissionBudgetEpoch : left.submissionBudgetEpoch = right.submissionBudgetEpoch
  slotA : left.inputSlot = 0
  slotB : right.inputSlot = 1

/-- Two valid enrollments of one session, under one key and one policy, of two inputs. -/
structure Halves (left right : CiphertextEnrollmentV5) : Prop where
  validA : left.validate = .ok ()
  validB : right.validate = .ok ()
  bindings : CrossCertified left.binding right.binding
  keyID : left.keyID = right.keyID
  parameterFingerprint : left.parameterFingerprint = right.parameterFingerprint
  circuitVersion : left.circuitVersion = right.circuitVersion
  policyID : left.policyID = right.policyID
  policyVersion : left.policyVersion = right.policyVersion
  ciphertexts : left.ciphertextDigest ≠ right.ciphertextDigest
  nonces : left.nonce ≠ right.nonce
  inputCommitments : left.inputCommitment ≠ right.inputCommitment

/-- Two enrollments from one side of one session. -/
structure SameSide (enrollment other : CiphertextEnrollmentV5) : Prop where
  sessionCommitment : enrollment.binding.sessionCommitment = other.binding.sessionCommitment
  sessionNullifier : enrollment.binding.sessionNullifier = other.binding.sessionNullifier
  ownScopeCommitment : enrollment.binding.ownScopeCommitment = other.binding.ownScopeCommitment
  authorizationEpoch : enrollment.binding.authorizationEpoch = other.binding.authorizationEpoch
  submissionBudgetEpoch :
    enrollment.binding.submissionBudgetEpoch = other.binding.submissionBudgetEpoch
  keyID : enrollment.keyID = other.keyID
  policyID : enrollment.policyID = other.policyID
  policyVersion : enrollment.policyVersion = other.policyVersion

/-- What is hashed when an enrollment is signed. -/
def SignedCiphertextEnrollmentV5.texts (keccak256 : Bytes → Digest)
    (signed : SignedCiphertextEnrollmentV5) : Set Bytes :=
  {signed.enrollment.encoded keccak256, signed.enrollment.binding.encoded keccak256}

section

variable {keccak256 : Bytes → Digest} {a b c : SignedCiphertextEnrollmentV5}
  {left right third : CiphertextEnrollmentV5} {paired other : PairedEnrollmentsV5}

namespace Halves

theorem irrefl : ¬ Halves left left := fun h => h.nonces rfl

/-- Slot 0 and slot 1 are not exchanged. -/
theorem asymm (h : Halves left right) : ¬ Halves right left := by
  intro hswapped
  have hslots : (0 : BitVec 8) = 1 := h.bindings.slotA.symm.trans hswapped.bindings.slotB
  exact absurd hslots (by decide)

/-- A half has its counterparty on one side only. -/
theorem sameSide (h : Halves left right) (h' : Halves left third) : SameSide right third where
  sessionCommitment := h.bindings.sessionCommitment.symm.trans h'.bindings.sessionCommitment
  sessionNullifier := h.bindings.sessionNullifier.symm.trans h'.bindings.sessionNullifier
  ownScopeCommitment := h.bindings.counterpartyA.symm.trans h'.bindings.counterpartyA
  authorizationEpoch := h.bindings.authorizationEpoch.symm.trans h'.bindings.authorizationEpoch
  submissionBudgetEpoch :=
    h.bindings.submissionBudgetEpoch.symm.trans h'.bindings.submissionBudgetEpoch
  keyID := h.keyID.symm.trans h'.keyID
  policyID := h.policyID.symm.trans h'.policyID
  policyVersion := h.policyVersion.symm.trans h'.policyVersion

end Halves

/-- The gate compares what two halves of a session have in common, and that two different
enrollments were signed. -/
theorem pairEnrollmentsV5_ok_iff :
    (∃ paired, pairEnrollmentsV5 keccak256 a b = .ok paired) ↔
      Halves a.enrollment b.enrollment ∧
        a.enrollment.signingDigest keccak256 ≠ b.enrollment.signingDigest keccak256 := by
  simp only [pairEnrollmentsV5, bind_ok_iff, revertIf_ok_iff, exists_const, pure_ok_iff, not_or,
    not_not, exists_unit]
  constructor
  · intro h
    obtain ⟨_, hvalidA, hvalidB, ⟨hsession, hnullifier⟩, ⟨hcrossA, hcrossB⟩,
      ⟨hscopes, hrecords, hsources⟩, ⟨hslotA, hslotB⟩, ⟨hauthorization, hbudget⟩,
      ⟨hkey, hparameter, hcircuit, hpolicy, hversion, -⟩, ⟨hciphertexts, hnonces, hinputs⟩,
      hdigests, -⟩ := h
    exact
      ⟨{ validA := hvalidA
         validB := hvalidB
         bindings :=
          { sessionCommitment := hsession
            sessionNullifier := hnullifier
            counterpartyA := hcrossB.symm
            counterpartyB := hcrossA.symm
            scopes := hscopes
            governanceRecords := hrecords
            sources := hsources
            authorizationEpoch := hauthorization
            submissionBudgetEpoch := hbudget
            slotA := hslotA
            slotB := hslotB }
         keyID := hkey
         parameterFingerprint := hparameter
         circuitVersion := hcircuit
         policyID := hpolicy
         policyVersion := hversion
         ciphertexts := hciphertexts
         nonces := hnonces
         inputCommitments := hinputs }, hdigests⟩
  · rintro ⟨h, hdigests⟩
    -- Valid enrollments have one identity mode, so the gate's comparison of it adds nothing.
    have hmode := (validate_ok h.validA).2.trans (validate_ok h.validB).2.symm
    exact ⟨_, h.validA, h.validB, ⟨h.bindings.sessionCommitment, h.bindings.sessionNullifier⟩,
      ⟨h.bindings.counterpartyB.symm, h.bindings.counterpartyA.symm⟩,
      ⟨h.bindings.scopes, h.bindings.governanceRecords, h.bindings.sources⟩,
      ⟨h.bindings.slotA, h.bindings.slotB⟩,
      ⟨h.bindings.authorizationEpoch, h.bindings.submissionBudgetEpoch⟩,
      ⟨h.keyID, h.parameterFingerprint, h.circuitVersion, h.policyID, h.policyVersion, hmode⟩,
      ⟨h.ciphertexts, h.nonces, h.inputCommitments⟩, hdigests, rfl⟩

theorem halves_of_pair (h : pairEnrollmentsV5 keccak256 a b = .ok paired) :
    Halves a.enrollment b.enrollment :=
  (pairEnrollmentsV5_ok_iff.mp ⟨paired, h⟩).1

/-- Where no hash collides, two halves of a session have different signing digests. -/
theorem Halves.signingDigest_ne (h : Halves a.enrollment b.enrollment)
    (hinj : (a.texts keccak256 ∪ b.texts keccak256).InjOn keccak256) :
    a.enrollment.signingDigest keccak256 ≠ b.enrollment.signingDigest keccak256 := by
  intro hdigests
  have hsame : a.enrollment = b.enrollment :=
    CiphertextEnrollmentV5.eq_of_signingDigest_eq hinj (validate_ok h.validB).2
      (.inr (.inl rfl)) (.inl (.inl rfl)) (.inr (.inr rfl)) (.inl (.inr rfl)) hdigests
  exact h.nonces (congrArg CiphertextEnrollmentV5.nonce hsame)

/-- **Pairing.** Two signed enrollments pair exactly when they are the two halves of one
session.  They do not pair the other way round, no enrollment pairs with itself, and what
pairs with one enrollment is of one side. -/
theorem pairEnrollmentsV5_exact (keccak256 : Bytes → Digest)
    (a b c : SignedCiphertextEnrollmentV5)
    (hinj : (a.texts keccak256 ∪ b.texts keccak256).InjOn keccak256) :
    ((∃ paired, pairEnrollmentsV5 keccak256 a b = .ok paired) ↔
        Halves a.enrollment b.enrollment) ∧
      (∀ paired, pairEnrollmentsV5 keccak256 a b = .ok paired →
        ∀ swapped, pairEnrollmentsV5 keccak256 b a ≠ .ok swapped) ∧
      (∀ paired, pairEnrollmentsV5 keccak256 a a ≠ .ok paired) ∧
      ∀ paired other, pairEnrollmentsV5 keccak256 a b = .ok paired →
        pairEnrollmentsV5 keccak256 a c = .ok other → SameSide b.enrollment c.enrollment := by
  refine ⟨?_, ?_, ?_, ?_⟩
  · constructor
    · rintro ⟨paired, h⟩
      exact halves_of_pair h
    · intro h
      exact pairEnrollmentsV5_ok_iff.mpr ⟨h, h.signingDigest_ne hinj⟩
  · intro paired h swapped hswapped
    exact (halves_of_pair h).asymm (halves_of_pair hswapped)
  · intro paired h
    exact Halves.irrefl (halves_of_pair h)
  · intro paired other h h'
    exact (halves_of_pair h).sameSide (halves_of_pair h')

end

theorem injOn_texts_sample :
    (sampleSignedA.texts sampleDigest ∪ sampleSignedB.texts sampleDigest).InjOn sampleDigest := by
  apply injOn_sampleTexts.mono
  intro text htext
  simp only [sampleTexts, Set.mem_ofPred_eq, List.mem_cons, List.not_mem_nil, or_false]
  rcases htext with (rfl | rfl) | (rfl | rfl) <;> simp

/-- The second side enrolls twice: both enrollments are of the party that the first names. -/
theorem pairEnrollmentsV5_exact_sample :
    Halves sampleSignedA.enrollment sampleSignedB.enrollment ∧
      SameSide sampleSignedB.enrollment (sampleEnrollment 1 32 31 [7] [8] [9]) := by
  have hexact := pairEnrollmentsV5_exact sampleDigest sampleSignedA sampleSignedB
    (sampleSigned (sampleEnrollment 1 32 31 [7] [8] [9])) injOn_texts_sample
  obtain ⟨paired, hpaired⟩ : ∃ paired,
      pairEnrollmentsV5 sampleDigest sampleSignedA sampleSignedB = .ok paired :=
    toBool_eq_true_iff.mp (show (pairEnrollmentsV5 sampleDigest sampleSignedA
      sampleSignedB).toBool = true by decide +kernel)
  obtain ⟨other, hother⟩ : ∃ other, pairEnrollmentsV5 sampleDigest sampleSignedA
      (sampleSigned (sampleEnrollment 1 32 31 [7] [8] [9])) = .ok other :=
    toBool_eq_true_iff.mp (show (pairEnrollmentsV5 sampleDigest sampleSignedA
      (sampleSigned (sampleEnrollment 1 32 31 [7] [8] [9]))).toBool = true by decide +kernel)
  exact ⟨hexact.1.mp ⟨paired, hpaired⟩, hexact.2.2.2 paired other hpaired hother⟩

end Mordant.Coalition
