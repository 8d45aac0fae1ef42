/-
# What an operator derives itself

An operator accepts a request after fourteen checks of its descriptor.  Each field that
a check compares with a value of the operator's own is derived: a coordinator could not
have sent another one.

Two fields are not compared.  The policy is only required to be some policy, and the
descriptor to expire some time later; that the enrollments authorize that policy, and
last as long, is left to whoever builds the request.
-/

import Mordant.Coalition.OneShot

namespace Mordant.Coalition

open Evm Foundation

/-! ## What the checks establish -/

namespace Verifying

variable {α β : Type} {p : Prop} {x : Verifying α} {f : α → Verifying β} {name detail : String}
  {verdict : OperatorVerdictV5} {change : OperatorVerdictV5 → OperatorVerdictV5}
  {outcome : Except String α} {result : α × OperatorVerdictV5} {other : β × OperatorVerdictV5}
  {unit : Unit × OperatorVerdictV5}

theorem verifying_bind_ok_iff :
    (x >>= f) verdict = .ok other ↔
      ∃ a next, x verdict = .ok (a, next) ∧ f a next = .ok other := by
  refine Iff.trans bind_ok_iff ?_
  simp only [Prod.exists]

theorem ite_ok_iff [Decidable p] {y : Verifying α} :
    (if p then x else y) verdict = .ok result ↔
      p ∧ x verdict = .ok result ∨ ¬ p ∧ y verdict = .ok result := by
  by_cases hp : p <;> simp [hp]

theorem failIf_ok_iff [Decidable p] :
    failIf p name detail verdict = .ok unit ↔ ¬ p ∧ unit = ((), verdict) := by
  rw [failIf]
  by_cases hp : p
  · rw [if_pos hp]
    exact iff_of_false (fun h => nomatch h) (fun h => h.1 hp)
  · rw [if_neg hp]
    exact ⟨fun h => ⟨hp, (Except.ok.inj h).symm⟩, fun h => congrArg Except.ok h.2.symm⟩

theorem attempt_ok_iff :
    attempt name outcome verdict = .ok result ↔ outcome = .ok result.1 ∧ result.2 = verdict := by
  obtain ⟨a, next⟩ := result
  cases outcome with
  | error detail => exact iff_of_false (fun h => nomatch h) (fun h => nomatch h.1)
  | ok b =>
      constructor
      · intro h
        obtain ⟨rfl, rfl⟩ := Prod.mk.inj (Except.ok.inj h)
        exact ⟨rfl, rfl⟩
      · rintro ⟨hvalue, rfl⟩
        rw [Except.ok.inj hvalue]
        rfl

theorem modify_ok_iff : modify change verdict = .ok unit ↔ unit = ((), change verdict) :=
  ⟨fun h => (Except.ok.inj h).symm, fun h => congrArg Except.ok h.symm⟩

end Verifying

open Verifying

section

variable {library : FheLibrary} {runtime : Runtime} {threshold : ThresholdOperator}
  {fingerprint : Digest} {request : OperatorReleaseRequestV5} {now : ℤ}
  {existing : Except LedgerError SessionRecord} {verdict : OperatorVerdictV5}
  {result : Unit × OperatorVerdictV5}

/-- What the first eleven checks compare. -/
structure RequestChecked (library : FheLibrary) (runtime : Runtime) (threshold : ThresholdOperator)
    (request : OperatorReleaseRequestV5) (now : ℤ) : Prop where
  shape : request.descriptor.validate = .ok ()
  keyID : request.descriptor.keyID = threshold.keyID
  parameterFingerprint : request.descriptor.parameterFingerprint = threshold.fingerprint
  enrollmentA : verifyEnrollmentV5 library.keccak256 library.ed25519Verify runtime
    request.enrollmentA now = .ok request.descriptor.enrollmentDigestA
  enrollmentB : verifyEnrollmentV5 library.keccak256 library.ed25519Verify runtime
    request.enrollmentB now = .ok request.descriptor.enrollmentDigestB
  paired : ∃ paired, pairEnrollmentsV5 library.keccak256 request.enrollmentA request.enrollmentB =
      .ok paired ∧ request.descriptor.sessionCommitment = paired.sessionCommitment ∧
    request.descriptor.sessionNullifier = paired.sessionNullifier
  sideA : circuitSideDigestV5 library request.inputs.policyBitsA request.inputs.currencyBitsA
    request.inputs.receivableIDsA = request.enrollmentA.enrollment.ciphertextDigest
  sideB : circuitSideDigestV5 library request.inputs.policyBitsB request.inputs.currencyBitsB
    request.inputs.receivableIDsB = request.enrollmentB.enrollment.ciphertextDigest
  inputs : request.inputs.digest library = request.descriptor.inputsDigest

/-- What the recomputation compares. -/
structure Recomputed (library : FheLibrary) (runtime : Runtime) (fingerprint : Digest)
    (request : OperatorReleaseRequestV5) : Prop where
  runtimeFingerprint : request.descriptor.runtimeFingerprint = fingerprint
  outputs : ∃ outputs, library.recomputeCircuitV5 runtime request.inputs = .ok outputs ∧
    outputs.digest library = request.descriptor.outputsDigest

theorem requestChecks_ok
    (h : requestChecks library runtime threshold request now verdict = .ok result) :
    RequestChecked library runtime threshold request now := by
  simp only [requestChecks, record, verifying_bind_ok_iff, failIf_ok_iff, attempt_ok_iff,
    modify_ok_iff, exists_const, Prod.mk.injEq, true_and, exists_eq_left, not_or, not_not] at h
  obtain ⟨_, _, ⟨hshape, -⟩, _, -, _, ⟨hkey, -⟩, _, ⟨hparameter, -⟩, _, -, digestA, _, ⟨hA, -⟩,
    digestB, _, ⟨hB, -⟩, paired, _, ⟨hpaired, -⟩, _,
    ⟨⟨hsession, hnullifier, hdigestA, hdigestB, -⟩, -⟩,
    _, ⟨⟨hsideA, hsideB⟩, -⟩, _, -, _, ⟨hinputs, -⟩, -⟩ := h
  exact
    { shape := hshape
      keyID := hkey
      parameterFingerprint := hparameter
      enrollmentA := hdigestA ▸ hA
      enrollmentB := hdigestB ▸ hB
      paired := ⟨paired, hpaired, hsession, hnullifier⟩
      sideA := hsideA
      sideB := hsideB
      inputs := hinputs }

theorem recomputationChecks_ok
    (h : recomputationChecks library runtime fingerprint request verdict = .ok result) :
    Recomputed library runtime fingerprint request := by
  simp only [recomputationChecks, record, verifying_bind_ok_iff, failIf_ok_iff, attempt_ok_iff,
    modify_ok_iff, exists_const, Prod.mk.injEq, true_and, exists_eq_left, not_not] at h
  obtain ⟨_, ⟨hruntime, -⟩, outputs, _, ⟨houtputs, -⟩, hcompare⟩ := h
  rcases ite_ok_iff.mp hcompare with ⟨-, hmismatch⟩ | ⟨hdigest, -⟩
  · exact nomatch hmismatch
  · exact ⟨hruntime, outputs, houtputs, not_not.mp hdigest⟩

/-- An operator that gives no error made every check. -/
theorem checked_of_accepted
    (h : (verifyAndRecompute library runtime threshold fingerprint request now existing).2 = none) :
    RequestChecked library runtime threshold request now ∧
      Recomputed library runtime fingerprint request := by
  simp only [verifyAndRecompute] at h
  split at h
  · next verdict hchecks =>
      simp only [verifying_bind_ok_iff] at hchecks
      obtain ⟨_, _, hrequest, _, _, -, _, _, -, hrecomputed⟩ := hchecks
      exact ⟨requestChecks_ok hrequest, recomputationChecks_ok hrecomputed⟩
  · exact nomatch h

end

/-! ## What the issuers signed -/

/-- What an issuer puts its signature to: an enrollment, and the ciphertexts it is for. -/
structure Issuance (library : FheLibrary) where
  publicKey : Bytes
  enrollment : CiphertextEnrollmentV5
  policyBits : Ciphertext
  currencyBits : Ciphertext
  receivableIDBits : Ciphertext
  commits : enrollment.ciphertextDigest =
    circuitSideDigestV5 library policyBits currencyBits receivableIDBits

/-- A signature that verifies under the key of a trusted issuer is over an enrollment
that the issuer signed. -/
def Unforgeable (library : FheLibrary) (runtime : Runtime) (issued : Set (Issuance library)) :
    Prop :=
  ∀ issuer record, runtime.trustedIssuers issuer = some record → ∀ digest signature,
    library.ed25519Verify record.publicKey (wordBytes digest) signature = true →
      ∃ issuance ∈ issued, issuance.publicKey = record.publicKey ∧
        issuance.enrollment.signingDigest library.keccak256 = digest

/-- What is hashed of an enrollment. -/
def enrollmentTexts (library : FheLibrary) (enrollment : CiphertextEnrollmentV5) : Set Bytes :=
  {enrollment.encoded library.keccak256, enrollment.binding.encoded library.keccak256}

/-- What is hashed of the enrollments of a request, of its ciphertexts, and of all that
was issued. -/
def hashedTexts (library : FheLibrary) (issued : Set (Issuance library))
    (request : OperatorReleaseRequestV5) : Set Bytes :=
  enrollmentTexts library request.enrollmentA.enrollment ∪
    enrollmentTexts library request.enrollmentB.enrollment ∪
    {circuitSideEncoded request.inputs.policyBitsA request.inputs.currencyBitsA
        request.inputs.receivableIDsA,
      circuitSideEncoded request.inputs.policyBitsB request.inputs.currencyBitsB
        request.inputs.receivableIDsB} ∪
    ⋃ issuance ∈ issued, enrollmentTexts library issuance.enrollment ∪
      {circuitSideEncoded issuance.policyBits issuance.currencyBits issuance.receivableIDBits}

/-- What is serialized is shorter than a 64-bit length counts. -/
def Counted (ciphertexts : List Ciphertext) : Prop :=
  ∀ ciphertext ∈ ciphertexts, ciphertext.length < 2 ^ 64

/-- One side of a request is what a trusted issuer signed and has not let expire. -/
structure Authorized (library : FheLibrary) (runtime : Runtime) (issued : Set (Issuance library))
    (now : ℤ) (signed : SignedCiphertextEnrollmentV5)
    (policyBits currencyBits receivableIDs : Ciphertext) : Prop where
  unexpired : 0 ≤ now ∧ signed.enrollment.issuedAt ≤ BitVec.ofInt 64 now ∧
    BitVec.ofInt 64 now ≤ signed.enrollment.validUntil
  issuance : ∃ record issuance, issuance ∈ issued ∧
    runtime.trustedIssuers signed.enrollment.issuerKeyID = some record ∧
    record.revoked = false ∧ issuance.publicKey = record.publicKey ∧
    issuance.enrollment = signed.enrollment ∧
    (Counted [policyBits, currencyBits, receivableIDs] →
      Counted [issuance.policyBits, issuance.currencyBits, issuance.receivableIDBits] →
      policyBits = issuance.policyBits ∧ currencyBits = issuance.currencyBits ∧
        receivableIDs = issuance.receivableIDBits)

/-- Every field of the descriptor is one the operator derives or holds. -/
structure Derived (library : FheLibrary) (runtime : Runtime) (threshold : ThresholdOperator)
    (fingerprint : Digest) (issued : Set (Issuance library)) (request : OperatorReleaseRequestV5)
    (now : ℤ) : Prop where
  authorizedA : Authorized library runtime issued now request.enrollmentA
    request.inputs.policyBitsA request.inputs.currencyBitsA request.inputs.receivableIDsA
  authorizedB : Authorized library runtime issued now request.enrollmentB
    request.inputs.policyBitsB request.inputs.currencyBitsB request.inputs.receivableIDsB
  paired : ∃ paired, pairEnrollmentsV5 library.keccak256 request.enrollmentA request.enrollmentB =
      .ok paired ∧ request.descriptor.sessionCommitment = paired.sessionCommitment ∧
    request.descriptor.sessionNullifier = paired.sessionNullifier
  enrollmentDigestA : request.descriptor.enrollmentDigestA =
    request.enrollmentA.enrollment.signingDigest library.keccak256
  enrollmentDigestB : request.descriptor.enrollmentDigestB =
    request.enrollmentB.enrollment.signingDigest library.keccak256
  policyID : request.descriptor.policyID = request.enrollmentA.enrollment.policyID ∧
    request.descriptor.policyID = request.enrollmentB.enrollment.policyID
  policyVersion : request.descriptor.policyVersion = request.enrollmentA.enrollment.policyVersion ∧
    request.descriptor.policyVersion = request.enrollmentB.enrollment.policyVersion
  keyID : request.descriptor.keyID = threshold.keyID
  parameterFingerprint : request.descriptor.parameterFingerprint = threshold.fingerprint
  circuitVersion : request.descriptor.circuitVersion = circuitV5Version
  runtimeFingerprint : request.descriptor.runtimeFingerprint = fingerprint
  inputsDigest : request.descriptor.inputsDigest = request.inputs.digest library
  outputsDigest : ∃ outputs, library.recomputeCircuitV5 runtime request.inputs = .ok outputs ∧
    request.descriptor.outputsDigest = outputs.digest library
  expiresAt : request.descriptor.expiresAt ≤ request.enrollmentA.enrollment.validUntil ∧
    request.descriptor.expiresAt ≤ request.enrollmentB.enrollment.validUntil

section

variable {library : FheLibrary} {runtime : Runtime} {threshold : ThresholdOperator}
  {fingerprint : Digest} {issued : Set (Issuance library)} {request : OperatorReleaseRequestV5}
  {now : ℤ} {existing : Except LedgerError SessionRecord} {hashed : Set Bytes}
  {signed : SignedCiphertextEnrollmentV5} {digest : Digest}
  {policyBits currencyBits receivableIDs : Ciphertext}

theorem delimited_lengthPrefixed :
    Delimited {payload | payload.length ∈ {n | n < 2 ^ 64}} lengthPrefixed := by
  refine Delimited.counted (.of_length (fun n _ => length_uint64Bytes _) ?_)
  intro n hn m hm heq
  have hword := congrArg uint64OfBytes heq
  rw [uint64OfBytes_uint64Bytes, uint64OfBytes_uint64Bytes] at hword
  have hnat := congrArg BitVec.toNat hword
  rwa [BitVec.toNat_ofNat, BitVec.toNat_ofNat, Nat.mod_eq_of_lt hn, Nat.mod_eq_of_lt hm] at hnat

/-- What is hashed of one side determines its ciphertexts. -/
theorem circuitSideEncoded_inj {policyBits' currencyBits' receivableIDs' : Ciphertext}
    (hcounted : Counted [policyBits, currencyBits, receivableIDs])
    (hcounted' : Counted [policyBits', currencyBits', receivableIDs'])
    (h : circuitSideEncoded policyBits currencyBits receivableIDs =
      circuitSideEncoded policyBits' currencyBits' receivableIDs') :
    policyBits = policyBits' ∧ currencyBits = currencyBits' ∧ receivableIDs = receivableIDs' := by
  simp only [Counted, List.forall_mem_cons] at hcounted hcounted'
  have htexts := List.append_cancel_left h
  simp only [List.flatMap_cons] at htexts
  obtain ⟨hpolicy, htexts⟩ := delimited_lengthPrefixed hcounted.1 hcounted'.1 htexts
  obtain ⟨hcurrency, htexts⟩ := delimited_lengthPrefixed hcounted.2.1 hcounted'.2.1 htexts
  exact ⟨hpolicy, hcurrency,
    (delimited_lengthPrefixed hcounted.2.2.1 hcounted'.2.2.1 htexts).1⟩

theorem validate_ok {enrollment : CiphertextEnrollmentV5} (h : enrollment.validate = .ok ()) :
    enrollment.policyVersion = policyVersion ∧
      enrollment.identityMode = identityFullFHE256 := by
  simp only [CiphertextEnrollmentV5.validate, bind_ok_iff, revertIf_ok_iff, exists_const,
    not_or, not_not] at h
  obtain ⟨-, _, -, -, ⟨-, -, -, -, -, hversion, -⟩, hmode, -⟩ := h
  exact ⟨hversion, hmode⟩

/-- What an accepted signature says of the enrollment it is over. -/
theorem verifyEnrollmentV5_ok {keccak256 : Bytes → Digest}
    {ed25519Verify : Bytes → Bytes → Bytes → Bool}
    (h : verifyEnrollmentV5 keccak256 ed25519Verify runtime signed now = .ok digest) :
    signed.enrollment.validate = .ok () ∧ digest = signed.enrollment.signingDigest keccak256 ∧
      (0 ≤ now ∧ signed.enrollment.issuedAt ≤ BitVec.ofInt 64 now ∧
        BitVec.ofInt 64 now ≤ signed.enrollment.validUntil) ∧
      ∃ record, runtime.trustedIssuers signed.enrollment.issuerKeyID = some record ∧
        record.revoked = false ∧
        ed25519Verify record.publicKey (wordBytes digest) signed.signature = true := by
  simp only [verifyEnrollmentV5, bind_ok_iff, revertIf_ok_iff, exists_const, require_ok_iff,
    pure_ok_iff, not_or, not_lt, BitVec.not_lt, gt_iff_lt, Bool.not_eq_true, Bool.not_eq_false] at h
  obtain ⟨_, hvalid, -, hunexpired, -, record, htrusted, hrevoked, -, hsignature, rfl⟩ := h
  exact ⟨hvalid, rfl, hunexpired, record, htrusted, hrevoked, hsignature⟩

theorem authorized_of_verify (hkeccak : hashed.InjOn library.keccak256)
    (hsigned : Unforgeable library runtime issued)
    (hissued : ∀ issuance ∈ issued, enrollmentTexts library issuance.enrollment ⊆ hashed ∧
      circuitSideEncoded issuance.policyBits issuance.currencyBits issuance.receivableIDBits ∈
        hashed)
    (htexts : enrollmentTexts library signed.enrollment ⊆ hashed)
    (hsideText : circuitSideEncoded policyBits currencyBits receivableIDs ∈ hashed)
    (hverify : verifyEnrollmentV5 library.keccak256 library.ed25519Verify runtime signed now =
      .ok digest)
    (hside : circuitSideDigestV5 library policyBits currencyBits receivableIDs =
      signed.enrollment.ciphertextDigest) :
    Authorized library runtime issued now signed policyBits currencyBits receivableIDs := by
  obtain ⟨hvalid, rfl, hunexpired, record, htrusted, hrevoked, hsignature⟩ :=
    verifyEnrollmentV5_ok hverify
  obtain ⟨issuance, hmem, hkey, hdigest⟩ := hsigned _ record htrusted _ _ hsignature
  obtain ⟨hissuedTexts, hissuedSide⟩ := hissued issuance hmem
  have henrollment : issuance.enrollment = signed.enrollment :=
    CiphertextEnrollmentV5.eq_of_signingDigest_eq hkeccak (validate_ok hvalid).2
      (htexts (Set.mem_insert _ _)) (hissuedTexts (Set.mem_insert _ _))
      (htexts (Set.mem_insert_of_mem _ rfl)) (hissuedTexts (Set.mem_insert_of_mem _ rfl)) hdigest
  refine ⟨hunexpired, record, issuance, hmem, htrusted, hrevoked, hkey, henrollment, ?_⟩
  intro hcounted hcounted'
  apply circuitSideEncoded_inj hcounted hcounted'
  apply hkeccak hsideText hissuedSide
  calc circuitSideDigestV5 library policyBits currencyBits receivableIDs
    _ = signed.enrollment.ciphertextDigest := hside
    _ = issuance.enrollment.ciphertextDigest := by rw [henrollment]
    _ = _ := issuance.commits

theorem pairEnrollmentsV5_policy {keccak256 : Bytes → Digest}
    {a b : SignedCiphertextEnrollmentV5} {paired : PairedEnrollmentsV5}
    (h : pairEnrollmentsV5 keccak256 a b = .ok paired) :
    a.enrollment.policyID = b.enrollment.policyID ∧
      a.enrollment.policyVersion = policyVersion ∧ b.enrollment.policyVersion = policyVersion := by
  simp only [pairEnrollmentsV5, bind_ok_iff, revertIf_ok_iff, exists_const, not_or, not_not] at h
  obtain ⟨_, hvalidA, _, hvalidB, -, -, -, -, -, ⟨-, -, -, hpolicy, -⟩, -⟩ := h
  exact ⟨hpolicy, (validate_ok hvalidA).1, (validate_ok hvalidB).1⟩

/-- **Derivation.** Where hashes do not collide and signatures are not forged, every field
of a descriptor that an operator accepts is one it derived or holds, if and only if the
descriptor names the policy that was enrolled and expires with the enrollments. -/
theorem accepted_derived_iff (hkeccak : (hashedTexts library issued request).InjOn
      library.keccak256) (hsigned : Unforgeable library runtime issued)
    (haccepted : (verifyAndRecompute library runtime threshold fingerprint request now
      existing).2 = none) :
    Derived library runtime threshold fingerprint issued request now ↔
      request.descriptor.policyID = request.enrollmentA.enrollment.policyID ∧
        request.descriptor.expiresAt ≤ request.enrollmentA.enrollment.validUntil ∧
        request.descriptor.expiresAt ≤ request.enrollmentB.enrollment.validUntil := by
  constructor
  · intro h
    exact ⟨h.policyID.1, h.expiresAt⟩
  · intro ⟨hpolicy, hexpires⟩
    obtain ⟨hchecked, hrecomputed⟩ := checked_of_accepted haccepted
    obtain ⟨paired, hpaired, hsession⟩ := hchecked.paired
    obtain ⟨hpolicies, hversionA, hversionB⟩ := pairEnrollmentsV5_policy hpaired
    obtain ⟨outputs, houtputs, hdigest⟩ := hrecomputed.outputs
    have hshape := hchecked.shape
    simp only [ReleaseDescriptorV5.validate, revertIf_ok_iff, not_or, not_not] at hshape
    have hissued : ∀ issuance ∈ issued,
        enrollmentTexts library issuance.enrollment ⊆ hashedTexts library issued request ∧
          circuitSideEncoded issuance.policyBits issuance.currencyBits
            issuance.receivableIDBits ∈ hashedTexts library issued request := by
      intro issuance hmem
      have hall := Set.subset_biUnion_of_mem (u := fun issuance : Issuance library =>
        enrollmentTexts library issuance.enrollment ∪
          {circuitSideEncoded issuance.policyBits issuance.currencyBits
            issuance.receivableIDBits}) hmem
      exact ⟨fun _ h => .inr (hall (.inl h)), .inr (hall (.inr rfl))⟩
    exact
      { authorizedA := authorized_of_verify hkeccak hsigned hissued
          (fun _ h => .inl (.inl (.inl h))) (.inl (.inr (Set.mem_insert _ _)))
          hchecked.enrollmentA hchecked.sideA
        authorizedB := authorized_of_verify hkeccak hsigned hissued
          (fun _ h => .inl (.inl (.inr h))) (.inl (.inr (Set.mem_insert_of_mem _ rfl)))
          hchecked.enrollmentB hchecked.sideB
        paired := ⟨paired, hpaired, hsession⟩
        enrollmentDigestA := (verifyEnrollmentV5_ok hchecked.enrollmentA).2.1
        enrollmentDigestB := (verifyEnrollmentV5_ok hchecked.enrollmentB).2.1
        policyID := ⟨hpolicy, hpolicy.trans hpolicies⟩
        policyVersion := ⟨hshape.2.2.2.2.2.2.2.2.2.2.2.2.1.trans hversionA.symm,
          hshape.2.2.2.2.2.2.2.2.2.2.2.2.1.trans hversionB.symm⟩
        keyID := hchecked.keyID
        parameterFingerprint := hchecked.parameterFingerprint
        circuitVersion := hshape.2.2.2.2.2.2.2.1
        runtimeFingerprint := hrecomputed.runtimeFingerprint
        inputsDigest := hchecked.inputs.symm
        outputsDigest := ⟨outputs, houtputs, hdigest.symm⟩
        expiresAt := hexpires }

end

/-! ### A request for two enrollments -/

def issuanceA : Issuance sampleLibrary :=
  ⟨wordBytes 181, sampleSignedA.enrollment, [1], [2], [3], rfl⟩

def issuanceB : Issuance sampleLibrary :=
  ⟨wordBytes 182, sampleSignedB.enrollment, [4], [5], [6], rfl⟩

/-- Signatures that verify for what the two issuers signed, and for nothing else. -/
def issuedLibrary : FheLibrary :=
  { sampleLibrary with
    ed25519Verify := fun key message _ => (key, message) ∈
      [issuanceA, issuanceB].map fun issuance =>
        (issuance.publicKey, wordBytes (issuance.enrollment.signingDigest sampleDigest)) }

def issuedBoth : Set (Issuance issuedLibrary) :=
  {⟨issuanceA.publicKey, issuanceA.enrollment, [1], [2], [3], rfl⟩,
    ⟨issuanceB.publicKey, issuanceB.enrollment, [4], [5], [6], rfl⟩}

def sampleInputs : CircuitInputsV5 := ⟨[1], [4], [2], [5], [3], [6]⟩

/-- A request under a policy, until some time. -/
def sampleRequest (policyID : Digest) (expiresAt : Word64) : OperatorReleaseRequestV5 where
  descriptor :=
    { sessionCommitment := sampleSession
      sessionNullifier := 6
      enrollmentDigestA := sampleSignedA.enrollment.signingDigest sampleDigest
      enrollmentDigestB := sampleSignedB.enrollment.signingDigest sampleDigest
      inputsDigest := sampleInputs.digest issuedLibrary
      outputsDigest := CircuitOutputsV5.digest issuedLibrary ⟨[3, 6], [1, 4]⟩
      circuitVersion := circuitV5Version
      runtimeFingerprint := 7
      keyID := 3
      parameterFingerprint := 4
      policyID
      policyVersion := policyVersion
      expiresAt }
  enrollmentA := sampleSignedA
  enrollmentB := sampleSignedB
  inputs := sampleInputs
  coalition := (1, 2)

/-- The six texts that are hashed for the two sides. -/
def sampleTexts : List Bytes :=
  [sampleSignedA.enrollment.encoded sampleDigest, sampleSignedB.enrollment.encoded sampleDigest,
    sampleSignedA.enrollment.binding.encoded sampleDigest,
    sampleSignedB.enrollment.binding.encoded sampleDigest,
    circuitSideEncoded [1] [2] [3], circuitSideEncoded [4] [5] [6]]

theorem injOn_sampleTexts : Set.InjOn sampleDigest {text | text ∈ sampleTexts} := by
  have hpairs : ∀ text ∈ sampleTexts, ∀ other ∈ sampleTexts,
      sampleDigest text = sampleDigest other → text = other := by
    decide +kernel
  exact fun text htext other hother => hpairs text htext other hother

theorem injOn_hashedTexts (policyID : Digest) (expiresAt : Word64) :
    (hashedTexts issuedLibrary issuedBoth (sampleRequest policyID expiresAt)).InjOn
      issuedLibrary.keccak256 := by
  apply injOn_sampleTexts.mono
  intro text htext
  simp only [hashedTexts, enrollmentTexts, issuedBoth, Set.mem_union, Set.mem_insert_iff,
    Set.mem_singleton_iff, Set.mem_iUnion, exists_prop] at htext
  simp only [sampleTexts, Set.mem_ofPred_eq, List.mem_cons, List.not_mem_nil, or_false]
  rcases htext with ((hA | hB) | hside) | ⟨_, rfl | rfl, hissued⟩
  · rcases hA with rfl | rfl <;> simp [sampleRequest, issuedLibrary, sampleLibrary]
  · rcases hB with rfl | rfl <;> simp [sampleRequest, issuedLibrary, sampleLibrary]
  · rcases hside with rfl | rfl <;> simp [sampleRequest, sampleInputs]
  · rcases hissued with (rfl | rfl) | rfl <;> simp [issuanceA, issuedLibrary, sampleLibrary]
  · rcases hissued with (rfl | rfl) | rfl <;> simp [issuanceB, issuedLibrary, sampleLibrary]

theorem unforgeable_issued : Unforgeable issuedLibrary sampleRuntime issuedBoth := by
  intro issuer record _ digest signature hverify
  have hsigned : (record.publicKey, wordBytes digest) ∈ [issuanceA, issuanceB].map
      fun issuance =>
        (issuance.publicKey, wordBytes (issuance.enrollment.signingDigest sampleDigest)) :=
    of_decide_eq_true hverify
  simp only [List.map_cons, List.map_nil, List.mem_cons, List.not_mem_nil, or_false,
    Prod.mk.injEq] at hsigned
  rcases hsigned with ⟨hkey, hdigest⟩ | ⟨hkey, hdigest⟩
  · exact ⟨_, .inl rfl, hkey.symm, (wordBytes_injective hdigest).symm⟩
  · exact ⟨_, .inr rfl, hkey.symm, (wordBytes_injective hdigest).symm⟩

theorem accepted_derived_sample :
    Derived issuedLibrary sampleRuntime (sampleOperator 1) 7 issuedBoth (sampleRequest 9 100) 10 ∧
      ¬ Derived issuedLibrary sampleRuntime (sampleOperator 1) 7 issuedBoth
        (sampleRequest 9 101) 10 := by
  have hderived (expiresAt : Word64)
      (haccepted : (verifyAndRecompute issuedLibrary sampleRuntime (sampleOperator 1) 7
        (sampleRequest 9 expiresAt) 10 (.error .sessionUnknown)).2 = none) :=
    accepted_derived_iff (injOn_hashedTexts 9 expiresAt) unforgeable_issued haccepted
  constructor
  · exact (hderived 100 (by decide +kernel)).mpr (by decide +kernel)
  · exact fun h => absurd ((hderived 101 (by decide +kernel)).mp h) (by decide +kernel)

/-- A request is accepted under a policy that nobody enrolled for. -/
theorem accepted_foreign_policy :
    (hashedTexts issuedLibrary issuedBoth (sampleRequest 10 100)).InjOn issuedLibrary.keccak256 ∧
      Unforgeable issuedLibrary sampleRuntime issuedBoth ∧
      (verifyAndRecompute issuedLibrary sampleRuntime (sampleOperator 1) 7
        (sampleRequest 10 100) 10 (.error .sessionUnknown)).2 = none ∧
      ¬ Derived issuedLibrary sampleRuntime (sampleOperator 1) 7 issuedBoth
        (sampleRequest 10 100) 10 := by
  refine ⟨injOn_hashedTexts 10 100, unforgeable_issued, by decide +kernel, ?_⟩
  intro hderived
  exact absurd hderived.policyID.1 (by decide)

end Mordant.Coalition
