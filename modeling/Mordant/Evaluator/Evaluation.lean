/-
# One request is evaluated

The evaluator admits a request, spends its nonce and its enrollments, and computes whether the
two pledges conflict.  Its circuit is a copy of its own beside the circuit that operators
recompute: the gates come in another order, and under public commitments the identities are
compared in the clear.

Both circuits are over slot vectors, where a ciphertext is the vector it decrypts to.  What they
agree on holds for all vectors: no slot has to hold a bit.
-/

import Mathlib.Data.List.ReduceOption
import Mordant.Circuit.Release
import Mordant.Evaluator.Enrollment

namespace Mordant.Evaluator

open Evm Foundation Circuit
open Coalition (identityPublicCommitment identityFullFHE256 policyVersion)

/-- What the libraries offer for an evaluation. -/
structure EvaluationLibrary (C : Type) (m T : ℕ) extends CiphertextLibrary C where
  /-- The ring degree of each component of `Value`. -/
  components : C → List ℕ
  slots : C → Slots m T
  /-- What the ciphertext of a result serializes to. -/
  marshalResult : Slots m T → Option Bytes
  keccak256 : Bytes → Bytes32
  ed25519Verify : Bytes → Bytes → Bytes → Bool

def policyDepth : ℤ := 11

/-- An evaluation is refused, or its circuit fails. -/
inductive EvaluationError
  | refused (reason : String)
  | failed (operation : String) (cause : CircuitError)
  deriving DecidableEq

structure EncryptedDecision (m T : ℕ) where
  conflict : Slots m T
  nonce : Bytes32
  resultCiphertextCommitment : Bytes32

section

variable {C : Type} {m T : ℕ} (library : EvaluationLibrary C m T)

/-- The level and shape that `validateRequest` asks of a ciphertext. -/
def evaluable (runtime : Runtime) (ct : C) : Prop :=
  policyDepth ≤ library.level ct ∧ library.level ct ≤ runtime.maxLevel ∧
    library.components ct = [runtime.ringDegree, runtime.ringDegree]

instance (runtime : Runtime) (ct : C) : Decidable (evaluable library runtime ct) :=
  inferInstanceAs (Decidable (_ ∧ _))

/-- The ciphertexts that an evaluation is over. -/
def evaluated (request : EvaluationRequest C) : List C :=
  let full := request.identityMode = identityFullFHE256
  [request.a.policyBits, request.b.policyBits, request.a.currencyBits, request.b.currencyBits,
    request.a.amountBits, request.b.amountBits, request.a.obligationIDBits,
    request.b.obligationIDBits, if full then request.a.receivableIDBits else none,
    if full then request.b.receivableIDBits else none].reduceOption

/-- The local grants that `validateRequest` asks for where no side is enrolled. -/
def validateLocalIngress (runtime : Runtime) (request : EvaluationRequest C) (now : Time) :
    Except String Unit := do
  let granted := fun pledge : CipherPledge C =>
    ∃ grant ∈ runtime.authorizedIngress pledge.authorizationCommitment,
      grant.keyID = runtime.keyID ∧ grant.policyVersion = request.policyVersion ∧
        now ≤ grant.validUntil
  revertIf (¬ granted request.a ∨ ¬ granted request.b) "unauthorized ingress commitment"
  [request.a, request.b].forM fun pledge => do
    let digest ← require "malformed encrypted pledge"
      (cipherPledgeDigestBytes library.toCiphertextLibrary library.keccak256 pledge).toOption
    revertIf (runtime.issuedCiphertexts digest = false) "ciphertext origin not proven"

def validateRequest (runtime : Runtime) (request : EvaluationRequest C) (now : Time) :
    Except String (List Bytes32) := do
  revertIf (request.keyID ≠ runtime.keyID) "wrong key id"
  revertIf (request.policyVersion ≠ policyVersion) "wrong policy version"
  revertIf (request.validUntil < now) "request expired"
  revertIf (request.nonce = 0) "nonce already used"
  validateCipherPledge library.toCiphertextLibrary request.a
  validateCipherPledge library.toCiphertextLibrary request.b
  revertIf (request.a.keyID ≠ runtime.keyID ∨ request.b.keyID ≠ runtime.keyID ∨
      request.a.parameterFingerprint ≠ runtime.parameterFingerprint ∨
      request.b.parameterFingerprint ≠ runtime.parameterFingerprint)
    "wrong key id"
  let isPublic := request.identityMode = identityPublicCommitment
  let full := request.identityMode = identityFullFHE256
  revertIf (¬ isPublic ∧ ¬ full) "wrong policy version"
  revertIf (full ∧ (request.a.receivableIDBits.isNone = true ∨
      request.b.receivableIDBits.isNone = true))
    "malformed encrypted pledge: missing encrypted receivable identity"
  revertIf (isPublic ∧ (request.a.receivableCommitment = 0 ∨ request.b.receivableCommitment = 0))
    "malformed encrypted pledge: missing public receivable commitment"
  revertIf (full ∧ (request.a.receivableCommitment ≠ 0 ∨ request.b.receivableCommitment ≠ 0))
    "malformed encrypted pledge: full-FHE identity leaks public linkage"
  let enrollmentIDs ← externalEnrollmentIDs library.toCiphertextLibrary library.keccak256
    library.ed25519Verify runtime request now
  (if enrollmentIDs.length = 0 then validateLocalIngress library runtime request now else pure ())
  revertIf (∃ ct ∈ evaluated request, ¬ evaluable library runtime ct)
    "malformed encrypted pledge: insufficient ciphertext level"
  pure enrollmentIDs

/-- `reserveRequest`: the nonce and the enrollments are spent together. -/
def reserveRequest (runtime : Runtime) (nonce : Bytes32) (enrollmentIDs : List Bytes32) :
    Except String Runtime := do
  revertIf (runtime.usedNonce nonce = true) "nonce already used"
  revertIf (∃ id ∈ enrollmentIDs, runtime.usedEnrollments id = true)
    "ciphertext enrollment already used"
  pure
    { runtime with
      usedNonce := Function.update runtime.usedNonce nonce true
      usedEnrollments := fun id => runtime.usedEnrollments id || enrollmentIDs.contains id }

/-- The circuit of `Evaluate`, gate by gate. -/
def evaluateCircuit (request : EvaluationRequest C) : Except EvaluationError (Slots m T) := do
  let slot := fun ct : Option C =>
    require (.refused "malformed encrypted pledge") (ct.map library.slots)
  let policyA ← slot request.a.policyBits
  let policyB ← slot request.b.policyBits
  let currencyA ← slot request.a.currencyBits
  let currencyB ← slot request.b.currencyBits
  let (left, right) ← (comparisonLayout policyA policyB).mapError (.failed "layout")
  let (less, _) ← (compareTwoBlocks left right).mapError (.failed "comparison")
  let currencyEqual ← (equal256 currencyA currencyB).mapError (.failed "currency equality")
  let aFromBeforeBUntil ← (keepSlots less [0]).mapError (.failed "first comparison")
  let bFromBeforeAUntil := less.rotate 64
  let bFromBeforeAUntil ←
    (keepSlots bFromBeforeAUntil [0]).mapError (.failed "extract second comparison")
  let overlap := mulBoolean aFromBeforeBUntil bFromBeforeAUntil
  let flagsProduct := mulBoolean policyA policyB
  let flagsProduct ← (keepSlots flagsProduct [exclusiveSlot]).mapError (.failed "flag pair AND")
  let allFlags := flagsProduct.rotate exclusiveSlot
  let allFlags ← (keepSlots allFlags [0]).mapError (.failed "extract flags")
  if request.identityMode = identityFullFHE256 then
    let receivableA ← slot request.a.receivableIDBits
    let receivableB ← slot request.b.receivableIDBits
    let encryptedIdentityEqual ←
      (equal256 receivableA receivableB).mapError (.failed "receivable identity equality")
    let overlapAndFlags := mulBoolean overlap allFlags
    let currencyAndIdentity := mulBoolean currencyEqual encryptedIdentityEqual
    pure (mulBoolean overlapAndFlags currencyAndIdentity)
  else
    let overlapAndFlags := mulBoolean overlap allFlags
    let conflict := mulBoolean overlapAndFlags currencyEqual
    if request.a.receivableCommitment ≠ request.b.receivableCommitment then
      pure (conflict * 0)
    else
      pure conflict

def ciphertextCommitment (ciphertext : Slots m T) : Except EvaluationError Bytes32 := do
  let data ← require (.refused "ciphertext encoding") (library.marshalResult ciphertext)
  pure (library.keccak256 data)

/-- What `Evaluate` does after the request is reserved. -/
def evaluateReserved (request : EvaluationRequest C) :
    Except EvaluationError (EncryptedDecision m T) := do
  let conflict ← evaluateCircuit library request
  let resultCommitment ← ciphertextCommitment library conflict
  pure ⟨conflict, request.nonce, resultCommitment⟩

/-- `Evaluate`. What was reserved stays reserved where the circuit fails. -/
def evaluate (runtime : Runtime) (request : EvaluationRequest C) (now : Time) :
    Except EvaluationError (EncryptedDecision m T) × Runtime :=
  let reserved := do
    let enrollmentIDs ← validateRequest library runtime request now
    reserveRequest runtime request.nonce enrollmentIDs
  match reserved with
  | .error reason => (.error (.refused reason), runtime)
  | .ok reserved => (evaluateReserved library request, reserved)

/-- What `validate` of the recomputation takes for a ciphertext. -/
def circuitInput (runtime : Runtime) (ct : C) : Option (Slots m T) :=
  if (library.components ct).length = 2 ∧
      (library.components ct).head? = some runtime.ringDegree then
    some (library.slots ct)
  else none

/-- The inputs of the recomputation, from the two pledges. -/
def circuitInputs (runtime : Runtime) (a b : CipherPledge C) : CircuitInputsV5 m T where
  policyBitsA := a.policyBits.bind (circuitInput library runtime)
  policyBitsB := b.policyBits.bind (circuitInput library runtime)
  currencyBitsA := a.currencyBits.bind (circuitInput library runtime)
  currencyBitsB := b.currencyBits.bind (circuitInput library runtime)
  receivableIDsA := a.receivableIDBits.bind (circuitInput library runtime)
  receivableIDsB := b.receivableIDBits.bind (circuitInput library runtime)

end

/-! ## The circuit that operators recompute -/

section

variable {C : Type} {m T : ℕ} {library : EvaluationLibrary C m T} {runtime runtime' : Runtime}
  {request : EvaluationRequest C} {now : Time} {decision : EncryptedDecision m T}
  {conflict : Slots m T} {enrollmentIDs : List Bytes32} {ct : C}

/-- The conflict of the recomputation, where the equality of the identities is given. -/
def conflictGivenIdentity (inputs : CircuitInputsV5 m T) (identityEqual : Slots m T) :
    Except CircuitError (Slots m T) := do
  let policyA ← require (.malformedInput 0) inputs.policyBitsA
  let policyB ← require (.malformedInput 1) inputs.policyBitsB
  let currencyA ← require (.malformedInput 2) inputs.currencyBitsA
  let currencyB ← require (.malformedInput 3) inputs.currencyBitsB
  let overlap ← windowOverlap policyA policyB
  let allFlags ← bothExclusive policyA policyB
  let currencyEqual ← equal256 currencyA currencyB
  pure (mulBoolean (mulBoolean overlap allFlags) (mulBoolean currencyEqual identityEqual))

/-- The recomputation is the conflict that is given its own equality of identities. -/
theorem recomputeCircuitV5_ok_iff {inputs : CircuitInputsV5 m T} {out : CircuitOutputsV5 m T} :
    recomputeCircuitV5 inputs = .ok out ↔
      (∃ receivableA receivableB, inputs.receivableIDsA = some receivableA ∧
        inputs.receivableIDsB = some receivableB ∧
        equal256 receivableA receivableB = .ok out.sameEconomicAsset) ∧
      conflictGivenIdentity inputs out.sameEconomicAsset = .ok out.policyConflict := by
  simp only [recomputeCircuitV5, CircuitInputsV5.validate, conflictGivenIdentity, bind_ok_iff,
    require_ok_iff, pure_ok_iff]
  constructor
  · rintro ⟨_, ⟨policyA, hpA, policyB, hpB, currencyA, hcA, currencyB, hcB, receivableA, hrA,
      receivableB, hrB, rfl⟩, overlap, hoverlap, flags, hflags, currency, hcurrency, identity,
      hidentity, rfl⟩
    exact ⟨⟨receivableA, receivableB, hrA, hrB, hidentity⟩, policyA, hpA, policyB, hpB, currencyA,
      hcA, currencyB, hcB, overlap, hoverlap, flags, hflags, currency, hcurrency, rfl⟩
  · rintro ⟨⟨receivableA, receivableB, hrA, hrB, hidentity⟩, policyA, hpA, policyB, hpB,
      currencyA, hcA, currencyB, hcB, overlap, hoverlap, flags, hflags, currency, hcurrency,
      hconflict⟩
    refine ⟨_, ⟨policyA, hpA, policyB, hpB, currencyA, hcA, currencyB, hcB, receivableA, hrA,
      receivableB, hrB, rfl⟩, overlap, hoverlap, flags, hflags, currency, hcurrency, _,
      hidentity, ?_⟩
    rw [hconflict]

theorem validateRequest_ok
    (h : validateRequest library runtime request now = .ok enrollmentIDs) :
    (request.identityMode = identityPublicCommitment ∨
      request.identityMode = identityFullFHE256) ∧
    ∀ ct ∈ evaluated request, evaluable library runtime ct := by
  simp only [validateRequest, bind_ok_iff, exists_unit, revertIf_ok_iff] at h
  obtain ⟨-, -, -, -, -, -, -, hmode, -, -, -, _, -, -, hevaluable, -⟩ := h
  push Not at hmode hevaluable
  exact ⟨or_iff_not_imp_left.mpr hmode, hevaluable⟩

theorem mem_evaluated : ct ∈ evaluated request ↔
    some ct ∈ [request.a.policyBits, request.b.policyBits, request.a.currencyBits,
      request.b.currencyBits, request.a.amountBits, request.b.amountBits,
      request.a.obligationIDBits, request.b.obligationIDBits] ∨
    request.identityMode = identityFullFHE256 ∧
      (request.a.receivableIDBits = some ct ∨ request.b.receivableIDBits = some ct) := by
  simp only [evaluated, List.reduceOption_mem_iff, List.mem_cons]
  by_cases hfull : request.identityMode = identityFullFHE256
  · simp [hfull, eq_comm, or_assoc]
  · simp [hfull]

/-- What the recomputation takes of a side is what the circuit reads. -/
theorem circuitInput_of_evaluated {bits : Option C}
    (hevaluable : ∀ ct ∈ evaluated request, evaluable library runtime ct) (hbits : bits = some ct)
    (hmem : ct ∈ evaluated request) :
    bits.bind (circuitInput library runtime) = some (library.slots ct) := by
  rw [hbits]
  show circuitInput library runtime ct = _
  rw [circuitInput, (hevaluable ct hmem).2.2]
  exact if_pos ⟨rfl, rfl⟩

/-- What the circuit computed: the conflict of the recomputation, or one where the identities
are taken to be equal, behind the gate of the public commitments. -/
theorem evaluateCircuit_ok (hevaluable : ∀ ct ∈ evaluated request, evaluable library runtime ct)
    (h : evaluateCircuit library request = .ok conflict) :
    let inputs := circuitInputs library runtime request.a request.b
    (request.identityMode = identityFullFHE256 ∧
      ∃ out, recomputeCircuitV5 inputs = .ok out ∧ out.policyConflict = conflict) ∨
    (request.identityMode ≠ identityFullFHE256 ∧
      ∃ ungated, conflictGivenIdentity inputs 1 = .ok ungated ∧ conflict =
        if request.a.receivableCommitment = request.b.receivableCommitment then ungated
        else 0) := by
  simp only [evaluateCircuit, bind_ok_iff, require_ok_iff, mapError_ok_iff, Option.map_eq_some_iff]
    at h
  obtain ⟨_, ⟨policyA, hpA, rfl⟩, _, ⟨policyB, hpB, rfl⟩, _, ⟨currencyA, hcA, rfl⟩, _,
    ⟨currencyB, hcB, rfl⟩, layout, hlayout, compared, hcompared, currency, hcurrency, first, hfirst,
    second, hsecond, product, hproduct, flags, hflags, h⟩ := h
  have hinput : ∀ bits (ct : C), bits = some ct → _ → _ := fun bits ct hbits hmem =>
    circuitInput_of_evaluated hevaluable hbits (mem_evaluated.mpr hmem)
  have hopen : ∀ identity, conflictGivenIdentity
      (circuitInputs library runtime request.a request.b) identity =
        .ok (mulBoolean (mulBoolean (mulBoolean first second) flags)
          (mulBoolean currency identity)) := by
    intro identity
    simp only [conflictGivenIdentity, windowOverlap, bothExclusive, bind_ok_iff, require_ok_iff]
    exact ⟨_, hinput _ _ hpA (.inl (by simp [hpA])), _, hinput _ _ hpB (.inl (by simp [hpB])), _,
      hinput _ _ hcA (.inl (by simp [hcA])), _, hinput _ _ hcB (.inl (by simp [hcB])), _,
      ⟨layout, hlayout, compared, hcompared, first, hfirst, second, hsecond, rfl⟩, flags,
      ⟨product, hproduct, hflags⟩, currency, hcurrency, rfl⟩
  by_cases hfull : request.identityMode = identityFullFHE256
  · rw [if_pos hfull] at h
    simp only [bind_ok_iff, require_ok_iff, mapError_ok_iff, Option.map_eq_some_iff,
      pure_ok_iff] at h
    obtain ⟨_, ⟨receivableA, hrA, rfl⟩, _, ⟨receivableB, hrB, rfl⟩, identity, hidentity, rfl⟩ := h
    refine .inl ⟨hfull, ⟨identity, _⟩, recomputeCircuitV5_ok_iff.mpr ⟨⟨_, _, ?_, ?_, hidentity⟩,
      hopen identity⟩, rfl⟩
    · exact hinput _ _ hrA (.inr ⟨hfull, .inl hrA⟩)
    · exact hinput _ _ hrB (.inr ⟨hfull, .inr hrB⟩)
  · rw [if_neg hfull] at h
    refine .inr ⟨hfull, _, hopen 1, ?_⟩
    rw [show mulBoolean currency 1 = currency from mul_one currency]
    by_cases hsame : request.a.receivableCommitment = request.b.receivableCommitment
    · rw [if_neg (not_not.mpr hsame), pure_ok_iff] at h
      rw [if_pos hsame, h]
    · rw [if_pos hsame, pure_ok_iff] at h
      rw [if_neg hsame, ← h]
      funext r column
      exact mul_zero _

/-- The equality of the currencies is in the first slot, so only that slot of the other equality
counts. -/
theorem conflictGivenIdentity_congr (hm : 512 ≤ m) {inputs : CircuitInputsV5 m T}
    {identity identity' : Slots m T} (hfirst : identity.get 0 = identity'.get 0)
    (h : conflictGivenIdentity inputs identity = .ok conflict) :
    conflictGivenIdentity inputs identity' = .ok conflict := by
  simp only [conflictGivenIdentity, bind_ok_iff, require_ok_iff, pure_ok_iff] at h ⊢
  obtain ⟨policyA, hpA, policyB, hpB, currencyA, hcA, currencyB, hcB, overlap, hoverlap, flags,
    hflags, currency, hcurrency, rfl⟩ := h
  refine ⟨policyA, hpA, policyB, hpB, currencyA, hcA, currencyB, hcB, overlap, hoverlap, flags,
    hflags, currency, hcurrency, congrArg _ (Slots.ext_get (by omega) fun i hi => ?_)⟩
  obtain ⟨equal, hequal, hzero, -⟩ := equal256_ok hm currencyA currencyB
  obtain rfl := Except.ok.inj (hequal.symm.trans hcurrency)
  rw [mulBoolean, mulBoolean, Slots.get_mul, Slots.get_mul]
  by_cases hi0 : i = 0
  · rw [hi0, hfirst]
  · rw [hzero i hi0 hi, zero_mul, zero_mul]

/-- Equal identifiers that are bits are found equal. -/
theorem equal256_self (hm : 512 ≤ m) {receivable : Slots m T} {bits : ℕ → Bool}
    (h : Carries receivable bits obligationBits) :
    ∃ identity, equal256 receivable receivable = .ok identity ∧
      identity.get 0 = (1 : Slots m T).get 0 := by
  obtain ⟨identity, hidentity, -, hget⟩ := equal256_ok hm receivable receivable
  refine ⟨identity, hidentity, (hget bits bits h h).trans ?_⟩
  rw [blockEqual_iff.mpr fun i _ => rfl, bit_true]
  rfl

/-- **The two circuits agree.** On encrypted identities the conflict is the one that operators
recompute, for all vectors.  On public commitments it is the one that they would recompute of
equal identities where the commitments are equal, and else zero in every slot. -/
theorem evaluate_agrees (h : (evaluate library runtime request now).1 = .ok decision) :
    let inputs := circuitInputs library runtime request.a request.b
    (request.identityMode = identityPublicCommitment ∨
      request.identityMode = identityFullFHE256) ∧
    (request.identityMode = identityFullFHE256 →
      ∃ out, recomputeCircuitV5 inputs = .ok out ∧ out.policyConflict = decision.conflict) ∧
    (request.identityMode = identityPublicCommitment →
      (request.a.receivableCommitment = request.b.receivableCommitment →
        conflictGivenIdentity inputs 1 = .ok decision.conflict ∧
        (512 ≤ m → ∀ receivable bits, Carries receivable bits obligationBits →
          ∃ out, recomputeCircuitV5
              { inputs with receivableIDsA := some receivable, receivableIDsB := some receivable } =
            .ok out ∧ out.policyConflict = decision.conflict)) ∧
      (request.a.receivableCommitment ≠ request.b.receivableCommitment →
        decision.conflict = 0)) := by
  intro inputs
  simp only [evaluate] at h
  split at h
  · exact nomatch h
  next reserved hreserved =>
    obtain ⟨enrollmentIDs, hvalid, -⟩ := bind_ok_iff.mp hreserved
    obtain ⟨hmode, hevaluable⟩ := validateRequest_ok hvalid
    simp only [evaluateReserved, bind_ok_iff, pure_ok_iff] at h
    obtain ⟨conflict, hconflict, commitment, -, rfl⟩ := h
    refine ⟨hmode, fun hfull => ?_, fun hpublic => ?_⟩
    · obtain ⟨-, hout⟩ | ⟨hnot, -⟩ := evaluateCircuit_ok hevaluable hconflict
      · exact hout
      · exact absurd hfull hnot
    · have hnot : request.identityMode ≠ identityFullFHE256 := by
        rw [hpublic]
        decide
      obtain ⟨hfull, -⟩ | ⟨-, ungated, hungated, rfl⟩ := evaluateCircuit_ok hevaluable hconflict
      · exact absurd hfull hnot
      · refine ⟨fun hsame => ?_, fun hdifferent => if_neg hdifferent⟩
        rw [if_pos hsame]
        refine ⟨hungated, fun hm receivable bits hbits => ?_⟩
        obtain ⟨identity, hidentity, hone⟩ := equal256_self hm hbits
        have hgiven := conflictGivenIdentity_congr hm hone.symm hungated
        exact ⟨⟨identity, ungated⟩, recomputeCircuitV5_ok_iff.mpr
          ⟨⟨receivable, receivable, rfl, rfl, hidentity⟩, hgiven⟩, rfl⟩

/-- What was never used can be reserved. -/
theorem reserveRequest_ok {nonce : Bytes32} (hnonce : runtime.usedNonce nonce = false)
    (hids : ∀ id, runtime.usedEnrollments id = false) :
    ∃ reserved, reserveRequest runtime nonce enrollmentIDs = .ok reserved := by
  refine ⟨_, bind_ok_iff.mpr ⟨(), ?_, bind_ok_iff.mpr ⟨(), ?_, rfl⟩⟩⟩
  · rw [revertIf_ok_iff, hnonce]
    exact Bool.false_ne_true
  · rw [revertIf_ok_iff]
    rintro ⟨id, -, hid⟩
    rw [hids id] at hid
    exact Bool.false_ne_true hid

theorem evaluate_ok (hvalid : validateRequest library runtime request now = .ok enrollmentIDs)
    (hreserved : reserveRequest runtime request.nonce enrollmentIDs = .ok runtime')
    (hdecision : evaluateReserved library request = .ok decision) :
    evaluate library runtime request now = (.ok decision, runtime') := by
  simp only [evaluate, bind_ok_iff.mpr ⟨enrollmentIDs, hvalid, hreserved⟩, hdecision]

end

namespace Sample

/-- Ciphertexts that are their own slots, of the deployed ring. -/
def library : EvaluationLibrary (Slots 16384 65537) 16384 65537 where
  marshalBinary _ := some [1]
  unmarshalBinary _ := none
  hasMetaData _ := true
  degree _ := 1
  level _ := 11
  components _ := [32768, 32768]
  slots ct := ct
  marshalResult _ := some [1]
  keccak256 _ := 1
  ed25519Verify _ _ _ := false

def runtime : Runtime where
  ringDegree := 32768
  maxLevel := 11
  keyID := [107]
  keyIDBytes := 1
  parameterFingerprint := 1
  usedNonce _ := false
  usedEnrollments _ := false
  authorizedIngress _ := some ⟨[107], 1, 100⟩
  issuedCiphertexts _ := true
  trustedIssuers _ := none

def pledge (content : Slots 16384 65537) : CipherPledge (Slots 16384 65537) where
  keyID := [107]
  parameterFingerprint := 1
  receivableCommitment := 0
  authorizationCommitment := 2
  privateMetadataCommitment := 3
  policyBits := some content
  currencyBits := some content
  amountBits := some content
  obligationIDBits := some content
  receivableIDBits := some content

def request : EvaluationRequest (Slots 16384 65537) where
  keyID := [107]
  policyVersion := 1
  nonce := 9
  validUntil := 50
  identityMode := identityFullFHE256
  a := pledge 2
  b := pledge 3
  enrollmentA := none
  enrollmentB := none

end Sample

/-- Two pledges whose slots are no bits, under the deployed parameters. -/
theorem evaluate_agrees_sample :
    ∃ decision, (evaluate Sample.library Sample.runtime Sample.request 10).1 = .ok decision ∧
      ∃ out, recomputeCircuitV5 (circuitInputs Sample.library Sample.runtime Sample.request.a
        Sample.request.b) = .ok out ∧ out.policyConflict = decision.conflict := by
  obtain ⟨ids, hvalid⟩ := toBool_eq_true_iff.mp
    (show (validateRequest Sample.library Sample.runtime Sample.request 10).toBool = true by
      decide +kernel)
  obtain ⟨decision, hcircuit⟩ := toBool_eq_true_iff.mp
    (show (evaluateReserved Sample.library Sample.request).toBool = true by decide +kernel)
  obtain ⟨reserved, hreserved⟩ := @reserveRequest_ok Sample.runtime ids Sample.request.nonce rfl
    fun _ => rfl
  have hdecision := congrArg Prod.fst (evaluate_ok hvalid hreserved hcircuit)
  exact ⟨decision, hdecision, (evaluate_agrees hdecision).2.1 rfl⟩

end Mordant.Evaluator
