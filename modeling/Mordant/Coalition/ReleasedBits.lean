/-
# What a released result says

The result object of a case is written by some call of `Release`, from two operators that
it opened, had verify the request and asked for shares.  `Published` records that of the
result; it holds in every run, however the calls interleave and wherever they are lost.

Two things follow.  The bits of the result are those of the two pledges whose encryptions
the issuers signed, where the FHE library decrypts to what it evaluates.  And the result
carries the signatures of its two operators over the bits it shows.
-/

import Mordant.Circuit.Release
import Mordant.Coalition.Combination
import Mordant.Coalition.Confirmation

namespace Mordant.Coalition

open Evm Foundation Program
open Circuit (PlainPledge PolicyConflicts encryptPledgeForMode releasedBit samplePledge policyValues
  encryptPledge_ok outputs_of_encodings)

/-! ## How a result is composed -/

/-- The request that a call puts to its operators. -/
def Prepared.request (prepared : Prepared) (coalition : Word64 × Word64) :
    OperatorReleaseRequestV5 :=
  { descriptor := prepared.descriptor
    enrollmentA := prepared.enrollments.signedA
    enrollmentB := prepared.enrollments.signedB
    inputs := prepared.inputs
    coalition }

/-- A response that an operator of the coalition gave for a ciphertext. -/
def Answered (library : FheLibrary) (request : OperatorReleaseRequestV5)
    (held : CoalitionOperator) (ciphertext : Ciphertext) (response : ThresholdReleaseResponse) :
    Prop :=
  ∃ descriptor coins, descriptor.coalition = request.coalition ∧
    request.coalition.1 ≠ request.coalition.2 ∧ coalitionContains request.coalition held.point ∧
    held.threshold.respond library descriptor ciphertext coins = .ok response

/-- The two responses of an operator, for the outputs it recomputed. -/
def AnsweredBoth (library : FheLibrary) (request : OperatorReleaseRequestV5)
    (held : CoalitionOperator) (shares : ThresholdReleaseResponse × ThresholdReleaseResponse) :
    Prop :=
  ∃ outputs, held.verdict.outputs = some outputs ∧
    Answered library request held outputs.sameEconomicAsset shares.1 ∧
    Answered library request held outputs.policyConflict shares.2

/-- What a result was composed of. -/
def Published (library : FheLibrary) (files : CaseFiles) (call : ReleaseCall)
    (result : CoalitionConflictResult) : Prop :=
  ∃ prepared first second quorum shares, prepare library files call = .ok prepared ∧
    (∀ held ∈ [first, second], Opened files call prepared held) ∧
    List.Forall₂ (Accepted library (prepared.request (first.point, second.point)) call.config.now)
      [first, second] quorum ∧
    List.Forall₂ (AnsweredBoth library (prepared.request (first.point, second.point)))
      quorum shares ∧
    composeResult library files call prepared (prepared.request (first.point, second.point))
      quorum shares = .ok result

/-- A result is created only where `Good` holds of it. -/
def Creates (Good : CoalitionConflictResult → Prop) (op : ReleaseOp) : Prop :=
  ∀ value, op = .create (.result value) → Good value

section

variable {library : FheLibrary} {files : CaseFiles} {call : ReleaseCall} {prepared : Prepared}
  {request : OperatorReleaseRequestV5} {held : CoalitionOperator}
  {Good : CoalitionConflictResult → Prop}

theorem Quiet.creates {op : ReleaseOp} (h : Quiet op) : Creates Good op := by
  rintro value rfl
  exact h.elim

theorem obeys_shareFor {ciphertext : Ciphertext} {slot : BitVec 8} :
    (shareFor library call request held ciphertext slot).Obeys (Creates Good)
      (Answered library request held ciphertext) := by
  simp only [shareFor, generateShare, obeys_bind, obeys_lift, mapError_ok_iff]
  intro descriptor hdescriptor _ hvalid
  have hcoalition := releaseDescriptorForSlot_coalition hdescriptor
  obtain ⟨hdistinct, hmember⟩ := validateReleaseRequest_ok hvalid
  rw [hcoalition] at hdistinct hmember
  exact ⟨by rintro _ ⟨⟩, fun _ response hresponse =>
    ⟨descriptor, _, hcoalition, hdistinct, hmember, hresponse⟩⟩

theorem obeys_releaseEach (quorum : List CoalitionOperator) :
    (releaseEach library call request quorum).Obeys (Creates Good)
      (List.Forall₂ (AnsweredBoth library request) quorum) := by
  induction quorum with
  | nil => exact List.Forall₂.nil
  | cons held rest ih =>
      simp only [releaseEach, releaseShares, obeys_bind, obeys_lift, require_ok_iff]
      intro outputs houtputs
      have hsome := (Option.ite_none_right_eq_some.mp houtputs).2
      refine obeys_shareFor.mono fun same hsame => obeys_shareFor.mono fun conflict hconflict => ?_
      exact obeys_pure.mpr (ih.mono fun others hothers =>
        obeys_pure.mpr (.cons ⟨outputs, hsome, hsame, hconflict⟩ hothers))

/-- One call creates no result but one it composed. -/
theorem obeys_releaseWith {operators : List CoalitionOperator}
    (hprepared : prepare library files call = .ok prepared)
    (hopened : ∀ held ∈ operators, Opened files call prepared held) :
    (releaseWith library files call prepared operators).Obeys
      (Creates (Published library files call)) fun _ => True := by
  unfold releaseWith
  split
  · next first second rest =>
      rw [obeys_bind]
      refine (obeys_verifyQuorum.weaken fun _ => Quiet.creates).mono fun quorum haccepted => ?_
      rw [obeys_bind]
      refine (obeys_releaseEach quorum).mono fun shares hanswered => ?_
      simp only [obeys_bind, obeys_lift, createJSON, obeys_ask, obeys_pure]
      intro result hcomposed
      refine ⟨?_, fun _ _ _ => ⟨by rintro _ ⟨⟩, fun _ _ _ => trivial⟩⟩
      rintro value ⟨⟩
      refine ⟨prepared, first, second, quorum, shares, hprepared, ?_, haccepted, hanswered,
        hcomposed⟩
      exact fun held hheld => hopened held (List.mem_append_left rest hheld)
  · exact obeys_lift.mpr fun _ _ => trivial

theorem obeys_release : (release library files call).Obeys
    (Creates (Published library files call)) fun _ => True := by
  simp only [release, obeys_bind, obeys_throwIf, obeys_lift]
  intro _ prepared hprepared
  refine (obeys_admitRelease.weaken fun _ => Quiet.creates).mono fun _ _ => ?_
  refine (obeys_openOperators.weaken fun _ => Quiet.creates).mono fun operators hopened => ?_
  exact (obeys_releaseWith hprepared hopened).deferring
    ((obeys_closeLedgers operators).weaken fun _ => Quiet.creates)

theorem obeys_inspectRelease : inspectRelease.Obeys (Creates Good) fun _ => True := by
  simp only [inspectRelease, obeys_bind, obeys_ask, obeys_lift, obeys_throwIf, obeys_pure]
  exact ⟨by rintro _ ⟨⟩, fun _ _ _ => ⟨by rintro _ ⟨⟩, fun _ _ => trivial⟩⟩

variable {ι : Type} [DecidableEq ι] {ledgers : LedgerPath → SessionLedger}
  {moves : List (Move ι CaseRequest)} {pool : CasePool ι} {result : CoalitionConflictResult}

theorem result_create {i : ι} {op : ReleaseOp}
    {s : Shared ι} (hop : Creates Good op) (h : ∀ value, s.result = some value → Good value) :
    ∀ value, (op.act i s).2.result = some value → Good value := by
  intro value hvalue
  by_cases hcreated : ∃ other, op = .create (.result other)
  · obtain ⟨other, rfl⟩ := hcreated
    simp only [ReleaseOp.act, Shared.create] at hvalue
    split at hvalue
    · exact h value hvalue
    · obtain rfl := Option.some.inj hvalue
      exact hop other rfl
  · rw [result_act_of_not_result fun other heq => hcreated ⟨other, heq⟩] at hvalue
    exact h value hvalue

/-- In every run the result object is one that a call of the run composed. -/
theorem published_of_run (hrun : runCase library files ledgers moves = .ok pool)
    (hresult : pool.state.result = some result) :
    ∃ i call, Move.start i (.release call) ∈ moves ∧ Published library files call result := by
  refine run_performed (R := fun _ => True) (P := Creates fun value => ∃ i call,
    Move.start i (.release call) ∈ moves ∧ Published library files call value)
    (I := fun s : Shared ι => ∀ value, s.result = some value → _) ?_
    (fun _ _ _ hop h => result_create hop h) (fun _ _ h => h) hrun (by rintro _ _ ⟨⟩)
    (by rintro _ ⟨⟩) result hresult
  intro i request hmem
  cases request with
  | inspect => exact obeys_inspectRelease
  | release call =>
      exact obeys_release.weaken fun op hop value hvalue => ⟨i, call, hmem, hop value hvalue⟩

end

/-! ## What the bits are about -/

section

variable {m T : ℕ} (decode : Ciphertext → Slots m T)

def CircuitInputsV5.decoded (inputs : CircuitInputsV5) : Circuit.CircuitInputsV5 m T :=
  ⟨some (decode inputs.policyBitsA), some (decode inputs.policyBitsB),
    some (decode inputs.currencyBitsA), some (decode inputs.currencyBitsB),
    some (decode inputs.receivableIDsA), some (decode inputs.receivableIDsB)⟩

def CircuitOutputsV5.decoded (outputs : CircuitOutputsV5) : Circuit.CircuitOutputsV5 m T :=
  ⟨decode outputs.sameEconomicAsset, decode outputs.policyConflict⟩

/-- What evaluation does to what the inputs at hand decrypt to, and switching to what their outputs
decrypt to; `dealt` are the operators that hold a share of the key. -/
structure Decrypts (library : FheLibrary) (switch : SwitchLibrary) (dealt : Set ThresholdOperator)
    (atHand : Set CircuitInputsV5) : Prop where
  combines : library.combineReleaseBitV5 = combineReleaseBitV5 switch
  evaluates : ∀ {runtime inputs outputs}, inputs ∈ atHand →
    library.recomputeCircuitV5 runtime inputs = .ok outputs →
    Circuit.recomputeCircuitV5 (inputs.decoded decode) = .ok (outputs.decoded decode)
  switches : ∀ {runtime inputs outputs}, inputs ∈ atHand →
    library.recomputeCircuitV5 runtime inputs = .ok outputs →
    ∀ ciphertext ∈ [outputs.sameEconomicAsset, outputs.policyConflict],
    ∀ {coalition one two coinsOne coinsTwo shareOne shareTwo combined slot others},
    one ∈ dealt → two ∈ dealt → one.point ≠ two.point → coalitionContains coalition one.point →
    coalitionContains coalition two.point →
    library.keySwitchShare one coalition ciphertext coinsOne = .ok shareOne →
    library.keySwitchShare two coalition ciphertext coinsTwo = .ok shareTwo →
    [switch.unmarshalShare shareOne, switch.unmarshalShare shareTwo].foldl
        (contribute switch.aggregateShares)
        (some (switch.allocateShare (switch.level ciphertext))) = some combined →
    switch.decodeSwitched ciphertext combined = some (slot, others) →
    slot :: others = (decode ciphertext).decode

/-- The inputs that the calls of a run read. -/
def preparedInputs {ι : Type} (library : FheLibrary) (files : CaseFiles)
    (moves : List (Move ι CaseRequest)) : Set CircuitInputsV5 :=
  {inputs | ∃ i call prepared, Move.start i (.release call) ∈ moves ∧
    prepare library files call = .ok prepared ∧ prepared.inputs = inputs}

/-- The ciphertexts that were signed for decrypt to the encoding of a pledge. -/
def Encrypts {library : FheLibrary} (issuance : Issuance library) (pledge : PlainPledge) : Prop :=
  ∃ encoded, encryptPledgeForMode m T pledge .fullFHE256 = .ok encoded ∧
    decode issuance.policyBits = encoded.policyBits ∧
    decode issuance.currencyBits = encoded.currencyBits ∧
    some (decode issuance.receivableIDBits) = encoded.receivableIDBits

/-- What a case rests on: shares that were dealt, signatures that are not forged, hashes that do
not collide, and ciphertexts that a 64-bit length counts. -/
structure CaseAssumptions {ι : Type} (library : FheLibrary) (files : CaseFiles)
    (dealt : Set ThresholdOperator) (issued : Set (Issuance library))
    (moves : List (Move ι CaseRequest)) : Prop where
  bundles : ∀ {i call}, Move.start i (.release call) ∈ moves → ∀ {root threshold},
    call.openBundle root = .ok threshold → threshold ∈ dealt
  unforgeable : ∀ {binding runtime trusted}, files.loadEvaluationRuntime binding = .ok runtime →
    files.registerCaseEnrollmentIssuers runtime binding = .ok trusted →
    Unforgeable library trusted issued
  distinct : ∀ {i call}, Move.start i (.release call) ∈ moves → ∀ {prepared},
    prepare library files call = .ok prepared → ∀ coalition,
    (hashedTexts library issued (prepared.request coalition)).InjOn library.keccak256
  countedIssued : ∀ issuance ∈ issued,
    Counted [issuance.policyBits, issuance.currencyBits, issuance.receivableIDBits]
  countedRead : ∀ {binding now participants},
    files.loadAndValidateFreshParticipants binding now = .ok participants →
    ∀ pledge ∈ [participants.pledgeA, participants.pledgeB],
      Counted [pledge.policyBits, pledge.currencyBits, pledge.receivableIDBits]

end

section

variable {m T : ℕ}

theorem releasedBit_of_get (hm : 0 < m) (hT : 1 < T) {v : Slots m T} {b : Bool}
    (h : v.get 0 = bit (ZMod T) b) : releasedBit v.decode = b := by
  have hmodulus : Fact (1 < T) := ⟨hT⟩
  rw [Circuit.releasedBit_decode hm, h]
  cases b with
  | false => rw [bit_false, ZMod.val_zero]; rfl
  | true => rw [bit_true, ZMod.val_one]; rfl

variable {decode : Ciphertext → Slots m T} {library : FheLibrary} {switch : SwitchLibrary}
  {dealt : Set ThresholdOperator} {atHand : Set CircuitInputsV5} {inputs : CircuitInputsV5}
  {outputs : CircuitOutputsV5} {request : OperatorReleaseRequestV5}
  {manifest : ThresholdManifest} {runtime : Runtime} {verdict : OperatorVerdictV5}
  {threshold : ThresholdOperator}

/-- The checks end with the outputs that were recomputed. -/
theorem outputs_of_recomputation {fingerprint : Digest} {last : OperatorVerdictV5}
    (h : recomputationChecks library runtime fingerprint request verdict = .ok ((), last)) :
    ∃ outputs, library.recomputeCircuitV5 runtime request.inputs = .ok outputs ∧
      last.outputs = some outputs := by
  simp only [recomputationChecks, Verifying.record, Verifying.verifying_bind_ok_iff,
    Verifying.failIf_ok_iff, Verifying.attempt_ok_iff, Verifying.modify_ok_iff, exists_const,
    Prod.mk.injEq, true_and, exists_eq_left, not_not] at h
  obtain ⟨_, ⟨-, -⟩, outputs, _, ⟨houtputs, -⟩, hcompare⟩ := h
  rcases Verifying.ite_ok_iff.mp hcompare with ⟨-, hmismatch⟩ | ⟨-, hlast⟩
  · cases hmismatch
  · obtain ⟨_, _, -, hlast⟩ := Verifying.verifying_bind_ok_iff.mp hlast
    obtain ⟨-, rfl⟩ := Prod.mk.inj (Verifying.modify_ok_iff.mp hlast)
    exact ⟨outputs, houtputs, rfl⟩

/-- An operator that accepts holds the outputs it recomputed. -/
theorem outputs_of_accepted {fingerprint : Digest} {now : ℤ}
    {existing : Except LedgerError SessionRecord}
    (h : verifyAndRecompute library runtime threshold fingerprint request now existing =
      (verdict, none)) :
    ∃ outputs, library.recomputeCircuitV5 runtime request.inputs = .ok outputs ∧
      verdict.outputs = some outputs := by
  simp only [verifyAndRecompute] at h
  split at h
  · next last hchecks =>
      obtain ⟨rfl, -⟩ := Prod.mk.inj h
      simp only [Verifying.verifying_bind_ok_iff] at hchecks
      obtain ⟨_, _, -, _, _, -, _, _, -, hrecomputed⟩ := hchecks
      exact outputs_of_recomputation hrecomputed
  · exact absurd (Prod.mk.inj h).2 (Option.some_ne_none _)

/-- What two dealt operators released of a ciphertext is the first slot it decrypts to. -/
theorem confirmed_eq {ciphertext : Ciphertext} {one two : CoalitionOperator}
    {first second : ThresholdReleaseResponse} {slot : BitVec 8} {confirmed : Bool}
    (h : Decrypts decode library switch dealt atHand) (hinputs : inputs ∈ atHand)
    (houtputs : library.recomputeCircuitV5 runtime inputs = .ok outputs)
    (hciphertext : ciphertext ∈ [outputs.sameEconomicAsset, outputs.policyConflict])
    (hone : one.threshold ∈ dealt) (htwo : two.threshold ∈ dealt)
    (hfirst : Answered library request one ciphertext first)
    (hsecond : Answered library request two ciphertext second)
    (hcombine : combineCoalitionBit library manifest request ciphertext [first, second] slot =
      .ok confirmed) :
    confirmed = releasedBit (decode ciphertext).decode := by
  obtain ⟨descriptorOne, coinsOne, hcoalitionOne, -, hmemberOne, hrespondOne⟩ := hfirst
  obtain ⟨descriptorTwo, coinsTwo, hcoalitionTwo, -, hmemberTwo, hrespondTwo⟩ := hsecond
  simp only [ThresholdOperator.respond, bind_ok_iff, exists_unit, pure_ok_iff]
    at hrespondOne hrespondTwo
  obtain ⟨shareOne, hshareOne, -, rfl⟩ := hrespondOne
  obtain ⟨shareTwo, hshareTwo, -, rfl⟩ := hrespondTwo
  rw [hcoalitionOne] at hshareOne
  rw [hcoalitionTwo] at hshareTwo
  simp only [combineCoalitionBit, bind_ok_iff, revertIf_ok_iff, exists_unit, pure_ok_iff,
    Prod.exists, h.combines, combineReleaseBitV5, combineShares_ok_iff] at hcombine
  obtain ⟨descriptor, -, _, _, ⟨tally, value, others, htally, hdecode, -, hresult⟩, -, rfl⟩ :=
    hcombine
  obtain ⟨rfl, -⟩ := Prod.mk.inj hresult
  obtain ⟨-, -, -, hnodup, hsum, -⟩ := tallyResponses_ok_iff.mp htally
  have hpoints : one.threshold.point ≠ two.threshold.point := by simpa using hnodup
  rw [← h.switches hinputs houtputs ciphertext hciphertext hone htwo hpoints hmemberOne hmemberTwo
    hshareOne hshareTwo hsum hdecode]
  rfl

/-! ## What a result shows -/

variable {files : CaseFiles} {call : ReleaseCall} {prepared : Prepared}
  {quorum : List CoalitionOperator}
  {shares : List (ThresholdReleaseResponse × ThresholdReleaseResponse)}
  {result : CoalitionConflictResult}

/-- An operator of the quorum confirmed the bits of a result. -/
def Confirms (library : FheLibrary) (manifest : ThresholdManifest)
    (request : OperatorReleaseRequestV5)
    (shares : List (ThresholdReleaseResponse × ThresholdReleaseResponse))
    (result : CoalitionConflictResult) (held : CoalitionOperator)
    (attestation : CoalitionSettlementAttestation) : Prop :=
  attestation.point = held.point ∧
    confirmReleasedBits library held.threshold manifest request held.verdict
      (shares.map Prod.fst) (shares.map Prod.snd) result.sameEconomicAsset result.policyConflict
      (coalitionSettlementStatement result held.point).signingMessage = .ok attestation.signature

/-- What a composed result shows. -/
structure Composed (library : FheLibrary) (call : ReleaseCall) (prepared : Prepared)
    (request : OperatorReleaseRequestV5) (quorum : List CoalitionOperator)
    (shares : List (ThresholdReleaseResponse × ThresholdReleaseResponse))
    (result : CoalitionConflictResult) : Prop where
  bits : combineBits library prepared.manifest.thresholdManifest request quorum shares =
    .ok (result.sameEconomicAsset, result.policyConflict)
  enrollmentDigestA : result.enrollmentDigestA = bytes32Hex prepared.descriptor.enrollmentDigestA
  enrollmentDigestB : result.enrollmentDigestB = bytes32Hex prepared.descriptor.enrollmentDigestB
  releasedAt : result.releasedAtUnix = call.config.now
  coalition : result.coalition = [request.coalition.1, request.coalition.2]
  transcript : ∃ digest, (request.descriptor.transcript request.coalition
      (BitVec.ofNat 16 coalitionThreshold)
      (sharedStatements (shares.map Prod.fst) (shares.map Prod.snd)) result.sameEconomicAsset
      result.policyConflict (BitVec.ofInt 64 call.config.now)).digest library.keccak256 =
        .ok digest ∧
    result.releaseTranscript = bytes32Hex digest
  confirmed : List.Forall₂ (Confirms library prepared.manifest.thresholdManifest request shares
    result) quorum result.settlementAttestations

theorem sharedStatements_eq : (shares.flatMap fun (same, conflict) =>
    [(same, (0 : BitVec 8)), (conflict, 1)]).map (fun (response, _) => response.statementDigest) =
      sharedStatements (shares.map Prod.fst) (shares.map Prod.snd) := by
  rw [sharedStatements, List.zip_map', List.flatMap_map, List.map_flatMap]
  rfl

theorem confirmEach_ok {attestations : List CoalitionSettlementAttestation}
    (h : confirmEach library manifest request result shares quorum = .ok attestations) :
    List.Forall₂ (Confirms library manifest request shares result) quorum attestations := by
  induction quorum generalizing attestations with
  | nil =>
      cases h
      exact .nil
  | cons held rest ih =>
      simp only [confirmEach, bind_ok_iff, mapError_ok_iff, pure_ok_iff] at h
      obtain ⟨signature, hsignature, others, hothers, rfl⟩ := h
      exact .cons ⟨rfl, hsignature⟩ (ih hothers)

theorem composeResult_ok
    (h : composeResult library files call prepared request quorum shares = .ok result) :
    Composed library call prepared request quorum shares result := by
  simp only [composeResult, bind_ok_iff, Prod.exists, mapError_ok_iff, pure_ok_iff] at h
  obtain ⟨sameAsset, policyConflict, hbits, digest, hdigest, attestations, hattested, rfl⟩ := h
  exact
    { bits := hbits
      enrollmentDigestA := rfl
      enrollmentDigestB := rfl
      releasedAt := rfl
      coalition := rfl
      transcript := ⟨digest, sharedStatements_eq ▸ hdigest, rfl⟩
      -- the statement that is signed does not show the attestations
      confirmed := (confirmEach_ok hattested).imp fun _ _ h => h }

/-- An operator of the case attests what a result shows: the bits it recombined itself, the
coalition, and the transcript of the release. -/
def Attested (library : FheLibrary) (files : CaseFiles) (call : ReleaseCall)
    (result : CoalitionConflictResult) (attestation : CoalitionSettlementAttestation) : Prop :=
  ∃ root threshold manifest request verdict sameAssetShares policyConflictShares,
    call.openBundle root = .ok threshold ∧ attestation.point = threshold.point ∧
    files.thresholdManifest = some manifest ∧
    manifest.containsOperator threshold.identity = true ∧
    Recombined library manifest.thresholdManifest request verdict sameAssetShares
      policyConflictShares result.sameEconomicAsset result.policyConflict ∧
    Attests library threshold manifest.thresholdManifest request sameAssetShares
      policyConflictShares result.sameEconomicAsset result.policyConflict
      (coalitionSettlementStatement result attestation.point).signingMessage ∧
    attestation.signature = library.sign threshold.signingKey
      (coalitionSettlementStatement result attestation.point).signingMessage

/-- The message of a composed result is a statement of what it shows. -/
theorem Composed.attests (h : Composed library call prepared request quorum shares result)
    (hvalid : prepared.manifest.validate = .ok ()) :
    Attests library threshold prepared.manifest.thresholdManifest request (shares.map Prod.fst)
      (shares.map Prod.snd) result.sameEconomicAsset result.policyConflict
      (coalitionSettlementStatement result threshold.point).signingMessage := by
  obtain ⟨digest, hdigest, htranscript⟩ := h.transcript
  have hthreshold : prepared.manifest.threshold = BitVec.ofNat 16 coalitionThreshold := by
    simp only [CoalitionThresholdManifest.validate, bind_ok_iff, revertIf_ok_iff, exists_const,
      not_or, not_not] at hvalid
    exact BitVec.eq_of_toNat_eq hvalid.1.2.2.2.2.1
  exact ⟨_, rfl, rfl, rfl, rfl, h.coalition, _, digest, hthreshold ▸ hdigest, htranscript⟩

/-- What an operator of the case confirms, it attests. -/
theorem Composed.attestedBy (h : Composed library call prepared request quorum shares result)
    (hmanifest : files.thresholdManifest = some prepared.manifest)
    (hvalid : prepared.manifest.validate = .ok ()) {held : CoalitionOperator}
    (hopened : Opened files call prepared held) {attestation : CoalitionSettlementAttestation}
    (hconfirms : Confirms library prepared.manifest.thresholdManifest request shares result
      { held with verdict } attestation) :
    Attested library files call result attestation := by
  obtain ⟨root, hbundle⟩ := hopened.bundle
  obtain ⟨hpoint, hconfirmed⟩ := hconfirms
  obtain ⟨hrecombined, hsignature⟩ := confirmReleasedBits_ok hconfirmed
  have hpoint : attestation.point = held.threshold.point := hpoint
  refine ⟨root, held.threshold, prepared.manifest, request, verdict, _, _, hbundle, hpoint,
    hmanifest, hopened.published, hrecombined, ?_, ?_⟩
  · rw [hpoint]
    exact h.attests hvalid
  · rw [hpoint]
    exact hsignature

theorem Published.attested (h : Published library files call result) :
    result.settlementAttestations.map (·.point) = result.coalition ∧ result.coalition.Nodup ∧
      result.coalition.length = coalitionThreshold ∧
      ∀ attestation ∈ result.settlementAttestations,
        Attested library files call result attestation := by
  obtain ⟨prepared, first, second, quorum, shares, hprepared, hopened, haccepted, hanswered,
    hcomposed⟩ := h
  obtain ⟨-, hmanifest, hvalid⟩ := prepare_ok hprepared
  have hcomposed := composeResult_ok hcomposed
  have hconfirmed := hcomposed.confirmed
  rcases haccepted with _ | ⟨⟨_, _, -, rfl⟩, _ | ⟨⟨_, _, -, rfl⟩, _ | _⟩⟩
  rcases hanswered with _ | ⟨⟨_, -, ⟨_, _, -, hdistinct, -⟩, -⟩, -⟩
  generalize result.settlementAttestations = attestations at hconfirmed ⊢
  rcases hconfirmed with _ | ⟨hone, _ | ⟨htwo, _ | _⟩⟩
  rw [hcomposed.coalition]
  refine ⟨?_, by simpa using hdistinct, rfl, ?_⟩
  · rw [List.map_cons, List.map_cons, hone.1, htwo.1]
    rfl
  · simp only [List.forall_mem_cons, List.not_mem_nil, false_implies, implies_true, and_true]
      at hopened ⊢
    exact ⟨hcomposed.attestedBy hmanifest hvalid hopened.1 hone,
      hcomposed.attestedBy hmanifest hvalid hopened.2 htwo⟩

variable {issued : Set (Issuance library)}

theorem hashedTexts_of_issued {issuance : Issuance library} (hmem : issuance ∈ issued) :
    enrollmentTexts library issuance.enrollment ⊆ hashedTexts library issued request ∧
      circuitSideEncoded issuance.policyBits issuance.currencyBits issuance.receivableIDBits ∈
        hashedTexts library issued request := by
  have hall := Set.subset_biUnion_of_mem (u := fun issuance : Issuance library =>
    enrollmentTexts library issuance.enrollment ∪
      {circuitSideEncoded issuance.policyBits issuance.currencyBits issuance.receivableIDBits}) hmem
  exact ⟨fun _ h => .inr (hall (.inl h)), .inr (hall (.inr rfl))⟩

/-- The enrollments and the inputs of a release are what was read. -/
theorem prepare_inputs (h : prepare library files call = .ok prepared) :
    ∃ participants, files.loadAndValidateFreshParticipants prepared.binding call.config.now =
        .ok participants ∧
      files.reconstructEnrollments prepared.binding participants =
        .ok (prepared.enrollments.signedA, prepared.enrollments.signedB) ∧
      prepared.inputs = ⟨participants.pledgeA.policyBits, participants.pledgeB.policyBits,
        participants.pledgeA.currencyBits, participants.pledgeB.currencyBits,
        participants.pledgeA.receivableIDBits, participants.pledgeB.receivableIDBits⟩ := by
  simp only [prepare, verifyCaseEnrollmentsV5, bind_ok_iff, revertIf_ok_iff, exists_const,
    pure_ok_iff, mapError_ok_iff] at h
  obtain ⟨binding, -, -, -, _, -, _, -, -, _, -, participants, hparticipants, -, _, -, -,
    _, ⟨_, -, signed, hsigned, _, -, _, -, _, -, _, -, -, -, rfl⟩, _, -, -, _, -, rfl⟩ := h
  exact ⟨participants, hparticipants, hsigned, rfl⟩

/-- Both sides of a request that was checked are what an issuer signed. -/
theorem authorized_of_checked {now : ℤ}
    (hkeccak : (hashedTexts library issued request).InjOn library.keccak256)
    (hsigned : Unforgeable library runtime issued)
    (h : RequestChecked library runtime threshold request now) :
    Authorized library runtime issued now request.enrollmentA request.inputs.policyBitsA
        request.inputs.currencyBitsA request.inputs.receivableIDsA ∧
      Authorized library runtime issued now request.enrollmentB request.inputs.policyBitsB
        request.inputs.currencyBitsB request.inputs.receivableIDsB :=
  ⟨authorized_of_verify hkeccak hsigned (fun _ => hashedTexts_of_issued)
      (fun _ h => .inl (.inl (.inl h))) (.inl (.inr (Set.mem_insert _ _))) h.enrollmentA h.sideA,
    authorized_of_verify hkeccak hsigned (fun _ => hashedTexts_of_issued)
      (fun _ h => .inl (.inl (.inr h))) (.inl (.inr (Set.mem_insert_of_mem _ rfl))) h.enrollmentB
      h.sideB⟩

/-- What an issuer signed for a side of a result, and had not let expire at its release. -/
structure Backs (issuance : Issuance library) (result : CoalitionConflictResult)
    (digest : String) : Prop where
  digest : digest = bytes32Hex (issuance.enrollment.signingDigest library.keccak256)
  unexpired : 0 ≤ result.releasedAtUnix ∧
    issuance.enrollment.issuedAt ≤ BitVec.ofInt 64 result.releasedAtUnix ∧
    BitVec.ofInt 64 result.releasedAtUnix ≤ issuance.enrollment.validUntil

/-- The issuance behind one side of a result. -/
theorem Authorized.backs {signed : SignedCiphertextEnrollmentV5}
    {policyBits currencyBits receivableIDs : Ciphertext} {digest : String}
    (h : Authorized library runtime issued result.releasedAtUnix signed policyBits currencyBits
      receivableIDs) (hissued : ∀ issuance ∈ issued,
      Counted [issuance.policyBits, issuance.currencyBits, issuance.receivableIDBits])
    (hcounted : Counted [policyBits, currencyBits, receivableIDs])
    (hdigest : digest = bytes32Hex (signed.enrollment.signingDigest library.keccak256)) :
    ∃ issuance ∈ issued, Backs issuance result digest ∧ policyBits = issuance.policyBits ∧
      currencyBits = issuance.currencyBits ∧ receivableIDs = issuance.receivableIDBits := by
  obtain ⟨_, issuance, hmem, -, -, -, henrollment, hread⟩ := h.issuance
  rw [← henrollment] at hdigest
  have hunexpired := h.unexpired
  rw [← henrollment] at hunexpired
  exact ⟨issuance, hmem, ⟨hdigest, hunexpired⟩, hread hcounted (hissued issuance hmem)⟩

/-- The bits of a result answer the two questions about a pair of pledges. -/
def Answers (result : CoalitionConflictResult) (a b : PlainPledge) : Prop :=
  result.sameEconomicAsset = decide (a.receivableID = b.receivableID) ∧
    result.policyConflict = decide (PolicyConflicts a b)

/-- A result shows of a request that was checked what its outputs decrypt to. -/
structure ResultDecrypts (decode : Ciphertext → Slots m T) (library : FheLibrary)
    (runtime : Runtime) (threshold : ThresholdOperator) (request : OperatorReleaseRequestV5)
    (outputs : CircuitOutputsV5) (result : CoalitionConflictResult) : Prop where
  checked : RequestChecked library runtime threshold request result.releasedAtUnix
  recomputed : library.recomputeCircuitV5 runtime request.inputs = .ok outputs
  enrollmentDigestA : result.enrollmentDigestA = bytes32Hex request.descriptor.enrollmentDigestA
  enrollmentDigestB : result.enrollmentDigestB = bytes32Hex request.descriptor.enrollmentDigestB
  sameEconomicAsset :
    result.sameEconomicAsset = releasedBit (decode outputs.sameEconomicAsset).decode
  policyConflict : result.policyConflict = releasedBit (decode outputs.policyConflict).decode

theorem Published.resultDecrypts (hlibrary : Decrypts decode library switch dealt atHand)
    (hathand : ∀ {prepared}, prepare library files call = .ok prepared →
      prepared.inputs ∈ atHand)
    (hdealt : ∀ {root threshold}, call.openBundle root = .ok threshold → threshold ∈ dealt)
    (h : Published library files call result) :
    ∃ prepared base runtime threshold coalition outputs, prepare library files call = .ok prepared ∧
      files.loadEvaluationRuntime prepared.binding = .ok base ∧
      files.registerCaseEnrollmentIssuers base prepared.binding = .ok runtime ∧
      ResultDecrypts decode library runtime threshold (prepared.request coalition) outputs
        result := by
  obtain ⟨prepared, first, second, quorum, shares, hprepared, hopened, haccepted, hanswered,
    hcomposed⟩ := h
  have hcomposed := composeResult_ok hcomposed
  simp only [List.forall_mem_cons, List.not_mem_nil, false_implies, implies_true, and_true]
    at hopened
  obtain ⟨⟨⟨_, hone⟩, ⟨base, hbase, hruntime⟩, -⟩, ⟨⟨_, htwo⟩, ⟨_, hbase', hruntime'⟩, -⟩⟩ :=
    hopened
  rcases haccepted with _ | ⟨⟨_, _, hverify, rfl⟩, _ | ⟨⟨_, _, hverify', rfl⟩, _ | _⟩⟩
  obtain ⟨outputs, houtputs, hverdict⟩ := outputs_of_accepted hverify
  obtain ⟨outputs', houtputs', hverdict'⟩ := outputs_of_accepted hverify'
  -- the two operators recompute under the same runtime
  obtain rfl := Except.ok.inj (hbase.symm.trans hbase')
  rw [← Except.ok.inj (hruntime.symm.trans hruntime')] at houtputs'
  obtain rfl := Except.ok.inj (houtputs.symm.trans houtputs')
  rcases hanswered with _ | ⟨⟨_, hsome, hsame, hconflict⟩,
    _ | ⟨⟨_, hsome', hsame', hconflict'⟩, _ | _⟩⟩
  obtain rfl := Option.some.inj (hsome.symm.trans hverdict)
  obtain rfl := Option.some.inj (hsome'.symm.trans hverdict')
  have hbits := hcomposed.bits
  simp only [combineBits, bind_ok_iff, require_ok_iff, mapError_ok_iff, List.head?_cons,
    Option.bind_some, hverdict, revertIf_ok_iff, exists_const, pure_ok_iff, Prod.mk.injEq] at hbits
  obtain ⟨_, ⟨⟩, sameAsset, hsameAsset, policyConflict, hpolicyConflict, -, rfl, rfl⟩ := hbits
  have hchecked := (checked_of_accepted (congrArg Prod.snd hverify)).1
  rw [← hcomposed.releasedAt] at hchecked
  exact ⟨prepared, base, first.runtime, first.threshold, _, _, hprepared, hbase, hruntime,
    { checked := hchecked
      recomputed := houtputs
      enrollmentDigestA := hcomposed.enrollmentDigestA
      enrollmentDigestB := hcomposed.enrollmentDigestB
      sameEconomicAsset := confirmed_eq hlibrary (hathand hprepared) houtputs List.mem_cons_self
        (hdealt hone) (hdealt htwo) hsame hsame' hsameAsset
      policyConflict := confirmed_eq hlibrary (hathand hprepared) houtputs
        (List.mem_cons_of_mem _ List.mem_cons_self) (hdealt hone) (hdealt htwo) hconflict hconflict'
        hpolicyConflict }⟩

variable {ι : Type} [DecidableEq ι] {ledgers : LedgerPath → SessionLedger}
  {moves : List (Move ι CaseRequest)} {pool : CasePool ι}

/-- **Meaning of a result.** In every run the result object names two issuances that had not
expired when it was released.  Where the ciphertexts of both decrypt to the encodings of two
pledges, its bits answer the two questions about these pledges. -/
theorem result_genuine (hm : 512 ≤ m) (hT : 1 < T)
    (hlibrary : Decrypts decode library switch dealt (preparedInputs library files moves))
    (hassumed : CaseAssumptions library files dealt issued moves)
    (hrun : runCase library files ledgers moves = .ok pool)
    (hresult : pool.state.result = some result) :
    ∃ a ∈ issued, ∃ b ∈ issued, Backs a result result.enrollmentDigestA ∧
      Backs b result result.enrollmentDigestB ∧
      ∀ pledgeA pledgeB, Encrypts decode a pledgeA → Encrypts decode b pledgeB →
        Answers result pledgeA pledgeB := by
  obtain ⟨i, call, hstart, hpublished⟩ := published_of_run hrun hresult
  obtain ⟨prepared, base, runtime, threshold, coalition, outputs, hprepared, hbase, hruntime,
    hdecrypts⟩ := hpublished.resultDecrypts hlibrary (fun h => ⟨i, call, _, hstart, h, rfl⟩)
      (hassumed.bundles hstart)
  obtain ⟨participants, hparticipants, -, hinputs⟩ := prepare_inputs hprepared
  obtain ⟨hA, hB⟩ := authorized_of_checked (hassumed.distinct hstart hprepared coalition)
    (hassumed.unforgeable hbase hruntime) hdecrypts.checked
  have hread := hassumed.countedRead hparticipants
  have hrecomputed := hlibrary.evaluates ⟨i, call, prepared, hstart, hprepared, rfl⟩
    hdecrypts.recomputed
  rw [Prepared.request, hinputs] at hA hB
  rw [hinputs] at hrecomputed
  dsimp only at hA hB
  obtain ⟨a, ha, hbacksA, hpolicyA, hcurrencyA, hidA⟩ := hA.backs hassumed.countedIssued
    (hread _ List.mem_cons_self) (hdecrypts.enrollmentDigestA.trans
      (congrArg bytes32Hex (verifyEnrollmentV5_ok hdecrypts.checked.enrollmentA).2.1))
  obtain ⟨b, hb, hbacksB, hpolicyB, hcurrencyB, hidB⟩ := hB.backs hassumed.countedIssued
    (hread _ (List.mem_cons_of_mem _ List.mem_cons_self)) (hdecrypts.enrollmentDigestB.trans
      (congrArg bytes32Hex (verifyEnrollmentV5_ok hdecrypts.checked.enrollmentB).2.1))
  refine ⟨a, ha, b, hb, hbacksA, hbacksB, ?_⟩
  rintro pledgeA pledgeB ⟨encodedA, hencodedA, hA₁, hA₂, hA₃⟩ ⟨encodedB, hencodedB, hB₁, hB₂, hB₃⟩
  simp only [CircuitInputsV5.decoded, hpolicyA, hcurrencyA, hidA, hpolicyB, hcurrencyB, hidB, hA₁,
    hA₂, hA₃, hB₁, hB₂, hB₃] at hrecomputed
  obtain ⟨out, hout, hsame, hconflict, -⟩ := outputs_of_encodings hm hencodedA hencodedB
  obtain rfl := Except.ok.inj (hrecomputed.symm.trans hout)
  have hpos : 0 < m := by omega
  rw [Answers, hdecrypts.sameEconomicAsset, hdecrypts.policyConflict]
  exact ⟨releasedBit_of_get hpos hT hsame, releasedBit_of_get hpos hT hconflict⟩

end

/-! ### A case whose bits are released -/

/-- The vector of a released one. -/
def sampleOne : Slots 512 65537 := Slots.ofSlots 512 65537 fun i => if i = 0 then 1 else 0

/-- Both sides encrypted the same pledge. -/
def sampleDecode (ciphertext : Ciphertext) : Slots 512 65537 :=
  let encode := Slots.ofSlots 512 65537
  let digest (bytes : Circuit.Digest) := Circuit.writeBytesBits (fun _ => 0) 0 bytes.toList
  if ciphertext ∈ [[1], [4]] then encode (policyValues samplePledge)
  else if ciphertext ∈ [[2], [5]] then encode (digest samplePledge.currency)
  else if ciphertext ∈ [[3], [6]] then encode (digest samplePledge.receivableID)
  else sampleOne

/-- A share counts itself, and two of them decrypt an output. -/
def sampleSwitch : SwitchLibrary where
  keccak256 bytes := if thresholdTranscriptDomain <+: bytes then 1 else sampleDigest bytes
  ed25519Verify _ message signature := message = signature
  ciphertextCommitment := sampleLibrary.ciphertextCommitment
  protocolBindingDigest := sampleLibrary.protocolBindingDigest
  newKeySwitchProtocol := .ok ()
  level _ := 0
  Share := ℕ
  allocateShare _ := 0
  unmarshalShare _ := some 1
  shareLevel _ := 0
  aggregateShares share other := some (share + other)
  decodeSwitched ciphertext combined :=
    if ciphertext ∈ [[3, 6], [1, 4]] ∧ combined = 2 then some (1, List.replicate 1023 0) else none

def releasedLibrary : FheLibrary :=
  { issuedLibrary with
    recomputeCircuitV5 := fun _ inputs =>
      if [inputs.policyBitsA, inputs.policyBitsB, inputs.currencyBitsA, inputs.currencyBitsB,
        inputs.receivableIDsA, inputs.receivableIDsB] = [[1], [4], [2], [5], [3], [6]] then
        .ok ⟨[3, 6], [1, 4]⟩
      else .error "malformed encrypted pledge"
    thresholdResponseStatementDigest := thresholdResponseStatementDigest sampleDigest
    combineReleaseBitV5 := combineReleaseBitV5 sampleSwitch }

def releasedIssuance (issuance : Issuance issuedLibrary) : Issuance releasedLibrary :=
  ⟨issuance.publicKey, issuance.enrollment, issuance.policyBits, issuance.currencyBits,
    issuance.receivableIDBits, issuance.commits⟩

theorem get_sampleOne {i : ℕ} (hi : i < 1024) :
    sampleOne.get i = if i = 0 then 1 else 0 := by
  rw [sampleOne, Slots.get_ofSlots hi]
  split <;> rfl

theorem decode_sampleOne : sampleOne.decode = 1 :: List.replicate 1023 0 := by
  rw [Slots.decode, show 2 * 512 = 1023 + 1 from rfl, List.range_succ_eq_map, List.map_cons,
    List.map_map, get_sampleOne (by decide)]
  refine congrArg _ (List.eq_replicate_iff.mpr ⟨by simp, fun value hvalue => ?_⟩)
  obtain ⟨i, hi, rfl⟩ := List.mem_map.mp hvalue
  have hi := List.mem_range.mp hi
  exact congrArg ZMod.val ((get_sampleOne (by omega)).trans (if_neg (Nat.succ_ne_zero i)))

/-- The pledge conflicts with itself. -/
theorem recompute_sample : Circuit.recomputeCircuitV5 (sampleInputs.decoded sampleDecode) =
    .ok (CircuitOutputsV5.decoded sampleDecode ⟨[3, 6], [1, 4]⟩) := by
  obtain ⟨encoded, hencoded⟩ : ∃ encoded,
      encryptPledgeForMode 512 65537 samplePledge .fullFHE256 = .ok encoded := ⟨_, rfl⟩
  obtain ⟨hpolicy, hcurrency, hidentity⟩ := encryptPledge_ok hencoded
  obtain ⟨out, hout, hsame, hconflict, hzero⟩ :=
    outputs_of_encodings (by decide) hencoded hencoded
  rw [hpolicy, hcurrency, hidentity] at hout
  have hone {v : Slots 512 65537} (hfirst : v.get 0 = bit (ZMod 65537) true)
      (hrest : ∀ i, i ≠ 0 → i < 2 * 512 → v.get i = 0) : v = sampleOne := by
    refine Slots.ext_get (by decide) fun i hi => ?_
    rw [get_sampleOne hi]
    by_cases h : i = 0
    · rw [h, hfirst]
      rfl
    · rw [if_neg h, hrest i h hi]
  rw [decide_eq_true rfl] at hsame
  rw [decide_eq_true (by decide)] at hconflict
  have hsameOne := hone hsame fun i hne hi => (hzero i hne hi).1
  have hconflictOne := hone hconflict fun i hne hi => (hzero i hne hi).2
  obtain ⟨same, conflict⟩ := out
  obtain rfl : same = sampleOne := hsameOne
  obtain rfl : conflict = sampleOne := hconflictOne
  exact hout

theorem encrypts_sample {issuance : Issuance issuedLibrary} (h : issuance ∈ issuedBoth) :
    Encrypts sampleDecode (releasedIssuance issuance) samplePledge := by
  rcases h with rfl | rfl <;> exact ⟨_, rfl, rfl, rfl, rfl⟩

theorem decrypts_sample {atHand : Set CircuitInputsV5} :
    Decrypts sampleDecode releasedLibrary sampleSwitch Set.univ atHand where
  combines := rfl
  evaluates := by
    intro runtime inputs outputs _ h
    obtain ⟨a, b, c, d, e, f⟩ := inputs
    by_cases hinputs : [a, b, c, d, e, f] = [[1], [4], [2], [5], [3], [6]]
    · obtain rfl := Except.ok.inj ((if_pos hinputs).symm.trans h)
      obtain ⟨rfl, rfl, rfl, rfl, rfl, rfl⟩ : a = [1] ∧ b = [4] ∧ c = [2] ∧ d = [5] ∧ e = [3] ∧
        f = [6] := by simpa using hinputs
      exact recompute_sample
    · cases (if_neg hinputs).symm.trans h
  switches := by
    intro _ _ _ _ _ ciphertext _ _ _ _ _ _ _ _ _ slot others _ _ _ _ _ _ _ _ h
    obtain ⟨⟨hciphertext, -⟩, hvalue⟩ := Option.ite_none_right_eq_some.mp h
    obtain ⟨rfl, rfl⟩ := Prod.mk.inj (Option.some.inj hvalue)
    have hdecode : sampleDecode ciphertext = sampleOne := by
      rcases List.mem_pair.mp hciphertext with rfl | rfl <;> rfl
    rw [hdecode, decode_sampleOne]

theorem caseAssumptions_sample : CaseAssumptions releasedLibrary sampleFiles Set.univ
    (releasedIssuance '' issuedBoth) singleMoves where
  bundles := fun _ _ _ _ => Set.mem_univ _
  unforgeable := by
    rintro _ _ _ ⟨⟩ ⟨⟩ issuer record htrusted digest signature hverify
    obtain ⟨issuance, hmem, hkey, hdigest⟩ :=
      unforgeable_issued issuer record htrusted digest signature hverify
    exact ⟨_, ⟨issuance, hmem, rfl⟩, hkey, hdigest⟩
  distinct := by
    intro _ _ _ prepared hprepared coalition
    obtain ⟨_, ⟨⟩, hsigned, hinputs⟩ := prepare_inputs hprepared
    obtain ⟨hA, hB⟩ := Prod.mk.inj (Except.ok.inj hsigned)
    refine (injOn_hashedTexts 9 100).mono fun text htext => ?_
    rcases htext with ((htext | htext) | htext) | htext
    · rw [Prepared.request, ← hA] at htext
      exact .inl (.inl (.inl htext))
    · rw [Prepared.request, ← hB] at htext
      exact .inl (.inl (.inr htext))
    · rw [Prepared.request, hinputs] at htext
      exact .inl (.inr htext)
    · obtain ⟨_, ⟨issuance, hmem, rfl⟩, htext⟩ := Set.mem_iUnion₂.mp htext
      exact .inr (Set.mem_iUnion₂.mpr ⟨issuance, hmem, htext⟩)
  countedIssued := by
    rintro _ ⟨issuance, rfl | rfl, rfl⟩ <;> unfold Counted <;> decide
  countedRead := by
    rintro _ _ _ ⟨⟩
    unfold Counted
    decide

theorem released_sample : ∃ pool result, runCase releasedLibrary sampleFiles (fun _ => {})
    singleMoves = .ok pool ∧ pool.state.result = some result := by
  have hreleased : (runCase releasedLibrary sampleFiles (fun _ => {}) singleMoves).map
      (fun pool => pool.state.result.isSome) = .ok true := by
    decide +kernel
  obtain ⟨pool, hpool, hsome⟩ := map_ok_iff.mp hreleased
  obtain ⟨result, hresult⟩ := Option.isSome_iff_exists.mp hsome
  exact ⟨pool, result, hpool, hresult⟩

theorem result_genuine_sample : ∃ pool result, runCase releasedLibrary sampleFiles (fun _ => {})
    singleMoves = .ok pool ∧ pool.state.result = some result ∧
      Answers result samplePledge samplePledge := by
  obtain ⟨pool, result, hpool, hresult⟩ := released_sample
  obtain ⟨_, ⟨a, ha, rfl⟩, _, ⟨b, hb, rfl⟩, -, -, hanswers⟩ := result_genuine (m := 512)
    (T := 65537) (by decide) (by decide) decrypts_sample caseAssumptions_sample hpool hresult
  exact ⟨pool, result, hpool, hresult, hanswers _ _ (encrypts_sample ha) (encrypts_sample hb)⟩

end Mordant.Coalition
