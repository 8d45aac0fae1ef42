/-
# What a settlement signature attests

After the shares are combined every operator recombines both bits itself and signs a
statement about them.  The bits are compared with two arguments, and the bytes that are
signed arrive in a third: that these are a statement of the same bits, by this operator,
for this coalition and transcript, is not looked at.
-/

import Mordant.Coalition.Derivation

namespace Mordant.Coalition

open Evm Foundation

/-- The statements of both shares of every operator, in the order they are produced. -/
def sharedStatements (sameAssetShares policyConflictShares : List ThresholdReleaseResponse) :
    List Digest :=
  (sameAssetShares.zip policyConflictShares).flatMap fun (same, conflict) =>
    [same.statementDigest, conflict.statementDigest]

/-- The bits an operator recombines from the shares, for the ciphertexts it recomputed. -/
def Recombined (library : FheLibrary) (manifest : ThresholdManifest)
    (request : OperatorReleaseRequestV5) (verdict : OperatorVerdictV5)
    (sameAssetShares policyConflictShares : List ThresholdReleaseResponse)
    (sameAsset policyConflict : Bool) : Prop :=
  ∃ outputs, verdict.outputs = some outputs ∧
    recombine library manifest request outputs.sameEconomicAsset sameAssetShares 0 =
      .ok sameAsset ∧
    recombine library manifest request outputs.policyConflict policyConflictShares 1 =
      .ok policyConflict

/-- The bytes are the message of a statement of these bits, by the operator, for the
coalition of the request and for the transcript of its release. -/
def Attests (library : FheLibrary) (threshold : ThresholdOperator) (manifest : ThresholdManifest)
    (request : OperatorReleaseRequestV5)
    (sameAssetShares policyConflictShares : List ThresholdReleaseResponse)
    (sameAsset policyConflict : Bool) (message : Bytes) : Prop :=
  ∃ statement : CoalitionSettlementStatement, message = statement.signingMessage ∧
    statement.point = threshold.point ∧ statement.sameEconomicAsset = sameAsset ∧
    statement.policyConflict = policyConflict ∧
    statement.coalition = [request.coalition.1, request.coalition.2] ∧
    ∃ releasedAt digest,
      (request.descriptor.transcript request.coalition manifest.threshold
        (sharedStatements sameAssetShares policyConflictShares) sameAsset policyConflict
        releasedAt).digest library.keccak256 = .ok digest ∧
      statement.releaseTranscript = bytes32Hex digest

section

variable {library : FheLibrary} {threshold : ThresholdOperator} {manifest : ThresholdManifest}
  {request : OperatorReleaseRequestV5} {verdict : OperatorVerdictV5}
  {sameAssetShares policyConflictShares : List ThresholdReleaseResponse}
  {claimedSameAsset claimedPolicyConflict : Bool} {message signature : Bytes}

/-- A signature is over the bytes that were handed in, where the bits that were handed in
are the ones recombined. -/
theorem confirmReleasedBits_ok
    (h : confirmReleasedBits library threshold manifest request verdict sameAssetShares
      policyConflictShares claimedSameAsset claimedPolicyConflict message = .ok signature) :
    Recombined library manifest request verdict sameAssetShares policyConflictShares
        claimedSameAsset claimedPolicyConflict ∧
      signature = library.sign threshold.signingKey message := by
  simp only [confirmReleasedBits, ThresholdOperator.signSettlementStatement, bind_ok_iff,
    require_ok_iff, revertIf_ok_iff, exists_const, pure_ok_iff, not_or, not_not] at h
  obtain ⟨outputs, houtputs, sameAsset, hsame, policyConflict, hconflict, ⟨rfl, rfl⟩, -, -, rfl⟩ :=
    h
  rw [ite_eq_iff] at houtputs
  rcases houtputs with ⟨-, houtputs⟩ | ⟨-, hnone⟩
  · exact ⟨⟨outputs, houtputs, hsame, hconflict⟩, rfl⟩
  · cases hnone

theorem Recombined.unique {sameAsset sameAsset' policyConflict policyConflict' : Bool}
    (h : Recombined library manifest request verdict sameAssetShares policyConflictShares
      sameAsset policyConflict)
    (h' : Recombined library manifest request verdict sameAssetShares policyConflictShares
      sameAsset' policyConflict') : sameAsset = sameAsset' ∧ policyConflict = policyConflict' := by
  obtain ⟨outputs, houtputs, hsame, hconflict⟩ := h
  obtain ⟨outputs', houtputs', hsame', hconflict'⟩ := h'
  obtain rfl := Option.some.inj (houtputs.symm.trans houtputs')
  exact ⟨Except.ok.inj (hsame.symm.trans hsame'), Except.ok.inj (hconflict.symm.trans hconflict')⟩

end

/-! ### A message beside other bits -/

def sampleShare (point : Word64) (statementDigest : Digest) : ThresholdReleaseResponse where
  operatorID := (sampleOperator point).identity.operatorID
  point
  sessionID := 0
  protocolBinding := 0
  shareDigest := 0
  share := [1]
  statementDigest
  signature := []

def sampleSameShares : List ThresholdReleaseResponse := [sampleShare 1 201, sampleShare 2 202]
def sampleConflictShares : List ThresholdReleaseResponse := [sampleShare 1 203, sampleShare 2 204]

/-- The transcript of a release of the sample request in which both bits are set. -/
def sampleTranscript : ReleaseTranscriptV5 :=
  (sampleRequest 9 100).descriptor.transcript (1, 2) 2 [201, 203, 202, 204] true true 10

end Mordant.Coalition
