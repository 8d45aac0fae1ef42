/-
# Settlement statements and release transcripts

The one message an operator signs outside the threshold protocol: a JSON document behind
a domain, which names the case, the transcript of the release and the released bits.  The
transcript is a hash over everything the release bound.

Every member of the document is delimited, so the bytes of a message name one statement.
-/

import Mordant.Coalition.Operator
import Mordant.Foundation.Delimited
import Mordant.Golang.Document

namespace Mordant.Coalition

open Evm Foundation Golang

/-! ## Documents -/

/-- `Digest.MarshalText`. -/
def jsonDigest (digest : Digest) : List Char :=
  jsonString ("sha256:" ++ hexText (wordBytes digest))

/-- A slice that nothing was appended to is `null`. -/
def jsonUints : List Word64 → List Char
  | [] => "null".toList
  | first :: rest =>
    '[' :: jsonUint first.toNat ++ rest.flatMap (fun n => ',' :: jsonUint n.toNat) ++ [']']

/-! ## The statement -/

def coalitionSettlementStatementSchema : String := "mordant.coalition-settlement-statement/1"

structure CoalitionSettlementStatement where
  schemaVersion : String
  caseID : Digest
  caseBindingDigest : Digest
  assetIdentity : Digest
  releaseAuthorityID : Digest
  releaseMode : String
  releaseTranscript : String
  coalition : List Word64
  threshold : BitVec 16
  sameEconomicAsset : Bool
  policyConflict : Bool
  point : Word64
  deriving DecidableEq

/-- `json.Marshal`. -/
def CoalitionSettlementStatement.json (statement : CoalitionSettlementStatement) : List Char :=
  jsonObject
    [("schemaVersion", jsonString statement.schemaVersion),
      ("caseId", jsonDigest statement.caseID),
      ("caseBindingDigest", jsonDigest statement.caseBindingDigest),
      ("assetIdentity", jsonDigest statement.assetIdentity),
      ("releaseAuthorityId", jsonDigest statement.releaseAuthorityID),
      ("releaseMode", jsonString statement.releaseMode),
      ("releaseTranscript", jsonString statement.releaseTranscript),
      ("coalition", jsonUints statement.coalition),
      ("threshold", jsonUint statement.threshold.toNat),
      ("sameEconomicAsset", jsonBool statement.sameEconomicAsset),
      ("policyConflict", jsonBool statement.policyConflict),
      ("point", jsonUint statement.point.toNat)]

def CoalitionSettlementStatement.signingMessage (statement : CoalitionSettlementStatement) :
    Bytes :=
  coalitionSettlementDomain ++ stringBytes (String.ofList statement.json)

/-! ## The transcript -/

structure ReleaseTranscriptV5 where
  sessionCommitment : Digest
  sessionNullifier : Digest
  enrollmentDigestA : Digest
  enrollmentDigestB : Digest
  inputsDigest : Digest
  outputsDigest : Digest
  circuitVersion : BitVec 32
  keyID : Digest
  parameterFingerprint : Digest
  policyID : Digest
  policyVersion : BitVec 32
  coalition : Word64 × Word64
  threshold : BitVec 16
  operatorStatements : List Digest
  sameEconomicAsset : Bool
  policyConflict : Bool
  releasedAt : Word64

def ReleaseTranscriptV5.validate (transcript : ReleaseTranscriptV5) : Except String Unit := do
  revertIf (transcript.sessionCommitment = 0 ∨ transcript.sessionNullifier = 0 ∨
      transcript.enrollmentDigestA = 0 ∨ transcript.enrollmentDigestB = 0 ∨
      transcript.enrollmentDigestA = transcript.enrollmentDigestB ∨
      transcript.inputsDigest = 0 ∨ transcript.outputsDigest = 0 ∨
      transcript.circuitVersion ≠ circuitV5Version ∨ transcript.keyID = 0 ∨
      transcript.parameterFingerprint = 0 ∨ transcript.policyID = 0 ∨
      transcript.policyVersion ≠ Coalition.policyVersion ∨ transcript.threshold.toNat < 2 ∨
      transcript.operatorStatements.length < transcript.threshold.toNat ∨
      transcript.coalition.1 = 0 ∨ transcript.coalition.2 = 0 ∨
      transcript.coalition.1 = transcript.coalition.2 ∨ transcript.releasedAt = 0)
    "malformed ciphertext enrollment"
  revertIf (transcript.policyConflict = true ∧ transcript.sameEconomicAsset = false)
    "malformed ciphertext enrollment: policy conflict without asset match"

namespace ReleaseTranscriptV5

variable (keccak256 : Bytes → Digest) (transcript : ReleaseTranscriptV5)

/-- The words ahead of the statements. -/
def leading : List Bytes32 :=
  [keccak256 (stringBytes "mordant.release-transcript/v5"), transcript.sessionCommitment,
    transcript.sessionNullifier, transcript.enrollmentDigestA, transcript.enrollmentDigestB,
    transcript.inputsDigest, transcript.outputsDigest,
    uintWord transcript.circuitVersion.toNat, transcript.keyID,
    transcript.parameterFingerprint, transcript.policyID,
    uintWord transcript.policyVersion.toNat, uintWord transcript.coalition.1.toNat,
    uintWord transcript.coalition.2.toNat, uintWord transcript.threshold.toNat]

/-- The words behind the statements. -/
def trailing : List Bytes32 :=
  [boolWord transcript.sameEconomicAsset, boolWord transcript.policyConflict,
    uintWord transcript.releasedAt.toNat]

/-- The bytes that `Digest` hashes. -/
def hashed : Bytes :=
  abiEncode (transcript.leading keccak256 ++ transcript.operatorStatements ++ transcript.trailing)

def digest : Except String Digest := do
  transcript.validate
  pure (keccak256 (transcript.hashed keccak256))

end ReleaseTranscriptV5

/-- The transcript of a release under a descriptor. -/
def ReleaseDescriptorV5.transcript (descriptor : ReleaseDescriptorV5)
    (coalition : Word64 × Word64) (threshold : BitVec 16) (operatorStatements : List Digest)
    (sameEconomicAsset policyConflict : Bool) (releasedAt : Word64) : ReleaseTranscriptV5 :=
  { sessionCommitment := descriptor.sessionCommitment
    sessionNullifier := descriptor.sessionNullifier
    enrollmentDigestA := descriptor.enrollmentDigestA
    enrollmentDigestB := descriptor.enrollmentDigestB
    inputsDigest := descriptor.inputsDigest
    outputsDigest := descriptor.outputsDigest
    circuitVersion := descriptor.circuitVersion
    keyID := descriptor.keyID
    parameterFingerprint := descriptor.parameterFingerprint
    policyID := descriptor.policyID
    policyVersion := descriptor.policyVersion
    coalition
    threshold
    operatorStatements
    sameEconomicAsset
    policyConflict
    releasedAt }

/-! ## A message names one statement -/

end Mordant.Coalition
