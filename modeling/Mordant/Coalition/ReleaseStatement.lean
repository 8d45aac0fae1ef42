/-
# What an operator signs of a release

An operator's signature is over one hash: of the descriptor of the release, of who the
operator is and at which point its share stands, and of the share.  Where no hash collides
the hash determines all of it.  A release is recorded under the hashes that were signed, in
an order of their own, so that who answered first does not show.
-/

import Mordant.Coalition.Operator
import Mordant.Evm.BigEndian

namespace Mordant.Coalition

open Evm Foundation

def thresholdReleaseDomain : Bytes := stringBytes "mordant.threshold.release-descriptor/v1"
def thresholdResponseDomain : Bytes := stringBytes "mordant.threshold.release-response/v1"
def thresholdTranscriptDomain : Bytes := stringBytes "mordant.threshold.transcript/v1"

/-- The fields of a descriptor, as they are written and as they are hashed. -/
def ReleaseDescriptor.fields (descriptor : ReleaseDescriptor) : Bytes :=
  wordBytes descriptor.sessionID ++ (wordBytes descriptor.keyID ++
    (wordBytes descriptor.parameterFingerprint ++ (wordBytes descriptor.policyID ++
    (bigEndianBytes 4 descriptor.policyVersion.toNat ++
    (wordBytes descriptor.inputCommitmentA ++ (wordBytes descriptor.inputCommitmentB ++
    (wordBytes descriptor.resultNonce ++ (uint64Bytes descriptor.validUntil ++
    (wordBytes descriptor.resultCiphertextCommitment ++ (wordBytes descriptor.protocolBinding ++
    (uint64Bytes descriptor.coalition.1 ++ uint64Bytes descriptor.coalition.2)))))))))))

/-- The bytes that `ReleaseDescriptorDigest` hashes. -/
def ReleaseDescriptor.hashed (descriptor : ReleaseDescriptor) : Bytes :=
  thresholdReleaseDomain ++ ([0] ++ descriptor.fields)

/-- What a response states: the share of one operator for one descriptor. -/
structure ReleaseStatement where
  descriptor : ReleaseDescriptor
  operatorID : Digest
  point : Word64
  share : Bytes
  deriving DecidableEq

section

variable (keccak256 : Bytes → Digest)

def releaseDescriptorDigest (descriptor : ReleaseDescriptor) : Digest :=
  keccak256 descriptor.hashed

/-- The bytes that `thresholdResponseStatementDigest` hashes. -/
def responseHashed (descriptor : ReleaseDescriptor) (operatorID : Digest) (point : Word64)
    (shareDigest : Digest) : Bytes :=
  thresholdResponseDomain ++ ([0] ++ (wordBytes (releaseDescriptorDigest keccak256 descriptor) ++
    (wordBytes operatorID ++ (uint64Bytes point ++ wordBytes shareDigest))))

def thresholdResponseStatementDigest (descriptor : ReleaseDescriptor) (operatorID : Digest)
    (point : Word64) (shareDigest : Digest) : Digest :=
  keccak256 (responseHashed keccak256 descriptor operatorID point shareDigest)

def thresholdTranscriptCommitment (descriptor : ReleaseDescriptor)
    (statementDigests : List Digest) (confirmed : Bool) : Digest :=
  let sorted := statementDigests.mergeSort (· ≤ ·)
  keccak256 (thresholdTranscriptDomain ++ [0] ++
    wordBytes (releaseDescriptorDigest keccak256 descriptor) ++ sorted.flatMap wordBytes ++
    [if confirmed then 1 else 0])

namespace ReleaseStatement

/-- What is signed of a statement. -/
def digest (statement : ReleaseStatement) : Digest :=
  thresholdResponseStatementDigest keccak256 statement.descriptor statement.operatorID
    statement.point (keccak256 statement.share)

/-- What is hashed when a statement is signed. -/
def texts (statement : ReleaseStatement) : Set Bytes :=
  {responseHashed keccak256 statement.descriptor statement.operatorID statement.point
      (keccak256 statement.share), statement.descriptor.hashed, statement.share}

end ReleaseStatement

end

/-! ## What the hashes determine -/

section

variable {keccak256 : Bytes → Digest} {hashed : Set Bytes} {descriptor other : ReleaseDescriptor}

theorem uint64Bytes_append_inj {word word' : Word64} {rest rest' : Bytes}
    (h : uint64Bytes word ++ rest = uint64Bytes word' ++ rest') : word = word' ∧ rest = rest' :=
  (exactly_word (w := 64) (n := 8) (by norm_num)).delimited trivial trivial h

theorem uint32Bytes_append_inj {word word' : BitVec 32} {rest rest' : Bytes}
    (h : bigEndianBytes 4 word.toNat ++ rest = bigEndianBytes 4 word'.toNat ++ rest') :
    word = word' ∧ rest = rest' :=
  (exactly_word (w := 32) (n := 4) (by norm_num)).delimited trivial trivial h

theorem ReleaseDescriptor.fields_injective : Function.Injective ReleaseDescriptor.fields := by
  intro descriptor other h
  obtain ⟨hsession, h⟩ := wordBytes_append_inj h
  obtain ⟨hkey, h⟩ := wordBytes_append_inj h
  obtain ⟨hparameter, h⟩ := wordBytes_append_inj h
  obtain ⟨hpolicy, h⟩ := wordBytes_append_inj h
  obtain ⟨hversion, h⟩ := uint32Bytes_append_inj h
  obtain ⟨hinputA, h⟩ := wordBytes_append_inj h
  obtain ⟨hinputB, h⟩ := wordBytes_append_inj h
  obtain ⟨hnonce, h⟩ := wordBytes_append_inj h
  obtain ⟨huntil, h⟩ := uint64Bytes_append_inj h
  obtain ⟨hresult, h⟩ := wordBytes_append_inj h
  obtain ⟨hbinding, h⟩ := wordBytes_append_inj h
  obtain ⟨hfirst, h⟩ := uint64Bytes_append_inj h
  have hsecond := (uint64Bytes_append_inj (congrArg (· ++ []) h)).1
  have hcoalition : descriptor.coalition = other.coalition := Prod.ext hfirst hsecond
  cases descriptor
  cases other
  simp_all only

theorem ReleaseDescriptor.hashed_injective : Function.Injective ReleaseDescriptor.hashed := by
  intro descriptor other h
  exact fields_injective (List.append_cancel_left (List.append_cancel_left h))

/-- `ReleaseDescriptorDigest` covers every field. -/
theorem releaseDescriptorDigest_inj (hinj : hashed.InjOn keccak256)
    (hmem : descriptor.hashed ∈ hashed) (hmem' : other.hashed ∈ hashed)
    (h : releaseDescriptorDigest keccak256 descriptor = releaseDescriptorDigest keccak256 other) :
    descriptor = other :=
  ReleaseDescriptor.hashed_injective (hinj hmem hmem' h)

/-- `thresholdResponseStatementDigest` covers the descriptor, the operator, its point and the
digest of its share. -/
theorem thresholdResponseStatementDigest_inj {operatorID operatorID' : Digest}
    {point point' : Word64} {shareDigest shareDigest' : Digest} (hinj : hashed.InjOn keccak256)
    (hdescriptor : descriptor.hashed ∈ hashed) (hdescriptor' : other.hashed ∈ hashed)
    (hmem : responseHashed keccak256 descriptor operatorID point shareDigest ∈ hashed)
    (hmem' : responseHashed keccak256 other operatorID' point' shareDigest' ∈ hashed)
    (h : thresholdResponseStatementDigest keccak256 descriptor operatorID point shareDigest =
      thresholdResponseStatementDigest keccak256 other operatorID' point' shareDigest') :
    descriptor = other ∧ operatorID = operatorID' ∧ point = point' ∧
      shareDigest = shareDigest' := by
  have htexts := List.append_cancel_left (List.append_cancel_left (hinj hmem hmem' h))
  obtain ⟨hdigest, htexts⟩ := wordBytes_append_inj htexts
  obtain ⟨hoperator, htexts⟩ := wordBytes_append_inj htexts
  obtain ⟨hpoint, hshare⟩ := uint64Bytes_append_inj htexts
  exact ⟨releaseDescriptorDigest_inj hinj hdescriptor hdescriptor' hdigest, hoperator, hpoint,
    wordBytes_injective hshare⟩

/-- What is signed of a statement is signed of no other one. -/
theorem ReleaseStatement.digest_inj {statement statement' : ReleaseStatement}
    (hinj : hashed.InjOn keccak256) (hmem : statement.texts keccak256 ⊆ hashed)
    (hmem' : statement'.texts keccak256 ⊆ hashed)
    (h : statement.digest keccak256 = statement'.digest keccak256) : statement = statement' := by
  obtain ⟨hdescriptor, hoperator, hpoint, hdigest⟩ :=
    thresholdResponseStatementDigest_inj hinj (hmem (.inr (.inl rfl))) (hmem' (.inr (.inl rfl)))
      (hmem (.inl rfl)) (hmem' (.inl rfl)) h
  have hshare := hinj (hmem (.inr (.inr rfl))) (hmem' (.inr (.inr rfl))) hdigest
  cases statement
  cases statement'
  simp_all only

theorem sorted_digests (digests : List Digest) :
    (digests.mergeSort (· ≤ ·)).Pairwise fun a b => decide (a ≤ b) = true := by
  apply List.pairwise_mergeSort
  · intro a b c hab hbc
    exact decide_eq_true (BitVec.le_trans (of_decide_eq_true hab) (of_decide_eq_true hbc))
  · intro a b
    rw [Bool.or_eq_true, decide_eq_true_eq, decide_eq_true_eq]
    exact BitVec.le_total a b

/-- The order of the answers does not show. -/
theorem thresholdTranscriptCommitment_perm {digests digests' : List Digest} {confirmed : Bool}
    (h : digests.Perm digests') :
    thresholdTranscriptCommitment keccak256 descriptor digests confirmed =
      thresholdTranscriptCommitment keccak256 descriptor digests' confirmed := by
  have hperm := (List.mergeSort_perm digests (· ≤ ·)).trans
    (h.trans (List.mergeSort_perm digests' (· ≤ ·)).symm)
  have hsorted : digests.mergeSort (· ≤ ·) = digests'.mergeSort (· ≤ ·) := by
    apply List.Perm.eq_of_pairwise _ (sorted_digests digests) (sorted_digests digests') hperm
    intro a b _ _ hab hba
    exact BitVec.le_antisymm (of_decide_eq_true hab) (of_decide_eq_true hba)
  rw [thresholdTranscriptCommitment, thresholdTranscriptCommitment, hsorted]

end

end Mordant.Coalition
