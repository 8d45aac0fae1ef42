/-
# The binary messages of the network boundary

A coordinator signs a request over one descriptor and one ciphertext; an operator answers
with one share.  The messages are fixed-width apart from the fields that carry their
length.  What a coordinator writes, an operator reads back.
-/

import Mordant.Coalition.ReleaseStatement
import Mordant.Foundation.Reader

namespace Mordant.ThresholdNet

open Evm Foundation
open Coalition (Digest Word64 ReleaseDescriptor ThresholdReleaseResponse
  validateReleaseDescriptor uint64Bytes uint64OfBytes maxReleaseShareSize)

/-! ## Fields -/

def uint32Bytes (word : BitVec 32) : Bytes :=
  (List.range 4).map fun i => UInt8.ofNat (word.toNat / 256 ^ (3 - i))

def uint32OfBytes (bytes : Bytes) : BitVec 32 :=
  BitVec.ofNat 32 (bytes.foldl (fun acc b => acc * 256 + b.toNat) 0)

/-- `[ed25519.SignatureSize]byte`. -/
abbrev Signature := { bytes : Bytes // bytes.length = 64 }

def Signature.copy (bytes : Bytes) : Signature :=
  ⟨(bytes ++ List.replicate 64 0).take 64, by
    rw [List.length_take, List.length_append, List.length_replicate]
    omega⟩

section

theorem length_uint32Bytes (word : BitVec 32) : (uint32Bytes word).length = 4 := by
  rw [uint32Bytes, List.length_map, List.length_range]

theorem uint32OfBytes_uint32Bytes (word : BitVec 32) :
    uint32OfBytes (uint32Bytes word) = word := ofNat_digits (n := 4) (by norm_num) word

def readByte : Reader UInt8 UInt8 := .field 1 fun bytes => bytes.headD 0
def readDigest : Reader UInt8 Digest := .field 32 wordOfBytes
def readUint64 : Reader UInt8 Word64 := .field 8 uint64OfBytes
def readUint32 : Reader UInt8 (BitVec 32) := .field 4 uint32OfBytes

def readSignature : Reader UInt8 Signature := .field 64 Signature.copy

theorem reads_byte (byte : UInt8) : Reads readByte [byte] byte := reads_field rfl rfl

theorem reads_digest (word : Digest) : Reads readDigest (wordBytes word) word :=
  reads_field (length_wordBytes word) (wordOfBytes_wordBytes word)

theorem reads_uint64 (word : Word64) : Reads readUint64 (uint64Bytes word) word :=
  reads_field (Coalition.length_uint64Bytes word) (Coalition.uint64OfBytes_uint64Bytes word)

theorem reads_uint32 (word : BitVec 32) : Reads readUint32 (uint32Bytes word) word :=
  reads_field (length_uint32Bytes word) (uint32OfBytes_uint32Bytes word)

theorem reads_signature (signature : Signature) :
    Reads readSignature signature.1 signature := by
  refine reads_field signature.2 (Subtype.ext ?_)
  show (signature.1 ++ List.replicate 64 0).take 64 = signature.1
  rw [List.take_append_of_le_length signature.2.ge, List.take_of_length_le signature.2.le]

end

/-! ## Descriptors -/

def thresholdDescriptorMagic : Bytes := stringBytes "MTD1"

/-- `ReleaseDescriptor.MarshalBinary`. -/
def marshalReleaseDescriptor (descriptor : ReleaseDescriptor) : Except String Bytes := do
  validateReleaseDescriptor descriptor
  pure (thresholdDescriptorMagic ++ descriptor.fields)

/-- The fields of a descriptor, one after another. -/
def readReleaseDescriptor : Reader UInt8 ReleaseDescriptor := do
  let magic ← .take 4
  .failIf (magic ≠ thresholdDescriptorMagic)
  let sessionID ← readDigest
  let keyID ← readDigest
  let parameterFingerprint ← readDigest
  let policyID ← readDigest
  let policyVersion ← readUint32
  let inputCommitmentA ← readDigest
  let inputCommitmentB ← readDigest
  let resultNonce ← readDigest
  let validUntil ← readUint64
  let resultCiphertextCommitment ← readDigest
  let protocolBinding ← readDigest
  let first ← readUint64
  let second ← readUint64
  pure
    { sessionID, keyID, parameterFingerprint, policyID, policyVersion, inputCommitmentA,
      inputCommitmentB, resultNonce, validUntil, resultCiphertextCommitment, protocolBinding
      coalition := (first, second) }

def unmarshalReleaseDescriptor (data : Bytes) : Except String ReleaseDescriptor := do
  let descriptor ← require "invalid threshold release descriptor"
    (readReleaseDescriptor.whole data)
  validateReleaseDescriptor descriptor
  pure descriptor

theorem length_thresholdDescriptorMagic : thresholdDescriptorMagic.length = 4 := by
  decide +kernel

/-- A descriptor is read back as it was written. -/
theorem unmarshal_marshalReleaseDescriptor {descriptor : ReleaseDescriptor} {wire : Bytes}
    (h : marshalReleaseDescriptor descriptor = .ok wire) :
    unmarshalReleaseDescriptor wire = .ok descriptor := by
  simp only [marshalReleaseDescriptor, bind_ok_iff, pure_ok_iff] at h
  obtain ⟨_, hvalid, rfl⟩ := h
  rw [unmarshalReleaseDescriptor, Reads.whole (a := descriptor)]
  · show (validateReleaseDescriptor descriptor >>= fun _ => pure descriptor) = .ok descriptor
    rw [hvalid]
    rfl
  · refine (reads_take length_thresholdDescriptorMagic).bind (.unless (fun hne => hne rfl) ?_)
    refine (reads_digest _).bind ((reads_digest _).bind ((reads_digest _).bind
      ((reads_digest _).bind ((reads_uint32 _).bind ((reads_digest _).bind
      ((reads_digest _).bind ((reads_digest _).bind ((reads_uint64 _).bind
      ((reads_digest _).bind ((reads_digest _).bind ((reads_uint64 _).bind
      ((reads_uint64 _).last ?_))))))))))))
    rfl

/-! ## Signed requests -/

/-- `operation`; a byte on the wire may be any. -/
abbrev Operation := UInt8

def operationPrepare : Operation := 1
def operationCommit : Operation := 2
def operationAck : Operation := 3

def wireMagic : Bytes := stringBytes "MTN1"
def maxDescriptorBytes : ℕ := 4 * 2 ^ 10
def maxCiphertextBytes : ℕ := 128 * 2 ^ 20
def maxNetworkBodyBytes : ℕ := maxDescriptorBytes + maxCiphertextBytes + 512

structure SignedRequest where
  operation : Operation
  descriptor : Bytes
  ciphertext : Bytes
  responseDigest : Digest
  nonce : Digest
  signature : Signature

namespace SignedRequest

def marshalBinary (request : SignedRequest) : Except String Bytes := do
  revertIf (request.operation < operationPrepare ∨ operationAck < request.operation ∨
      request.descriptor.length = 0 ∨ maxDescriptorBytes < request.descriptor.length ∨
      maxCiphertextBytes < request.ciphertext.length ∨ request.nonce = 0)
    "malformed threshold network request"
  pure (wireMagic ++ ([request.operation] ++
    (uint32Bytes (BitVec.ofNat 32 request.descriptor.length) ++ (request.descriptor ++
    (uint32Bytes (BitVec.ofNat 32 request.ciphertext.length) ++ (request.ciphertext ++
    (wordBytes request.responseDigest ++ (wordBytes request.nonce ++
    request.signature.1))))))))

end SignedRequest

/-- The fields of a request, one after another. -/
def readSignedRequest : Reader UInt8 SignedRequest := do
  let magic ← .take 4
  .failIf (magic ≠ wireMagic)
  let operation ← readByte
  let descriptorLength ← readUint32
  .failIf (descriptorLength = 0 ∨ maxDescriptorBytes < descriptorLength.toNat)
  let descriptor ← .take descriptorLength.toNat
  let ciphertextLength ← readUint32
  .failIf (maxCiphertextBytes < ciphertextLength.toNat)
  let ciphertext ← .take ciphertextLength.toNat
  let responseDigest ← readDigest
  let nonce ← readDigest
  let signature ← readSignature
  pure { operation, descriptor, ciphertext, responseDigest, nonce, signature }

def unmarshalSignedRequest (data : Bytes) : Except String SignedRequest :=
  require "malformed threshold network request" (readSignedRequest.whole data)

theorem length_wireMagic : wireMagic.length = 4 := by decide +kernel

theorem toNat_ofNat_length {text : Bytes} {bound : ℕ} (hlength : text.length ≤ bound)
    (hbound : bound < 2 ^ 32) : (BitVec.ofNat 32 text.length).toNat = text.length := by
  rw [BitVec.toNat_ofNat]
  exact Nat.mod_eq_of_lt (hlength.trans_lt hbound)

/-- A request is read back as it was written. -/
theorem SignedRequest.unmarshal_marshalBinary {request : SignedRequest} {wire : Bytes}
    (h : request.marshalBinary = .ok wire) : unmarshalSignedRequest wire = .ok request := by
  simp only [marshalBinary, bind_ok_iff, revertIf_ok_iff, exists_const, pure_ok_iff, not_or,
    not_lt] at h
  obtain ⟨⟨-, -, hnonempty, hdescriptor, hciphertext, -⟩, rfl⟩ := h
  have hdescriptorLength := toNat_ofNat_length hdescriptor (by decide)
  have hciphertextLength := toNat_ofNat_length hciphertext (by decide)
  rw [unmarshalSignedRequest, Reads.whole (a := request)]
  · rfl
  · refine (reads_take length_wireMagic).bind (.unless (fun hne => hne rfl) ?_)
    refine (reads_byte _).bind ?_
    refine (reads_uint32 _).bind (.unless ?_ ?_)
    · rw [hdescriptorLength, not_or]
      constructor
      · intro hzero
        have := congrArg BitVec.toNat hzero
        rw [hdescriptorLength] at this
        exact hnonempty this
      · exact not_lt.mpr hdescriptor
    · refine (reads_take hdescriptorLength.symm).bind ?_
      refine (reads_uint32 _).bind (.unless ?_ ?_)
      · rw [hciphertextLength]
        exact not_lt.mpr hciphertext
      · exact (reads_take hciphertextLength.symm).bind ((reads_digest _).bind
          ((reads_digest _).bind ((reads_signature _).last rfl)))

/-! ## Responses -/

def thresholdResponseMagic : Bytes := stringBytes "MTR1"

/-- `ThresholdReleaseResponse.MarshalBinary`. -/
def marshalThresholdReleaseResponse (keccak256 : Bytes → Digest)
    (response : ThresholdReleaseResponse) : Except String Bytes := do
  revertIf (response.share.length = 0 ∨ maxReleaseShareSize < response.share.length ∨
      response.shareDigest ≠ keccak256 response.share)
    "invalid threshold release share"
  pure (thresholdResponseMagic ++ wordBytes response.operatorID ++ uint64Bytes response.point ++
    wordBytes response.sessionID ++ wordBytes response.protocolBinding ++
    wordBytes response.shareDigest ++ wordBytes response.statementDigest ++
    (Signature.copy response.signature).1 ++
    uint32Bytes (BitVec.ofNat 32 response.share.length) ++ response.share)

/-- The fields of a response, one after another. -/
def readThresholdReleaseResponse : Reader UInt8 ThresholdReleaseResponse := do
  let magic ← .take 4
  .failIf (magic ≠ thresholdResponseMagic)
  let operatorID ← readDigest
  let point ← readUint64
  let sessionID ← readDigest
  let protocolBinding ← readDigest
  let shareDigest ← readDigest
  let statementDigest ← readDigest
  let signature ← readSignature
  let size ← readUint32
  .failIf (size = 0 ∨ maxReleaseShareSize < size.toNat)
  let share ← .take size.toNat
  pure
    { operatorID, point, sessionID, protocolBinding, shareDigest, share, statementDigest
      signature := signature.1 }

def unmarshalThresholdReleaseResponse (keccak256 : Bytes → Digest) (data : Bytes) :
    Except String ThresholdReleaseResponse := do
  let response ← require "invalid threshold release share"
    (readThresholdReleaseResponse.whole data)
  revertIf (response.shareDigest ≠ keccak256 response.share) "invalid threshold release share"
  pure response

end Mordant.ThresholdNet
