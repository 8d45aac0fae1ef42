/-
# One text for a message

What an operator or a coordinator reads off the network is hashed again as it writes it, and
compared with hashes of what others received.  So the readers take nothing but what the writers
write: a message has one text, and no text that is read goes on, stops early or is too long.

What is signed of a message is a hash over all of it, so a signature is over one message.
-/

import Mordant.Coalition.Combination
import Mordant.ThresholdNet.Fields
import Mordant.ThresholdNet.Service

namespace Mordant.ThresholdNet

open Evm Foundation
open Coalition (Digest Word64 ReleaseDescriptor ThresholdReleaseResponse
  validateReleaseDescriptor uint64Bytes uint64OfBytes releaseDescriptorDigest
  thresholdResponseStatementDigest responseHashed maxReleaseShareSize)

/-! ## Descriptors -/

section

variable {descriptor : ReleaseDescriptor} {wire : Bytes}

/-- The text of a descriptor. -/
def descriptorText (descriptor : ReleaseDescriptor) : Bytes :=
  thresholdDescriptorMagic ++ descriptor.fields

theorem exactly_releaseDescriptor :
    Exactly readReleaseDescriptor (fun _ => True) descriptorText := by
  intro text descriptor rest
  simp only [readReleaseDescriptor, reader_bind_iff, take_iff, failIf_reader_iff, readDigest_iff,
    readUint64_iff, readUint32_iff, reader_pure_iff, not_not, true_and, descriptorText,
    ReleaseDescriptor.fields, List.append_assoc]
  constructor
  · rintro ⟨_, _, ⟨_, h₁⟩, _, _, ⟨hmagic, h₂⟩, _, _, h₃, _, _, h₄, _, _, h₅, _, _, h₆, _, _, h₇,
      _, _, h₈, _, _, h₉, _, _, h₁₀, _, _, h₁₁, _, _, h₁₂, _, _, h₁₃, _, _, h₁₄, _, _, h₁₅, rfl,
      hrest⟩
    rw [h₁, hmagic, h₂, h₃, h₄, h₅, h₆, h₇, h₈, h₉, h₁₀, h₁₁, h₁₂, h₁₃, h₁₄, h₁₅, hrest]
    rfl
  · rintro rfl
    exact ⟨_, _, ⟨length_thresholdDescriptorMagic, rfl⟩, (), _, ⟨rfl, rfl⟩, _, _, rfl, _, _, rfl,
      _, _, rfl, _, _, rfl, _, _, rfl, _, _, rfl, _, _, rfl, _, _, rfl, _, _, rfl, _, _, rfl, _, _,
      rfl, _, _, rfl, _, _, rfl, rfl, rfl⟩

theorem marshalReleaseDescriptor_ok_iff :
    marshalReleaseDescriptor descriptor = .ok wire ↔
      validateReleaseDescriptor descriptor = .ok () ∧ wire = descriptorText descriptor := by
  simp only [marshalReleaseDescriptor, bind_ok_iff, exists_unit, pure_ok_iff]
  exact and_congr_right fun _ => eq_comm

theorem unmarshalReleaseDescriptor_ok_iff :
    unmarshalReleaseDescriptor wire = .ok descriptor ↔
      readReleaseDescriptor.whole wire = some descriptor ∧
        validateReleaseDescriptor descriptor = .ok () := by
  simp only [unmarshalReleaseDescriptor, bind_ok_iff, require_ok_iff, exists_unit, pure_ok_iff]
  constructor
  · rintro ⟨_, hread, hvalid, rfl⟩
    exact ⟨hread, hvalid⟩
  · rintro ⟨hread, hvalid⟩
    exact ⟨descriptor, hread, hvalid, rfl⟩

theorem format_releaseDescriptor :
    Format Set.univ marshalReleaseDescriptor unmarshalReleaseDescriptor :=
  Exactly.format exactly_releaseDescriptor (fun _ _ => marshalReleaseDescriptor_ok_iff)
    (fun _ _ => unmarshalReleaseDescriptor_ok_iff) fun _ _ hvalid => ⟨trivial, hvalid⟩

/-- A descriptor that is read is written again as it was. -/
theorem marshal_unmarshalReleaseDescriptor (h : unmarshalReleaseDescriptor wire = .ok descriptor) :
    marshalReleaseDescriptor descriptor = .ok wire := by
  obtain ⟨hread, hvalid⟩ := unmarshalReleaseDescriptor_ok_iff.mp h
  rw [marshalReleaseDescriptor_ok_iff]
  exact ⟨hvalid, ((Exactly.whole exactly_releaseDescriptor).write_parse hread).symm⟩

def releaseDescriptorBytes : ℕ := 320

theorem length_of_unmarshalReleaseDescriptor
    (h : unmarshalReleaseDescriptor wire = .ok descriptor) :
    wire.length = releaseDescriptorBytes := by
  have hread := (unmarshalReleaseDescriptor_ok_iff.mp h).1
  rw [← (Exactly.whole exactly_releaseDescriptor).write_parse hread]
  simp only [descriptorText, ReleaseDescriptor.fields, List.length_append, length_wordBytes,
    Coalition.length_uint64Bytes, length_bigEndianBytes, length_thresholdDescriptorMagic]
  rfl

end

/-! ## Responses -/

section

variable {keccak256 : Bytes → Digest} {response : ThresholdReleaseResponse} {wire : Bytes}

/-- Responses whose signature has the length of one. -/
def signedResponses : Set ThresholdReleaseResponse := {response | response.signature.length = 64}

/-- The text of a response. -/
def responseText (response : ThresholdReleaseResponse) : Bytes :=
  thresholdResponseMagic ++ (wordBytes response.operatorID ++ (uint64Bytes response.point ++
    (wordBytes response.sessionID ++ (wordBytes response.protocolBinding ++
    (wordBytes response.shareDigest ++ (wordBytes response.statementDigest ++
    ((Signature.copy response.signature).1 ++
    (uint32Bytes (BitVec.ofNat 32 response.share.length) ++ response.share))))))))

/-- What a share on the wire may be. -/
def Sendable (share : Bytes) : Prop := share.length ≠ 0 ∧ share.length ≤ maxReleaseShareSize

theorem length_thresholdResponseMagic : thresholdResponseMagic.length = 4 := by decide +kernel

theorem toNat_length_of_sendable {share : Bytes} (h : Sendable share) :
    (BitVec.ofNat 32 share.length).toNat = share.length :=
  toNat_ofNat_length h.2 (by decide)

theorem exactly_thresholdReleaseResponse :
    Exactly readThresholdReleaseResponse
      (fun response => response ∈ signedResponses ∧ Sendable response.share) responseText := by
  intro text response rest
  simp only [readThresholdReleaseResponse, reader_bind_iff, take_iff, failIf_reader_iff,
    readDigest_iff, readUint64_iff, readUint32_iff, readSignature_iff, reader_pure_iff, not_or,
    not_not, not_lt, responseText, List.append_assoc]
  constructor
  · rintro ⟨_, _, ⟨_, h₁⟩, _, _, ⟨hmagic, h₂⟩, _, _, h₃, _, _, h₄, _, _, h₅, _, _, h₆, _, _, h₇,
      _, _, h₈, signature, _, h₉, size, _, h₁₀, _, _, ⟨⟨hsize, hmax⟩, h₁₁⟩, share, _,
      ⟨hlength, h₁₂⟩, rfl, hrest⟩
    rw [toNat_eq_zero.not, ← hlength] at hsize
    rw [← hlength] at hmax
    refine ⟨⟨signature.2, hsize, hmax⟩, ?_⟩
    rw [h₁, hmagic, h₂, h₃, h₄, h₅, h₆, h₇, h₈, h₉, h₁₀, h₁₁, h₁₂, hrest, copy_val,
      eq_ofNat_length hlength]
  · rintro ⟨⟨hsignature, hshare⟩, rfl⟩
    have hlength := toNat_length_of_sendable hshare
    have hcopy : (Signature.copy response.signature).1 = response.signature :=
      congrArg Subtype.val (copy_val ⟨response.signature, hsignature⟩)
    refine ⟨_, _, ⟨length_thresholdResponseMagic, rfl⟩, (), _, ⟨rfl, rfl⟩, _, _, rfl, _, _, rfl,
      _, _, rfl, _, _, rfl, _, _, rfl, _, _, rfl, _, _, rfl, _, _, rfl, (), _, ⟨⟨?_, ?_⟩, rfl⟩,
      response.share, rest, ⟨hlength.symm, rfl⟩, ?_, rfl⟩
    · rw [toNat_eq_zero.not, hlength]
      exact hshare.1
    · rw [hlength]
      exact hshare.2
    · rw [hcopy]

theorem marshalThresholdReleaseResponse_ok_iff :
    marshalThresholdReleaseResponse keccak256 response = .ok wire ↔
      (Sendable response.share ∧ response.shareDigest = keccak256 response.share) ∧
        wire = responseText response := by
  simp only [marshalThresholdReleaseResponse, bind_ok_iff, revertIf_ok_iff, exists_unit,
    pure_ok_iff, not_or, not_not, not_lt, responseText, Sendable, List.append_assoc, and_assoc]
  exact and_congr_right fun _ => and_congr_right fun _ => and_congr_right fun _ => eq_comm

theorem unmarshalThresholdReleaseResponse_ok_iff :
    unmarshalThresholdReleaseResponse keccak256 wire = .ok response ↔
      readThresholdReleaseResponse.whole wire = some response ∧
        response.shareDigest = keccak256 response.share := by
  simp only [unmarshalThresholdReleaseResponse, bind_ok_iff, require_ok_iff, revertIf_ok_iff,
    exists_unit, pure_ok_iff, not_not]
  constructor
  · rintro ⟨_, hread, hdigest, rfl⟩
    exact ⟨hread, hdigest⟩
  · rintro ⟨hread, hdigest⟩
    exact ⟨response, hread, hdigest, rfl⟩

theorem format_thresholdReleaseResponse (keccak256 : Bytes → Digest) :
    Format signedResponses (marshalThresholdReleaseResponse keccak256)
      (unmarshalThresholdReleaseResponse keccak256) :=
  Exactly.format exactly_thresholdReleaseResponse
    (fun _ _ => marshalThresholdReleaseResponse_ok_iff)
    (fun _ _ => unmarshalThresholdReleaseResponse_ok_iff)
    fun _ hsigned hwrites => ⟨⟨hsigned, hwrites.1⟩, hwrites.2⟩

/-- A response that is read is written again as it was. -/
theorem marshal_unmarshalThresholdReleaseResponse
    (h : unmarshalThresholdReleaseResponse keccak256 wire = .ok response) :
    marshalThresholdReleaseResponse keccak256 response = .ok wire := by
  obtain ⟨hread, hdigest⟩ := unmarshalThresholdReleaseResponse_ok_iff.mp h
  obtain ⟨⟨-, hshare⟩, htext⟩ :=
    (Exactly.whole exactly_thresholdReleaseResponse wire response).mp hread
  exact marshalThresholdReleaseResponse_ok_iff.mpr ⟨⟨hshare, hdigest⟩, htext⟩

def maxResponseBytes : ℕ := 240 + maxReleaseShareSize

theorem length_of_unmarshalThresholdReleaseResponse
    (h : unmarshalThresholdReleaseResponse keccak256 wire = .ok response) :
    wire.length ≤ maxResponseBytes := by
  have hread := (unmarshalThresholdReleaseResponse_ok_iff.mp h).1
  obtain ⟨⟨-, -, hmax⟩, rfl⟩ :=
    (Exactly.whole exactly_thresholdReleaseResponse wire response).mp hread
  simp only [responseText, List.length_append, length_wordBytes, Coalition.length_uint64Bytes,
    length_uint32Bytes, length_thresholdResponseMagic, (Signature.copy response.signature).2,
    maxResponseBytes]
  omega

end

/-! ## Requests -/

section

variable {request : SignedRequest} {wire : Bytes}

/-- The text of a request. -/
def requestText (request : SignedRequest) : Bytes :=
  wireMagic ++ ([request.operation] ++
    (uint32Bytes (BitVec.ofNat 32 request.descriptor.length) ++ (request.descriptor ++
    (uint32Bytes (BitVec.ofNat 32 request.ciphertext.length) ++ (request.ciphertext ++
    (wordBytes request.responseDigest ++ (wordBytes request.nonce ++ request.signature.1)))))))

/-- The lengths that a reader accepts. -/
def Bounded (request : SignedRequest) : Prop :=
  request.descriptor.length ≠ 0 ∧ request.descriptor.length ≤ maxDescriptorBytes ∧
    request.ciphertext.length ≤ maxCiphertextBytes

theorem exactly_signedRequest : Exactly readSignedRequest Bounded requestText := by
  intro text request rest
  simp only [readSignedRequest, reader_bind_iff, take_iff, failIf_reader_iff, readDigest_iff,
    readByte_iff, readUint32_iff, readSignature_iff, reader_pure_iff, not_or, not_not, not_lt,
    requestText, List.append_assoc, List.cons_append, List.nil_append]
  constructor
  · rintro ⟨_, _, ⟨_, h₁⟩, _, _, ⟨hmagic, h₂⟩, _, _, h₃, size, _, h₄, _, _, ⟨⟨hsize, hmax⟩, h₅⟩,
      descriptor, _, ⟨hlength, h₆⟩, size', _, h₇, _, _, ⟨hmax', h₈⟩, ciphertext, _,
      ⟨hlength', h₉⟩, _, _, h₁₀, _, _, h₁₁, signature, _, h₁₂, rfl, hrest⟩
    rw [toNat_eq_zero.not, ← hlength] at hsize
    rw [← hlength] at hmax
    rw [← hlength'] at hmax'
    refine ⟨⟨hsize, hmax, hmax'⟩, ?_⟩
    rw [h₁, hmagic, h₂, h₃, h₄, h₅, h₆, h₇, h₈, h₉, h₁₀, h₁₁, h₁₂, hrest, eq_ofNat_length hlength,
      eq_ofNat_length hlength']
  · rintro ⟨⟨hsize, hmax, hmax'⟩, rfl⟩
    have hlength := toNat_ofNat_length hmax (by decide)
    have hlength' := toNat_ofNat_length hmax' (by decide)
    refine ⟨_, _, ⟨length_wireMagic, rfl⟩, (), _, ⟨rfl, rfl⟩, _, _, rfl, _, _, rfl, (), _,
      ⟨⟨?_, ?_⟩, rfl⟩, request.descriptor, _, ⟨hlength.symm, rfl⟩, _, _, rfl, (), _, ⟨?_, rfl⟩,
      request.ciphertext, _, ⟨hlength'.symm, rfl⟩, _, _, rfl, _, _, rfl, request.signature, rest,
      rfl, rfl, rfl⟩
    · rw [toNat_eq_zero.not, hlength]
      exact hsize
    · rw [hlength]
      exact hmax
    · rw [hlength']
      exact hmax'

/-- What a writer asks besides the lengths. -/
def Writable (request : SignedRequest) : Prop :=
  (operationPrepare ≤ request.operation ∧ request.operation ≤ operationAck) ∧
    Bounded request ∧ request.nonce ≠ 0

theorem marshalBinary_ok_iff :
    request.marshalBinary = .ok wire ↔ Writable request ∧ wire = requestText request := by
  simp only [SignedRequest.marshalBinary, bind_ok_iff, revertIf_ok_iff, exists_unit, pure_ok_iff,
    not_or, not_lt, requestText, Writable, Bounded, and_assoc, UInt8.not_lt]
  repeat refine and_congr_right fun _ => ?_
  exact eq_comm

theorem unmarshalSignedRequest_ok_iff :
    unmarshalSignedRequest wire = .ok request ↔ readSignedRequest.whole wire = some request :=
  require_ok_iff

theorem format_signedRequest :
    Format Set.univ SignedRequest.marshalBinary unmarshalSignedRequest := by
  have hdecode (wire : Bytes) (request : SignedRequest) :
      unmarshalSignedRequest wire = .ok request ↔
        readSignedRequest.whole wire = some request ∧ True :=
    unmarshalSignedRequest_ok_iff.trans (and_iff_left trivial).symm
  exact Exactly.format exactly_signedRequest (fun _ _ => marshalBinary_ok_iff) hdecode
    fun _ _ hwrites => ⟨hwrites.2.1, trivial⟩

def maxRequestBytes : ℕ := 141 + maxDescriptorBytes + maxCiphertextBytes

theorem length_of_unmarshalSignedRequest (h : unmarshalSignedRequest wire = .ok request) :
    wire.length ≤ maxRequestBytes := by
  obtain ⟨⟨-, hmax, hmax'⟩, rfl⟩ :=
    (Exactly.whole exactly_signedRequest wire request).mp (unmarshalSignedRequest_ok_iff.mp h)
  simp only [requestText, List.length_append, List.length_singleton, length_wordBytes,
    length_uint32Bytes, length_wireMagic, request.signature.2, maxRequestBytes]
  omega

/-! ## What is signed -/

/-- Two requests that differ in nothing that is signed. -/
def SameRequest (request other : SignedRequest) : Prop :=
  request.operation = other.operation ∧ request.descriptor = other.descriptor ∧
    request.ciphertext = other.ciphertext ∧ request.responseDigest = other.responseDigest ∧
    request.nonce = other.nonce

/-- What is hashed when a request is signed. -/
def requestTexts (sha256 : Bytes → Digest) (request : SignedRequest) : Set Bytes :=
  {wireDomain ++ [0, request.operation] ++ wordBytes (sha256 request.descriptor) ++
      wordBytes (sha256 request.ciphertext) ++ wordBytes request.responseDigest ++
      wordBytes request.nonce, request.descriptor, request.ciphertext}

/-- `signedRequestDigest` covers everything but the signature. -/
theorem signedRequestDigest_inj {library : NetworkLibrary} {hashed : Set Bytes}
    {other : SignedRequest} (hinj : hashed.InjOn library.sha256)
    (hmem : requestTexts library.sha256 request ⊆ hashed)
    (hmem' : requestTexts library.sha256 other ⊆ hashed)
    (h : signedRequestDigest library request = signedRequestDigest library other) :
    SameRequest request other := by
  have htexts := hinj (hmem (.inl rfl)) (hmem' (.inl rfl)) h
  simp only [List.append_assoc] at htexts
  have htexts := List.append_cancel_left htexts
  simp only [List.cons_append, List.nil_append, List.cons.injEq, true_and] at htexts
  obtain ⟨hoperation, htexts⟩ := htexts
  obtain ⟨hdescriptor, htexts⟩ := wordBytes_append_inj htexts
  obtain ⟨hciphertext, htexts⟩ := wordBytes_append_inj htexts
  obtain ⟨hresponse, hnonce⟩ := wordBytes_append_inj htexts
  exact ⟨hoperation, hinj (hmem (.inr (.inl rfl))) (hmem' (.inr (.inl rfl))) hdescriptor,
    hinj (hmem (.inr (.inr rfl))) (hmem' (.inr (.inr rfl))) hciphertext, hresponse,
    wordBytes_injective hnonce⟩

end

section

/-- A signature that verifies for both messages is over one message. -/
def OneMessage (verify : Bytes → Bytes → Bytes → Bool)
    (publicKey signature message message' : Bytes) : Prop :=
  verify publicKey message signature = true → verify publicKey message' signature = true →
    message = message'

/-- What is hashed when a response to a descriptor is signed. -/
def responseTexts (keccak256 : Bytes → Digest) (descriptor : ReleaseDescriptor)
    (response : ThresholdReleaseResponse) : Set Bytes :=
  {responseHashed keccak256 descriptor response.operatorID response.point response.shareDigest,
    descriptor.hashed, response.share}

/-- The digest of what a response states. -/
def statementDigest (keccak256 : Bytes → Digest) (descriptor : ReleaseDescriptor)
    (response : ThresholdReleaseResponse) : Digest :=
  thresholdResponseStatementDigest keccak256 descriptor response.operatorID response.point
    response.shareDigest

/-- A response that is in order for a descriptor, but for its signature. -/
structure InOrder (keccak256 : Bytes → Digest) (descriptor : ReleaseDescriptor)
    (response : ThresholdReleaseResponse) : Prop where
  sessionID : response.sessionID = descriptor.sessionID
  protocolBinding : response.protocolBinding = descriptor.protocolBinding
  shareDigest : response.shareDigest = keccak256 response.share
  statementDigest : response.statementDigest = statementDigest keccak256 descriptor response

/-- Two responses that differ in nothing that is signed. -/
def SameStatement (descriptor descriptor' : ReleaseDescriptor)
    (response response' : ThresholdReleaseResponse) : Prop :=
  descriptor = descriptor' ∧ response.operatorID = response'.operatorID ∧
    response.point = response'.point ∧ response.shareDigest = response'.shareDigest

theorem statementDigest_inj {keccak256 : Bytes → Digest}
    {descriptor descriptor' : ReleaseDescriptor} {response response' : ThresholdReleaseResponse}
    (hinj : (responseTexts keccak256 descriptor response ∪
      responseTexts keccak256 descriptor' response').InjOn keccak256)
    (h : statementDigest keccak256 descriptor response =
      statementDigest keccak256 descriptor' response') :
    SameStatement descriptor descriptor' response response' :=
  Coalition.thresholdResponseStatementDigest_inj hinj (.inl (.inr (.inl rfl)))
    (.inr (.inr (.inl rfl))) (.inl (.inl rfl)) (.inr (.inl rfl)) h

/-- Responses that are in order are one where they state one thing under one signature. -/
theorem eq_of_sameStatement {keccak256 : Bytes → Digest}
    {descriptor descriptor' : ReleaseDescriptor} {response response' : ThresholdReleaseResponse}
    (hinj : (responseTexts keccak256 descriptor response ∪
      responseTexts keccak256 descriptor' response').InjOn keccak256)
    (hanswers : InOrder keccak256 descriptor response)
    (hanswers' : InOrder keccak256 descriptor' response')
    (hsignature : response.signature = response'.signature)
    (h : SameStatement descriptor descriptor' response response') :
    descriptor = descriptor' ∧ response = response' := by
  obtain ⟨rfl, hoperator, hpoint, hdigest⟩ := h
  have hshare : response.share = response'.share := by
    apply hinj (.inl (.inr (.inr rfl))) (.inr (.inr (.inr rfl)))
    rw [← hanswers.shareDigest, ← hanswers'.shareDigest, hdigest]
  have hstatement : response.statementDigest = response'.statementDigest := by
    rw [hanswers.statementDigest, hanswers'.statementDigest, statementDigest, statementDigest,
      hoperator, hpoint, hdigest]
  have hsession := hanswers.sessionID.trans hanswers'.sessionID.symm
  have hbinding := hanswers.protocolBinding.trans hanswers'.protocolBinding.symm
  refine ⟨rfl, ?_⟩
  cases response
  cases response'
  simp_all only

/-- **One text for a message.** The three formats are read back as they were written, what is read
is what would be written, and nothing longer or shorter than a text that is read is read; a
descriptor or a response that is read is written again.  Where hashes do not collide, the digests
that are signed cover every field, so that a signature is over one message unless it verifies for
two digests. -/
theorem wire_canonical (library : NetworkLibrary) :
    (Format Set.univ marshalReleaseDescriptor unmarshalReleaseDescriptor ∧
      ∀ wire descriptor, unmarshalReleaseDescriptor wire = .ok descriptor →
        marshalReleaseDescriptor descriptor = .ok wire ∧ wire.length = releaseDescriptorBytes) ∧
    (Format signedResponses (marshalThresholdReleaseResponse library.keccak256)
        (unmarshalThresholdReleaseResponse library.keccak256) ∧
      ∀ wire response, unmarshalThresholdReleaseResponse library.keccak256 wire = .ok response →
        marshalThresholdReleaseResponse library.keccak256 response = .ok wire ∧
          wire.length ≤ maxResponseBytes) ∧
    (Format Set.univ SignedRequest.marshalBinary unmarshalSignedRequest ∧
      ∀ wire request, unmarshalSignedRequest wire = .ok request →
        wire.length ≤ maxRequestBytes) ∧
    (∀ descriptor descriptor',
      ({descriptor.hashed, descriptor'.hashed} : Set Bytes).InjOn library.keccak256 →
        releaseDescriptorDigest library.keccak256 descriptor =
          releaseDescriptorDigest library.keccak256 descriptor' → descriptor = descriptor') ∧
    (∀ descriptor descriptor' response response',
      (responseTexts library.keccak256 descriptor response ∪
          responseTexts library.keccak256 descriptor' response').InjOn library.keccak256 →
        (statementDigest library.keccak256 descriptor response =
            statementDigest library.keccak256 descriptor' response' →
          SameStatement descriptor descriptor' response response') ∧
        (∀ publicKey, OneMessage library.ed25519Verify publicKey response.signature
            (wordBytes response.statementDigest) (wordBytes response'.statementDigest) →
          response.signature = response'.signature →
          InOrder library.keccak256 descriptor response →
          InOrder library.keccak256 descriptor' response' →
          library.ed25519Verify publicKey (wordBytes response.statementDigest)
              response.signature = true →
            library.ed25519Verify publicKey (wordBytes response'.statementDigest)
              response'.signature = true →
            descriptor = descriptor' ∧ response = response')) ∧
    (∀ request other : SignedRequest,
      (requestTexts library.sha256 request ∪ requestTexts library.sha256 other).InjOn
          library.sha256 →
        (signedRequestDigest library request = signedRequestDigest library other →
          SameRequest request other) ∧
        (∀ publicKey, OneMessage library.ed25519Verify publicKey request.signature.1
            (wordBytes (signedRequestDigest library request))
            (wordBytes (signedRequestDigest library other)) →
          request.signature = other.signature →
          verifySignedRequest library request publicKey = true →
            verifySignedRequest library other publicKey = true → SameRequest request other)) := by
  refine ⟨⟨format_releaseDescriptor, ?_⟩, ⟨format_thresholdReleaseResponse _, ?_⟩,
    ⟨format_signedRequest, fun _ _ => length_of_unmarshalSignedRequest⟩, ?_, ?_, ?_⟩
  · intro wire descriptor h
    exact ⟨marshal_unmarshalReleaseDescriptor h, length_of_unmarshalReleaseDescriptor h⟩
  · intro wire response h
    exact ⟨marshal_unmarshalThresholdReleaseResponse h,
      length_of_unmarshalThresholdReleaseResponse h⟩
  · intro descriptor descriptor' hinj h
    exact Coalition.releaseDescriptorDigest_inj hinj (.inl rfl) (.inr rfl) h
  · intro descriptor descriptor' response response' hinj
    refine ⟨statementDigest_inj hinj, ?_⟩
    intro publicKey hone hsignature hanswers hanswers' hverify hverify'
    rw [← hsignature] at hverify'
    have hmessages := wordBytes_injective (hone hverify hverify')
    rw [hanswers.statementDigest, hanswers'.statementDigest] at hmessages
    exact eq_of_sameStatement hinj hanswers hanswers' hsignature
      (statementDigest_inj hinj hmessages)
  · intro request other hinj
    have hdigests : signedRequestDigest library request = signedRequestDigest library other →
        SameRequest request other :=
      signedRequestDigest_inj hinj Set.subset_union_left Set.subset_union_right
    refine ⟨hdigests, ?_⟩
    intro publicKey hone hsignature hverify hverify'
    simp only [verifySignedRequest, Bool.and_eq_true] at hverify hverify'
    rw [← hsignature] at hverify'
    exact hdigests (wordBytes_injective (hone hverify.2 hverify'.2))

end

/-! ### One signature, two messages -/

/-- A signature begins with what is signed. -/
def wireLibrary : NetworkLibrary :=
  { Coalition.sampleLibrary with
    ed25519Verify := fun _ message signature => signature.take 32 = message
    sha256 := Coalition.sampleDigest
    unmarshalCiphertext := .ok }

/-- The response at a point, under the signature of the first one. -/
def wireResponse (point : UInt8) : ThresholdReleaseResponse :=
  { Coalition.sampleResponse point with
    signature := wordBytes (Coalition.sampleResponse 1).statementDigest ++ wordBytes 0 }

def unsignedRequest (nonce : Digest) : SignedRequest where
  operation := operationPrepare
  descriptor := [1]
  ciphertext := [2]
  responseDigest := 0
  nonce := nonce
  signature := .copy []

/-- The request with a nonce, under the signature of the first one. -/
def wireRequest (nonce : Digest) : SignedRequest :=
  { unsignedRequest nonce with
    signature := .copy (wordBytes (signedRequestDigest wireLibrary (unsignedRequest 1)) ++
      wordBytes 0) }

theorem oneMessage_sample (publicKey signature message message' : Bytes) :
    OneMessage wireLibrary.ed25519Verify publicKey signature message message' := by
  intro h h'
  exact (of_decide_eq_true h).symm.trans (of_decide_eq_true h')

theorem inOrder_sample (point : UInt8) :
    InOrder Coalition.sampleDigest Coalition.sampleReleaseDescriptor (wireResponse point) :=
  ⟨rfl, rfl, rfl, rfl⟩

/-- What is hashed of the two responses and of the two requests. -/
def wireTexts : List Bytes :=
  ([1, 2].flatMap fun point =>
    [responseHashed Coalition.sampleDigest Coalition.sampleReleaseDescriptor
      (wireResponse point).operatorID (wireResponse point).point (wireResponse point).shareDigest,
      Coalition.sampleReleaseDescriptor.hashed, (wireResponse point).share]) ++
    [1, 2].flatMap fun nonce =>
      [wireDomain ++ [0, operationPrepare] ++ wordBytes (Coalition.sampleDigest [1]) ++
        wordBytes (Coalition.sampleDigest [2]) ++ wordBytes 0 ++ wordBytes nonce, [1], [2]]

theorem injOn_wireTexts : {text | text ∈ wireTexts}.InjOn Coalition.sampleDigest := by
  have hpairs : ∀ text ∈ wireTexts, ∀ other ∈ wireTexts,
      Coalition.sampleDigest text = Coalition.sampleDigest other → text = other := by
    decide +kernel
  exact fun text htext other hother => hpairs text htext other hother

/-- The signature of one response, and of one request, is of no second one. -/
theorem wire_canonical_sample :
    (wireLibrary.ed25519Verify [] (wordBytes (wireResponse 1).statementDigest)
          (wireResponse 1).signature = true ∧
        wireLibrary.ed25519Verify [] (wordBytes (wireResponse 2).statementDigest)
          (wireResponse 2).signature ≠ true) ∧
      verifySignedRequest wireLibrary (wireRequest 1) (List.replicate 32 1) = true ∧
        verifySignedRequest wireLibrary (wireRequest 2) (List.replicate 32 1) ≠ true := by
  have hlaw := wire_canonical wireLibrary
  have hresponse : wireLibrary.ed25519Verify [] (wordBytes (wireResponse 1).statementDigest)
      (wireResponse 1).signature = true := by
    decide +kernel
  have hrequest : verifySignedRequest wireLibrary (wireRequest 1) (List.replicate 32 1) =
      true := by
    decide +kernel
  refine ⟨⟨hresponse, fun hother => ?_⟩, hrequest, fun hother => ?_⟩
  · have hinj : (responseTexts Coalition.sampleDigest Coalition.sampleReleaseDescriptor
          (wireResponse 1) ∪
        responseTexts Coalition.sampleDigest Coalition.sampleReleaseDescriptor
          (wireResponse 2)).InjOn Coalition.sampleDigest := by
      apply injOn_wireTexts.mono
      rintro text ((rfl | rfl | rfl) | (rfl | rfl | rfl)) <;> simp [wireTexts]
    have hsame := (hlaw.2.2.2.2.1 _ _ _ _ hinj).2 [] (oneMessage_sample _ _ _ _) rfl
      (inOrder_sample 1) (inOrder_sample 2) hresponse hother
    exact absurd (congrArg ThresholdReleaseResponse.point hsame.2) (by decide +kernel)
  · have hinj : (requestTexts Coalition.sampleDigest (wireRequest 1) ∪
        requestTexts Coalition.sampleDigest (wireRequest 2)).InjOn Coalition.sampleDigest := by
      apply injOn_wireTexts.mono
      rintro text ((rfl | rfl | rfl) | (rfl | rfl | rfl)) <;>
        simp [wireTexts, wireRequest, unsignedRequest]
    have hsame := (hlaw.2.2.2.2.2 _ _ hinj).2 (List.replicate 32 1) (oneMessage_sample _ _ _ _)
      rfl hrequest hother
    exact absurd hsame.2.2.2.2 (by decide +kernel)

end Mordant.ThresholdNet
