/-
# Envelopes

Operators send each other signed envelopes.  A header binds the ceremony, the roster, who sends
what in which round, and the transcript so far.
-/

import Mordant.OneShotCeremony.Codec

namespace Mordant.OneShotCeremony

open Evm Foundation
open Coalition (Digest Word64 uint64Bytes)
open ThresholdNet (uint32Bytes Signature readUint32 readUint64 readDigest readSignature
  reads_uint32 reads_uint64 reads_digest reads_signature)

/-! ## Headers -/

/-- The operations are numbered; a header can name any number. -/
abbrev Operation : Type := BitVec 16

namespace Operation

def invalid : Operation := 0
def crsCommit : Operation := 1
def crsReveal : Operation := 2
def privateShamirShare : Operation := 3
def privateShareReceipt : Operation := 4
def publicKeyShare : Operation := 5
def relinShare : Operation := 6
def galoisShare : Operation := 7

end Operation

def envelopeSchema : Bytes := stringBytes "mordant.fhe-ceremony-envelope/oneshot-v2"
def signatureDomain : Bytes := stringBytes "MordantOneShotEnvelopeSignature/v2"

structure EnvelopeHeader where
  schemaVersion : Bytes
  serializationVersion : BitVec 32
  ceremonyID : Digest
  contextDigest : Digest
  rosterDigest : Digest
  keyScope : Bytes
  keyEpoch : Word64
  senderPoint : Word64
  recipientPoint : Word64
  operation : Operation
  round : BitVec 16
  galoisElement : Word64
  previousTranscriptDigest : Digest
  inputDigest : Digest
  payloadDigest : Digest
  deriving DecidableEq

structure SignedEnvelope where
  header : EnvelopeHeader
  payload : Bytes
  signature : Signature
  deriving DecidableEq

/-- The fields after the key scope. -/
def EnvelopeHeader.fixedFields (h : EnvelopeHeader) : Bytes :=
  uint64Bytes h.keyEpoch ++ (uint64Bytes h.senderPoint ++ (uint64Bytes h.recipientPoint ++
    (uint16Bytes h.operation ++ (uint16Bytes h.round ++ (uint64Bytes h.galoisElement ++
    (wordBytes h.previousTranscriptDigest ++ (wordBytes h.inputDigest ++
    wordBytes h.payloadDigest)))))))

def EnvelopeHeader.signingBytes (h : EnvelopeHeader) : Bytes :=
  fieldBytes signatureDomain ++ (fieldBytes h.schemaVersion ++
    (uint32Bytes h.serializationVersion ++ (wordBytes h.ceremonyID ++
    (wordBytes h.contextDigest ++ (wordBytes h.rosterDigest ++ (fieldBytes h.keyScope ++
    h.fixedFields))))))

/-! ## Signed envelopes -/

section

variable (library : Library) (c : Context)

def validateEnvelopeShape (h : EnvelopeHeader) : Except CeremonyError Unit := do
  revertIf (h.schemaVersion ≠ envelopeSchema ∨ h.serializationVersion ≠ serializationVersion ∨
    h.ceremonyID ≠ c.ceremonyID library ∨ h.contextDigest ≠ c.contextDigest library ∨
    h.rosterDigest ≠ c.rosterDigest library ∨ h.keyScope ≠ stringBytes keyScope ∨
    h.keyEpoch ≠ ephemeralKeyEpoch ∨ h.senderPoint = 0 ∨ h.operation = .invalid ∨
    h.payloadDigest = 0) .binding
  revertIf (c.operator h.senderPoint = none) .binding
  if h.operation = .privateShamirShare then
    revertIf (h.recipientPoint = 0 ∨ c.operator h.recipientPoint = none) .binding
  else revertIf (h.recipientPoint ≠ 0) .binding
  if h.operation = .relinShare then
    revertIf (h.round ≠ 1 ∧ h.round ≠ 2) .binding
  else if h.operation = .galoisShare then
    revertIf (h.round ≠ 1 ∨ h.galoisElement = 0 ∨ h.galoisElement ∉ c.galoisElements) .binding
  else revertIf (h.round ≠ 0 ∨ h.galoisElement ≠ 0) .binding

/-- The header of an operator's own envelope. -/
def ownHeader (sender recipient : Word64) (operation : Operation) (round : BitVec 16)
    (galoisElement : Word64) (previous input : Digest) (payload : Bytes) : EnvelopeHeader where
  schemaVersion := envelopeSchema
  serializationVersion := serializationVersion
  ceremonyID := c.ceremonyID library
  contextDigest := c.contextDigest library
  rosterDigest := c.rosterDigest library
  keyScope := stringBytes keyScope
  keyEpoch := ephemeralKeyEpoch
  senderPoint := sender
  recipientPoint := recipient
  operation
  round
  galoisElement
  previousTranscriptDigest := previous
  inputDigest := input
  payloadDigest := library.sha256 payload

/-- `NewSignedEnvelope`, with a key that may have been dropped. -/
def newSignedEnvelope (key : Option library.SigningKey) (sender recipient : Word64)
    (operation : Operation) (round : BitVec 16) (galoisElement : Word64)
    (previous input : Digest) (payload : Bytes) : Except CeremonyError SignedEnvelope := do
  let identity ← require .signature (c.operator sender)
  let key ← require .signature key
  revertIf (library.publicKey key ≠ identity.signingPublicKey ∨ payload.length = 0) .signature
  let header := ownHeader library c sender recipient operation round galoisElement previous input
    payload
  validateEnvelopeShape library c header
  pure ⟨header, payload, library.sign key header.signingBytes⟩

/-- The loop over the operators of `VerifySignedEnvelope`. -/
def envelopeSigner (message : Bytes) (signature : Signature) :
    Word64 → List OperatorIdentity → Except CeremonyError Word64
  | signer, [] => .ok signer
  | signer, operator :: rest =>
    if library.verify operator.signingPublicKey message signature then do
      revertIf (signer ≠ 0) .signature
      envelopeSigner message signature operator.point rest
    else envelopeSigner message signature signer rest

def verifySignedEnvelope (e : SignedEnvelope) : Except CeremonyError Word64 := do
  (validateEnvelopeShape library c e.header).mapError fun _ => .binding
  revertIf (e.payload.length = 0 ∨ library.sha256 e.payload ≠ e.header.payloadDigest) .binding
  let signer ← envelopeSigner library e.header.signingBytes e.signature 0 c.operators
  revertIf (signer = 0 ∨ signer ≠ e.header.senderPoint) .signature
  pure signer

def SignedEnvelope.marshalBinary (e : SignedEnvelope) : Option Bytes :=
  if e.payload.length = 0 ∨ library.sha256 e.payload ≠ e.header.payloadDigest then none
  else some (fieldBytes envelopeSchema ++ (fieldBytes e.header.signingBytes ++
    (fieldBytes e.payload ++ e.signature.1)))

end

/-! ## Reading envelopes -/

/-- `parseEnvelopeHeader`. -/
def readEnvelopeHeader : Reader UInt8 EnvelopeHeader := do
  readMagic signatureDomain
  let schemaVersion ← readField
  let serializationVersion ← readUint32
  let ceremonyID ← readDigest
  let contextDigest ← readDigest
  let rosterDigest ← readDigest
  let keyScope ← readField
  let keyEpoch ← readUint64
  let senderPoint ← readUint64
  let recipientPoint ← readUint64
  let operation ← readUint16
  let round ← readUint16
  let galoisElement ← readUint64
  let previousTranscriptDigest ← readDigest
  let inputDigest ← readDigest
  let payloadDigest ← readDigest
  pure
    { schemaVersion, serializationVersion, ceremonyID, contextDigest, rosterDigest, keyScope,
      keyEpoch, senderPoint, recipientPoint, operation, round, galoisElement,
      previousTranscriptDigest, inputDigest, payloadDigest }

def readSignedEnvelope : Reader UInt8 SignedEnvelope := do
  readMagic envelopeSchema
  let header ← readField.nested readEnvelopeHeader.whole
  let payload ← readField
  let signature ← readSignature
  pure ⟨header, payload, signature⟩

def parseSignedEnvelope (library : Library) : Bytes → Option SignedEnvelope :=
  readSignedEnvelope.reencoded (SignedEnvelope.marshalBinary library)

/-- The envelopes that an operator makes or accepts. -/
def signedEnvelopes (library : Library) (c : Context) : Set SignedEnvelope :=
  {e | Short e.payload ∧ ((∃ key sender recipient operation round galoisElement previous input
      payload, newSignedEnvelope library c key sender recipient operation round galoisElement
        previous input payload = .ok e) ∨
    ∃ signer, verifySignedEnvelope library c e = .ok signer)}

section

variable {library : Library} {c : Context} {h : EnvelopeHeader} {e : SignedEnvelope}

theorem short_envelopeSchema : Short envelopeSchema := by decide +kernel

theorem short_signatureDomain : Short signatureDomain := by decide +kernel

theorem short_keyScope : Short (stringBytes keyScope) := by decide +kernel

/-- The texts of a header that has the shape of the ceremony. -/
theorem texts_of_shape (hshape : validateEnvelopeShape library c h = .ok ()) :
    h.schemaVersion = envelopeSchema ∧ h.keyScope = stringBytes keyScope := by
  obtain ⟨_, hfirst, -⟩ := bind_ok_iff.mp hshape
  simp only [revertIf_ok_iff, not_or, not_not] at hfirst
  exact ⟨hfirst.1, hfirst.2.2.2.2.2.1⟩

theorem EnvelopeHeader.length_fixedFields (h : EnvelopeHeader) : h.fixedFields.length = 132 := by
  simp only [fixedFields, List.length_append, length_wordBytes, Coalition.length_uint64Bytes,
    length_uint16Bytes]

theorem EnvelopeHeader.short_signingBytes
    (hshape : validateEnvelopeShape library c h = .ok ()) : Short h.signingBytes := by
  obtain ⟨hschema, hscope⟩ := texts_of_shape hshape
  have htexts : (fieldBytes signatureDomain ++ (fieldBytes envelopeSchema ++
      fieldBytes (stringBytes OneShotCeremony.keyScope))).length < 200 := by decide +kernel
  rw [Short, signingBytes, hschema, hscope]
  simp only [List.length_append, length_wordBytes, ThresholdNet.length_uint32Bytes,
    h.length_fixedFields] at htexts ⊢
  exact lt_of_lt_of_le (b := 500) (by linarith only [htexts]) (by decide)

theorem reads_envelopeHeader (hshape : validateEnvelopeShape library c h = .ok ()) :
    Reads readEnvelopeHeader h.signingBytes h := by
  obtain ⟨hschema, hscope⟩ := texts_of_shape hshape
  refine (reads_magic short_signatureDomain).bind ((reads_field_bytes ?_).bind ?_)
  · exact hschema ▸ short_envelopeSchema
  refine (reads_uint32 _).bind ((reads_digest _).bind ((reads_digest _).bind ?_))
  refine (reads_digest _).bind ((reads_field_bytes ?_).bind ?_)
  · exact hscope ▸ short_keyScope
  refine (reads_uint64 _).bind ((reads_uint64 _).bind ((reads_uint64 _).bind ?_))
  refine (reads_uint16 _).bind ((reads_uint16 _).bind ((reads_uint64 _).bind ?_))
  exact (reads_digest _).bind ((reads_digest _).bind ((reads_digest _).last rfl))

theorem verifySignedEnvelope_shape {signer : Word64}
    (hverify : verifySignedEnvelope library c e = .ok signer) :
    validateEnvelopeShape library c e.header = .ok () ∧
      ¬ (e.payload.length = 0 ∨ library.sha256 e.payload ≠ e.header.payloadDigest) := by
  simp only [verifySignedEnvelope, bind_ok_iff, exists_unit, revertIf_ok_iff,
    mapError_ok_iff] at hverify
  exact ⟨hverify.1, hverify.2.1⟩

/-- What is made or accepted has the shape, and its payload. -/
theorem shape_of_signed (he : e ∈ signedEnvelopes library c) :
    validateEnvelopeShape library c e.header = .ok () ∧
      ¬ (e.payload.length = 0 ∨ library.sha256 e.payload ≠ e.header.payloadDigest) := by
  obtain ⟨-, ⟨key, sender, recipient, operation, round, galoisElement, previous, input, payload,
    hnew⟩ | ⟨signer, hverify⟩⟩ := he
  · simp only [newSignedEnvelope, bind_ok_iff, exists_unit, revertIf_ok_iff, require_ok_iff,
      pure_ok_iff, not_or] at hnew
    obtain ⟨identity, -, key', -, ⟨-, hpayload⟩, hshape, rfl⟩ := hnew
    exact ⟨hshape, not_or.mpr ⟨hpayload, not_not.mpr rfl⟩⟩
  · exact verifySignedEnvelope_shape hverify

theorem signedEnvelope_canonical : Canonical (signedEnvelopes library c)
    (SignedEnvelope.marshalBinary library) (parseSignedEnvelope library) := by
  apply canonical_of_reads
  intro e he
  obtain ⟨hshape, hpayload⟩ := shape_of_signed he
  refine ⟨_, if_neg hpayload, ?_⟩
  refine (reads_magic short_envelopeSchema).bind (Reads.bind (.nested (reads_field_bytes
    (EnvelopeHeader.short_signingBytes hshape)) (reads_envelopeHeader hshape).whole) ?_)
  exact (reads_field_bytes he.1).bind ((reads_signature _).last rfl)

end

end Mordant.OneShotCeremony
