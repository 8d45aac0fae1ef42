/-
# The status of a key

A key is active from the start.  Two of the three operators can end it for good: they sign a
statement that it is revoked or expired, each of them at most one, and whoever holds two
signatures has a record.
-/

import Mordant.OneShotCeremony.Context

namespace Mordant.OneShotCeremony

open Evm Foundation
open Coalition (Digest Word64 uint64Bytes)
open ThresholdNet (uint32Bytes Signature)

inductive KeyStatus
  | active
  | revoked
  | expired
  deriving DecidableEq, Repr

def KeyStatus.code (status : KeyStatus) : UInt8 := UInt8.ofNat (status.ctorIdx + 1)

def statusSchema : String := "mordant.fhe-key-status/oneshot-v2"

structure KeyStatusStatement where
  schemaVersion : String
  keyID : Digest
  sequence : Word64
  status : KeyStatus
  effectiveAt : BitVec 64
  reasonDigest : Digest
  previousDigest : Digest
  deriving DecidableEq

structure StatusSignature where
  point : Word64
  signature : Signature
  deriving DecidableEq

structure StatusRecord where
  statement : KeyStatusStatement
  signatures : List StatusSignature
  deriving DecidableEq

namespace KeyStatusStatement

/-- What `MarshalBinary` refuses. -/
def malformed (s : KeyStatusStatement) : Prop :=
  s.schemaVersion ≠ statusSchema ∨ s.keyID = 0 ∨ s.sequence = 0 ∨ s.effectiveAt.toInt ≤ 0 ∨
    s.reasonDigest = 0

instance (s : KeyStatusStatement) : Decidable s.malformed := inferInstanceAs (Decidable (_ ∨ _))

/-- The fields of a fixed width. -/
def fixedFields (s : KeyStatusStatement) : Bytes :=
  wordBytes s.keyID ++ (uint64Bytes s.sequence ++ ([s.status.code] ++
    (uint64Bytes s.effectiveAt ++ (wordBytes s.reasonDigest ++ wordBytes s.previousDigest))))

/-- `MarshalBinary`, of a statement that is well formed. -/
def encoding (s : KeyStatusStatement) : Bytes :=
  textBytes statusSchema ++ (textBytes s.schemaVersion ++ s.fixedFields)

def digestDomain : String := "MordantOneShotKeyStatusDigest/v1"

/-- What is hashed of a statement. -/
def hashed (s : KeyStatusStatement) : Bytes := textBytes digestDomain ++ fieldBytes s.encoding

def digest (library : Library) (s : KeyStatusStatement) : Digest :=
  if s.malformed then 0 else library.sha256 s.hashed

end KeyStatusStatement

section

variable (library : Library) (c : Context)

def validateStatusTransition (previous s : KeyStatusStatement) : Except CeremonyError Unit :=
  revertIf (previous.digest library = 0 ∨ s.digest library = 0 ∨ s.keyID ≠ previous.keyID ∨
    s.sequence ≠ previous.sequence + 1 ∨ s.previousDigest ≠ previous.digest library ∨
    previous.status ≠ .active ∨ s.status = .active ∨
    s.effectiveAt.toInt < previous.effectiveAt.toInt) .state

/-- The loop of `VerifyStatusRecord`. -/
def verifyStatusSignatures (digest : Digest) :
    Option Word64 → List StatusSignature → Except CeremonyError Unit
  | _, [] => .ok ()
  | last, signature :: rest => do
    let identity ← require .signature (c.operator signature.point)
    revertIf (last.any (signature.point ≤ ·) ∨ library.verify identity.signingPublicKey
      (wordBytes digest) signature.signature = false) .signature
    verifyStatusSignatures digest (some signature.point) rest

def verifyStatusRecord (previous : KeyStatusStatement) (record : StatusRecord) :
    Except CeremonyError Unit := do
  validateStatusTransition library previous record.statement
  revertIf (record.signatures.length < threshold ∨ partyCount < record.signatures.length) .state
  verifyStatusSignatures library c (record.statement.digest library) none record.signatures

end

namespace StatusRecord

/-- A signature and its point. -/
def signatureBytes (signature : StatusSignature) : Bytes :=
  uint64Bytes signature.point ++ signature.signature.1

/-- What is hashed of a record: unlike the digest of an event, the signatures are part of it. -/
def hashed (record : StatusRecord) : Bytes :=
  textBytes "MordantOneShotStatusRecordDigest/v1" ++
    fieldBytes (textBytes "MordantOneShotStatusRecord/v1" ++
      (fieldBytes record.statement.encoding ++
        (uint32Bytes (BitVec.ofNat 32 record.signatures.length) ++
          record.signatures.flatMap signatureBytes)))

def digest (library : Library) (record : StatusRecord) : Digest :=
  if record.statement.malformed ∨ record.signatures.length < threshold ∨
    partyCount < record.signatures.length then 0
  else library.sha256 record.hashed

end StatusRecord

section

variable (library : Library) (c : Context)

/-- The inner loop of `VerifyStatusReplicaAgreement`, along the first replica. -/
def verifyStatusReplica (previous : KeyStatusStatement) :
    List StatusRecord → List StatusRecord → Except CeremonyError Unit
  | [], [] => .ok ()
  | record :: rest, first :: others => do
    (verifyStatusRecord library c previous record).mapError fun _ => .persistence
    revertIf (record.digest library ≠ first.digest library) .persistence
    verifyStatusReplica record.statement rest others
  | _, _ => .error .persistence

def verifyStatusReplicaAgreement (initial : KeyStatusStatement)
    (replicas : List (List StatusRecord)) : Except CeremonyError Unit := do
  revertIf (replicas.length ≠ partyCount ∨ replicas.head?.getD [] = []) .persistence
  let _ ← replicas.mapM fun replica =>
    verifyStatusReplica library c initial replica (replicas.head?.getD [])

end

/-! ## What a record that verifies is -/

section

variable {library : Library} {c : Context} {previous : KeyStatusStatement} {record : StatusRecord}
  {digest : Digest} {last : Option Word64} {signatures : List StatusSignature}

/-- A signature that verifies under the key of the operator at its point. -/
def StatusSignature.Valid (library : Library) (c : Context) (digest : Digest)
    (signature : StatusSignature) : Prop :=
  ∃ operator, c.operator signature.point = some operator ∧
    library.verify operator.signingPublicKey (wordBytes digest) signature.signature = true

theorem verifyStatusSignatures_iff :
    verifyStatusSignatures library c digest last signatures = .ok () ↔
      (∀ signature ∈ signatures, signature.Valid library c digest) ∧
      (last.toList ++ signatures.map StatusSignature.point).IsChain (· < ·) := by
  induction signatures generalizing last with
  | nil =>
      rw [verifyStatusSignatures]
      cases last <;> simp
  | cons signature rest ih =>
      simp only [verifyStatusSignatures, bind_ok_iff, exists_unit, revertIf_ok_iff,
        require_ok_iff, ih, List.forall_mem_cons, StatusSignature.Valid, Bool.not_eq_false,
        not_or]
      rw [List.map_cons, isChain_toList_cons]
      constructor
      · rintro ⟨operator, hoperator, ⟨hbefore, hverify⟩, hrest, hchain⟩
        exact ⟨⟨⟨operator, hoperator, hverify⟩, hrest⟩, hbefore, hchain⟩
      · rintro ⟨⟨⟨operator, hoperator, hverify⟩, hrest⟩, hbefore, hchain⟩
        exact ⟨operator, hoperator, ⟨hbefore, hverify⟩, hrest, hchain⟩

/-- What verifying a record says. -/
structure Attested (library : Library) (c : Context) (previous : KeyStatusStatement)
    (record : StatusRecord) : Prop where
  transition : validateStatusTransition library previous record.statement = .ok ()
  enough : threshold ≤ record.signatures.length
  atMost : record.signatures.length ≤ partyCount
  valid : ∀ signature ∈ record.signatures,
    signature.Valid library c (record.statement.digest library)
  ascending : (record.signatures.map StatusSignature.point).IsChain (· < ·)

theorem verifyStatusRecord_iff :
    verifyStatusRecord library c previous record = .ok () ↔
      Attested library c previous record := by
  simp only [verifyStatusRecord, bind_ok_iff, exists_unit, revertIf_ok_iff, not_or, not_lt,
    verifyStatusSignatures_iff, Option.toList_none, List.nil_append]
  constructor
  · rintro ⟨htransition, ⟨henough, hmost⟩, hvalid, hascending⟩
    exact ⟨htransition, henough, hmost, hvalid, hascending⟩
  · intro h
    exact ⟨h.transition, ⟨h.enough, h.atMost⟩, h.valid, h.ascending⟩

/-- What a transition to the end of a key says. -/
theorem validateStatusTransition_iff {s : KeyStatusStatement} :
    validateStatusTransition library previous s = .ok () ↔
      previous.digest library ≠ 0 ∧ s.digest library ≠ 0 ∧ s.keyID = previous.keyID ∧
        s.sequence = previous.sequence + 1 ∧ s.previousDigest = previous.digest library ∧
        previous.status = .active ∧ s.status ≠ .active ∧
        previous.effectiveAt.toInt ≤ s.effectiveAt.toInt := by
  simp only [validateStatusTransition, revertIf_ok_iff, not_or, not_not, not_lt, ne_eq]

end

end Mordant.OneShotCeremony
