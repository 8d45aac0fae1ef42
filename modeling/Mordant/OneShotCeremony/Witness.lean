/-
# Witness records

Every transition of a ceremony is a statement that names the one before it.  A record is a
statement with signatures: those of all three operators, or of two for an abort.  Whoever holds
a record writes it as one text, which is read back as that record.
-/

import Mordant.OneShotCeremony.Codec

namespace Mordant.OneShotCeremony

open Evm Foundation
open Coalition (Digest Word64 uint64Bytes)
open ThresholdNet (uint32Bytes Signature readUint32 readUint64 readDigest readSignature
  reads_uint32 reads_uint64 reads_digest reads_signature)

/-! ## Statements and records -/

def witnessSchema : Bytes := stringBytes "mordant.fhe-ceremony-witness/oneshot-v2"

structure WitnessStatement where
  schemaVersion : Bytes
  ceremonyID : Digest
  contextDigest : Digest
  rosterDigest : Digest
  sequence : Word64
  previousDigest : Digest
  fromPhase : Phase
  toPhase : Phase
  step : BitVec 32
  transcriptDigest : Digest
  materialDigest : Digest
  reasonDigest : Digest
  deriving DecidableEq

structure WitnessSignature where
  point : Word64
  signature : Signature
  deriving DecidableEq

structure WitnessRecord where
  statement : WitnessStatement
  signatures : List WitnessSignature
  deriving DecidableEq

namespace WitnessStatement

/-- The fields behind the schema. -/
def fixedFields (s : WitnessStatement) : Bytes :=
  wordBytes s.ceremonyID ++ (wordBytes s.contextDigest ++ (wordBytes s.rosterDigest ++
    (uint64Bytes s.sequence ++ (wordBytes s.previousDigest ++ (uint16Bytes s.fromPhase ++
    (uint16Bytes s.toPhase ++ (uint32Bytes s.step ++ (wordBytes s.transcriptDigest ++
    (wordBytes s.materialDigest ++ wordBytes s.reasonDigest)))))))))

def marshalBinary (s : WitnessStatement) : Option Bytes :=
  if s.schemaVersion ≠ witnessSchema ∨ anyZero [s.ceremonyID, s.contextDigest, s.rosterDigest] ∨
    s.sequence = 0 then none
  else some (fieldBytes witnessSchema ++ (fieldBytes s.schemaVersion ++ s.fixedFields))

def digest (library : Library) (s : WitnessStatement) : Digest :=
  match s.marshalBinary with
  | none => 0
  | some encoded => library.hashDomain "MordantOneShotWitnessStatement/v1" [encoded]

end WitnessStatement

/-- `parseWitnessStatement`. -/
def readWitnessStatement : Reader UInt8 WitnessStatement := do
  readMagic witnessSchema
  let schemaVersion ← readField
  let ceremonyID ← readDigest
  let contextDigest ← readDigest
  let rosterDigest ← readDigest
  let sequence ← readUint64
  let previousDigest ← readDigest
  let fromPhase ← readUint16
  let toPhase ← readUint16
  let step ← readUint32
  let transcriptDigest ← readDigest
  let materialDigest ← readDigest
  let reasonDigest ← readDigest
  pure
    { schemaVersion, ceremonyID, contextDigest, rosterDigest, sequence, previousDigest,
      fromPhase, toPhase, step, transcriptDigest, materialDigest, reasonDigest }

/-! ## Records -/

/-- A point and a signature, as in a record of the witness chain or of a status. -/
def pointBytes (point : Word64) (signature : Signature) : Bytes :=
  uint64Bytes point ++ signature.1

def readWitnessSignature : Reader UInt8 WitnessSignature := do
  let point ← readUint64
  let signature ← readSignature
  pure ⟨point, signature⟩

namespace WitnessRecord

def magic : Bytes := stringBytes "MordantOneShotWitnessRecord/v1"

def marshalBinary (record : WitnessRecord) : Option Bytes :=
  record.statement.marshalBinary.map fun statement =>
    fieldBytes magic ++ (fieldBytes statement ++
      (uint32Bytes (BitVec.ofNat 32 record.signatures.length) ++
        record.signatures.flatMap fun s => pointBytes s.point s.signature))

end WitnessRecord

def readWitnessRecord : Reader UInt8 WitnessRecord := do
  readMagic WitnessRecord.magic
  let statement ← readField.nested readWitnessStatement.whole
  let signatures ← readMany threshold partyCount readWitnessSignature
  pure ⟨statement, signatures⟩

def parseWitnessRecord : Bytes → Option WitnessRecord :=
  readWitnessRecord.reencoded WitnessRecord.marshalBinary

section

variable (library : Library) (c : Context)

/-- The loop of `VerifyWitnessRecord`. The points ascend, so that none was seen before. -/
def verifyWitnessSignatures (digest : Digest) :
    Option Word64 → List WitnessSignature → Except CeremonyError Unit
  | _, [] => .ok ()
  | previous, signature :: rest => do
    revertIf (signature.point = 0 ∨ previous.any (signature.point ≤ ·)) .signature
    let operator ← require .signature (c.operator signature.point)
    revertIf (library.verify operator.signingPublicKey (wordBytes digest) signature.signature =
      false) .signature
    verifyWitnessSignatures digest (some signature.point) rest

/-- How many signatures a statement needs. -/
def requiredSignatures (phase : Phase) : ℕ := if phase = .aborted then threshold else partyCount

def verifyWitnessRecord (record : WitnessRecord) : Except CeremonyError Unit := do
  revertIf (record.statement.schemaVersion ≠ witnessSchema ∨
    record.statement.ceremonyID ≠ c.ceremonyID library ∨
    record.statement.contextDigest ≠ c.contextDigest library ∨
    record.statement.rosterDigest ≠ c.rosterDigest library) .binding
  revertIf (record.signatures.length < requiredSignatures record.statement.toPhase ∨
    partyCount < record.signatures.length) .signature
  verifyWitnessSignatures library c (record.statement.digest library) none record.signatures

/-- `SignWitnessStatement`, with a key that may have been dropped. -/
def signWitnessStatement (s : WitnessStatement) (point : Word64)
    (key : Option library.SigningKey) : Except CeremonyError WitnessSignature := do
  let key ← require .signature key
  revertIf (s.digest library = 0) .signature
  pure ⟨point, library.sign key (wordBytes (s.digest library))⟩

def assembleWitnessRecord (s : WitnessStatement) (signatures : List WitnessSignature) :
    Except CeremonyError WitnessRecord := do
  let record : WitnessRecord := ⟨s, signatures.mergeSort (·.point ≤ ·.point)⟩
  verifyWitnessRecord library c record
  pure record

/-- The records that are assembled of what operators signed. -/
def assembledRecords : Set WitnessRecord :=
  {record | ∃ s signatures, (∀ signature ∈ signatures, ∃ point key,
      signWitnessStatement library s point key = .ok signature) ∧
    assembleWitnessRecord library c s signatures = .ok record}

end

/-! ## What is read back -/

section

variable {library : Library} {c : Context} {s : WitnessStatement} {record : WitnessRecord}

theorem short_witnessSchema : Short witnessSchema := by decide +kernel

theorem short_recordMagic : Short WitnessRecord.magic := by decide +kernel

theorem WitnessStatement.length_fixedFields (s : WitnessStatement) :
    s.fixedFields.length = 240 := by
  simp only [fixedFields, List.length_append, length_wordBytes, Coalition.length_uint64Bytes,
    ThresholdNet.length_uint32Bytes, length_uint16Bytes]

theorem reads_witnessStatement {encoded : Bytes} (h : s.marshalBinary = some encoded) :
    Reads readWitnessStatement encoded s := by
  obtain ⟨hwell, h⟩ := Option.ite_none_left_eq_some.mp h
  obtain rfl := Option.some.inj h
  refine (reads_magic short_witnessSchema).bind ((reads_field_bytes ?_).bind ?_)
  · rw [not_not.mp (not_or.mp hwell).1]
    exact short_witnessSchema
  refine (reads_digest _).bind ((reads_digest _).bind ((reads_digest _).bind ?_))
  refine (reads_uint64 _).bind ((reads_digest _).bind ((reads_uint16 _).bind ?_))
  refine (reads_uint16 _).bind ((reads_uint32 _).bind ((reads_digest _).bind ?_))
  exact (reads_digest _).bind ((reads_digest _).last rfl)

theorem WitnessStatement.short_marshalBinary {encoded : Bytes}
    (h : s.marshalBinary = some encoded) : Short encoded := by
  obtain ⟨hwell, h⟩ := Option.ite_none_left_eq_some.mp h
  obtain rfl := Option.some.inj h
  rw [not_not.mp (not_or.mp hwell).1, Short]
  have hschema : (fieldBytes witnessSchema).length < 100 := by decide +kernel
  simp only [List.length_append, s.length_fixedFields, maxCanonicalField]
  omega

/-- A statement that has a digest can be written. -/
theorem WitnessStatement.marshalBinary_of_digest (h : s.digest library ≠ 0) :
    ∃ encoded, s.marshalBinary = some encoded := by
  cases hmarshal : s.marshalBinary with
  | none => exact absurd (by rw [digest, hmarshal]) h
  | some encoded => exact ⟨encoded, rfl⟩

theorem witnessRecord_canonical :
    Canonical (assembledRecords library c) WitnessRecord.marshalBinary parseWitnessRecord := by
  apply canonical_of_reads
  rintro record ⟨s, signatures, hsigned, hassembled⟩
  simp only [assembleWitnessRecord, verifyWitnessRecord, bind_ok_iff, exists_unit,
    revertIf_ok_iff, pure_ok_iff, not_or, not_lt] at hassembled
  obtain ⟨⟨-, ⟨hfewest, hmost⟩, -⟩, rfl⟩ := hassembled
  have htwo : threshold ≤ (signatures.mergeSort fun a b => a.point ≤ b.point).length := by
    refine le_trans ?_ hfewest
    rw [requiredSignatures]
    split <;> decide
  -- whoever signed it saw that it has a digest
  obtain ⟨signature, hsignature⟩ := List.exists_mem_of_length_pos (zero_lt_two.trans_le htwo)
  obtain ⟨point, key, hsign⟩ := hsigned signature (List.mem_mergeSort.mp hsignature)
  simp only [signWitnessStatement, bind_ok_iff, exists_unit, revertIf_ok_iff] at hsign
  obtain ⟨-, -, hdigest, -⟩ := hsign
  obtain ⟨encoded, hencoded⟩ := s.marshalBinary_of_digest hdigest
  refine ⟨_, by rw [WitnessRecord.marshalBinary, hencoded, Option.map_some], ?_⟩
  refine (reads_magic short_recordMagic).bind (Reads.bind (.nested (reads_field_bytes
    (WitnessStatement.short_marshalBinary hencoded)) (reads_witnessStatement hencoded).whole) ?_)
  refine (reads_many htwo hmost (by decide) fun signature _ => ?_).last rfl
  exact (reads_uint64 _).bind ((reads_signature _).last rfl)

end

end Mordant.OneShotCeremony
