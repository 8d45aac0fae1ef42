/-
# The durable ledger of a threshold operator

One file for each operator, changed in transactions.  A session is reserved, which
consumes its commitment, its nullifier and both enrollment digests together, and leaves
the reserved state once, released or failed.

The ledger keeps what it promises: in any sequence of its transactions no identifier is
consumed twice and no session is settled twice.  Whether an operator is protected by it
depends on who calls it.
-/

import Mordant.Evm.Abi
import Mordant.Foundation.Exclusion
import Mordant.Foundation.Call

namespace Mordant.Coalition

open Evm Foundation
open Function (update)

abbrev Digest := Bytes32

/-- `uint64`. -/
abbrev Word64 := BitVec 64

instance lawfulBEq_word64 : LawfulBEq Word64 := inferInstance

/-- What `session_ledger.go` reports. -/
inductive LedgerError
  | sessionConsumed (what : String)
  | sessionUnknown
  | sessionState (from' to' : UInt8)
  | malformedEnrollment
  | corrupt (size : ℕ)
  deriving DecidableEq

def LedgerError.text : LedgerError → String
  | .sessionConsumed what => "session already consumed: " ++ what
  | .sessionUnknown => "session not reserved"
  | .sessionState from' to' => "illegal session state transition: " ++ toString from' ++ " -> " ++
      toString to'
  | .malformedEnrollment => "malformed ciphertext enrollment"
  | .corrupt size => "corrupt session record: " ++ toString size ++ " bytes"

/-- `SessionState`; a stored byte may be any. -/
abbrev SessionState := UInt8

def sessionReserved : SessionState := 1
def sessionReleased : SessionState := 2
def sessionFailed : SessionState := 3

structure SessionRecord where
  state : SessionState
  sessionCommitment : Digest
  sessionNullifier : Digest
  enrollmentDigestA : Digest
  enrollmentDigestB : Digest
  outputsDigest : Digest
  reservedAt : Word64
  settledAt : Word64
  deriving DecidableEq

structure PairedEnrollmentsV5 where
  sessionCommitment : Digest
  sessionNullifier : Digest
  enrollmentDigestA : Digest
  enrollmentDigestB : Digest
  scopeCommitmentA : Digest
  scopeCommitmentB : Digest
  inputCommitmentA : Digest
  inputCommitmentB : Digest
  ciphertextDigestA : Digest
  ciphertextDigestB : Digest
  deriving DecidableEq

/-! ## Records as bytes -/

def uint64Bytes (word : Word64) : Bytes :=
  (List.range 8).map fun i => UInt8.ofNat (word.toNat / 256 ^ (7 - i))

def uint64OfBytes (bytes : Bytes) : Word64 :=
  BitVec.ofNat 64 (bytes.foldl (fun acc b => acc * 256 + b.toNat) 0)

def sessionRecordSize : ℕ := 1 + 32 * 5 + 8 * 2

def encodeSessionRecord (record : SessionRecord) : Bytes :=
  [record.state] ++ wordBytes record.sessionCommitment ++ wordBytes record.sessionNullifier ++
    wordBytes record.enrollmentDigestA ++ wordBytes record.enrollmentDigestB ++
    wordBytes record.outputsDigest ++ uint64Bytes record.reservedAt ++
    uint64Bytes record.settledAt

/-- The next 32 bytes, and what follows them. -/
def readWord (raw : Bytes) : Bytes32 × Bytes := (wordOfBytes (raw.take 32), raw.drop 32)

/-- `decodeSessionRecord`; the fields are copied one after another. -/
def decodeSessionRecord (raw : Bytes) : Except LedgerError SessionRecord := do
  revertIf (raw.length ≠ sessionRecordSize) (.corrupt raw.length)
  let (sessionCommitment, rest) := readWord (raw.drop 1)
  let (sessionNullifier, rest) := readWord rest
  let (enrollmentDigestA, rest) := readWord rest
  let (enrollmentDigestB, rest) := readWord rest
  let (outputsDigest, rest) := readWord rest
  pure
    { state := raw.headD 0
      sessionCommitment, sessionNullifier, enrollmentDigestA, enrollmentDigestB, outputsDigest
      reservedAt := uint64OfBytes (rest.take 8)
      settledAt := uint64OfBytes ((rest.drop 8).take 8) }

theorem length_uint64Bytes (word : Word64) : (uint64Bytes word).length = 8 := by
  rw [uint64Bytes, List.length_map, List.length_range]

theorem uint64OfBytes_uint64Bytes (word : Word64) : uint64OfBytes (uint64Bytes word) = word :=
  ofNat_digits (n := 8) (by norm_num) word

@[simp]
theorem readWord_wordBytes (word : Bytes32) (rest : Bytes) :
    readWord (wordBytes word ++ rest) = (word, rest) := by
  rw [readWord, List.take_left' (length_wordBytes word), List.drop_left' (length_wordBytes word),
    wordOfBytes_wordBytes]

/-- A record is read as it was written. -/
theorem decode_encode (record : SessionRecord) :
    decodeSessionRecord (encodeSessionRecord record) = .ok record := by
  have hlength : (encodeSessionRecord record).length = sessionRecordSize := by
    simp [encodeSessionRecord, sessionRecordSize, length_wordBytes, length_uint64Bytes]
  have hsize : ¬ (encodeSessionRecord record).length ≠ sessionRecordSize := not_not.mpr hlength
  rw [decodeSessionRecord, revertIf, if_neg hsize]
  simp only [encodeSessionRecord, List.append_assoc, List.cons_append, List.nil_append,
    List.headD_cons, List.drop_succ_cons, List.drop_zero, readWord_wordBytes]
  rw [List.take_left' (length_uint64Bytes _), List.drop_left' (length_uint64Bytes _),
    List.take_of_length_le (length_uint64Bytes _).le, uint64OfBytes_uint64Bytes,
    uint64OfBytes_uint64Bytes]
  rfl

/-! ## Transactions -/

/-- The three buckets of a ledger file. -/
structure SessionLedger where
  sessions : Digest → Option Bytes := fun _ => none
  nullifiers : Digest → Option Bytes := fun _ => none
  enrollments : Digest → Option Bytes := fun _ => none

namespace SessionLedger

/-- `sessions.Put`. -/
def putSession (ledger : SessionLedger) (sessionCommitment : Digest) (record : SessionRecord) :
    SessionLedger :=
  { ledger with
    sessions := update ledger.sessions sessionCommitment
      (some (encodeSessionRecord record)) }

def get (ledger : SessionLedger) (sessionCommitment : Digest) :
    Except LedgerError SessionRecord := do
  let raw ← require .sessionUnknown (ledger.sessions sessionCommitment)
  decodeSessionRecord raw

/-- `Reserve`, one transaction. -/
def reserve (paired : PairedEnrollmentsV5) (now : ℤ) (ledger : SessionLedger) :
    Except LedgerError (SessionRecord × SessionLedger) := do
  revertIf (paired.sessionCommitment = 0 ∨ paired.sessionNullifier = 0 ∨
      paired.enrollmentDigestA = 0 ∨ paired.enrollmentDigestB = 0 ∨
      paired.enrollmentDigestA = paired.enrollmentDigestB) .malformedEnrollment
  let record : SessionRecord :=
    { state := sessionReserved
      sessionCommitment := paired.sessionCommitment
      sessionNullifier := paired.sessionNullifier
      enrollmentDigestA := paired.enrollmentDigestA
      enrollmentDigestB := paired.enrollmentDigestB
      outputsDigest := 0
      reservedAt := BitVec.ofInt 64 now
      settledAt := 0 }
  revertIf ((ledger.sessions paired.sessionCommitment).isSome = true)
    (.sessionConsumed "session commitment")
  revertIf ((ledger.nullifiers paired.sessionNullifier).isSome = true)
    (.sessionConsumed "session nullifier")
  forM [paired.enrollmentDigestA, paired.enrollmentDigestB] fun digest =>
    revertIf ((ledger.enrollments digest).isSome = true) (.sessionConsumed "enrollment")
  let commitment := wordBytes paired.sessionCommitment
  let consumed : SessionLedger :=
    { ledger with
      nullifiers := update ledger.nullifiers paired.sessionNullifier (some commitment)
      enrollments := update
        (update ledger.enrollments paired.enrollmentDigestA (some commitment))
        paired.enrollmentDigestB (some commitment) }
  pure (record, consumed.putSession paired.sessionCommitment record)

/-- `transition`, one transaction. -/
def transition (sessionCommitment : Digest) (source target : SessionState)
    (apply : SessionRecord → SessionRecord) (ledger : SessionLedger) :
    Except LedgerError (SessionRecord × SessionLedger) := do
  let raw ← require .sessionUnknown (ledger.sessions sessionCommitment)
  let decoded ← decodeSessionRecord raw
  revertIf (decoded.state ≠ source) (.sessionState decoded.state target)
  let record := apply { decoded with state := target }
  pure (record, ledger.putSession sessionCommitment record)

def markReleased (sessionCommitment outputsDigest : Digest) (now : ℤ) :
    SessionLedger → Except LedgerError (SessionRecord × SessionLedger) :=
  transition sessionCommitment sessionReserved sessionReleased fun record =>
    { record with outputsDigest, settledAt := BitVec.ofInt 64 now }

def markFailed (sessionCommitment : Digest) (now : ℤ) :
    SessionLedger → Except LedgerError (SessionRecord × SessionLedger) :=
  transition sessionCommitment sessionReserved sessionFailed fun record =>
    { record with settledAt := BitVec.ofInt 64 now }

end SessionLedger

/-- A transaction of a ledger. -/
inductive LedgerCall
  | reserve (paired : PairedEnrollmentsV5) (now : ℤ)
  | markReleased (sessionCommitment outputsDigest : Digest) (now : ℤ)
  | markFailed (sessionCommitment : Digest) (now : ℤ)

/-- The session a transaction takes out of the reserved state. -/
def LedgerCall.settles : LedgerCall → Option Digest
  | .reserve _ _ => none
  | .markReleased sessionCommitment _ _ => some sessionCommitment
  | .markFailed sessionCommitment _ => some sessionCommitment

/-! ## What a transaction does -/

section

variable {ledger ledger' : SessionLedger} {paired : PairedEnrollmentsV5} {now : ℤ}
  {record : SessionRecord} {sessionCommitment : Digest}

/-- A reservation finds all four identifiers unused and uses them. -/
theorem reserve_ok (h : ledger.reserve paired now = .ok (record, ledger')) :
    (ledger.sessions paired.sessionCommitment = none ∧
      ledger.nullifiers paired.sessionNullifier = none ∧
      ledger.enrollments paired.enrollmentDigestA = none ∧
      ledger.enrollments paired.enrollmentDigestB = none ∧
      paired.enrollmentDigestA ≠ paired.enrollmentDigestB) ∧
    ledger' = SessionLedger.putSession
      { ledger with
        nullifiers := update ledger.nullifiers paired.sessionNullifier
          (some (wordBytes paired.sessionCommitment))
        enrollments := update
          (update ledger.enrollments paired.enrollmentDigestA
            (some (wordBytes paired.sessionCommitment)))
          paired.enrollmentDigestB (some (wordBytes paired.sessionCommitment)) }
      paired.sessionCommitment record := by
  simp only [SessionLedger.reserve, List.forM_cons, List.forM_nil, bind_ok_iff,
    revertIf_ok_iff, exists_const, pure_ok_iff, Prod.mk.injEq, Option.not_isSome_iff_eq_none,
    not_or] at h
  obtain ⟨⟨-, -, -, -, hne⟩, hsession, hnullifier, ⟨hA, hB, -⟩, hrecord, hledger⟩ := h
  subst hrecord
  exact ⟨⟨hsession, hnullifier, hA, hB, hne⟩, hledger.symm⟩

/-- A transition finds the session in the state it leaves. -/
theorem transition_ok {source target : SessionState} {apply : SessionRecord → SessionRecord}
    (h : ledger.transition sessionCommitment source target apply = .ok (record, ledger')) :
    ∃ before, ledger.get sessionCommitment = .ok before ∧ before.state = source ∧
      record = apply { before with state := target } ∧
      ledger' = ledger.putSession sessionCommitment record := by
  simp only [SessionLedger.transition, bind_ok_iff, require_ok_iff, revertIf_ok_iff, exists_const,
    pure_ok_iff, Prod.mk.injEq, not_not] at h
  obtain ⟨raw, hraw, before, hdecode, hstate, hrecord, hledger⟩ := h
  subst hrecord
  refine ⟨before, ?_, hstate, rfl, hledger.symm⟩
  rw [SessionLedger.get, hraw]
  exact hdecode

end

end Mordant.Coalition
