/-
# The storage of an operator

An operator keeps a witness store and, apart from it, a registry of the sessions it has begun.
Every file is written once, under a name that says what it is for; a write that finds the name
taken fails and changes nothing.  A write can also be refused, or be reported as refused
although the file is there, and a look at the store can fail.
-/

import Mordant.Foundation.Trail
import Mordant.OneShotCeremony.Witness
import Mordant.OneShotCeremony.Status

namespace Mordant.OneShotCeremony

open Evm Foundation
open Coalition (Digest Word64 uint64Bytes)
open ThresholdNet (uint32Bytes Signature)

/-! ## What is stored -/

/-- `ExecutableProvenance`, as far as it is compared. -/
structure ExecutableProvenance where
  sourceRevision : String
  executableSHA256 : Digest
  goVersion : String
  operatingSystem : String
  architecture : String
  deriving DecidableEq

structure AttemptReservation where
  ceremonyID : Digest
  contextDigest : Digest
  rosterDigest : Digest
  sessionBindingDigest : Digest
  scopeOrdinalDigest : Digest
  contextSnapshot : Bytes
  operatorPoint : Word64
  processInstanceDigest : Digest
  bootSessionDigest : Digest
  previousLocalWitnessHead : Digest
  startupProvenance : ExecutableProvenance
  storageBindingDigest : Digest
  signature : Signature
  deriving DecidableEq

inductive TerminalDisposition
  | poisoned
  | aborted
  | completed
  deriving DecidableEq, Repr

structure TerminalTombstone where
  ceremonyID : Digest
  sessionBindingDigest : Digest
  disposition : TerminalDisposition
  witnessEventDigest : Digest
  keyID : Digest
  publishedBundleDigest : Digest
  publicationReceiptDigest : Digest
  deriving DecidableEq

/-- The names of files: the session markers are those of the registry. -/
inductive FileName
  | session (session : Digest)
  | used (ceremony : Digest)
  | scope (scope : Digest)
  | reservation (ceremony : Digest) (point : Word64)
  | generation (ceremony : Digest) (label : String)
  | decision (ceremony : Digest) (sequence : Word64)
  | record (ceremony : Digest) (sequence : Word64)
  | terminal (ceremony : Digest)
  | statusDecision (key : Digest) (sequence : Word64)
  | status (key : Digest) (sequence : Word64) (record : Digest)
  deriving DecidableEq

/-- What files hold, decoded. -/
inductive FileContent
  | session (session ceremony context : Digest) (point : Word64)
  | reservation (reservation : AttemptReservation)
  | generation (ceremony session : Digest) (label : String)
  | decision (statement : Digest) (signature : Signature)
  | record (record : WitnessRecord)
  | terminal (tombstone : TerminalTombstone)
  | status (record : StatusRecord)
  deriving DecidableEq

/-- The files, in the order in which they were written. -/
abbrev WitnessStore : Type := List (FileName × FileContent)

namespace WitnessStore

def find (store : WitnessStore) (name : FileName) : Option FileContent := store.lookup name

/-- The sequences of the records of a ceremony, with what their files hold. -/
def recordFiles (store : WitnessStore) (ceremony : Digest) : List (Word64 × FileContent) :=
  store.filterMap fun
    | (.record ceremony' sequence, content) =>
      if ceremony' = ceremony then some (sequence, content) else none
    | _ => none

/-- The record in a file. -/
def parseRecord (ceremony : Digest) : FileContent → Except CeremonyError WitnessRecord
  | .record record =>
    if record.statement.ceremonyID = ceremony then .ok record else .error .persistence
  | _ => .error .persistence

def records (store : WitnessStore) (ceremony : Digest) :
    Except CeremonyError (List WitnessRecord) := do
  let files := (store.recordFiles ceremony).mergeSort fun a b => a.1 ≤ b.1
  let records ← files.mapM fun file => parseRecord ceremony file.2
  revertIf (∃ entry ∈ records.zipIdx,
    entry.1.statement.sequence ≠ BitVec.ofNat 64 (entry.2 + 1)) .persistence
  pure records

/-- What is sorted of a status file: its sequence and the digest of its record. -/
abbrev StatusName : Type := Word64 × Digest

/-- The order of the names of status files. -/
def StatusName.le (a b : StatusName) : Bool := a.1 < b.1 || (a.1 = b.1 && a.2 ≤ b.2)

/-- The status files of a key. -/
def statusFiles (store : WitnessStore) (key : Digest) : List (StatusName × FileContent) :=
  store.filterMap fun
    | (.status key' sequence record, content) =>
      if key' = key then some ((sequence, record), content) else none
    | _ => none

/-- The loop of `StatusRecords`. -/
def statusChain (library : Library) (c : Context) (previous : KeyStatusStatement) :
    List (StatusName × FileContent) → Except CeremonyError (List StatusRecord)
  | [] => .ok []
  | (name, .status record) :: rest => do
    (verifyStatusRecord library c previous record).mapError fun _ => .persistence
    revertIf (name.2 ≠ record.digest library) .persistence
    let records ← statusChain library c record.statement rest
    pure (record :: records)
  | _ => .error .persistence

def statusRecords (library : Library) (c : Context) (store : WitnessStore)
    (initial : KeyStatusStatement) : Except CeremonyError (List StatusRecord) := do
  revertIf (initial.keyID = 0) .persistence
  let _ ← store.records (c.ceremonyID library)
  statusChain library c initial
    ((store.statusFiles initial.keyID).mergeSort fun a b => StatusName.le a.1 b.1)

end WitnessStore

/-! ## Disks -/

/-- What becomes of a write, or of a look. -/
inductive Fate
  | done
  | refused
  | unsynced
  deriving DecidableEq, Repr

/-- The files, and what becomes of the writes and looks to come. -/
structure Disk where
  store : WitnessStore := []
  fates : List Fate := []

/-- A program of an operator on its disk. -/
abbrev Stored (α : Type) : Type := Durable Disk CeremonyError α

namespace Disk

def fate (d : Disk) : Fate := d.fates.headD .done

/-- One write, of a name that is free. -/
def write (name : FileName) (content : FileContent) (d : Disk) : Disk :=
  { store := if d.store.find name = none ∧ d.fate ≠ .refused then d.store ++ [(name, content)]
      else d.store
    fates := d.fates.tail }

end Disk

def writeNoReplace (name : FileName) (content : FileContent) : Stored Unit := do
  let written ← Durable.reads fun d => .ok (d.store.find name = none ∧ d.fate = .done : Bool)
  Durable.modify (Disk.write name content)
  Durable.throwIf (written = false) .persistence

/-- `writeNoReplace`, whose failure is reported as a replay. -/
def writeOnce (name : FileName) (content : FileContent) : Stored Unit :=
  (writeNoReplace name content).rescue fun _ => Durable.lift (.error .replay)

section

variable {R : Disk → Disk → Prop} {d : Disk} {name : FileName} {content : FileContent}

/-- A write succeeds where the name is free and nothing goes wrong. -/
def Disk.writes (name : FileName) (d : Disk) : Prop := d.store.find name = none ∧ d.fate = .done

theorem trail_writeNoReplace {Q : Except CeremonyError Unit → Disk → Prop} :
    Durable.Trail R Q (writeNoReplace name content) d ↔ R d (d.write name content) ∧
      (d.writes name → Q (.ok ()) (d.write name content)) ∧
      (¬ d.writes name → Q (.error .persistence) (d.write name content)) := by
  simp only [writeNoReplace, Durable.trail_bind, Durable.trail_reads, Durable.trail_modify,
    Durable.trail_throwIf, decide_eq_false_iff_not, Disk.writes, not_not]
  exact and_congr_right fun _ => and_comm

theorem trail_writeOnce {Q : Except CeremonyError Unit → Disk → Prop} :
    Durable.Trail R Q (writeOnce name content) d ↔ R d (d.write name content) ∧
      (d.writes name → Q (.ok ()) (d.write name content)) ∧
      (¬ d.writes name → Q (.error .replay) (d.write name content)) := by
  simp only [writeOnce, Durable.trail_rescue, trail_writeNoReplace, Durable.trail_lift]

/-- What a write makes of the files. -/
theorem Disk.write_store (name : FileName) (content : FileContent) (d : Disk) :
    (d.write name content).store = d.store ∨
      d.store.find name = none ∧ (d.write name content).store = d.store ++ [(name, content)] := by
  rw [Disk.write]
  split
  · next h => exact .inr ⟨h.1, rfl⟩
  · exact .inl rfl

theorem Disk.write_store_of_writes (h : d.writes name) :
    (d.write name content).store = d.store ++ [(name, content)] := by
  refine if_pos ⟨h.1, ?_⟩
  rw [h.2]
  decide

end

section

variable {store : WitnessStore} {name other : FileName} {content : FileContent}

theorem WitnessStore.find_append (store : WitnessStore) (name other : FileName)
    (content : FileContent) : WitnessStore.find (store ++ [(name, content)]) other =
      (store.find other).or (if other = name then some content else none) := by
  rw [WitnessStore.find, List.lookup_append, WitnessStore.find, List.lookup_cons]
  by_cases h : other = name
  · rw [if_pos h, beq_iff_eq.mpr h]
  · rw [if_neg h, beq_eq_false_iff_ne.mpr h, List.lookup_nil]

/-- What is there stays as it is. -/
theorem WitnessStore.find_append_of_some {found : FileContent} (h : store.find other = some found)
    (name : FileName) (content : FileContent) :
    WitnessStore.find (store ++ [(name, content)]) other = some found := by
  rw [find_append, h, Option.some_or]

end

/-! ## What is done with the storage -/

section

variable (library : Library) (c : Context)

def signKeyStatus (previous s : KeyStatusStatement) (point : Word64) (key : library.SigningKey) :
    Stored StatusSignature := do
  let identity ← Durable.lift (require .signature (c.operator point))
  Durable.throwIf (s.digest library = 0 ∨
    validateStatusTransition library previous s ≠ .ok () ∨
    library.publicKey key ≠ identity.signingPublicKey) .signature
  let signature : StatusSignature := ⟨point, library.sign key (wordBytes (s.digest library))⟩
  writeOnce (.statusDecision s.keyID s.sequence)
    (.decision (s.digest library) signature.signature)
  pure signature

def appendStatus (previous : KeyStatusStatement) (record : StatusRecord) : Stored Unit := do
  Durable.lift (verifyStatusRecord library c previous record)
  writeOnce (.status record.statement.keyID record.statement.sequence (record.digest library))
    (.status record)

end

end Mordant.OneShotCeremony
