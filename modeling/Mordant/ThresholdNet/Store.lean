/-
# The one-shot ledger of a networked operator

One record for each protocol binding, and an index from sessions to bindings, changed in
transactions of the embedded database.  A record moves through the lifecycle of one
threshold response and is never removed, so a binding is reserved once and for all.

`Record.Follows` is the lifecycle as an order on records, and `Ledger.Consistent` what
every transaction keeps: the two buckets are a bijection between sessions and records.
Opening a ledger that is consistent always succeeds, and it settles every record that was
between the commit barrier and the acknowledgement.

The buckets hold what the stored bytes decode to.
-/

import Mathlib.Data.List.AList
import Mordant.Coalition.SessionLedger

namespace Mordant.ThresholdNet

open Foundation
open Coalition (Digest)

/-! ## Errors -/

inductive Sentinel
  | invalidDescriptor
  | bindingConsumed
  | sessionExists
  | sessionNotFound
  | invalidTransition
  | terminal
  | corruptLedger
  | databaseNotOpen
  deriving DecidableEq

def Sentinel.text : Sentinel → String
  | .invalidDescriptor => "invalid threshold session descriptor"
  | .bindingConsumed => "threshold protocol binding already consumed"
  | .sessionExists => "threshold session already exists"
  | .sessionNotFound => "threshold session not found"
  | .invalidTransition => "invalid threshold session transition"
  | .terminal => "threshold session is terminal"
  | .corruptLedger => "corrupt threshold one-shot ledger"
  | .databaseNotOpen => "database not open"

/-- An error of the ledger: what it wraps, if anything, and the rest of its text. -/
structure StoreError where
  sentinel : Option Sentinel
  detail : String := ""
  deriving DecidableEq

def StoreError.text (error : StoreError) : String :=
  match error.sentinel with
  | none => error.detail
  | some sentinel => if error.detail = "" then sentinel.text
      else sentinel.text ++ ": " ++ error.detail

/-! ## Records -/

inductive State
  | prepared
  | committed
  | generated
  | released
  | acked
  | abortedPrestart
  | failedTerminal
  deriving DecidableEq

def State.text : State → String
  | .prepared => "PREPARED"
  | .committed => "COMMITTED"
  | .generated => "GENERATED"
  | .released => "RELEASED"
  | .acked => "ACKED"
  | .abortedPrestart => "ABORTED_PRESTART"
  | .failedTerminal => "FAILED_TERMINAL"

/-- Past the commit barrier and not yet settled. -/
def State.InFlight (state : State) : Prop :=
  state = .committed ∨ state = .generated ∨ state = .released

instance (state : State) : Decidable state.InFlight := inferInstanceAs (Decidable (_ ∨ _ ∨ _))

def State.IsTerminal (state : State) : Prop :=
  state = .acked ∨ state = .abortedPrestart ∨ state = .failedTerminal

instance (state : State) : Decidable state.IsTerminal := inferInstanceAs (Decidable (_ ∨ _ ∨ _))

abbrev FailureCode := String

def failureAbortedBeforeCommit : FailureCode := "ABORTED_BEFORE_COMMIT"
def failureGeneration : FailureCode := "GENERATION_FAILED"
def failureRelease : FailureCode := "RELEASE_FAILED"
def failureRestartAfterCommit : FailureCode := "RESTART_AFTER_COMMIT"

def validFailureCode (code : FailureCode) : Bool :=
  code.utf8ByteSize ≠ 0 && code.utf8ByteSize ≤ 64 && code.toList.all fun char =>
    ('A' ≤ char && char ≤ 'Z') || ('0' ≤ char && char ≤ '9') || char = '_'

structure Descriptor where
  sessionID : Digest
  binding : Digest
  coalitionDigest : Digest
  deriving DecidableEq

structure Record where
  version : BitVec 8
  sessionID : Digest
  binding : Digest
  coalitionDigest : Digest
  state : State
  responseDigest : Digest := 0
  failureCode : FailureCode := ""
  createdAtUnixNano : ℤ
  updatedAtUnixNano : ℤ
  deriving DecidableEq

def recordVersion : BitVec 8 := 1

def validateDescriptor (descriptor : Descriptor) : Except StoreError Unit :=
  revertIf (descriptor.sessionID = 0 ∨ descriptor.binding = 0 ∨ descriptor.coalitionDigest = 0)
    ⟨some .invalidDescriptor, "session id, binding and coalition digest are required"⟩

/-- The last check of `validateRecord`: the response and the failure that go with a state. -/
def validateOutcome (record : Record) : Except StoreError Unit :=
  match record.state with
  | .prepared | .committed =>
    revertIf (record.responseDigest ≠ 0 ∨ record.failureCode ≠ "")
      ⟨none, "pre-generation record contains response or failure data"⟩
  | .generated | .released | .acked =>
    revertIf (record.responseDigest = 0 ∨ record.failureCode ≠ "")
      ⟨none, "generated record is missing response digest or has failure data"⟩
  | .abortedPrestart =>
    revertIf (record.responseDigest ≠ 0 ∨ record.failureCode ≠ failureAbortedBeforeCommit)
      ⟨none, "invalid pre-start abort record"⟩
  | .failedTerminal =>
    revertIf (validFailureCode record.failureCode = false ∨
        record.failureCode = failureAbortedBeforeCommit)
      ⟨none, "invalid terminal failure record"⟩

def validateRecord (record : Record) : Except StoreError Unit := do
  revertIf (record.version ≠ recordVersion)
    ⟨none, "unsupported record version " ++ toString record.version.toNat⟩
  validateDescriptor ⟨record.sessionID, record.binding, record.coalitionDigest⟩
  revertIf (record.createdAtUnixNano ≤ 0 ∨ record.updatedAtUnixNano ≤ 0 ∨
      record.updatedAtUnixNano < record.createdAtUnixNano)
    ⟨none, "invalid record timestamps"⟩
  validateOutcome record

def encodeRecord (record : Record) : Except StoreError Record := do
  validateRecord record
  pure record

def decodeRecord (encoded : Record) : Except StoreError Record := do
  (validateRecord encoded).mapError fun error => ⟨some .corruptLedger, error.text⟩
  pure encoded

def timestampAtLeast (now previous : ℤ) : ℤ := if now < previous then previous else now

def transitionError (record : Record) (target : State) : StoreError :=
  ⟨some (if record.state.IsTerminal ∨ record.state.InFlight then .terminal
      else .invalidTransition),
    record.state.text ++ " cannot transition to " ++ target.text⟩

/-! ## The ledger -/

/-- The two buckets of the database. -/
structure Ledger where
  bindings : AList fun _ : Digest => Record := ∅
  sessions : AList fun _ : Digest => Digest := ∅

namespace Ledger

/-- The record of a protocol binding. -/
def record (ledger : Ledger) (binding : Digest) : Option Record := ledger.bindings.lookup binding

/-- The binding of a session. -/
def session (ledger : Ledger) (sessionID : Digest) : Option Digest :=
  ledger.sessions.lookup sessionID

def put (ledger : Ledger) (binding : Digest) (record : Record) : Ledger :=
  { ledger with bindings := ledger.bindings.insert binding record }

def recordBySession (ledger : Ledger) (sessionID : Digest) : Except StoreError Record := do
  let binding ← require ⟨some .sessionNotFound, ""⟩ (ledger.session sessionID)
  let encoded ← require ⟨some .corruptLedger, "session index has no binding record"⟩
    (ledger.record binding)
  let record ← decodeRecord encoded
  revertIf (record.sessionID ≠ sessionID) ⟨some .corruptLedger, "session id mismatch"⟩
  pure record

def get (ledger : Ledger) (sessionID : Digest) : Except StoreError Record := do
  revertIf (sessionID = 0) ⟨some .invalidDescriptor, "empty session id"⟩
  ledger.recordBySession sessionID

/-- `Prepare`, at a time. -/
def prepare (descriptor : Descriptor) (now : ℤ) (ledger : Ledger) :
    Except StoreError (Record × Ledger) := do
  validateDescriptor descriptor
  let record : Record :=
    { version := recordVersion
      sessionID := descriptor.sessionID
      binding := descriptor.binding
      coalitionDigest := descriptor.coalitionDigest
      state := .prepared
      createdAtUnixNano := now
      updatedAtUnixNano := now }
  revertIf ((ledger.session descriptor.sessionID).isSome = true) ⟨some .sessionExists, ""⟩
  revertIf ((ledger.record descriptor.binding).isSome = true) ⟨some .bindingConsumed, ""⟩
  let encoded ← encodeRecord record
  pure (record,
    { ledger.put descriptor.binding encoded with
      sessions := ledger.sessions.insert descriptor.sessionID descriptor.binding })

/-- `mutate`, at a time. -/
def mutate (sessionID : Digest) (change : Record → Except StoreError Record) (now : ℤ)
    (ledger : Ledger) : Except StoreError (Record × Ledger) := do
  revertIf (sessionID = 0) ⟨some .invalidDescriptor, "empty session id"⟩
  let found ← ledger.recordBySession sessionID
  let changed ← change found
  let record := { changed with
    updatedAtUnixNano := timestampAtLeast now changed.updatedAtUnixNano }
  let encoded ← encodeRecord record
  pure (record, ledger.put record.binding encoded)

/-- `transition`, at a time. -/
def transition (sessionID : Digest) (source target : State) (apply : Record → Record) :
    ℤ → Ledger → Except StoreError (Record × Ledger) :=
  mutate sessionID fun record => do
    revertIf (record.state ≠ source) (transitionError record target)
    pure (apply { record with state := target })

def commit (sessionID : Digest) : ℤ → Ledger → Except StoreError (Record × Ledger) :=
  transition sessionID .prepared .committed id

def markGenerated (sessionID responseDigest : Digest) (now : ℤ) (ledger : Ledger) :
    Except StoreError (Record × Ledger) := do
  revertIf (responseDigest = 0) ⟨some .invalidDescriptor, "empty response digest"⟩
  transition sessionID .committed .generated (fun record => { record with responseDigest }) now
    ledger

def markReleased (sessionID : Digest) : ℤ → Ledger → Except StoreError (Record × Ledger) :=
  transition sessionID .generated .released id

def markAcked (sessionID : Digest) : ℤ → Ledger → Except StoreError (Record × Ledger) :=
  transition sessionID .released .acked id

def abortPrepared (sessionID : Digest) : ℤ → Ledger → Except StoreError (Record × Ledger) :=
  transition sessionID .prepared .abortedPrestart fun record =>
    { record with failureCode := failureAbortedBeforeCommit }

def failTerminal (sessionID : Digest) (code : FailureCode) (now : ℤ) (ledger : Ledger) :
    Except StoreError (Record × Ledger) := do
  revertIf (validFailureCode code = false ∨ code = failureAbortedBeforeCommit ∨
      code = failureRestartAfterCommit)
    ⟨some .invalidDescriptor, "invalid post-commit failure code"⟩
  mutate sessionID (fun record => do
    revertIf (¬ record.state.InFlight) (transitionError record .failedTerminal)
    pure { record with state := .failedTerminal, failureCode := code }) now ledger

/-! ## Recovery -/

/-- What recovery makes of a record, at a time. -/
def recovered (now : ℤ) (record : Record) : Record :=
  if record.state.InFlight then
    { record with
      state := .failedTerminal
      failureCode := failureRestartAfterCommit
      updatedAtUnixNano := timestampAtLeast now record.updatedAtUnixNano }
  else record

/-- The check of one entry of the binding bucket. -/
def checkBinding (ledger : Ledger) (key : Digest) (value : Record) : Except StoreError Record := do
  let record ← decodeRecord value
  revertIf (record.binding ≠ key) ⟨some .corruptLedger, "binding key mismatch"⟩
  revertIf (ledger.session record.sessionID ≠ some record.binding)
    ⟨some .corruptLedger, "missing or mismatched session index"⟩
  pure record

/-- The first loop of `initializeAndRecover`: the entries that it will rewrite. -/
def recoveries (ledger : Ledger) (clock : Digest → ℤ) :
    List (Sigma fun _ : Digest => Record) → Except StoreError (List (Digest × Record))
  | [] => pure []
  | ⟨key, value⟩ :: rest => do
    let record ← ledger.checkBinding key value
    let later ← recoveries ledger clock rest
    pure (if record.state.InFlight then (key, recovered (clock key) record) :: later else later)

/-- The second loop: the entries of the session bucket. -/
def checkSessions (ledger : Ledger) :
    List (Sigma fun _ : Digest => Digest) → Except StoreError Unit
  | [] => pure ()
  | ⟨sessionID, binding⟩ :: rest => do
    let encoded ← require ⟨some .corruptLedger, "dangling session index"⟩ (ledger.record binding)
    let record ← decodeRecord encoded
    revertIf (record.sessionID ≠ sessionID) ⟨some .corruptLedger, "aliased session index"⟩
    checkSessions ledger rest

/-- The third loop: what is rewritten. -/
def rewrite (ledger : Ledger) : List (Digest × Record) → Except StoreError Ledger
  | [] => pure ledger
  | (key, record) :: rest => do
    let encoded ← encodeRecord record
    (ledger.put key encoded).rewrite rest

/-- `initializeAndRecover`, with the time at which each entry is settled. The order of the
entries decides only which of several errors is reported. -/
def initializeAndRecover (clock : Digest → ℤ) (ledger : Ledger) : Except StoreError Ledger := do
  let items ← ledger.recoveries clock ledger.bindings.entries
  ledger.checkSessions ledger.sessions.entries
  ledger.rewrite items

end Ledger

end Mordant.ThresholdNet
