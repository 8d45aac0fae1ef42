/-
# The operation journal of a run

Before an operation of a run does anything it is written down as pending, and it is marked when
it is over.  A restart reads the journal back, checks it, and goes on with the operation that is
pending, at the clock that was fixed for it.

The journal is written as JSON into a new file that is renamed over the old one, so that a crash
leaves the old journal or the new one.  What JSON keeps of a record is all of it but a clock that
is no number: the parameters have a digest, so their numbers are finite.  Parameters that are no
JSON have no digest, and are refused before anything is written.
-/

import Mordant.Script.CanonicalForm

namespace Mordant.Protection.Journal

open Foundation Script

inductive ProductOperationPhase
  | preparing | submittingA | submittingB | finalizing | evaluating | releasing
  | openingRecourse | advancingCure | exporting | retaining | aborted
  deriving DecidableEq

inductive ProductOperationName
  | preparePrivateMatch | submitParticipantA | submitParticipantB
  | finalizeParticipantSubmissions | evaluatePrivateConflict | releaseGovernedResult
  | openRecourseCase | completeCureChronology | exportProtectionEvidence
  | retainProtectionEvidence
  deriving DecidableEq

inductive JournalOutcome
  | pending | completed | reconciled | aborted
  deriving DecidableEq

structure ProductOperationRecord where
  schemaVersion : Text
  operationId : Text
  runId : Text
  sequence : ℕ
  operation : ProductOperationName
  phase : ProductOperationPhase
  immutableParameters : Json
  immutableParametersDigest : Text
  expectedCurrentStage : Text
  expectedTargetStage : Text
  /-- `fixed.nowUnix`. -/
  nowUnix : Option Number
  expectedArtifacts : List Text
  createdAt : Text
  outcome : JournalOutcome
  outcomeReason : Option Text
  terminalAt : Option Text

structure ProductOperationJournal where
  schemaVersion : Text
  runId : Text
  records : List ProductOperationRecord

structure BeginOperation where
  operation : ProductOperationName
  phase : ProductOperationPhase
  immutableParameters : Json
  expectedCurrentStage : Text
  expectedTargetStage : Text
  fixedNowUnix : Option Number
  expectedArtifacts : List Text
  createdAt : Text

/-- How the write of a file ends. -/
inductive Fate
  | returns | crashesBeforeRename | crashesAfterRename
  deriving DecidableEq

/-- What a call ends in: an error, a crash, or a record. -/
abbrev Reply := Except String (Option ProductOperationRecord)

/-- The file of a journal, as it was written last. -/
abbrev File := Option ProductOperationJournal

def recordSchema : Text := lit "mordant.protection-operation/1"
def journalSchema : Text := lit "mordant.protection-operation-journal/1"

/-- A number that JSON has. -/
def isFinite : Number → Bool
  | .finite _ => true
  | _ => false

/-- `JSON.parse(JSON.stringify(record))`: a number that JSON lacks becomes `null`. -/
def ProductOperationRecord.reread (record : ProductOperationRecord) : ProductOperationRecord :=
  { record with nowUnix := record.nowUnix.filter isFinite }

section

variable (digestOf : Json → Except StrictJsonError Text) (runId : Text)

def validateRecord (record : ProductOperationRecord) (sequence : ℕ) : Except String Unit :=
  revertIf (record.schemaVersion ≠ recordSchema ∨ record.runId ≠ runId ∨
      record.sequence ≠ sequence ∨
      (digestOf record.immutableParameters).toOption ≠ some record.immutableParametersDigest ∨
      (record.nowUnix.getD (.ofInt 0)).isSafeInteger = false)
    "Durable operation journal integrity failure"

/-- The loop over the records. -/
def validateRecords : ℕ → List ProductOperationRecord → Except String Unit
  | _, [] => pure ()
  | sequence, record :: rest => do
    validateRecord digestOf runId record sequence
    validateRecords (sequence + 1) rest

def readOperationJournal : File → Except String ProductOperationJournal
  | none => pure ⟨journalSchema, runId, []⟩
  | some written => do
    let journal := { written with records := written.records.map ProductOperationRecord.reread }
    revertIf (journal.schemaVersion ≠ journalSchema ∨ journal.runId ≠ runId)
      "Durable operation journal rejected"
    validateRecords digestOf runId 1 journal.records
    revertIf (∃ record ∈ journal.records.dropLast, record.outcome = .pending)
      "Non-terminal operation is not the journal tail"
    pure journal

/-- `pendingOperation`, of the journal that was read. -/
def ProductOperationJournal.pending (journal : ProductOperationJournal) :
    Option ProductOperationRecord :=
  journal.records.getLast?.filter fun record => record.outcome = .pending

/-- `writeJournal`, and what is returned after it. -/
def writeJournal (file : File) (journal : ProductOperationJournal)
    (record : ProductOperationRecord) : Fate → Reply × File
  | .returns => (.ok (some record), some journal)
  | .crashesBeforeRename => (.ok none, file)
  | .crashesAfterRename => (.ok none, some journal)

/-- An input that asks for the operation that is pending. -/
def Continues (pending : ProductOperationRecord) (input : BeginOperation) : Prop :=
  pending.operation = input.operation ∧ pending.phase = input.phase ∧
    (digestOf input.immutableParameters).toOption = some pending.immutableParametersDigest

instance (pending : ProductOperationRecord) (input : BeginOperation) :
    Decidable (Continues digestOf pending input) := inferInstanceAs (Decidable (_ ∧ _))

/-- What is thrown for another input. Parameters are compared last, and fail where they have no
digest. -/
def notContinued (pending : ProductOperationRecord) (input : BeginOperation) : String :=
  if pending.operation = input.operation ∧ pending.phase = input.phase ∧
      (digestOf input.immutableParameters).toOption.isNone then "StrictJsonError"
  else "Another durable operation requires reconciliation"

/-- `beginOperation`, with the UUID that it draws. -/
def beginOperation (input : BeginOperation) (randomUUID : Text) (fate : Fate) (file : File) :
    Reply × File :=
  match readOperationJournal digestOf runId file with
  | .error error => (.error error, file)
  | .ok journal =>
    match journal.pending, digestOf input.immutableParameters with
    | some pending, _ =>
      if Continues digestOf pending input then (.ok (some pending), file)
      else (.error (notContinued digestOf pending input), file)
    | none, .error _ => (.error "StrictJsonError", file)
    | none, .ok immutableParametersDigest =>
      let record : ProductOperationRecord :=
        { schemaVersion := recordSchema
          operationId := randomUUID
          runId
          sequence := journal.records.length + 1
          operation := input.operation
          phase := input.phase
          immutableParameters := input.immutableParameters
          immutableParametersDigest
          expectedCurrentStage := input.expectedCurrentStage
          expectedTargetStage := input.expectedTargetStage
          nowUnix := input.fixedNowUnix
          expectedArtifacts := input.expectedArtifacts
          createdAt := input.createdAt
          outcome := .pending
          outcomeReason := none
          terminalAt := none }
      writeJournal file { journal with records := journal.records ++ [record] } record fate

/-- The pending record, when its operation is over. -/
def ProductOperationRecord.finished (pending : ProductOperationRecord) (outcome : JournalOutcome)
    (terminalAt : Text) (reason : Option Text) : ProductOperationRecord :=
  { pending with
    phase := if outcome = .aborted then .aborted else pending.phase
    outcome, outcomeReason := reason, terminalAt := some terminalAt }

/-- `finishOperation`, of an outcome that is not pending. -/
def finishOperation (operationId : Text) (outcome : { o : JournalOutcome // o ≠ .pending })
    (terminalAt : Text) (reason : Option Text) (fate : Fate) (file : File) : Reply × File :=
  match readOperationJournal digestOf runId file with
  | .error error => (.error error, file)
  | .ok journal =>
    match journal.pending.filter fun pending => pending.operationId = operationId with
    | none => (.error "Pending operation record was replaced or already terminal", file)
    | some pending =>
      let terminal := pending.finished outcome terminalAt reason
      writeJournal file { journal with records := journal.records.dropLast ++ [terminal] } terminal
        fate

/-- A call on the journal of a run. -/
inductive Call
  | begins (input : BeginOperation) (randomUUID : Text) (fate : Fate)
  | finishes (operationId : Text) (outcome : { o : JournalOutcome // o ≠ .pending })
      (terminalAt : Text) (reason : Option Text) (fate : Fate)

def Call.exec (file : File) : Call → Reply × File
  | .begins input randomUUID fate => beginOperation digestOf runId input randomUUID fate file
  | .finishes operationId outcome terminalAt reason fate =>
      finishOperation digestOf runId operationId outcome terminalAt reason fate file

/-- One call after another. -/
def runCalls (file : File) (calls : List Call) : File :=
  calls.foldl (fun file call => (call.exec digestOf runId file).2) file

end

/-! ## What is kept -/

section

variable {digestOf : Json → Except StrictJsonError Text} {runId : Text} {file : File}
  {journal : ProductOperationJournal} {records : List ProductOperationRecord}
  {record record' pending : ProductOperationRecord} {call : Call} {calls : List Call}
  {before : List ProductOperationRecord} {later : ProductOperationJournal}

/-- A clock that is fixed is a safe integer. -/
def Call.Clocked : Call → Prop
  | .begins input _ _ => ∀ now ∈ input.fixedNowUnix, now.isSafeInteger = true
  | .finishes .. => True

/-- The call draws no such UUID. -/
def Call.Avoids (operationId : Text) : Call → Prop
  | .begins _ randomUUID _ => randomUUID ≠ operationId
  | .finishes .. => True

/-- The file holds this journal, which is read back as it was written. -/
structure Keeps (digestOf : Json → Except StrictJsonError Text) (runId : Text) (file : File)
    (journal : ProductOperationJournal) : Prop where
  written : file = some journal ∨ file = none ∧ journal.records = []
  schemaVersion : journal.schemaVersion = journalSchema
  run : journal.runId = runId
  valid : validateRecords digestOf runId 1 journal.records = .ok ()
  reread : ∀ record ∈ journal.records, record.reread = record
  settled : ∀ record ∈ journal.records.dropLast, record.outcome ≠ .pending

theorem Keeps.reads (h : Keeps digestOf runId file journal) :
    readOperationJournal digestOf runId file = .ok journal := by
  obtain ⟨hwritten, hschema, hrun, hvalid, hreread, hsettled⟩ := h
  rcases hwritten with rfl | ⟨rfl, hempty⟩
  · have hrecords : journal.records.map ProductOperationRecord.reread = journal.records :=
      (List.map_congr_left hreread).trans (List.map_id _)
    simp only [readOperationJournal, hrecords, bind_ok_iff, exists_unit, revertIf_ok_iff,
      pure_ok_iff, not_or, not_not, hvalid, and_true, true_and]
    refine ⟨⟨hschema, hrun⟩, ?_⟩
    rintro ⟨record, hmem, hpending⟩
    exact hsettled record hmem hpending
  · rw [readOperationJournal, ← hschema, ← hrun, ← hempty]
    rfl

theorem validateRecords_concat {sequence : ℕ} :
    validateRecords digestOf runId sequence (records ++ [record]) = .ok () ↔
      validateRecords digestOf runId sequence records = .ok () ∧
        validateRecord digestOf runId record (sequence + records.length) = .ok () := by
  induction records generalizing sequence with
  | nil => simp [validateRecords, pure_ok_iff]
  | cons first rest ih =>
      simp only [List.cons_append, validateRecords, bind_ok_iff, exists_unit, ih,
        List.length_cons, and_assoc]
      rw [Nat.add_right_comm, Nat.add_assoc]

theorem sequence_of_valid {sequence i : ℕ}
    (h : validateRecords digestOf runId sequence records = .ok ())
    (hrecord : records[i]? = some record) : record.sequence = sequence + i := by
  induction records generalizing sequence i with
  | nil => exact nomatch hrecord
  | cons first rest ih =>
      simp only [validateRecords, bind_ok_iff, exists_unit, validateRecord, revertIf_ok_iff,
        not_or, not_not] at h
      cases i with
      | zero =>
          obtain rfl := Option.some.inj hrecord
          exact h.1.2.2.1
      | succ i => rw [ih h.2 hrecord, Nat.add_right_comm, Nat.add_assoc]

/-- The last record is what may be pending. -/
theorem pending_eq_some_iff :
    journal.pending = some pending ↔
      (∃ before, journal.records = before ++ [pending]) ∧ pending.outcome = .pending := by
  rw [ProductOperationJournal.pending, Option.filter_eq_some_iff, decide_eq_true_iff,
    List.getLast?_eq_some_iff]

/-- A record stays, or it was pending and is over. -/
def Lasts (record record' : ProductOperationRecord) : Prop :=
  record' = record ∨ record.outcome = .pending ∧ ∃ outcome terminalAt reason,
    outcome ≠ .pending ∧ record' = record.finished outcome terminalAt reason

/-- Every record is still in its place. -/
def Lasting (records later : List ProductOperationRecord) : Prop :=
  ∀ (i : ℕ) record, records[i]? = some record → ∃ record', later[i]? = some record' ∧
    Lasts record record'

theorem Lasting.refl : Lasting records records := fun _ record h => ⟨record, h, .inl rfl⟩

theorem Lasting.trans {later latest : List ProductOperationRecord} (h : Lasting records later)
    (h' : Lasting later latest) : Lasting records latest := by
  intro i record hrecord
  obtain ⟨record', hrecord', rfl | ⟨hpending, outcome, terminalAt, reason, houtcome, rfl⟩⟩ :=
    h i record hrecord
  · exact h' i _ hrecord'
  · obtain ⟨record', hlatest, rfl | ⟨hover, -⟩⟩ := h' i _ hrecord'
    · exact ⟨_, hlatest, .inr ⟨hpending, outcome, terminalAt, reason, houtcome, rfl⟩⟩
    · exact absurd hover houtcome

/-- Settled records and one more are kept. -/
theorem Keeps.concat (h : Keeps digestOf runId file journal)
    (hvalid : validateRecords digestOf runId 1 before = .ok ())
    (hreread : ∀ record ∈ before, record.reread = record)
    (hsettled : ∀ record ∈ before, record.outcome ≠ .pending)
    (hrecord : validateRecord digestOf runId record (1 + before.length) = .ok ())
    (hlast : record.reread = record) :
    Keeps digestOf runId (some { journal with records := before ++ [record] })
      { journal with records := before ++ [record] } where
  written := .inl rfl
  schemaVersion := h.schemaVersion
  run := h.run
  valid := validateRecords_concat.mpr ⟨hvalid, hrecord⟩
  reread := List.forall_mem_append.mpr ⟨hreread, List.forall_mem_singleton.mpr hlast⟩
  settled := by rwa [List.dropLast_concat]

theorem Keeps.settled_of_none (h : Keeps digestOf runId file journal)
    (hpending : journal.pending = none) :
    ∀ record ∈ journal.records, record.outcome ≠ .pending := by
  rcases List.eq_nil_or_concat' journal.records with hempty | ⟨before, last, hrecords⟩
  · rw [hempty]
    exact fun record hmem => nomatch hmem
  · have hsettled := h.settled
    rw [hrecords, List.dropLast_concat] at hsettled
    rw [hrecords]
    refine List.forall_mem_append.mpr ⟨hsettled, List.forall_mem_singleton.mpr fun hover => ?_⟩
    rw [pending_eq_some_iff.mpr ⟨⟨before, hrecords⟩, hover⟩] at hpending
    exact nomatch hpending

theorem lasting_concat (h : Lasts record record') :
    Lasting (records ++ [record]) (records ++ [record']) := by
  intro i other hother
  rcases lt_or_ge i records.length with hi | hi
  · rw [List.getElem?_append_left hi] at hother ⊢
    exact ⟨other, hother, .inl rfl⟩
  · rw [List.getElem?_append_right hi] at hother ⊢
    obtain ⟨hi, rfl⟩ := List.getElem?_eq_some_iff.mp hother
    rw [List.length_singleton, Nat.lt_one_iff] at hi
    simp only [hi, List.getElem_cons_zero, List.getElem?_cons_zero, Option.some.injEq,
      exists_eq_left', h]

theorem lasting_append : Lasting records (records ++ [record']) := by
  intro i record hrecord
  obtain ⟨hi, -⟩ := List.getElem?_eq_some_iff.mp hrecord
  exact ⟨record, by rwa [List.getElem?_append_left hi], .inl rfl⟩

/-- The pending record, behind the settled ones. -/
theorem Keeps.finish (h : Keeps digestOf runId file journal)
    (hpending : journal.pending = some pending) {outcome : JournalOutcome} {terminalAt : Text}
    {reason : Option Text} (houtcome : outcome ≠ .pending) :
    let records := journal.records.dropLast ++ [pending.finished outcome terminalAt reason]
    Keeps digestOf runId (some { journal with records }) { journal with records } ∧
      Lasting journal.records records := by
  obtain ⟨⟨before, hrecords⟩, hover⟩ := pending_eq_some_iff.mp hpending
  have hvalid := h.valid
  have hreread := h.reread
  have hsettled := h.settled
  rw [hrecords, List.dropLast_concat] at hsettled
  rw [hrecords, validateRecords_concat] at hvalid
  rw [hrecords, List.forall_mem_append] at hreread
  have hclock := congrArg ProductOperationRecord.nowUnix (hreread.2 pending List.mem_cons_self)
  have hfinished : (pending.finished outcome terminalAt reason).reread =
      pending.finished outcome terminalAt reason :=
    congrArg (fun nowUnix => { pending.finished outcome terminalAt reason with nowUnix }) hclock
  simp only [hrecords, List.dropLast_concat]
  exact ⟨h.concat hvalid.1 hreread.1 hsettled hvalid.2 hfinished,
    lasting_concat (.inr ⟨hover, outcome, terminalAt, reason, houtcome, rfl⟩)⟩

/-- A write leaves the old file or the new one. -/
theorem writeJournal_leaves {P : File → Prop} {fate : Fate} (hold : P file)
    (hnew : P (some journal)) : P (writeJournal file journal record fate).2 := by
  cases fate with
  | crashesBeforeRename => exact hold
  | returns => exact hnew
  | crashesAfterRename => exact hnew

theorem pending_of_concat
    (h : { journal with records := before ++ [record] }.pending = some pending) :
    pending = record ∧ record.outcome = .pending := by
  obtain ⟨⟨others, hrecords⟩, hover⟩ := pending_eq_some_iff.mp h
  obtain rfl : record = pending := by simpa using (List.append_inj' hrecords rfl).2
  exact ⟨rfl, hover⟩

/-- The journal of the file after a call: every record is in its place, and what is pending was
pending before or has the UUID that was drawn. -/
def CarriedOver (digestOf : Json → Except StrictJsonError Text) (runId : Text)
    (journal : ProductOperationJournal) (call : Call) (file : File) : Prop :=
  ∃ later, Keeps digestOf runId file later ∧ Lasting journal.records later.records ∧
    ∀ pending, later.pending = some pending →
      journal.pending = some pending ∨ ¬ call.Avoids pending.operationId

theorem Keeps.carriedOver (h : Keeps digestOf runId file journal) :
    CarriedOver digestOf runId journal call file :=
  ⟨journal, h, Lasting.refl, fun _ => .inl⟩

/-- What a call leaves in the file is kept, with every record in its place. -/
theorem exec_carriedOver (h : Keeps digestOf runId file journal) (hclocked : call.Clocked) :
    CarriedOver digestOf runId journal call (call.exec digestOf runId file).2 := by
  cases call with
  | begins input randomUUID fate =>
      simp only [Call.exec, beginOperation, h.reads]
      split
      · split <;> exact h.carriedOver
      · exact h.carriedOver
      · next digest hpending hdigest =>
          refine writeJournal_leaves h.carriedOver ⟨_, h.concat h.valid h.reread
            (h.settled_of_none hpending) ?_ ?_, lasting_append, fun pending hlater => .inr ?_⟩
          · refine revertIf_ok_iff.mpr ?_
            simp only [not_or, not_not, Bool.not_eq_false, hdigest]
            refine ⟨trivial, trivial, Nat.add_comm _ _, rfl, ?_⟩
            cases hnow : input.fixedNowUnix with
            | none => rfl
            | some now => exact hclocked now hnow
          · cases hnow : input.fixedNowUnix with
            | none => simp [ProductOperationRecord.reread]
            | some now =>
                have hsafe := hclocked now hnow
                cases now with
                | finite value => simp [ProductOperationRecord.reread, isFinite]
                | infinite negative => exact nomatch hsafe
                | nan => exact nomatch hsafe
          · rw [(pending_of_concat hlater).1]
            exact not_not.mpr rfl
  | finishes operationId outcome terminalAt reason fate =>
      simp only [Call.exec, finishOperation, h.reads]
      split
      · exact h.carriedOver
      · next pending hpending =>
          obtain ⟨hpending, -⟩ := Option.filter_eq_some_iff.mp hpending
          obtain ⟨hkeeps, hlasting⟩ := h.finish hpending outcome.2
          refine writeJournal_leaves h.carriedOver ⟨_, hkeeps, hlasting, fun other hlater => ?_⟩
          exact absurd (pending_of_concat hlater).2 outcome.2

/-- What every call keeps, after any calls. -/
theorem run_keeps (h : Keeps digestOf runId file journal)
    (hclocked : ∀ call ∈ calls, call.Clocked) :
    ∃ later, Keeps digestOf runId (runCalls digestOf runId file calls) later ∧
      Lasting journal.records later.records ∧ ∀ pending, later.pending = some pending →
        journal.pending = some pending ∨ ∃ call ∈ calls, ¬ call.Avoids pending.operationId := by
  induction calls generalizing file journal with
  | nil => exact ⟨journal, h, Lasting.refl, fun _ => .inl⟩
  | cons call rest ih =>
      obtain ⟨hcall, hrest⟩ := List.forall_mem_cons.mp hclocked
      obtain ⟨middle, hmiddle, hlasting, hdrawn⟩ := exec_carriedOver h hcall
      obtain ⟨later, hlater, hlasting', hdrawn'⟩ := ih hmiddle hrest
      refine ⟨later, hlater, hlasting.trans hlasting', fun pending hpending => ?_⟩
      rcases hdrawn' pending hpending with hmid | ⟨other, hother, hdraws⟩
      · exact (hdrawn pending hmid).imp_right fun hdraws => ⟨call, List.mem_cons_self, hdraws⟩
      · exact .inr ⟨other, List.mem_cons_of_mem _ hother, hdraws⟩

theorem Keeps.eq_of_some (h : Keeps digestOf runId (some journal) later) : later = journal :=
  (Option.some.inj (h.written.resolve_right fun hnone => nomatch hnone.1)).symm

/-- A write that returns leaves the record last. -/
theorem Keeps.of_returned {fate : Fate}
    (h : Keeps digestOf runId (writeJournal file { journal with records := before ++ [record] }
      record fate).2 later)
    (hreply : (writeJournal file { journal with records := before ++ [record] } record fate).1 =
      .ok (some record')) : later.records.getLast? = some record' := by
  cases fate with
  | returns =>
      obtain rfl := Option.some.inj (Except.ok.inj hreply)
      rw [h.eq_of_some]
      exact List.getLast?_concat
  | crashesBeforeRename => exact nomatch hreply
  | crashesAfterRename => exact nomatch hreply

/-- A file whose journal is read, and what calls on it do. -/
structure Faithful (digestOf : Json → Except StrictJsonError Text) (runId : Text) (file : File)
    (journal : ProductOperationJournal) : Prop where
  reads : readOperationJournal digestOf runId file = .ok journal
  sequence : ∀ (i : ℕ) record, journal.records[i]? = some record → record.sequence = i + 1
  tail : ∀ (i : ℕ) record, journal.records[i]? = some record → record.outcome = .pending →
    i + 1 = journal.records.length
  /-- While an operation is pending, only it is begun again, as it was. -/
  resumes : ∀ pending, journal.pending = some pending → ∀ input randomUUID fate,
    beginOperation digestOf runId input randomUUID fate file =
      (if Continues digestOf pending input then .ok (some pending)
        else .error (notContinued digestOf pending input), file)
  /-- Only the operation that is pending is finished. -/
  finishes : ∀ operationId, (∀ pending, journal.pending = some pending →
    pending.operationId ≠ operationId) → ∀ outcome terminalAt reason fate,
    finishOperation digestOf runId operationId outcome terminalAt reason fate file =
      (.error "Pending operation record was replaced or already terminal", file)
  /-- What a call begins or finishes is what the next one reads. -/
  returned : ∀ (call : Call) record, call.Clocked →
    (call.exec digestOf runId file).1 = .ok (some record) → ∃ later,
      readOperationJournal digestOf runId (call.exec digestOf runId file).2 = .ok later ∧
        later.records.getLast? = some record

theorem Keeps.faithful (h : Keeps digestOf runId file journal) :
    Faithful digestOf runId file journal where
  reads := h.reads
  sequence i record hrecord := by rw [sequence_of_valid h.valid hrecord, Nat.add_comm]
  tail i record hrecord hover := by
    by_contra hne
    obtain ⟨hi, hget⟩ := List.getElem?_eq_some_iff.mp hrecord
    have hmem : record ∈ journal.records.dropLast := by
      rw [← hget, ← List.getElem_dropLast (by rw [List.length_dropLast]; omega)]
      exact List.getElem_mem _
    exact h.settled record hmem hover
  resumes pending hpending input randomUUID fate := by
    simp only [beginOperation, h.reads, hpending]
    split <;> rfl
  finishes operationId hother outcome terminalAt reason fate := by
    have hnone : (journal.pending.filter fun pending => pending.operationId = operationId) =
        none := Option.filter_eq_none_iff.mpr fun pending hpending => by
      simpa using hother pending hpending
    simp only [finishOperation, h.reads, hnone]
  returned call record hclocked hreply := by
    obtain ⟨later, hkeeps, -⟩ := exec_carriedOver h hclocked
    refine ⟨later, hkeeps.reads, ?_⟩
    cases call with
    | begins input randomUUID fate =>
        simp only [Call.exec, beginOperation, h.reads] at hkeeps hreply
        split at hreply
        · next pending hpending =>
            simp only [hpending] at hkeeps
            split at hreply
            · next hsame =>
                rw [if_pos hsame] at hkeeps
                obtain rfl := Option.some.inj (Except.ok.inj hreply)
                obtain rfl := Except.ok.inj (hkeeps.reads.symm.trans h.reads)
                exact (Option.filter_eq_some_iff.mp hpending).1
            · exact nomatch hreply
        · exact nomatch hreply
        · next hpending hdigest =>
            simp only [hpending, hdigest] at hkeeps
            exact hkeeps.of_returned hreply
    | finishes operationId outcome terminalAt reason fate =>
        simp only [Call.exec, finishOperation, h.reads] at hkeeps hreply
        split at hreply
        · exact nomatch hreply
        · next pending hpending =>
            simp only [hpending] at hkeeps
            exact hkeeps.of_returned hreply

/-- After an operation is over none is pending. -/
theorem Keeps.over {operationId terminalAt : Text}
    {outcome : { o : JournalOutcome // o ≠ .pending }} {reason : Option Text} {fate : Fate}
    (h : Keeps digestOf runId file journal)
    (hover : (finishOperation digestOf runId operationId outcome terminalAt reason fate file).2 ≠
        file ∨ ∃ record,
      (finishOperation digestOf runId operationId outcome terminalAt reason fate file).1 =
        .ok (some record)) (hlater : Keeps digestOf runId
      (finishOperation digestOf runId operationId outcome terminalAt reason fate file).2 later) :
    later.pending = none := by
  simp only [finishOperation, h.reads] at hover hlater
  split at hlater
  · next hnone => simp [hnone] at hover
  · next pending hpending =>
      simp only [hpending] at hover
      refine Option.eq_none_iff_forall_ne_some.mpr fun other hother => ?_
      cases fate with
      | crashesBeforeRename => simp [writeJournal] at hover
      | returns =>
          rw [hlater.eq_of_some] at hother
          exact outcome.2 (pending_of_concat hother).2
      | crashesAfterRename =>
          rw [hlater.eq_of_some] at hother
          exact outcome.2 (pending_of_concat hother).2

/-- The digest of the parameters of an operation. -/
def parametersDigest (numberText : ℚ → Text) (sha256 : List UInt8 → Text) (value : Json) :
    Except StrictJsonError Text :=
  Script.sha256Digest numberText sha256 (lit "MordantProtectionOperationParameters/v1") value

/-- **The journal of a run is append-only and is read back**, where every clock that is fixed is a
safe integer: after any calls, with a crash at any rename, the journal is read, its records are
numbered, and only the last one is pending; whatever is called next, every record stays in its
place but the pending one when it is over; and what is finished is not finished again, where no
UUID is drawn twice. -/
theorem journal_append_only (numberText : ℚ → Text) (sha256 : List UInt8 → Text)
    (hclocked : ∀ call ∈ calls, call.Clocked) :
    let digestOf := parametersDigest numberText sha256
    let file := runCalls digestOf runId none calls
    ∃ journal, Faithful digestOf runId file journal ∧
      (∀ more, (∀ call ∈ more, call.Clocked) → ∃ later,
        Faithful digestOf runId (runCalls digestOf runId file more) later ∧
          Lasting journal.records later.records) ∧
      ∀ operationId outcome terminalAt reason fate,
        let done := (Call.finishes operationId outcome terminalAt reason fate).exec digestOf runId
          file
        (done.2 ≠ file ∨ ∃ record, done.1 = .ok (some record)) →
        ∀ more, (∀ call ∈ more, call.Clocked ∧ call.Avoids operationId) →
          ∀ outcome terminalAt reason fate, ∃ error,
            ((Call.finishes operationId outcome terminalAt reason fate).exec digestOf runId
              (runCalls digestOf runId done.2 more)).1 = .error error := by
  intro digestOf file
  have hempty : Keeps digestOf runId none ⟨journalSchema, runId, []⟩ :=
    ⟨.inr ⟨rfl, rfl⟩, rfl, rfl, rfl, (fun _ h => nomatch h), (fun _ h => nomatch h)⟩
  obtain ⟨journal, hjournal, -⟩ := run_keeps hempty hclocked
  refine ⟨journal, hjournal.faithful, fun more hmore => ?_, ?_⟩
  · obtain ⟨later, hlater, hlasting, -⟩ := run_keeps hjournal hmore
    exact ⟨later, hlater.faithful, hlasting⟩
  · intro operationId outcome terminalAt reason fate done hover more hmore outcome' terminalAt'
      reason' fate'
    obtain ⟨later, hlater, -⟩ := @exec_carriedOver _ _ _ _
      (.finishes operationId outcome terminalAt reason fate) hjournal trivial
    obtain ⟨last, hlast, -, hdrawn⟩ := run_keeps hlater fun call hcall => (hmore call hcall).1
    refine ⟨_, congrArg Prod.fst (hlast.faithful.finishes operationId (fun pending hpending => ?_)
      outcome' terminalAt' reason' fate')⟩
    rintro rfl
    rcases hdrawn pending hpending with hbefore | ⟨call, hcall, hdraws⟩
    · rw [hjournal.over hover hlater] at hbefore
      exact nomatch hbefore
    · exact hdraws (hmore call hcall).2

end

namespace Sample

/-- The evaluation of a run, at this clock. -/
def evaluation (fixedNowUnix : Number) : BeginOperation where
  operation := .evaluatePrivateConflict
  phase := .evaluating
  immutableParameters := .object [(lit "caseId", .text (lit "7"))]
  expectedCurrentStage := lit "FINALIZED"
  expectedTargetStage := lit "EVALUATED"
  fixedNowUnix := some fixedNowUnix
  expectedArtifacts := [lit "public/evaluated-conflict.json"]
  createdAt := lit "2026-07-28T19:22:28.982Z"

/-- It is begun, and completed. -/
def calls : List Call :=
  [.begins (evaluation (.ofInt 1785266548)) (lit "a") .returns,
    .finishes (lit "a") ⟨.completed, by decide⟩ (lit "2026-07-28T19:22:29.000Z") none
      .crashesAfterRename]

theorem calls_clocked : ∀ call ∈ calls, call.Clocked := by
  refine List.forall_mem_cons.mpr ⟨?_, List.forall_mem_singleton.mpr trivial⟩
  rintro now ⟨⟩
  rfl

end Sample

/-- An operation is begun and is over. -/
theorem journal_append_only_sample :
    let digestOf := parametersDigest ratioFormat.write fun _ => lit "d"
    ∃ journal, readOperationJournal digestOf (lit "run")
      (runCalls digestOf (lit "run") none Sample.calls) = .ok journal := by
  intro digestOf
  obtain ⟨journal, hfaithful, -⟩ := @journal_append_only (lit "run") Sample.calls
    ratioFormat.write (fun _ => lit "d") Sample.calls_clocked
  exact ⟨journal, hfaithful.reads⟩

/-- A clock between two seconds is written, and the journal is never read again. -/
theorem halfSecond_not_read :
    let digestOf := parametersDigest ratioFormat.write fun _ => lit "d"
    let begun := beginOperation digestOf (lit "run") (Sample.evaluation (.finite (3 / 2)))
      (lit "a") .returns none
    begun.2.isSome = true ∧ ∀ journal,
      readOperationJournal digestOf (lit "run") begun.2 ≠ .ok journal := by
  intro digestOf begun
  refine ⟨by decide +kernel, fun journal hread => ?_⟩
  have hrefused : (readOperationJournal digestOf (lit "run") begun.2).toBool = false := by
    decide +kernel
  rw [hread] at hrefused
  exact nomatch hrefused

end Mordant.Protection.Journal
