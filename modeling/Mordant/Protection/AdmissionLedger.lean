/-
# The role admission ledger

Any number of processes admit roles of one run at once.  They share a lock file and
one record file for each role, and what one of them does between two looks at the
disk is local to it; a step is one operation on a file.  A file that is being
written reads as no record.

The main result is that the lock makes every call that obtains it an admission with
nobody else at work, so that the promises of the ledger hold at every moment.
-/

import Mordant.Protection.Admission
import Mordant.Protection.Bridge

namespace Mordant.Protection

open Foundation Script
open Function (update_self update_of_ne update)

/-- A record file. -/
inductive AdmissionFile
  | absent
  /-- Created, and not written to the end. -/
  | begun
  | complete (record : ParticipantAdmissionRecord)

def AdmissionFile.readJsonOrNull : AdmissionFile → Option ParticipantAdmissionRecord
  | .complete record => some record
  | _ => none

abbrev AdmissionFiles := ParticipantRole → AdmissionFile

def readAdmission (files : AdmissionFiles) (runId : Text) (role : ParticipantRole) :
    Except AdmissionThrown (Option ParticipantAdmissionRecord) :=
  match (files role).readJsonOrNull with
  | none => pure none
  | some record => do
    assertAdmissionRecord record runId role
    pure (some record)

abbrev AdmissionAnswer := Except AdmissionThrown AdmissionOutcome

/-- Where a process is in `admitParticipantRole`. -/
inductive AdmissionPlace
  | idle
  /-- It has the lock and reads its role next. -/
  | locked (candidate : AdmissionCandidate)
  /-- Its role has no record; it reads the sibling role next. -/
  | vacant (candidate : AdmissionCandidate)
  /-- It creates the record file next. -/
  | prepared (candidate : AdmissionCandidate) (record : ParticipantAdmissionRecord)
  /-- It writes the record next. -/
  | created (candidate : AdmissionCandidate) (record : ParticipantAdmissionRecord)
  /-- The record file was there; it reads its role again. -/
  | lost (candidate : AdmissionCandidate)
  /-- It removes the lock next. -/
  | leaving (answer : AdmissionAnswer)
  | returned (answer : AdmissionAnswer)

/-- Between taking the lock and removing it. -/
def AdmissionPlace.Inside : AdmissionPlace → Prop
  | .idle | .returned _ => False
  | _ => True

/-- The directory of a run's admissions, and its processes. -/
structure AdmissionSystem (ι : Type) where
  lock : Bool
  files : AdmissionFiles
  place : ι → AdmissionPlace

/-- No record, no lock and no call. -/
def AdmissionSystem.initial (ι : Type) : AdmissionSystem ι :=
  ⟨false, fun _ => .absent, fun _ => .idle⟩

/-- The records that are there to be read. -/
def AdmissionSystem.table {ι : Type} (s : AdmissionSystem ι) : AdmissionTable :=
  fun role => (s.files role).readJsonOrNull

def admissionBusy : AdmissionThrown :=
  ⟨"ADMISSION_BUSY", 409, "Participant admission is already being recorded for this case"⟩

inductive AdmissionEvent (ι : Type)
  /-- A process that is not in a call makes one. -/
  | call (process : ι) (candidate : AdmissionCandidate)
  /-- A process in a call goes on to its next operation on a file. -/
  | advance (process : ι)

/-- Whose event it is. -/
def AdmissionEvent.process {ι : Type} : AdmissionEvent ι → ι
  | .call process _ => process
  | .advance process => process

section

variable (runtime : Runtime) (runId : Text) {ι : Type} [DecidableEq ι]

/-- A process goes to another place. -/
def AdmissionSystem.move (s : AdmissionSystem ι) (process : ι) (next : AdmissionPlace) :
    AdmissionSystem ι :=
  { s with place := update s.place process next }

/-- A process changes a record file and goes to another place. -/
def AdmissionSystem.put (s : AdmissionSystem ι) (process : ι) (role : ParticipantRole)
    (file : AdmissionFile) (next : AdmissionPlace) : AdmissionSystem ι :=
  { s.move process next with files := update s.files role file }

/-- The start of `withRunAdmissionLock`. -/
def AdmissionSystem.openLock (s : AdmissionSystem ι) (process : ι)
    (candidate : AdmissionCandidate) : AdmissionSystem ι :=
  if s.lock = true then s.move process (.returned (.error admissionBusy))
  else { s.move process (.locked candidate) with lock := true }

/-- A process at its next operation on a file. -/
def AdmissionSystem.advance (s : AdmissionSystem ι) (process : ι) : Option (AdmissionSystem ι) :=
  match s.place process with
  | .locked candidate =>
    match readAdmission s.files candidate.runId candidate.role with
    | .error thrown => some (s.move process (.leaving (.error thrown)))
    | .ok (some existing) => some (s.move process (.leaving (recognize existing candidate)))
    | .ok none => some (s.move process (.vacant candidate))
  | .vacant candidate =>
    match readAdmission s.files candidate.runId candidate.role.other with
    | .error thrown => some (s.move process (.leaving (.error thrown)))
    | .ok other =>
      match prepareRecord runtime candidate other with
      | .error thrown => some (s.move process (.leaving (.error thrown)))
      | .ok record => some (s.move process (.prepared candidate record))
  | .prepared candidate record =>
    match s.files candidate.role with
    | .absent => some (s.put process candidate.role .begun (.created candidate record))
    | _ => some (s.move process (.lost candidate))
  | .created candidate record =>
    some (s.put process candidate.role (.complete record) (.leaving (.ok ⟨record, true⟩)))
  | .lost candidate =>
    -- The same rule again, rather than assuming who won.
    match readAdmission s.files candidate.runId candidate.role with
    | .error thrown => some (s.move process (.leaving (.error thrown)))
    | .ok (some winner) => some (s.move process (.leaving (recognize winner candidate)))
    | .ok none => some (s.move process (.leaving (.error (roleOccupied candidate.role))))
  | .leaving answer => some { s.move process (.returned answer) with lock := false }
  | .idle | .returned _ => none

/-- One event of the run `runId`. It is not there where it cannot happen. -/
def AdmissionSystem.exec (s : AdmissionSystem ι) :
    AdmissionEvent ι → Except Unit (AdmissionSystem ι)
  | .call process candidate =>
    match s.place process with
    | .idle | .returned _ =>
      if candidate.runId = runId then .ok (s.openLock process candidate) else .error ()
    | _ => .error ()
  | .advance process => require () (s.advance runtime process)

/-- A call, from the state it is made in to one it has returned in. -/
structure AdmissionCall (s : AdmissionSystem ι) (process : ι) (candidate : AdmissionCandidate)
    (rest : List (AdmissionEvent ι)) (t : AdmissionSystem ι) (answer : AdmissionAnswer) :
    Prop where
  happens : run (AdmissionSystem.exec runtime runId) s (.call process candidate :: rest) = .ok t
  /-- The process makes no other call meanwhile. -/
  own : ∀ other, .call process other ∉ rest
  answer : t.place process = .returned answer

end

/-! ## What is reported -/

structure AdmissionProgress where
  participantA : Bool
  participantB : Bool
  bothAdmitted : Bool
  walletA : Option Hex
  walletB : Option Hex

/-- `admissionProgress`: the files of A are those of one moment, the files of B those of
another. -/
def admissionProgress (filesA filesB : AdmissionFiles) (runId : Text) :
    Except AdmissionThrown AdmissionProgress := do
  let a ← readAdmission filesA runId .participantA
  let b ← readAdmission filesB runId .participantB
  pure
    { participantA := a.isSome
      participantB := b.isSome
      bothAdmitted := a.isSome && b.isSome
      walletA := a.map (·.participantWallet)
      walletB := b.map (·.participantWallet) }

/-! ## The invariant -/

section

variable {runtime : Runtime} {runId : Text} {ι : Type} [DecidableEq ι] {s s' t : AdmissionSystem ι}
  {process : ι} {next : AdmissionPlace} {candidate : AdmissionCandidate}
  {record : ParticipantAdmissionRecord} {answer : AdmissionAnswer}

omit [DecidableEq ι] in
theorem readAdmission_of_sound (hsound : SoundAdmissions runtime runId s.table)
    (role : ParticipantRole) : readAdmission s.files runId role = .ok (s.table role) := by
  cases hentry : s.table role with
  | none =>
      have hnone : (s.files role).readJsonOrNull = none := hentry
      rw [readAdmission, hnone]
      rfl
  | some record =>
      have hsome : (s.files role).readJsonOrNull = some record := hentry
      rw [readAdmission, hsome]
      exact bind_ok_iff.mpr ⟨(), hsound.formed hentry, rfl⟩

/-- Every record that is handed out is in the table. -/
def Carries (table : AdmissionTable) : AdmissionAnswer → Prop
  | .ok outcome => table outcome.record.role = some outcome.record
  | .error _ => True

theorem Carries.extends {table table' : AdmissionTable} (h : Carries table answer)
    (hextends : Extends table table') : Carries table' answer := by
  cases answer with
  | ok outcome => exact hextends _ _ h
  | error thrown => trivial

/-- What a process knows of the disk at each place. -/
def Knows (runtime : Runtime) (runId : Text) (s : AdmissionSystem ι) : AdmissionPlace → Prop
  | .idle => True
  | .locked candidate => candidate.runId = runId ∧ ∀ role, s.files role ≠ .begun
  | .vacant candidate => candidate.runId = runId ∧ (∀ role, s.files role ≠ .begun) ∧
      s.table candidate.role = none
  | .prepared candidate record => candidate.runId = runId ∧ (∀ role, s.files role ≠ .begun) ∧
      s.table candidate.role = none ∧
      prepareRecord runtime candidate (s.table candidate.role.other) = .ok record
  | .created candidate record => candidate.runId = runId ∧
      (∀ role, s.files role = .begun ↔ role = candidate.role) ∧
      prepareRecord runtime candidate (s.table candidate.role.other) = .ok record
  | .lost _ => False
  | .leaving answer => (∀ role, s.files role ≠ .begun) ∧ Carries s.table answer
  | .returned answer => Carries s.table answer

/-- What holds between any two operations. -/
structure AdmissionInvariant (runtime : Runtime) (runId : Text) (s : AdmissionSystem ι) :
    Prop where
  exclusive : Exclusive AdmissionPlace.Inside s.lock s.place
  sound : SoundAdmissions runtime runId s.table
  knows : ∀ process, Knows runtime runId s (s.place process)
  /-- Without a lock no file is half written. -/
  quiet : s.lock = false → ∀ role, s.files role ≠ .begun

/-- What the next operation of a process can be while the invariant holds. -/
inductive AdmissionStep (runtime : Runtime) (s : AdmissionSystem ι) (process : ι) :
    AdmissionSystem ι → Prop
  | occupied (candidate : AdmissionCandidate) (existing : ParticipantAdmissionRecord)
      (hplace : s.place process = .locked candidate)
      (hentry : s.table candidate.role = some existing) :
      AdmissionStep runtime s process (s.move process (.leaving (recognize existing candidate)))
  | vacant (candidate : AdmissionCandidate) (hplace : s.place process = .locked candidate)
      (hentry : s.table candidate.role = none) :
      AdmissionStep runtime s process (s.move process (.vacant candidate))
  | rejected (candidate : AdmissionCandidate) (thrown : AdmissionThrown)
      (hplace : s.place process = .vacant candidate)
      (hthrown : prepareRecord runtime candidate (s.table candidate.role.other) = .error thrown) :
      AdmissionStep runtime s process (s.move process (.leaving (.error thrown)))
  | prepared (candidate : AdmissionCandidate) (record : ParticipantAdmissionRecord)
      (hplace : s.place process = .vacant candidate)
      (hrecord : prepareRecord runtime candidate (s.table candidate.role.other) = .ok record) :
      AdmissionStep runtime s process (s.move process (.prepared candidate record))
  | create (candidate : AdmissionCandidate) (record : ParticipantAdmissionRecord)
      (hplace : s.place process = .prepared candidate record)
      (habsent : s.files candidate.role = .absent) :
      AdmissionStep runtime s process
        (s.put process candidate.role .begun (.created candidate record))
  | write (candidate : AdmissionCandidate) (record : ParticipantAdmissionRecord)
      (hplace : s.place process = .created candidate record) :
      AdmissionStep runtime s process
        (s.put process candidate.role (.complete record) (.leaving (.ok ⟨record, true⟩)))
  | leave (answer : AdmissionAnswer) (hplace : s.place process = .leaving answer) :
      AdmissionStep runtime s process { s.move process (.returned answer) with lock := false }

/-- In particular no race for a record file is ever lost. -/
theorem advance_step (hinv : AdmissionInvariant runtime runId s)
    (h : s.advance runtime process = some s') : AdmissionStep runtime s process s' := by
  have hknows := hinv.knows process
  unfold AdmissionSystem.advance at h
  cases hplace : s.place process with
  | idle => simp only [hplace, reduceCtorEq] at h
  | returned answer => simp only [hplace, reduceCtorEq] at h
  | lost candidate =>
      rw [hplace] at hknows
      exact hknows.elim
  | locked candidate =>
      rw [hplace] at hknows
      obtain ⟨hrun, -⟩ := hknows
      simp only [hplace, hrun, readAdmission_of_sound hinv.sound] at h
      cases hentry : s.table candidate.role with
      | none =>
          simp only [hentry] at h
          obtain rfl := Option.some.inj h
          exact .vacant candidate hplace hentry
      | some existing =>
          simp only [hentry] at h
          obtain rfl := Option.some.inj h
          exact .occupied candidate existing hplace hentry
  | vacant candidate =>
      rw [hplace] at hknows
      obtain ⟨hrun, -, -⟩ := hknows
      simp only [hplace, hrun, readAdmission_of_sound hinv.sound] at h
      cases hprepared : prepareRecord runtime candidate (s.table candidate.role.other) with
      | error thrown =>
          simp only [hprepared] at h
          obtain rfl := Option.some.inj h
          exact .rejected candidate thrown hplace hprepared
      | ok record =>
          simp only [hprepared] at h
          obtain rfl := Option.some.inj h
          exact .prepared candidate record hplace hprepared
  | prepared candidate record =>
      rw [hplace] at hknows
      obtain ⟨-, hsettled, hvacant, -⟩ := hknows
      have habsent : s.files candidate.role = .absent := by
        cases hfile : s.files candidate.role with
        | absent => rfl
        | begun => exact absurd hfile (hsettled _)
        | complete other =>
            rw [AdmissionSystem.table, hfile] at hvacant
            exact nomatch hvacant
      simp only [hplace, habsent] at h
      obtain rfl := Option.some.inj h
      exact .create candidate record hplace habsent
  | created candidate record =>
      simp only [hplace] at h
      obtain rfl := Option.some.inj h
      exact .write candidate record hplace
  | leaving answer =>
      simp only [hplace] at h
      obtain rfl := Option.some.inj h
      exact .leave answer hplace

/-- A file that was not complete, and still is not, shows no record. -/
theorem put_begun_table {role : ParticipantRole} (habsent : s.files role = .absent) :
    (s.put process role .begun next).table = s.table := by
  funext other
  by_cases hsame : other = role
  · subst hsame
    simp only [AdmissionSystem.table, AdmissionSystem.put, update_self, habsent,
      AdmissionFile.readJsonOrNull]
  · simp only [AdmissionSystem.table, AdmissionSystem.put, update_of_ne hsame]

/-- A file that is complete shows its record. -/
theorem put_complete_table (role : ParticipantRole) (record : ParticipantAdmissionRecord) :
    (s.put process role (.complete record) next).table =
      update s.table role (some record) := by
  funext other
  by_cases hsame : other = role
  · subst hsame
    simp only [AdmissionSystem.table, AdmissionSystem.put, update_self,
      AdmissionFile.readJsonOrNull]
  · simp only [AdmissionSystem.table, AdmissionSystem.put, update_of_ne hsame]

/-- **Step.** Only the end of a successful admission changes the table, and it fills
in a role that had no record. -/
theorem AdmissionStep.table (hinv : AdmissionInvariant runtime runId s)
    (h : AdmissionStep runtime s process s') :
    s'.table = s.table ∨ ∃ candidate record, s.place process = .created candidate record ∧
      s'.place process = .leaving (.ok ⟨record, true⟩) ∧ s.table candidate.role = none ∧
      s'.table = update s.table candidate.role (some record) := by
  have hknows := hinv.knows process
  cases h with
  | occupied | vacant | rejected | prepared | leave => exact .inl rfl
  | create candidate record hplace habsent => exact .inl (put_begun_table habsent)
  | write candidate record hplace =>
      rw [hplace] at hknows
      have hbegun : s.files candidate.role = .begun := (hknows.2.1 _).mpr rfl
      have hvacant : s.table candidate.role = none := by rw [AdmissionSystem.table, hbegun]; rfl
      refine .inr ⟨candidate, record, hplace, ?_, hvacant, put_complete_table _ _⟩
      exact update_self process _ s.place

theorem AdmissionStep.extends (hinv : AdmissionInvariant runtime runId s)
    (h : AdmissionStep runtime s process s') : Extends s.table s'.table := by
  rcases h.table hinv with hsame | ⟨candidate, record, -, -, hvacant, hupdate⟩
  · exact .of_eq hsame
  · rw [hupdate]
    exact .update hvacant

omit [DecidableEq ι] in
/-- Processes outside only know what they were answered. -/
theorem Knows.outside {place : AdmissionPlace} (houtside : ¬ place.Inside)
    (h : Knows runtime runId s place) (hextends : Extends s.table t.table) :
    Knows runtime runId t place := by
  cases place with
  | idle => trivial
  | returned answer => exact h.extends hextends
  | _ => exact absurd trivial houtside

/-- The process inside goes on: the others know what they knew. -/
theorem AdmissionInvariant.knows_next (hinv : AdmissionInvariant runtime runId s)
    (hinside : (s.place process).Inside) (hextends : Extends s.table t.table)
    (hplace : t.place = update s.place process next)
    (hnext : Knows runtime runId t next) (other : ι) :
    Knows runtime runId t (t.place other) := by
  rw [hplace]
  by_cases hsame : other = process
  · subst hsame
    rwa [update_self]
  · rw [update_of_ne hsame]
    exact (hinv.knows other).outside (hinv.exclusive.outside hinside hsame) hextends

/-- A step that stays inside keeps the invariant when the table stays sound and the
process knows what its next place needs. -/
theorem AdmissionInvariant.inside (hinv : AdmissionInvariant runtime runId s)
    (hinside : (s.place process).Inside) (hlock : t.lock = s.lock)
    (hplace : t.place = update s.place process next) (hnext : next.Inside)
    (hextends : Extends s.table t.table) (hsound : SoundAdmissions runtime runId t.table)
    (hknows : Knows runtime runId t next) : AdmissionInvariant runtime runId t where
  exclusive := by
    rw [hlock, hplace]
    exact hinv.exclusive.move ⟨fun _ => hinside, fun _ => hnext⟩
  sound := hsound
  knows := hinv.knows_next hinside hextends hplace hknows
  quiet hfree := by
    have hheld : s.lock = true := hinv.exclusive.held.mpr ⟨process, hinside⟩
    rw [hlock, hheld] at hfree
    exact nomatch hfree

/-- **Step.** The next operation of a process keeps the invariant. -/
theorem AdmissionStep.invariant (hinv : AdmissionInvariant runtime runId s)
    (h : AdmissionStep runtime s process s') : AdmissionInvariant runtime runId s' := by
  have hextends := h.extends hinv
  have hknows := hinv.knows process
  cases h with
  | occupied candidate existing hplace hentry =>
      rw [hplace] at hknows
      refine hinv.inside (by rw [hplace]; trivial) rfl rfl trivial hextends hinv.sound
        ⟨hknows.2, ?_⟩
      have hformed := assertAdmissionRecord_ok (hinv.sound.formed hentry)
      cases hanswer : recognize existing candidate with
      | error thrown => trivial
      | ok outcome =>
          obtain ⟨-, rfl⟩ := recognize_ok hanswer
          have hrole : existing.role = candidate.role := hformed.role
          show s.table existing.role = some existing
          rw [hrole]
          exact hentry
  | vacant candidate hplace hentry =>
      rw [hplace] at hknows
      exact hinv.inside (by rw [hplace]; trivial) rfl rfl trivial hextends hinv.sound
        ⟨hknows.1, hknows.2, hentry⟩
  | rejected candidate thrown hplace hthrown =>
      rw [hplace] at hknows
      exact hinv.inside (by rw [hplace]; trivial) rfl rfl trivial hextends hinv.sound
        ⟨hknows.2.1, trivial⟩
  | prepared candidate record hplace hrecord =>
      rw [hplace] at hknows
      exact hinv.inside (by rw [hplace]; trivial) rfl rfl trivial hextends hinv.sound
        ⟨hknows.1, hknows.2.1, hknows.2.2, hrecord⟩
  | create candidate record hplace habsent =>
      rw [hplace] at hknows
      obtain ⟨hrun, hsettled, -, hrecord⟩ := hknows
      refine hinv.inside (by rw [hplace]; trivial) rfl rfl trivial hextends ?_ ⟨hrun, ?_, ?_⟩
      · rw [put_begun_table habsent]
        exact hinv.sound
      · intro role
        show update s.files candidate.role .begun role = .begun ↔ _
        by_cases hsame : role = candidate.role
        · simp only [hsame, update_self]
        · simp only [update_of_ne hsame, hsettled role, hsame]
      · rw [put_begun_table habsent]
        exact hrecord
  | write candidate record hplace =>
      rw [hplace] at hknows
      obtain ⟨hrun, hbegun, hrecord⟩ := hknows
      have hcandidate : record.toAdmissionCandidate = candidate := (prepareRecord_ok hrecord).1
      refine hinv.inside (by rw [hplace]; trivial) rfl rfl trivial hextends ?_ ⟨?_, ?_⟩
      · rw [put_complete_table]
        exact hinv.sound.update hrun hrecord
      · intro role
        show update s.files candidate.role (.complete record) role ≠ .begun
        by_cases hsame : role = candidate.role
        · simp only [hsame, update_self, ne_eq, reduceCtorEq, not_false_eq_true]
        · simpa only [update_of_ne hsame, ne_eq, hbegun] using hsame
      · show AdmissionSystem.table _ record.role = some record
        rw [put_complete_table, hcandidate, update_self]
  | leave answer hplace =>
      rw [hplace] at hknows
      have hinside : (s.place process).Inside := by rw [hplace]; trivial
      exact
        { exclusive := hinv.exclusive.leave hinside id
          sound := hinv.sound
          knows := hinv.knows_next hinside hextends rfl hknows.2
          quiet := fun _ => hknows.1 }

/-- **Step.** So does a new call. -/
theorem AdmissionInvariant.openLock (hinv : AdmissionInvariant runtime runId s)
    (hrun : candidate.runId = runId) (hout : ¬ (s.place process).Inside) :
    AdmissionInvariant runtime runId (s.openLock process candidate) := by
  have hothers : ∀ {next}, Knows runtime runId s next → ∀ other,
      Knows runtime runId s (update s.place process next other) := by
    intro next hnext other
    by_cases hsame : other = process
    · subst hsame
      rwa [update_self]
    · rw [update_of_ne hsame]
      exact hinv.knows other
  by_cases hlock : s.lock = true
  · rw [AdmissionSystem.openLock, if_pos hlock]
    exact
      { exclusive := hinv.exclusive.move ⟨fun h => h.elim, fun h => absurd h hout⟩
        sound := hinv.sound
        knows := hothers trivial
        quiet := hinv.quiet }
  · rw [AdmissionSystem.openLock, if_neg hlock]
    have hfree : s.lock = false := by simpa using hlock
    have hexclusive := hinv.exclusive
    rw [hfree] at hexclusive
    exact
      { exclusive := hexclusive.enter trivial
        sound := hinv.sound
        knows := hothers ⟨hrun, hinv.quiet hfree⟩
        quiet := fun h => nomatch h }

/-- What an event of a run is. -/
theorem exec_ok {event : AdmissionEvent ι} (hinv : AdmissionInvariant runtime runId s)
    (h : s.exec runtime runId event = .ok s') :
    (∃ process candidate, event = .call process candidate ∧ candidate.runId = runId ∧
      ¬ (s.place process).Inside ∧ s' = s.openLock process candidate) ∨
    ∃ process, event = .advance process ∧ AdmissionStep runtime s process s' := by
  cases event with
  | advance process =>
      exact .inr ⟨process, rfl, advance_step hinv (require_ok_iff.mp h)⟩
  | call process candidate =>
      unfold AdmissionSystem.exec at h
      by_cases hrun : candidate.runId = runId
      · cases hplace : s.place process with
        | idle | returned =>
            simp only [hplace, if_pos hrun] at h
            refine .inl ⟨process, candidate, rfl, hrun, ?_, (Except.ok.inj h).symm⟩
            rw [hplace]
            exact id
        | _ => simp only [hplace, reduceCtorEq] at h
      · cases hplace : s.place process <;> simp [hplace, hrun] at h

/-- **Step.** Every event keeps the invariant. -/
theorem AdmissionInvariant.exec (event : AdmissionEvent ι)
    (hinv : AdmissionInvariant runtime runId s)
    (h : s.exec runtime runId event = .ok s') : AdmissionInvariant runtime runId s' := by
  rcases exec_ok hinv h with ⟨process, candidate, -, hrun, hout, rfl⟩ | ⟨process, -, hstep⟩
  · exact hinv.openLock hrun hout
  · exact hstep.invariant hinv

theorem openLock_table (s : AdmissionSystem ι) (process : ι) (candidate : AdmissionCandidate) :
    (s.openLock process candidate).table = s.table := by
  unfold AdmissionSystem.openLock
  split <;> rfl

theorem AdmissionInvariant.extends (event : AdmissionEvent ι)
    (hinv : AdmissionInvariant runtime runId s) (h : s.exec runtime runId event = .ok s') :
    Extends s.table s'.table := by
  rcases exec_ok hinv h with ⟨process, candidate, -, -, -, rfl⟩ | ⟨process, -, hstep⟩
  · exact .of_eq (openLock_table s process candidate)
  · exact hstep.extends hinv

omit [DecidableEq ι] in
theorem AdmissionInvariant.initial (runtime : Runtime) (runId : Text) :
    AdmissionInvariant runtime runId (AdmissionSystem.initial ι) where
  exclusive :=
    { alone := fun h => h.elim
      held := by
        constructor
        · intro hlocked
          exact absurd hlocked Bool.false_ne_true
        · rintro ⟨_, hinside⟩
          exact hinside.elim }
  sound := SoundAdmissions.empty runtime runId
  knows _ := trivial
  quiet _ _ h := nomatch h

end

/-! ## A call from its beginning to its end -/

section

variable {runtime : Runtime} {runId : Text} {ι : Type} [DecidableEq ι] {s s' t : AdmissionSystem ι}
  {process : ι} {candidate : AdmissionCandidate} {table : AdmissionTable}
  {answer : AdmissionAnswer} {event : AdmissionEvent ι} {rest : List (AdmissionEvent ι)}

theorem AdmissionStep.inside (h : AdmissionStep runtime s process s') :
    (s.place process).Inside := by
  cases h with
  | vacant _ hplace | leave _ hplace =>
      rw [hplace]
      trivial
  | occupied _ _ hplace | rejected _ _ hplace | prepared _ _ hplace | create _ _ hplace
  | write _ _ hplace =>
      rw [hplace]
      trivial

/-- Other processes stay where they are. -/
theorem AdmissionStep.place_other (h : AdmissionStep runtime s process s') {other : ι}
    (hother : other ≠ process) : s'.place other = s.place other := by
  cases h <;> exact update_of_ne hother _ _

theorem openLock_place_other {other : ι} (hother : other ≠ process) :
    (s.openLock process candidate).place other = s.place other := by
  unfold AdmissionSystem.openLock
  split <;> exact update_of_ne hother _ _

/-- What a call that obtained the lock when the records were `table` has got to. -/
def Within (runtime : Runtime) (table : AdmissionTable) (candidate : AdmissionCandidate)
    (s : AdmissionSystem ι) : AdmissionPlace → Prop
  | .locked own | .vacant own => own = candidate ∧ s.table = table
  | .prepared own record | .created own record => own = candidate ∧ s.table = table ∧
      prepareRecord runtime own (table own.role.other) = .ok record
  | .leaving answer => admitAlone runtime table candidate = (answer, s.table)
  | .returned answer => (admitAlone runtime table candidate).1 = answer
  | .idle | .lost _ => False

/-- **Step.** A call goes on as if nobody else were at work. -/
theorem Within.exec (hinv : AdmissionInvariant runtime runId s)
    (hwithin : Within runtime table candidate s (s.place process))
    (hown : ∀ other, event ≠ .call process other) (h : s.exec runtime runId event = .ok s') :
    Within runtime table candidate s' (s'.place process) := by
  rcases exec_ok hinv h with ⟨caller, called, rfl, -, -, rfl⟩ | ⟨caller, rfl, hstep⟩
  · have hother : process ≠ caller := by
      rintro rfl
      exact hown called rfl
    rw [openLock_place_other hother]
    simpa only [Within, openLock_table] using hwithin
  · by_cases hsame : caller = process
    · subst hsame
      have hknows := hinv.knows caller
      cases hstep with
      | occupied own existing hplace hentry =>
          rw [hplace] at hwithin
          obtain ⟨rfl, rfl⟩ := hwithin
          simp only [AdmissionSystem.move, update_self, Within]
          exact admitAlone_occupied hentry
      | vacant own hplace hentry =>
          rw [hplace] at hwithin
          simp only [AdmissionSystem.move, update_self]
          exact hwithin
      | rejected own thrown hplace hthrown =>
          rw [hplace] at hwithin hknows
          obtain ⟨rfl, rfl⟩ := hwithin
          simp only [AdmissionSystem.move, update_self, Within]
          exact admitAlone_rejected hknows.2.2 hthrown
      | prepared own record hplace hrecord =>
          rw [hplace] at hwithin
          obtain ⟨rfl, rfl⟩ := hwithin
          simp only [AdmissionSystem.move, update_self]
          exact ⟨rfl, rfl, hrecord⟩
      | create own record hplace habsent =>
          rw [hplace] at hwithin
          obtain ⟨rfl, rfl, hrecord⟩ := hwithin
          have hnext : (s.put caller own.role .begun (.created own record)).place caller =
              .created own record := update_self caller _ s.place
          rw [hnext]
          exact ⟨rfl, put_begun_table habsent, hrecord⟩
      | write own record hplace =>
          rw [hplace] at hwithin hknows
          obtain ⟨rfl, rfl, hrecord⟩ := hwithin
          have hvacant : s.table own.role = none := by
            rw [AdmissionSystem.table, (hknows.2.1 own.role).mpr rfl]
            rfl
          have hnext : (s.put caller own.role (.complete record)
              (.leaving (.ok ⟨record, true⟩))).place caller = .leaving (.ok ⟨record, true⟩) :=
            update_self caller _ s.place
          rw [hnext, Within, put_complete_table]
          exact admitAlone_accepted hvacant hrecord
      | leave own hplace =>
          rw [hplace] at hwithin
          simp only [AdmissionSystem.move, update_self, Within]
          exact congrArg Prod.fst hwithin
    · -- Another process is inside, so this call has returned already.
      rw [hstep.place_other (Ne.symm hsame)]
      have hout := hinv.exclusive.outside hstep.inside (Ne.symm hsame)
      cases hplace : s.place process with
      | returned own =>
          rw [hplace] at hwithin
          exact hwithin
      | idle =>
          rw [hplace] at hwithin
          exact hwithin.elim
      | _ =>
          rw [hplace] at hout
          exact absurd trivial hout

/-- **Step.** An answer, once decided, is the one that is returned. -/
theorem answer_exec (hinv : AdmissionInvariant runtime runId s)
    (hplace : s.place process = .leaving answer ∨ s.place process = .returned answer)
    (hown : ∀ other, event ≠ .call process other) (h : s.exec runtime runId event = .ok s') :
    s'.place process = .leaving answer ∨ s'.place process = .returned answer := by
  rcases exec_ok hinv h with ⟨caller, called, rfl, -, -, rfl⟩ | ⟨caller, rfl, hstep⟩
  · have hother : process ≠ caller := by
      rintro rfl
      exact hown called rfl
    rwa [openLock_place_other hother]
  · by_cases hsame : caller = process
    · subst hsame
      cases hstep with
      | leave own hleaving =>
          have hanswer : own = answer := by
            rcases hplace with hplace | hplace
            · exact AdmissionPlace.leaving.inj (hleaving.symm.trans hplace)
            · exact nomatch hleaving.symm.trans hplace
          rw [← hanswer]
          exact .inr (update_self caller _ s.place)
      | vacant _ hstands =>
          rcases hplace with hplace | hplace <;> exact nomatch hstands.symm.trans hplace
      | occupied _ _ hstands | rejected _ _ hstands | prepared _ _ hstands | create _ _ hstands
      | write _ _ hstands =>
          rcases hplace with hplace | hplace <;> exact nomatch hstands.symm.trans hplace
    · rwa [hstep.place_other (Ne.symm hsame)]

/-- **Run.** The answer of a call that was decided is the one it has in the end. -/
theorem answer_run (hinv : AdmissionInvariant runtime runId s)
    (hplace : s.place process = .leaving answer ∨ s.place process = .returned answer)
    (hown : ∀ other, .call process other ∉ rest)
    (hrun : run (AdmissionSystem.exec runtime runId) s rest = .ok t) :
    t.place process = .leaving answer ∨ t.place process = .returned answer := by
  have hstep : ∀ u event u', (∀ other, event ≠ .call process other) →
      (AdmissionInvariant runtime runId u ∧
        (u.place process = .leaving answer ∨ u.place process = .returned answer)) →
      u.exec runtime runId event = .ok u' → AdmissionInvariant runtime runId u' ∧
        (u'.place process = .leaving answer ∨ u'.place process = .returned answer) := by
    intro u event u' hother hu hexec
    exact ⟨hu.1.exec event hexec, answer_exec hu.1 hu.2 hother hexec⟩
  exact (run_invariant hstep hrun (fun event hevent other hcall => hown other (hcall ▸ hevent))
    ⟨hinv, hplace⟩).2

/-- The call itself and what follows it. -/
theorem AdmissionCall.start (hinv : AdmissionInvariant runtime runId s)
    (hcall : AdmissionCall runtime runId s process candidate rest t answer) :
    candidate.runId = runId ∧
    AdmissionInvariant runtime runId (s.openLock process candidate) ∧
    run (AdmissionSystem.exec runtime runId) (s.openLock process candidate) rest = .ok t := by
  obtain ⟨s', hexec, hrest⟩ := run_cons_ok_iff.mp hcall.happens
  rcases exec_ok hinv hexec with ⟨_, _, ⟨⟩, hrun, hout, rfl⟩ | ⟨_, hevent, -⟩
  · exact ⟨hrun, hinv.openLock hrun hout, hrest⟩
  · exact nomatch hevent

/-- A call that finds the lock is refused. -/
theorem AdmissionCall.busy (hinv : AdmissionInvariant runtime runId s)
    (hcall : AdmissionCall runtime runId s process candidate rest t answer)
    (hlock : s.lock = true) : answer = .error admissionBusy := by
  obtain ⟨-, hinv', hrest⟩ := hcall.start hinv
  have hplace : (s.openLock process candidate).place process =
      .returned (.error admissionBusy) := by
    rw [AdmissionSystem.openLock, if_pos hlock]
    exact update_self process _ s.place
  rcases answer_run hinv' (.inr hplace) hcall.own hrest with hleaving | hreturned
  · exact nomatch hleaving.symm.trans hcall.answer
  · exact AdmissionPlace.returned.inj (hcall.answer.symm.trans hreturned)

/-- **Refinement.** A call that obtains the lock is answered as an admission with
nobody else at work is. -/
theorem AdmissionCall.answer_eq (hinv : AdmissionInvariant runtime runId s)
    (hcall : AdmissionCall runtime runId s process candidate rest t answer)
    (hlock : s.lock = false) : answer = (admitAlone runtime s.table candidate).1 := by
  obtain ⟨-, hinv', hrest⟩ := hcall.start hinv
  have hplace : (s.openLock process candidate).place process = .locked candidate := by
    rw [AdmissionSystem.openLock, if_neg (by rw [hlock]; exact Bool.false_ne_true)]
    exact update_self process _ s.place
  have hwithin : Within runtime s.table candidate (s.openLock process candidate)
      ((s.openLock process candidate).place process) := by
    rw [hplace]
    exact ⟨rfl, openLock_table s process candidate⟩
  have hstep : ∀ u event u', (∀ other, event ≠ .call process other) →
      (AdmissionInvariant runtime runId u ∧
        Within runtime s.table candidate u (u.place process)) →
      u.exec runtime runId event = .ok u' → AdmissionInvariant runtime runId u' ∧
        Within runtime s.table candidate u' (u'.place process) := by
    intro u event u' hother hu hexec
    exact ⟨hu.1.exec event hexec, hu.2.exec hu.1 hother hexec⟩
  have hend := (run_invariant hstep hrest
    (fun event hevent other hsame => hcall.own other (hsame ▸ hevent)) ⟨hinv', hwithin⟩).2
  rw [hcall.answer] at hend
  exact hend.symm

end

/-! ## Every call returns -/

section

variable {runtime : Runtime} {runId : Text} {ι : Type} [DecidableEq ι] {s s' : AdmissionSystem ι}
  {process : ι}

/-- The operations on files a process still has before it, at most. -/
def AdmissionPlace.remaining : AdmissionPlace → ℕ
  | .locked _ => 5
  | .vacant _ => 4
  | .prepared _ _ => 3
  | .created _ _ | .lost _ => 2
  | .leaving _ => 1
  | .idle | .returned _ => 0

/-- **Step.** A process with the lock can go on, whatever the others did. -/
theorem advance_of_inside (hinv : AdmissionInvariant runtime runId s)
    (hinside : (s.place process).Inside) :
    ∃ s', s.advance runtime process = some s' := by
  unfold AdmissionSystem.advance
  cases hplace : s.place process with
  | idle | returned =>
      rw [hplace] at hinside
      exact hinside.elim
  | created | leaving => exact ⟨_, rfl⟩
  | lost candidate =>
      have hknows := hinv.knows process
      rw [hplace] at hknows
      exact hknows.elim
  | locked candidate =>
      have hknows := hinv.knows process
      rw [hplace] at hknows
      simp only [hknows.1, readAdmission_of_sound hinv.sound]
      cases s.table candidate.role <;> exact ⟨_, rfl⟩
  | vacant candidate =>
      have hknows := hinv.knows process
      rw [hplace] at hknows
      simp only [hknows.1, readAdmission_of_sound hinv.sound]
      cases prepareRecord runtime candidate (s.table candidate.role.other) <;> exact ⟨_, rfl⟩
  | prepared candidate record =>
      dsimp only
      cases s.files candidate.role <;> exact ⟨_, rfl⟩

/-- **Step.** And it comes closer to its answer. -/
theorem AdmissionStep.remaining (h : AdmissionStep runtime s process s') :
    (s'.place process).remaining < (s.place process).remaining := by
  cases h with
  | vacant _ hplace | leave _ hplace =>
      rw [hplace]
      simp [AdmissionSystem.move, AdmissionPlace.remaining]
  | occupied _ _ hplace | rejected _ _ hplace | prepared _ _ hplace | create _ _ hplace
  | write _ _ hplace =>
      rw [hplace]
      simp [AdmissionSystem.put, AdmissionSystem.move, AdmissionPlace.remaining]

/-- A process does not go back to where it can make a call without an answer. -/
theorem AdmissionStep.answered (h : AdmissionStep runtime s process s') :
    (s'.place process).Inside ∨ ∃ answer, s'.place process = .returned answer := by
  cases h with
  | leave answer _ => exact .inr ⟨answer, update_self process _ s.place⟩
  | vacant => exact .inl (by simp [AdmissionSystem.move, AdmissionPlace.Inside])
  | occupied | rejected | prepared | create | write =>
      exact .inl (by simp [AdmissionSystem.put, AdmissionSystem.move, AdmissionPlace.Inside])

/-- **Run.** Left to itself, a process with the lock returns. -/
theorem inside_returns (hinv : AdmissionInvariant runtime runId s)
    (hinside : (s.place process).Inside) :
    ∃ count t answer, run (AdmissionSystem.exec runtime runId) s
      (List.replicate count (.advance process)) = .ok t ∧ t.place process = .returned answer := by
  induction hrank : (s.place process).remaining using Nat.strong_induction_on generalizing s with
  | _ rank ih =>
      subst hrank
      obtain ⟨s', hadvance⟩ := advance_of_inside hinv hinside
      have hstep := advance_step hinv hadvance
      have hexec : s.exec runtime runId (.advance process) = .ok s' := require_ok_iff.mpr hadvance
      rcases hstep.answered with hinside' | ⟨answer, hanswer⟩
      · obtain ⟨count, t, answer, hrun, hanswer⟩ :=
          ih _ hstep.remaining (hstep.invariant hinv) hinside' rfl
        exact ⟨count + 1, t, answer, run_cons_ok_iff.mpr ⟨s', hexec, hrun⟩, hanswer⟩
      · exact ⟨1, s', answer, run_cons_ok_iff.mpr ⟨s', hexec, run_nil _ s'⟩, hanswer⟩

end

/-! ## What the ledger promises -/

section

variable (runtime : Runtime) (runId : Text) {ι : Type} [DecidableEq ι]

/-- The promises of the ledger at one moment, and from it on. -/
structure AdmissionGuarantees (s : AdmissionSystem ι) : Prop where
  /-- B only with A, and no wallet and no nonce in both roles. -/
  sound : SoundAdmissions runtime runId s.table
  /-- No record is ever replaced. -/
  kept : ∀ later t, run (AdmissionSystem.exec runtime runId) s later = .ok t →
    Extends s.table t.table
  /-- Every answer that admits carries the one record of its role. -/
  recorded : ∀ process outcome, s.place process = .returned (.ok outcome) →
    s.table outcome.record.role = some outcome.record
  /-- A call that obtained the lock returns. -/
  returns : ∀ process, (s.place process).Inside → ∃ count t answer,
    run (AdmissionSystem.exec runtime runId) s (List.replicate count (.advance process)) = .ok t ∧
      t.place process = .returned answer
  /-- A call that finds the lock is refused. -/
  busy : ∀ process candidate rest t answer,
    AdmissionCall runtime runId s process candidate rest t answer → s.lock = true →
      answer = .error admissionBusy
  /-- A call that obtains the lock recognises exactly the authorization on record. -/
  recognized : ∀ process candidate rest t answer,
    AdmissionCall runtime runId s process candidate rest t answer → s.lock = false →
      ((∃ outcome, answer = .ok outcome ∧ outcome.admitted = false) ↔
        ∃ stored, s.table candidate.role = some stored ∧ SameAuthorization stored candidate)
  /-- Any other call for a role that has a record is refused. -/
  occupied : ∀ process candidate rest t answer stored,
    AdmissionCall runtime runId s process candidate rest t answer → s.lock = false →
      s.table candidate.role = some stored → ¬ SameAuthorization stored candidate →
        answer = .error (roleOccupied candidate.role)
  /-- Only a call that admits its role changes the records, at any of its steps. -/
  unchanged : ∀ process candidate rest t answer,
    AdmissionCall runtime runId s process candidate rest t answer →
      (∀ record, answer ≠ .ok ⟨record, true⟩) → ∀ before event after u u',
        .call process candidate :: rest = before ++ event :: after → event.process = process →
        run (AdmissionSystem.exec runtime runId) s before = .ok u →
        u.exec runtime runId event = .ok u' → u'.table = u.table
  /-- B is reported only when A is admitted, and of one moment only with A. -/
  progress : ∀ later t, run (AdmissionSystem.exec runtime runId) s later = .ok t →
    ∃ report, admissionProgress s.files t.files runId = .ok report ∧
      (report.participantB = true → ∃ a, t.table .participantA = some a) ∧
      (t.files = s.files → report.participantB = true → report.participantA = true)

variable {runtime runId} {s : AdmissionSystem ι}

theorem AdmissionInvariant.run (hinv : AdmissionInvariant runtime runId s) {later t}
    (h : Foundation.run (AdmissionSystem.exec runtime runId) s later = .ok t) :
    AdmissionInvariant runtime runId t :=
  run_always (fun _ event _ hs hexec => hs.exec event hexec) h hinv

theorem AdmissionInvariant.run_extends (hinv : AdmissionInvariant runtime runId s) {later t}
    (h : Foundation.run (AdmissionSystem.exec runtime runId) s later = .ok t) :
    Extends s.table t.table :=
  run_relates (R := fun s t : AdmissionSystem ι => Extends s.table t.table)
    (fun _ => .refl _) Extends.trans (fun _ event _ hs hexec => hs.exec event hexec)
    (fun _ event _ hs hexec => hs.extends event hexec) h hinv

omit [DecidableEq ι] in
/-- The reads of a report succeed. -/
theorem admissionProgress_eq {t : AdmissionSystem ι} (hs : SoundAdmissions runtime runId s.table)
    (ht : SoundAdmissions runtime runId t.table) :
    ∃ report, admissionProgress s.files t.files runId = .ok report ∧
      report.participantA = (s.table .participantA).isSome ∧
      report.participantB = (t.table .participantB).isSome := by
  simp only [admissionProgress, readAdmission_of_sound hs, readAdmission_of_sound ht]
  exact ⟨_, rfl, rfl, rfl⟩

/-- A step of a call that does not admit leaves the records alone. -/
theorem AdmissionCall.unchanged {process : ι} {candidate : AdmissionCandidate}
    {rest : List (AdmissionEvent ι)} {t : AdmissionSystem ι} {answer : AdmissionAnswer}
    (hinv : AdmissionInvariant runtime runId s)
    (hcall : AdmissionCall runtime runId s process candidate rest t answer)
    (hrefused : ∀ record, answer ≠ .ok ⟨record, true⟩) {before event after u u'}
    (hsplit : .call process candidate :: rest = before ++ event :: after)
    (howner : event.process = process)
    (hbefore : Foundation.run (AdmissionSystem.exec runtime runId) s before = .ok u)
    (hexec : u.exec runtime runId event = .ok u') : u'.table = u.table := by
  have hu := hinv.run hbefore
  rcases exec_ok hu hexec with ⟨caller, called, rfl, -, -, rfl⟩ | ⟨caller, rfl, hstep⟩
  · exact openLock_table u caller called
  · obtain rfl : caller = process := howner
    rcases hstep.table hu with hsame | ⟨_, record, -, hplace, -, -⟩
    · exact hsame
    · -- Otherwise the call was about to answer that it admitted its role.
      have hall := hcall.happens
      rw [hsplit] at hall
      obtain ⟨u₁, hbefore', hrest⟩ := run_append_ok_iff.mp hall
      obtain rfl := Except.ok.inj (hbefore.symm.trans hbefore')
      obtain ⟨u₂, hexec', hafter⟩ := run_cons_ok_iff.mp hrest
      obtain rfl := Except.ok.inj (hexec.symm.trans hexec')
      have hown : ∀ other, .call caller other ∉ after := by
        intro other hmem
        cases before with
        | nil => exact nomatch (List.cons.inj hsplit).1
        | cons first before =>
            have hrest' : rest = before ++ .advance caller :: after := (List.cons.inj hsplit).2
            refine hcall.own other ?_
            rw [hrest']
            exact List.mem_append_right _ (List.mem_cons_of_mem _ hmem)
      rcases answer_run (hu.exec _ hexec) (.inl hplace) hown hafter with hleaving | hreturned
      · exact nomatch hleaving.symm.trans hcall.answer
      · exact absurd (AdmissionPlace.returned.inj (hcall.answer.symm.trans hreturned))
          (hrefused record)

/-- **The admission ledger.** In every interleaving of calls of any number of
processes on one run, the promises of the ledger hold at every moment. -/
theorem admission_ledger {events : List (AdmissionEvent ι)}
    (hrun : Foundation.run (AdmissionSystem.exec runtime runId) (AdmissionSystem.initial ι) events =
      .ok s) : AdmissionGuarantees runtime runId s := by
  have hinv : AdmissionInvariant runtime runId s :=
    (AdmissionInvariant.initial runtime runId).run hrun
  have hanswer : ∀ {process candidate rest t answer},
      AdmissionCall runtime runId s process candidate rest t answer → s.lock = false →
        answer = (admitAlone runtime s.table candidate).1 := fun hcall => hcall.answer_eq hinv
  have hsame : ∀ {role stored candidate}, s.table role = some stored →
      (sameAuthorization stored candidate = true ↔ SameAuthorization stored candidate) :=
    fun hentry => sameAuthorization_iff (assertAdmissionRecord_ok (hinv.sound.formed hentry))
  constructor
  case sound => exact hinv.sound
  case kept => exact fun _ _ hlater => hinv.run_extends hlater
  case recorded =>
    intro process outcome hplace
    have hknows := hinv.knows process
    rw [hplace] at hknows
    exact hknows
  case returns => exact fun _ hinside => inside_returns hinv hinside
  case busy => exact fun _ _ _ _ _ hcall hlock => hcall.busy hinv hlock
  case recognized =>
    intro process candidate rest t answer hcall hlock
    rw [hanswer hcall hlock]
    constructor
    · rintro ⟨outcome, hadmit⟩
      obtain ⟨stored, hentry, hstored, -⟩ := admitAlone_recognized_iff.mp hadmit
      exact ⟨stored, hentry, (hsame hentry).mp hstored⟩
    · rintro ⟨stored, hentry, hstored⟩
      exact ⟨⟨stored, false⟩,
        admitAlone_recognized_iff.mpr ⟨stored, hentry, (hsame hentry).mpr hstored, rfl⟩⟩
  case occupied =>
    intro process candidate rest t answer stored hcall hlock hentry hdiffers
    rw [hanswer hcall hlock, admitAlone_occupied hentry]
    exact if_neg fun hstored => hdiffers ((hsame hentry).mp hstored)
  case unchanged =>
    intro process candidate rest t answer hcall hrefused before event after u u' hsplit howner
      hbefore hexec
    exact hcall.unchanged hinv hrefused hsplit howner hbefore hexec
  case progress =>
    intro later t hlater
    have ht := hinv.run hlater
    obtain ⟨report, hreport, hA, hB⟩ := admissionProgress_eq hinv.sound ht.sound
    refine ⟨report, hreport, ?_, ?_⟩
    · intro hb
      obtain ⟨b, hentry⟩ := Option.isSome_iff_exists.mp (hB.symm.trans hb)
      exact ht.sound.order hentry
    · intro hmoment hb
      have htable : t.table = s.table := by
        funext role
        simp only [AdmissionSystem.table, hmoment]
      obtain ⟨b, hentry⟩ := Option.isSome_iff_exists.mp (hB.symm.trans hb)
      rw [htable] at hentry
      obtain ⟨a, ha⟩ := hinv.sound.order hentry
      rw [hA, ha]
      rfl

end

/-! ## A retry while the lock is held -/

namespace Sample

def admissionRun : Text := lit "run-a"

def admission : AdmissionCandidate where
  runId := admissionRun
  authorization := none
  signature := none
  role := .participantA
  participantWallet := plan.holderA
  authorizationDigest :=
    hex "0xa0a0a0a0a0a0a0a0a0a0a0a0a0a0a0a0a0a0a0a0a0a0a0a0a0a0a0a0a0a0a0a0" (by decide)
  claimCommitment :=
    hex "0xb0b0b0b0b0b0b0b0b0b0b0b0b0b0b0b0b0b0b0b0b0b0b0b0b0b0b0b0b0b0b0b0" (by decide)
  authorizationNonce :=
    hex "0xc0c0c0c0c0c0c0c0c0c0c0c0c0c0c0c0c0c0c0c0c0c0c0c0c0c0c0c0c0c0c0c0" (by decide)
  chainId := .ofInt 10143
  issuedAt := .ofInt 1000
  expiresAt := .ofInt 1600
  participantSigningKeyDigest := none
  eligibilityBlock := .ofInt 1
  admittedAtUnix := .ofInt 1001

/-- One process admits the role, and retries; it has the lock. -/
def retriedAdmission : List (AdmissionEvent ℕ) :=
  .call 0 admission :: List.replicate 5 (.advance 0) ++ [.call 0 admission]

end Sample

/-- An exact retry that finds another's lock is refused, not recognised. -/
theorem exact_retry_refused :
    ∃ s t : AdmissionSystem ℕ, ∃ rest answer,
      run (AdmissionSystem.exec Sample.runtime Sample.admissionRun) (AdmissionSystem.initial ℕ)
        Sample.retriedAdmission = .ok s ∧
      AdmissionCall Sample.runtime Sample.admissionRun s 1 Sample.admission rest t answer ∧
      (∃ stored, s.table .participantA = some stored ∧
        SameAuthorization stored Sample.admission) ∧
      ¬ ∃ outcome, answer = .ok outcome ∧ outcome.admitted = false := by
  obtain ⟨s, hrun, htest⟩ := any_ok_iff.mp (show (run (AdmissionSystem.exec Sample.runtime
    Sample.admissionRun) (AdmissionSystem.initial ℕ) Sample.retriedAdmission).toOption.any
      (fun s => s.lock && (s.table .participantA).any (sameAuthorization · Sample.admission) &&
        (match s.place 1 with | .idle => true | _ => false)) = true by decide +kernel)
  simp only [Bool.and_eq_true, Option.any_eq_true] at htest
  obtain ⟨⟨hlock, stored, hentry, hsame⟩, hplace⟩ := htest
  have hsound := (AdmissionInvariant.initial Sample.runtime Sample.admissionRun).run hrun |>.sound
  have hidle : s.place 1 = .idle := by
    split at hplace
    · assumption
    · exact nomatch hplace
  refine ⟨s, s.openLock 1 Sample.admission, [], .error admissionBusy, hrun, ⟨?_, ?_, ?_⟩,
    ⟨stored, hentry, (sameAuthorization_iff (assertAdmissionRecord_ok
      (hsound.formed hentry))).mp hsame⟩, ?_⟩
  · refine run_cons_ok_iff.mpr ⟨_, ?_, run_nil _ _⟩
    simp only [AdmissionSystem.exec, hidle, Sample.admission, if_true]
  · exact fun other => List.not_mem_nil
  · rw [AdmissionSystem.openLock, if_pos hlock]
    exact update_self 1 _ s.place
  · rintro ⟨outcome, hanswer, -⟩
    exact nomatch hanswer

/-- The promises hold there all the same. -/
theorem admission_ledger_retried :
    ∃ s : AdmissionSystem ℕ,
      run (AdmissionSystem.exec Sample.runtime Sample.admissionRun) (AdmissionSystem.initial ℕ)
        Sample.retriedAdmission = .ok s ∧
      AdmissionGuarantees Sample.runtime Sample.admissionRun s := by
  obtain ⟨s, hrun⟩ := toBool_eq_true_iff.mp (show (run (AdmissionSystem.exec Sample.runtime
    Sample.admissionRun) (AdmissionSystem.initial ℕ) Sample.retriedAdmission).toBool = true by
      decide +kernel)
  exact ⟨s, hrun, admission_ledger hrun⟩

end Mordant.Protection
