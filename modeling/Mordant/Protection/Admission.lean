/-
# Role admission records

One role, one wallet, one authorization, written once.  A record is checked before
it is written and again whenever it is read; a second writer of a role either
recognises its own authorization or is refused.

`admitAlone` is one admission as it would be without anyone else at work: the ledger is
the table of the admitted records.
-/

import Mordant.Foundation.Call
import Mordant.Foundation.Exclusion
import Mordant.Script.Json

namespace Mordant.Protection

open Foundation Script
open Function (update update_self update_of_ne)

inductive ParticipantRole
  | participantA
  | participantB
  deriving DecidableEq

namespace ParticipantRole

/-- The role's name in the source. -/
def text : ParticipantRole → String
  | .participantA => "PARTICIPANT_A"
  | .participantB => "PARTICIPANT_B"

def other : ParticipantRole → ParticipantRole
  | .participantA => .participantB
  | .participantB => .participantA

end ParticipantRole

/-- `ParticipantAdmissionStoreError`. -/
structure AdmissionThrown where
  code : String
  status : ℕ
  message : String
  deriving DecidableEq

def participantAdmissionRecordSchema : Text := lit "mordant.participant-admission-record/3"
def participantAdmissionRecordSchemaV2 : Text := lit "mordant.participant-admission-record/2"

/-- A record without its schema, which is what an admission is asked for with. -/
structure AdmissionCandidate where
  runId : Text
  authorization : Option Json
  signature : Option Hex
  role : ParticipantRole
  participantWallet : Hex
  authorizationDigest : Hex
  claimCommitment : Hex
  authorizationNonce : Hex
  chainId : Number
  issuedAt : Number
  expiresAt : Number
  participantSigningKeyDigest : Option Hex
  eligibilityBlock : Number
  admittedAtUnix : Number

structure ParticipantAdmissionRecord extends AdmissionCandidate where
  schemaVersion : Text

structure AdmissionOutcome where
  record : ParticipantAdmissionRecord
  /-- False when this authorization had been admitted already. -/
  admitted : Bool

/-- `/^0x[0-9a-f]{64}$/u`. -/
def isBytes32Text (text : Text) : Bool := matchesDigits isLowerHexDigit "0x" 64 text

/-- `/^0x[0-9a-fA-F]{40}$/u`. -/
def isAddressText (text : Text) : Bool := matchesDigits isHexDigit "0x" 40 text

def assertAdmissionRecord (record : ParticipantAdmissionRecord) (runId : Text)
    (role : ParticipantRole) : Except AdmissionThrown Unit :=
  revertIf
    ((record.schemaVersion ≠ participantAdmissionRecordSchema ∧
        record.schemaVersion ≠ participantAdmissionRecordSchemaV2) ∨
      record.runId ≠ runId ∨
      record.role ≠ role ∨
      isAddressText record.participantWallet.text = false ∨
      isBytes32Text record.authorizationDigest.text = false ∨
      isBytes32Text record.claimCommitment.text = false ∨
      isBytes32Text record.authorizationNonce.text = false ∨
      record.chainId.isSafeInteger = false ∨
      record.chainId.le (.ofInt 0) = true ∨
      record.issuedAt.isSafeInteger = false ∨
      record.expiresAt.isSafeInteger = false ∨
      record.issuedAt.le (.ofInt 0) = true ∨
      record.expiresAt.le record.issuedAt = true ∨
      record.eligibilityBlock.isSafeInteger = false ∨
      record.eligibilityBlock.lt (.ofInt 0) = true ∨
      record.admittedAtUnix.isSafeInteger = false ∨
      record.admittedAtUnix.le (.ofInt 0) = true)
    ⟨"ADMISSION_INTEGRITY", 500, "The durable admission record was rejected"⟩

def sameAuthorization (record : ParticipantAdmissionRecord) (candidate : AdmissionCandidate) :
    Bool :=
  record.authorizationDigest = candidate.authorizationDigest &&
    record.claimCommitment = candidate.claimCommitment &&
    record.participantWallet = candidate.participantWallet &&
    record.authorizationNonce = candidate.authorizationNonce &&
    record.chainId.strictEq candidate.chainId &&
    record.issuedAt.strictEq candidate.issuedAt &&
    record.expiresAt.strictEq candidate.expiresAt

/-- The refusal of a role that is taken. -/
def roleOccupied (role : ParticipantRole) : AdmissionThrown :=
  ⟨"ROLE_OCCUPIED", 409, role.text ++ " has already been admitted for this case"⟩

/-- The answer for a role that has a record. -/
def recognize (existing : ParticipantAdmissionRecord) (candidate : AdmissionCandidate) :
    Except AdmissionThrown AdmissionOutcome :=
  if sameAuthorization existing candidate then .ok ⟨existing, false⟩
  else .error (roleOccupied candidate.role)

section

variable (runtime : Runtime)

/-- The checks against the sibling role, and the record they lead to. -/
def prepareRecord (candidate : AdmissionCandidate) (other : Option ParticipantAdmissionRecord) :
    Except AdmissionThrown ParticipantAdmissionRecord := do
  revertIf (candidate.role = .participantB ∧ other.isNone = true)
    ⟨"ADMISSION_OUT_OF_ORDER", 409, "Participant B cannot be admitted before Participant A"⟩
  revertIf (candidate.role = .participantA ∧ other.isSome = true)
    ⟨"ADMISSION_INTEGRITY", 500, "Participant B exists without Participant A"⟩
  match other with
  | none => pure ()
  | some other =>
    revertIf (runtime.toLowerCase other.participantWallet.text =
        runtime.toLowerCase candidate.participantWallet.text)
      ⟨"DUPLICATE_SIGNER", 409, "That wallet already holds the other role in this case"⟩
    revertIf (other.authorizationNonce = candidate.authorizationNonce)
      ⟨"NONCE_REPLAY", 409, "That authorization nonce has already been used"⟩
  let record : ParticipantAdmissionRecord := ⟨candidate, participantAdmissionRecordSchema⟩
  assertAdmissionRecord record candidate.runId candidate.role
  pure record

/-- The admitted records of a run. -/
abbrev AdmissionTable := ParticipantRole → Option ParticipantAdmissionRecord

/-- One admission with nobody else at work: what it answers, and the table it
leaves behind. -/
def admitAlone (table : AdmissionTable) (candidate : AdmissionCandidate) :
    Except AdmissionThrown AdmissionOutcome × AdmissionTable :=
  match table candidate.role with
  | some existing => (recognize existing candidate, table)
  | none =>
    match prepareRecord runtime candidate (table candidate.role.other) with
    | .error thrown => (.error thrown, table)
    | .ok record =>
      (.ok ⟨record, true⟩, update table candidate.role (some record))

end

/-! ## Recognising an authorization -/

section

variable {record : ParticipantAdmissionRecord} {candidate : AdmissionCandidate} {runId : Text}
  {role : ParticipantRole}

/-- What a record that passed its check has. -/
structure WellFormedAdmission (record : ParticipantAdmissionRecord) (runId : Text)
    (role : ParticipantRole) : Prop where
  runId : record.runId = runId
  role : record.role = role
  chainId : record.chainId.isSafeInteger = true
  issuedAt : record.issuedAt.isSafeInteger = true
  expiresAt : record.expiresAt.isSafeInteger = true

theorem assertAdmissionRecord_ok {u : Unit} (h : assertAdmissionRecord record runId role = .ok u) :
    WellFormedAdmission record runId role := by
  simp only [assertAdmissionRecord, revertIf_ok_iff, not_or, Bool.not_eq_false, not_not] at h
  obtain ⟨-, hrun, hrole, -, -, -, -, hchain, -, hissued, hexpires, -⟩ := h
  exact ⟨hrun, hrole, hchain, hissued, hexpires⟩

/-- The same digest, commitment, wallet, nonce, chain and window. -/
structure SameAuthorization (record : ParticipantAdmissionRecord)
    (candidate : AdmissionCandidate) : Prop where
  authorizationDigest : record.authorizationDigest = candidate.authorizationDigest
  claimCommitment : record.claimCommitment = candidate.claimCommitment
  participantWallet : record.participantWallet = candidate.participantWallet
  authorizationNonce : record.authorizationNonce = candidate.authorizationNonce
  chainId : record.chainId = candidate.chainId
  issuedAt : record.issuedAt = candidate.issuedAt
  expiresAt : record.expiresAt = candidate.expiresAt

/-- Of a record that passed its check, the numbers are compared as such. -/
theorem sameAuthorization_iff (hformed : WellFormedAdmission record runId role) :
    sameAuthorization record candidate = true ↔ SameAuthorization record candidate := by
  simp only [sameAuthorization, Bool.and_eq_true, decide_eq_true_eq,
    Number.strictEq_iff (Number.ne_nan_of_isSafeInteger hformed.chainId),
    Number.strictEq_iff (Number.ne_nan_of_isSafeInteger hformed.issuedAt),
    Number.strictEq_iff (Number.ne_nan_of_isSafeInteger hformed.expiresAt)]
  constructor
  · rintro ⟨⟨⟨⟨⟨⟨hdigest, hcommitment⟩, hwallet⟩, hnonce⟩, hchain⟩, hissued⟩, hexpires⟩
    exact ⟨hdigest, hcommitment, hwallet, hnonce, hchain, hissued, hexpires⟩
  · intro h
    exact ⟨⟨⟨⟨⟨⟨h.authorizationDigest, h.claimCommitment⟩, h.participantWallet⟩,
      h.authorizationNonce⟩, h.chainId⟩, h.issuedAt⟩, h.expiresAt⟩

theorem recognize_ok {existing : ParticipantAdmissionRecord} {outcome : AdmissionOutcome}
    (h : recognize existing candidate = .ok outcome) :
    sameAuthorization existing candidate = true ∧ outcome = ⟨existing, false⟩ := by
  by_cases hsame : sameAuthorization existing candidate = true
  · rw [recognize, if_pos hsame] at h
    exact ⟨hsame, (Except.ok.inj h).symm⟩
  · rw [recognize, if_neg hsame] at h
    exact nomatch h

end

/-! ## Tables -/

section

variable {runtime : Runtime} {table : AdmissionTable} {candidate : AdmissionCandidate}
  {record : ParticipantAdmissionRecord} {other : Option ParticipantAdmissionRecord} {runId : Text}

/-- What the ledger promises about the records of a run. -/
structure SoundAdmissions (runtime : Runtime) (runId : Text) (table : AdmissionTable) : Prop where
  formed : ∀ {role record}, table role = some record →
    assertAdmissionRecord record runId role = .ok ()
  /-- B is there only with A. -/
  order : ∀ {b}, table .participantB = some b → ∃ a, table .participantA = some a
  /-- No wallet in both roles, in any letter case. -/
  wallets : ∀ {a b}, table .participantA = some a → table .participantB = some b →
    runtime.toLowerCase a.participantWallet.text ≠ runtime.toLowerCase b.participantWallet.text
  nonces : ∀ {a b}, table .participantA = some a → table .participantB = some b →
    a.authorizationNonce ≠ b.authorizationNonce

theorem SoundAdmissions.empty (runtime : Runtime) (runId : Text) :
    SoundAdmissions runtime runId fun _ => none where
  formed h := nomatch h
  order h := nomatch h
  wallets h := nomatch h
  nonces h := nomatch h

/-- What the checks before a write establish. -/
theorem prepareRecord_ok (h : prepareRecord runtime candidate other = .ok record) :
    record.toAdmissionCandidate = candidate ∧
    assertAdmissionRecord record candidate.runId candidate.role = .ok () ∧
    (candidate.role = .participantB → other ≠ none) ∧
    (candidate.role = .participantA → other = none) ∧
    ∀ sibling, other = some sibling →
      runtime.toLowerCase sibling.participantWallet.text ≠
        runtime.toLowerCase candidate.participantWallet.text ∧
      sibling.authorizationNonce ≠ candidate.authorizationNonce := by
  simp only [prepareRecord, revertIf_bind_ok_iff] at h
  obtain ⟨hB, hA, h⟩ := h
  cases other with
  | none =>
      obtain ⟨_, hassert, hrecord⟩ := bind_ok_iff.mp h
      obtain rfl := pure_ok_iff.mp hrecord
      refine ⟨rfl, hassert, ?_, fun _ => rfl, ?_⟩
      · intro hrole
        exact absurd ⟨hrole, rfl⟩ hB
      · intro sibling hsibling
        cases hsibling
  | some sibling =>
      obtain ⟨hwallet, hrest⟩ := revertIf_bind_ok_iff.mp h
      obtain ⟨hnonce, htail⟩ := revertIf_bind_ok_iff.mp hrest
      obtain ⟨_, hassert, hrecord⟩ := bind_ok_iff.mp htail
      obtain rfl := pure_ok_iff.mp hrecord
      refine ⟨rfl, hassert, fun _ => Option.some_ne_none sibling, ?_, ?_⟩
      · intro hrole
        exact absurd ⟨hrole, rfl⟩ hA
      · rintro _ ⟨⟩
        exact ⟨hwallet, hnonce⟩

/-- **Step.** An admission with nobody else at work keeps the promises. -/
theorem SoundAdmissions.update (hsound : SoundAdmissions runtime runId table)
    (hrun : candidate.runId = runId)
    (hprepared : prepareRecord runtime candidate (table candidate.role.other) = .ok record) :
    SoundAdmissions runtime runId (update table candidate.role (some record)) := by
  subst hrun
  obtain ⟨hcandidate, hassert, hB, hA, hsibling⟩ := prepareRecord_ok hprepared
  have hformed : ∀ {role other}, update table candidate.role (some record) role =
      some other → assertAdmissionRecord other candidate.runId role = .ok () := by
    intro role other hentry
    by_cases hrole : role = candidate.role
    · subst hrole
      rw [update_self] at hentry
      obtain rfl := Option.some.inj hentry
      exact hassert
    · rw [update_of_ne hrole] at hentry
      exact hsound.formed hentry
  cases hrole : candidate.role with
  | participantA =>
      rw [hrole] at hA hformed
      have hnone : table .participantB = none := hA rfl
      have hnoB : ∀ b, update table .participantA (some record) .participantB ≠
          some b := by
        intro b hb
        rw [update_of_ne (by decide), hnone] at hb
        exact nomatch hb
      exact ⟨hformed, fun hb => absurd hb (hnoB _), fun _ hb => absurd hb (hnoB _),
        fun _ hb => absurd hb (hnoB _)⟩
  | participantB =>
      rw [hrole] at hB hformed hsibling
      obtain ⟨a, ha⟩ := Option.ne_none_iff_exists'.mp (hB rfl)
      obtain ⟨hwallet, hnonce⟩ := hsibling a ha
      have hkept : update table .participantB (some record) .participantA = some a := by
        rw [update_of_ne (by decide)]
        exact ha
      refine ⟨hformed, fun _ => ⟨a, hkept⟩, ?_, ?_⟩
      · intro a' b ha' hb
        obtain rfl := Option.some.inj (hkept.symm.trans ha')
        rw [update_self] at hb
        obtain rfl := Option.some.inj hb
        rw [hcandidate]
        exact hwallet
      · intro a' b ha' hb
        obtain rfl := Option.some.inj (hkept.symm.trans ha')
        rw [update_self] at hb
        obtain rfl := Option.some.inj hb
        rw [hcandidate]
        exact hnonce

end

/-! ## One admission -/

section

variable {runtime : Runtime} {table : AdmissionTable} {candidate : AdmissionCandidate}
  {existing record : ParticipantAdmissionRecord}

theorem admitAlone_occupied (h : table candidate.role = some existing) :
    admitAlone runtime table candidate = (recognize existing candidate, table) := by
  simp only [admitAlone, h]

theorem admitAlone_rejected {thrown : AdmissionThrown} (hvacant : table candidate.role = none)
    (h : prepareRecord runtime candidate (table candidate.role.other) = .error thrown) :
    admitAlone runtime table candidate = (.error thrown, table) := by
  simp only [admitAlone, hvacant, h]

theorem admitAlone_accepted (hvacant : table candidate.role = none)
    (h : prepareRecord runtime candidate (table candidate.role.other) = .ok record) :
    admitAlone runtime table candidate =
      (.ok ⟨record, true⟩, update table candidate.role (some record)) := by
  simp only [admitAlone, hvacant, h]

/-- An admission recognises an authorization exactly when its role has a record of
the same one. -/
theorem admitAlone_recognized_iff {outcome : AdmissionOutcome} :
    (admitAlone runtime table candidate).1 = .ok outcome ∧ outcome.admitted = false ↔
      ∃ stored, table candidate.role = some stored ∧ sameAuthorization stored candidate = true ∧
        outcome = ⟨stored, false⟩ := by
  constructor
  · rintro ⟨houtcome, hadmitted⟩
    cases hentry : table candidate.role with
    | some stored =>
        rw [admitAlone_occupied hentry] at houtcome
        obtain ⟨hsame, rfl⟩ := recognize_ok houtcome
        exact ⟨stored, rfl, hsame, rfl⟩
    | none =>
        cases hprepared : prepareRecord runtime candidate (table candidate.role.other) with
        | error thrown =>
            rw [admitAlone_rejected hentry hprepared] at houtcome
            exact nomatch houtcome
        | ok record =>
            rw [admitAlone_accepted hentry hprepared] at houtcome
            obtain rfl := Except.ok.inj houtcome
            exact nomatch hadmitted
  · rintro ⟨stored, hentry, hsame, rfl⟩
    rw [admitAlone_occupied hentry, recognize, if_pos hsame]
    exact ⟨rfl, rfl⟩

end

end Mordant.Protection
