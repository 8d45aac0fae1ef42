/-
# The bilateral session on the client

What runs before any evaluation on ciphertexts, and what the private outcome of a session
may be.  A session is opened over frozen governance records with a budget of queries.  A
call of `runSession` first compares how the two identities are named, then pays for the
exact query and asks it, and pays for and asks the tolerant one only where both parties
and the committed intent allowed that.
-/

import Mathlib.Algebra.Order.Ring.Unbundled.Rat
import Mordant.Foundation.Call

namespace Mordant.Identity.Session

open Foundation

/-! ## Values -/

/-- A field that is read as a number: how it prints and what `Number` makes of it, which
is nothing where it is not a number. -/
structure Numeric where
  printed : String
  number : Option ℚ
  deriving DecidableEq

namespace Numeric

/-- `Number(a) !== Number(b)`: what is not a number differs from itself. -/
def differs (a b : Numeric) : Bool := a.number = none || b.number = none || a.number ≠ b.number

/-- The number where `Number.isInteger(Number(a)) && Number(a) > 0`. -/
def positiveInteger (a : Numeric) : Option ℚ := a.number.filter fun n => n.den = 1 && 0 < n

/-- `Number(a) > Number(b)`. -/
def exceeds (a b : Numeric) : Bool :=
  match a.number, b.number with
  | some n, some m => m < n
  | _, _ => false

def ofNat (n : ℕ) : Numeric := ⟨toString n, some n⟩

end Numeric

/-- The count a number is, where it is a positive integer. -/
def positiveNat (n : ℚ) : Option ℕ := if n.den = 1 ∧ 0 < n then some n.num.toNat else none

/-- The string of a field that is there and not empty, as `!field` tells. -/
def present (field : Option String) : Option String := field.filter (· ≠ "")

def zero32 : String := "0x0000000000000000000000000000000000000000000000000000000000000000"

/-- An integer as a double holds it: exactly up to `2^53`, and above that rounded to the
nearest multiple of a power of two, ties to even. -/
def roundDouble (n : ℕ) : ℕ :=
  if n ≤ 2 ^ 53 then n
  else
    let unit := 2 ^ (Nat.log2 n - 52)
    if 2 * (n % unit) < unit ∨ (2 * (n % unit) = unit ∧ n / unit % 2 = 0) then n / unit * unit
    else (n / unit + 1) * unit

/-! ## The constructor -/

/-- One side's frozen scope-governance record. -/
structure FrozenRecord where
  recordDigest : Option String
  controller : Option String
  controllerKeyId : Option String
  scopeCommitment : Option String
  controllerEpoch : Numeric
  authorizationVersion : Numeric
  validFrom : Numeric

structure Governance where
  sessionCommitment : Option String
  committedAt : Numeric
  initiationSignatureA : Option String
  initiationSignatureB : Option String
  issuerSignature : Option String
  candidateAuthorized : Bool
  recordA : Option FrozenRecord
  recordB : Option FrozenRecord

/-- The arguments of the constructor; `budget` is the number it is, where it is one. -/
structure SessionRequest where
  sessionId : Option String
  scopeA : Option String
  scopeB : Option String
  budget : Option ℚ
  governance : Option Governance
  candidateAuthorizedByA : Bool := false
  candidateAuthorizedByB : Bool := false

inductive Outcome
  | exactMatch
  | reconciliationRequired
  | noMatchForSubmittedIdentities
  | notComparable
  deriving DecidableEq

/-- What a session ends with; `note` is the field `meaning`. -/
structure SessionOutcome where
  outcome : Outcome
  protocolError : Option String := none
  evaluated : Bool
  bindable : Bool
  sessionCommitment : String
  note : Option String := none
  deriving DecidableEq

structure BilateralSession where
  sessionCommitment : String
  scopeA : String
  scopeB : String
  budget : ℕ
  spent : ℕ := 0
  enrollmentBindingA : String
  enrollmentBindingB : String
  candidateAuthorized : Bool
  outcome : Option SessionOutcome := none

/-- An argument of `encodeAbiParameters`. -/
inductive AbiValue
  | hex (text : String)
  | number (n : ℚ)
  deriving DecidableEq

/-- `keccak256(encodeAbiParameters(types, values))`, which throws where a value is not one
of its type. -/
abbrev Encoder := List (String × AbiValue) → Except String String

/-- A string that is there and is not the zero word. -/
def requireWord (error : String) (field : Option String) : Except String String := do
  let text ← require error (present field)
  revertIf (text = zero32) error
  pure text

/-- A record that passed the checks, with its strings read. -/
structure CheckedRecord where
  recordDigest : String
  controller : String
  controllerKeyId : String
  controllerEpoch : ℚ
  authorizationVersion : ℚ

def requireFrozenRecord (side : String) (record : Option FrozenRecord) (scopeCommitment : String)
    (openedAt : Numeric) : Except String CheckedRecord := do
  let record ← require ("SESSION_GOVERNANCE_NOT_FROZEN:" ++ side) record
  let incomplete (field : String) := "SESSION_GOVERNANCE_INCOMPLETE:" ++ side ++ "." ++ field
  let recordDigest ← requireWord (incomplete "recordDigest") record.recordDigest
  let controller ← requireWord (incomplete "controller") record.controller
  let controllerKeyId ← requireWord (incomplete "controllerKeyId") record.controllerKeyId
  let scope ← requireWord (incomplete "scopeCommitment") record.scopeCommitment
  let controllerEpoch ← require (incomplete "controllerEpoch")
    record.controllerEpoch.positiveInteger
  let authorizationVersion ← require (incomplete "authorizationVersion")
    record.authorizationVersion.positiveInteger
  revertIf (record.validFrom.positiveInteger = none) (incomplete "validFrom")
  revertIf (scope ≠ scopeCommitment) ("SESSION_GOVERNANCE_SCOPE_MISMATCH:" ++ side)
  revertIf (record.validFrom.exceeds openedAt) ("SCOPE_AUTHORIZATION_NOT_PRE_SESSION:" ++ side)
  pure { recordDigest, controller, controllerKeyId, controllerEpoch, authorizationVersion }

/-- `ENROLLMENT_BINDING_DOMAIN` is the digest of this text. -/
def enrollmentBindingDomain : String := "mordant.session-enrollment-binding/2"

def enrollmentBinding (keccakText : String → String) (encode : Encoder)
    (sessionCommitment scopeCommitment : String) (record : Option FrozenRecord) :
    Except String String := do
  let openedAt := (record.map FrozenRecord.validFrom).getD (Numeric.ofNat 0)
  let record ← requireFrozenRecord "enrollment" record scopeCommitment openedAt
  let sessionCommitment ← requireWord "SESSION_COMMITMENT_MISSING" (some sessionCommitment)
  let authority ← encode
    [("bytes32", .hex record.recordDigest),
     ("address", .hex record.controller),
     ("bytes32", .hex record.controllerKeyId),
     ("uint32", .number record.controllerEpoch),
     ("uint32", .number record.authorizationVersion)]
  encode
    [("bytes32", .hex (keccakText enrollmentBindingDomain)),
     ("bytes32", .hex sessionCommitment),
     ("bytes32", .hex scopeCommitment),
     ("bytes32", .hex authority)]

/-- The constructor of `BilateralSession`. -/
def construct (keccakText : String → String) (encode : Encoder) (request : SessionRequest) :
    Except String BilateralSession := do
  let sessionId ← require "SESSION_SCOPE_REQUIRED" (present request.sessionId)
  let scopeA ← require "SESSION_SCOPE_REQUIRED" (present request.scopeA)
  let scopeB ← require "SESSION_SCOPE_REQUIRED" (present request.scopeB)
  let budget ← require "SESSION_BUDGET_REQUIRED" (request.budget.bind positiveNat)
  let governance ← require "SESSION_GOVERNANCE_NOT_FROZEN" request.governance
  let sessionCommitment ← requireWord "SESSION_COMMITMENT_MISSING" governance.sessionCommitment
  revertIf (sessionId ≠ sessionCommitment) "SESSION_COMMITMENT_MISSING"
  revertIf (governance.committedAt.positiveInteger = none) "SESSION_COMMITMENT_NOT_PUBLISHED"
  let notBilateral (field : String) := "SESSION_INITIATION_NOT_BILATERAL:" ++ field
  let signatureA ← require (notBilateral "initiationSignatureA")
    (present governance.initiationSignatureA)
  let signatureB ← require (notBilateral "initiationSignatureB")
    (present governance.initiationSignatureB)
  let _ ← require (notBilateral "issuerSignature") (present governance.issuerSignature)
  revertIf (signatureA = signatureB) (notBilateral "identical")
  let recordA ← requireFrozenRecord "A" governance.recordA scopeA governance.committedAt
  let recordB ← requireFrozenRecord "B" governance.recordB scopeB governance.committedAt
  revertIf (recordA.recordDigest = recordB.recordDigest)
    "SESSION_GOVERNANCE_SCOPE_MISMATCH:identical"
  let enrollmentBindingA ←
    enrollmentBinding keccakText encode sessionCommitment scopeA governance.recordA
  let enrollmentBindingB ←
    enrollmentBinding keccakText encode sessionCommitment scopeB governance.recordB
  pure
    { sessionCommitment, scopeA, scopeB, budget, enrollmentBindingA, enrollmentBindingB
      candidateAuthorized :=
        request.candidateAuthorizedByA && request.candidateAuthorizedByB &&
          governance.candidateAuthorized }

/-! ## Running a session -/

/-- How one side's identity is named, which is all a call reads of it. -/
structure SubmittedIdentity where
  schemeVersion : Option Numeric
  tier : Numeric
  sellerNamespace : Option String
  debtorNamespace : Option String
  invoiceNamespace : Option String
  sellerProfile : Numeric
  debtorProfile : Numeric
  invoiceProfile : Numeric

def identitySchemeVersion : Numeric := Numeric.ofNat 3

def requireComparable (a b : SubmittedIdentity) : Except String Unit := do
  revertIf ((a.schemeVersion.getD identitySchemeVersion).differs
    (b.schemeVersion.getD identitySchemeVersion)) "IDENTITY_SCHEME_MISMATCH"
  revertIf (a.tier.differs b.tier)
    ("IDENTITY_AUTHORITY_MISMATCH:" ++ a.tier.printed ++ "!=" ++ b.tier.printed)
  let mismatch (field : String) := "IDENTITY_PROFILE_MISMATCH:" ++ field
  revertIf (a.sellerNamespace ≠ b.sellerNamespace) (mismatch "sellerNamespace")
  revertIf (a.debtorNamespace ≠ b.debtorNamespace) (mismatch "debtorNamespace")
  revertIf (a.invoiceNamespace ≠ b.invoiceNamespace) (mismatch "invoiceNamespace")
  revertIf (a.sellerProfile.differs b.sellerProfile) (mismatch "sellerProfile")
  revertIf (a.debtorProfile.differs b.debtorProfile) (mismatch "debtorProfile")
  revertIf (a.invoiceProfile.differs b.invoiceProfile) (mismatch "invoiceProfile")

/-- The two evaluations that a call is handed. -/
inductive Query
  | exactQuery
  | candidateQuery
  deriving DecidableEq

/-- How an evaluator answers. -/
inductive Reply
  | returned (result : Bool)
  | threw (message : String)
  deriving DecidableEq

/-- The arguments of one call, with what its evaluators do if they are called. -/
structure SessionCall where
  identityA : SubmittedIdentity
  identityB : SubmittedIdentity
  evaluateExact : Reply
  evaluateCandidate : Reply

/-- One call that was made: the session after it, the evaluators it called with what they
answered, and what it returned or threw. -/
structure Ran where
  session : BilateralSession
  asked : List (Query × Reply)
  result : Except String SessionOutcome

namespace BilateralSession

def spend (session : BilateralSession) : Except String BilateralSession := do
  revertIf (session.budget < roundDouble (session.spent + 1)) "SCOPE_BUDGET_EXHAUSTED"
  pure { session with spent := roundDouble (session.spent + 1) }

def remaining (session : BilateralSession) : ℤ := session.budget - session.spent

/-- The session set to a terminal outcome, which the call returns. -/
def conclude (session : BilateralSession) (asked : List (Query × Reply))
    (outcome : SessionOutcome) : Ran :=
  ⟨{ session with outcome := some outcome }, asked, .ok outcome⟩

/-- A call that leaves the session without an outcome. -/
def abandon (session : BilateralSession) (asked : List (Query × Reply)) (error : String) : Ran :=
  ⟨session, asked, .error error⟩

def notComparable (session : BilateralSession) (message : String) : SessionOutcome where
  outcome := .notComparable
  protocolError := some message
  evaluated := false
  bindable := false
  sessionCommitment := session.sessionCommitment

def exactMatch (session : BilateralSession) : SessionOutcome where
  outcome := .exactMatch
  evaluated := true
  bindable := true
  sessionCommitment := session.sessionCommitment

def noMatch (session : BilateralSession) : SessionOutcome where
  outcome := .noMatchForSubmittedIdentities
  evaluated := true
  bindable := false
  sessionCommitment := session.sessionCommitment
  note := some "the two identifiers submitted in this session were not equal"

def reconciliationRequired (session : BilateralSession) : SessionOutcome where
  outcome := .reconciliationRequired
  evaluated := true
  bindable := false
  sessionCommitment := session.sessionCommitment

/-- The third part of `runSession`, once the exact evaluation returned false. -/
def askCandidate (session : BilateralSession) (evaluateCandidate : Reply) : Ran :=
  let asked := [(Query.exactQuery, Reply.returned false)]
  if session.candidateAuthorized = false then session.conclude asked session.noMatch
  else if session.remaining < 1 then session.abandon asked "SCOPE_BUDGET_EXHAUSTED"
  else
    match session.spend with
    | .error error => session.abandon asked error
    | .ok session =>
      let asked := asked ++ [(.candidateQuery, evaluateCandidate)]
      match evaluateCandidate with
      | .threw message => session.abandon asked message
      | .returned true => session.conclude asked session.reconciliationRequired
      | .returned false => session.conclude asked session.noMatch

end BilateralSession

def runSession (session : BilateralSession) (call : SessionCall) : Ran :=
  if session.outcome.isSome then session.abandon [] "SESSION_ALREADY_TERMINAL"
  else
    match requireComparable call.identityA call.identityB with
    | .error message => session.conclude [] (session.notComparable message)
    | .ok () =>
      match session.spend with
      | .error error => session.abandon [] error
      | .ok session =>
        let asked := [(Query.exactQuery, call.evaluateExact)]
        match call.evaluateExact with
        | .threw message => session.abandon asked message
        | .returned true => session.conclude asked session.exactMatch
        | .returned false => session.askCandidate call.evaluateCandidate

/-- The calls made one after another on one session. -/
def runSessions (session : BilateralSession) : List SessionCall → List Ran
  | [] => []
  | call :: calls => runSession session call :: runSessions (runSession session call).session calls

/-! ## What one call does -/

/-- One constructor for every way a call ends. -/
inductive Ends (session : BilateralSession) : Ran → Prop
  | terminal {outcome : SessionOutcome} (houtcome : session.outcome = some outcome) :
      Ends session (session.abandon [] "SESSION_ALREADY_TERMINAL")
  | incomparable (message : String) (hopen : session.outcome = none) :
      Ends session (session.conclude [] (session.notComparable message))
  | unpaid {error : String} (hopen : session.outcome = none)
      (hspend : session.spend = .error error) :
      Ends session (session.abandon [] error)
  | exactThrew {paid : BilateralSession} (message : String) (hopen : session.outcome = none)
      (hspend : session.spend = .ok paid) :
      Ends session (paid.abandon [(.exactQuery, .threw message)] message)
  | matched {paid : BilateralSession} (hopen : session.outcome = none)
      (hspend : session.spend = .ok paid) :
      Ends session (paid.conclude [(.exactQuery, .returned true)] paid.exactMatch)
  | unauthorized {paid : BilateralSession} (hopen : session.outcome = none)
      (hspend : session.spend = .ok paid) (hauthorized : paid.candidateAuthorized = false) :
      Ends session (paid.conclude [(.exactQuery, .returned false)] paid.noMatch)
  | exhausted {paid : BilateralSession} (hopen : session.outcome = none)
      (hspend : session.spend = .ok paid) (hauthorized : paid.candidateAuthorized = true)
      (hbudget : paid.remaining < 1 ∨ paid.spend = .error "SCOPE_BUDGET_EXHAUSTED") :
      Ends session (paid.abandon [(.exactQuery, .returned false)] "SCOPE_BUDGET_EXHAUSTED")
  | candidateThrew {paid twice : BilateralSession} (message : String)
      (hopen : session.outcome = none) (hspend : session.spend = .ok paid)
      (hauthorized : paid.candidateAuthorized = true) (htwice : paid.spend = .ok twice) :
      Ends session (twice.abandon
        [(.exactQuery, .returned false), (.candidateQuery, .threw message)] message)
  | reconciled {paid twice : BilateralSession} (hopen : session.outcome = none)
      (hspend : session.spend = .ok paid) (hauthorized : paid.candidateAuthorized = true)
      (htwice : paid.spend = .ok twice) :
      Ends session (twice.conclude
        [(.exactQuery, .returned false), (.candidateQuery, .returned true)]
        twice.reconciliationRequired)
  | unmatched {paid twice : BilateralSession} (hopen : session.outcome = none)
      (hspend : session.spend = .ok paid) (hauthorized : paid.candidateAuthorized = true)
      (htwice : paid.spend = .ok twice) :
      Ends session (twice.conclude
        [(.exactQuery, .returned false), (.candidateQuery, .returned false)] twice.noMatch)

namespace BilateralSession

variable {session paid : BilateralSession}

theorem spend_ok_iff :
    session.spend = .ok paid ↔
      roundDouble (session.spent + 1) ≤ session.budget ∧
        { session with spent := roundDouble (session.spent + 1) } = paid := by
  simp only [spend, bind_ok_iff, revertIf_ok_iff, exists_unit, pure_ok_iff, not_lt]

theorem spend_error_iff {error : String} :
    session.spend = .error error ↔
      session.budget < roundDouble (session.spent + 1) ∧ "SCOPE_BUDGET_EXHAUSTED" = error := by
  simp only [spend, bind_error_iff, revertIf_error_iff, pure_ne_error, and_false, exists_false,
    or_false]

/-- A session that cannot pay for a query has spent its budget. -/
theorem budget_le_of_unpayable {error : String} (hexact : session.budget < 2 ^ 53)
    (hunpayable : session.remaining < 1 ∨ session.spend = .error error) :
    session.budget ≤ session.spent := by
  rcases hunpayable with hremaining | hunpaid
  · have hlt : (session.budget : ℤ) - session.spent < 1 := hremaining
    omega
  · by_contra hleft
    have hround : roundDouble (session.spent + 1) = session.spent + 1 := if_pos (by omega)
    obtain ⟨hlt, -⟩ := spend_error_iff.1 hunpaid
    omega

end BilateralSession

theorem askCandidate_ends {session paid : BilateralSession} (evaluateCandidate : Reply)
    (hopen : session.outcome = none) (hspend : session.spend = .ok paid) :
    Ends session (paid.askCandidate evaluateCandidate) := by
  unfold BilateralSession.askCandidate
  by_cases hauthorized : paid.candidateAuthorized = false
  · rw [if_pos hauthorized]
    exact .unauthorized hopen hspend hauthorized
  rw [if_neg hauthorized]
  have hauthorized : paid.candidateAuthorized = true := by simpa using hauthorized
  by_cases hremaining : paid.remaining < 1
  · rw [if_pos hremaining]
    exact .exhausted hopen hspend hauthorized (.inl hremaining)
  rw [if_neg hremaining]
  cases htwice : paid.spend with
  | error error =>
      obtain ⟨-, rfl⟩ := BilateralSession.spend_error_iff.1 htwice
      exact .exhausted hopen hspend hauthorized (.inr htwice)
  | ok twice =>
      match evaluateCandidate with
      | .threw message => exact .candidateThrew message hopen hspend hauthorized htwice
      | .returned true => exact .reconciled hopen hspend hauthorized htwice
      | .returned false => exact .unmatched hopen hspend hauthorized htwice

theorem runSession_ends (session : BilateralSession) (call : SessionCall) :
    Ends session (runSession session call) := by
  unfold runSession
  cases hopen : session.outcome with
  | some outcome => exact .terminal hopen
  | none =>
      simp only [Option.isSome_none, Bool.false_eq_true, if_false]
      cases requireComparable call.identityA call.identityB with
      | error message => exact .incomparable message hopen
      | ok u =>
          cases hspend : session.spend with
          | error error => exact .unpaid hopen hspend
          | ok paid =>
              match call.evaluateExact with
              | .threw message => exact .exactThrew message hopen hspend
              | .returned true => exact .matched hopen hspend
              | .returned false => exact askCandidate_ends call.evaluateCandidate hopen hspend

namespace Ends

variable {session : BilateralSession} {ran : Ran}

/-- The budget and the authorization are those the session was opened with. -/
theorem fixed (hran : Ends session ran) :
    ran.session.budget = session.budget ∧
      ran.session.candidateAuthorized = session.candidateAuthorized := by
  cases hran with
  | terminal houtcome | incomparable message hopen | unpaid hopen hspend => exact ⟨rfl, rfl⟩
  | exactThrew message hopen hspend | matched hopen hspend | unauthorized hopen hspend _
  | exhausted hopen hspend _ _ =>
      obtain ⟨-, rfl⟩ := BilateralSession.spend_ok_iff.1 hspend
      exact ⟨rfl, rfl⟩
  | candidateThrew message hopen hspend _ htwice | reconciled hopen hspend _ htwice
  | unmatched hopen hspend _ htwice =>
      obtain ⟨-, rfl⟩ := BilateralSession.spend_ok_iff.1 hspend
      obtain ⟨-, rfl⟩ := BilateralSession.spend_ok_iff.1 htwice
      exact ⟨rfl, rfl⟩

/-- Where the budget is counted exactly, a call spends one for each evaluator it calls. -/
theorem spent_eq (hran : Ends session ran) (hexact : session.budget < 2 ^ 53)
    (hspent : session.spent ≤ session.budget) :
    ran.session.spent = session.spent + ran.asked.length ∧
      ran.session.spent ≤ session.budget := by
  have hspend {s paid : BilateralSession} (hbudget : s.budget = session.budget)
      (hwithin : s.spent ≤ session.budget) (hpaid : s.spend = .ok paid) :
      paid.spent = s.spent + 1 ∧ paid.spent ≤ session.budget ∧
        paid.budget = session.budget := by
    obtain ⟨hle, rfl⟩ := BilateralSession.spend_ok_iff.1 hpaid
    have hround : roundDouble (s.spent + 1) = s.spent + 1 := if_pos (by omega)
    rw [hround, hbudget] at hle
    exact ⟨hround, by rw [hround]; exact hle, hbudget⟩
  cases hran with
  | terminal houtcome | incomparable message hopen | unpaid hopen hpaid => exact ⟨rfl, hspent⟩
  | exactThrew message hopen hpaid | matched hopen hpaid | unauthorized hopen hpaid _
  | exhausted hopen hpaid _ _ =>
      obtain ⟨hpaid, hle, -⟩ := hspend rfl hspent hpaid
      exact ⟨hpaid, hle⟩
  | candidateThrew message hopen hpaid _ htwice | reconciled hopen hpaid _ htwice
  | unmatched hopen hpaid _ htwice =>
      obtain ⟨hpaid, hle, hbudget⟩ := hspend rfl hspent hpaid
      obtain ⟨htwice, hle, -⟩ := hspend hbudget hle htwice
      exact ⟨htwice.trans (congrArg (· + 1) hpaid), hle⟩

/-- A session that has an outcome keeps it, and nothing is evaluated on it. -/
theorem of_terminal (hran : Ends session ran) {outcome : SessionOutcome}
    (houtcome : session.outcome = some outcome) :
    ran.session.outcome = some outcome ∧ ran.asked = [] := by
  cases hran with
  | terminal _ => exact ⟨houtcome, rfl⟩
  | incomparable _ hopen | unpaid hopen _ | exactThrew _ hopen _ | matched hopen _
  | unauthorized hopen _ _ | exhausted hopen _ _ _ | candidateThrew _ hopen _ _ _
  | reconciled hopen _ _ _ | unmatched hopen _ _ _ => simp [hopen] at houtcome

/-- Once the budget is spent nothing is evaluated any more. -/
theorem of_spent (hran : Ends session ran) (hexact : session.budget < 2 ^ 53)
    (hspent : session.spent = session.budget) :
    ran.session.spent = session.budget ∧ ran.asked = [] := by
  obtain ⟨heq, hle⟩ := hran.spent_eq hexact hspent.le
  have hnone : ran.asked.length = 0 := by omega
  exact ⟨by omega, List.eq_nil_of_length_eq_zero hnone⟩

/-- The candidate evaluator is called in one place only. -/
theorem of_candidate (hran : Ends session ran) {reply : Reply}
    (hasked : (.candidateQuery, reply) ∈ ran.asked) :
    ran.asked = [(.exactQuery, .returned false), (.candidateQuery, reply)] ∧
      session.candidateAuthorized = true := by
  cases hran with
  | terminal _ | incomparable _ _ | unpaid _ _ => exact absurd hasked List.not_mem_nil
  | exactThrew _ _ _ | matched _ _ | unauthorized _ _ _ | exhausted _ _ _ _ =>
      exact absurd (List.mem_singleton.1 hasked) (by simp)
  | candidateThrew _ _ hspend hauthorized _ | reconciled _ hspend hauthorized _
  | unmatched _ hspend hauthorized _ =>
      obtain ⟨-, rfl⟩ := BilateralSession.spend_ok_iff.1 hspend
      obtain rfl : reply = _ := by
        simpa [BilateralSession.abandon, BilateralSession.conclude] using hasked
      exact ⟨rfl, hauthorized⟩

/-- What a call returns is the outcome of the session, and it is bindable exactly when the
exact evaluation of that call returned true. -/
theorem of_returned (hran : Ends session ran) {outcome : SessionOutcome}
    (hresult : ran.result = .ok outcome) :
    ran.session.outcome = some outcome ∧
      (outcome.bindable = true ↔ (.exactQuery, .returned true) ∈ ran.asked) := by
  cases hran with
  | terminal _ | unpaid _ _ | exactThrew _ _ _ | exhausted _ _ _ _ | candidateThrew _ _ _ _ _ =>
      exact nomatch hresult
  | incomparable _ _ | matched _ _ | unauthorized _ _ _ | reconciled _ _ _ _
  | unmatched _ _ _ _ =>
      obtain rfl := Except.ok.inj hresult
      exact ⟨rfl, by simp [BilateralSession.conclude, BilateralSession.notComparable,
        BilateralSession.exactMatch, BilateralSession.noMatch,
        BilateralSession.reconciliationRequired]⟩

/-- A session gets its outcome from the call that returns it, and a call whose exact
evaluation returned true always does. -/
theorem of_outcome (hran : Ends session ran) (hopen : session.outcome = none) :
    (∀ outcome, ran.session.outcome = some outcome → ran.result = .ok outcome) ∧
      ((.exactQuery, .returned true) ∈ ran.asked → ran.session.outcome ≠ none) := by
  have hkeeps {s paid : BilateralSession} (hnone : s.outcome = none)
      (hpaid : s.spend = .ok paid) : paid.outcome = none := by
    obtain ⟨-, rfl⟩ := BilateralSession.spend_ok_iff.1 hpaid
    exact hnone
  cases hran with
  | terminal houtcome => simp [hopen] at houtcome
  | unpaid _ _ =>
      exact ⟨fun outcome houtcome => absurd (hopen.symm.trans houtcome) (by simp),
        fun hasked => absurd hasked List.not_mem_nil⟩
  | exactThrew _ _ hpaid | exhausted _ hpaid _ _ =>
      have hnone := hkeeps hopen hpaid
      exact ⟨fun outcome houtcome => absurd (hnone.symm.trans houtcome) (by simp),
        fun hasked => absurd (List.mem_singleton.1 hasked) (by simp)⟩
  | candidateThrew _ _ hpaid _ htwice =>
      have hnone := hkeeps (hkeeps hopen hpaid) htwice
      exact ⟨fun outcome houtcome => absurd (hnone.symm.trans houtcome) (by simp),
        fun hasked => by simp [BilateralSession.abandon] at hasked⟩
  | incomparable _ _ | matched _ _ | unauthorized _ _ _ | reconciled _ _ _ _
  | unmatched _ _ _ _ =>
      exact ⟨fun outcome houtcome => congrArg Except.ok (Option.some.inj houtcome),
        fun _ => Option.some_ne_none _⟩

end Ends

/-- A call that ends without an outcome though its exact evaluation answered: the budget
left no candidate query. -/
def Exhausted (ran : Ran) : Prop :=
  ran.asked = [(.exactQuery, .returned false)] ∧ ran.result = .error "SCOPE_BUDGET_EXHAUSTED"

/-- The other such call: the candidate evaluator threw. -/
def CandidateThrew (ran : Ran) : Prop :=
  ∃ message, ran.result = .error message ∧
    ran.asked = [(.exactQuery, .returned false), (.candidateQuery, .threw message)]

/-- A call whose exact evaluation answered sets the outcome, or is one of the two. -/
theorem Ends.of_exact {session : BilateralSession} {ran : Ran} (hran : Ends session ran)
    {result : Bool} (hasked : (.exactQuery, .returned result) ∈ ran.asked) :
    ran.session.outcome ≠ none ∨
      result = false ∧ session.candidateAuthorized = true ∧
        (Exhausted ran ∨ CandidateThrew ran) := by
  cases hran with
  | terminal _ | unpaid _ _ => exact absurd hasked List.not_mem_nil
  | exactThrew _ _ _ => exact absurd (List.mem_singleton.1 hasked) (by simp)
  | exhausted _ hspend hauthorized _ =>
      obtain ⟨-, rfl⟩ := BilateralSession.spend_ok_iff.1 hspend
      obtain rfl : result = false := by simpa [BilateralSession.abandon] using hasked
      exact .inr ⟨rfl, hauthorized, .inl ⟨rfl, rfl⟩⟩
  | candidateThrew message _ hspend hauthorized _ =>
      obtain ⟨-, rfl⟩ := BilateralSession.spend_ok_iff.1 hspend
      obtain rfl : result = false := by simpa [BilateralSession.abandon] using hasked
      exact .inr ⟨rfl, hauthorized, .inr ⟨message, rfl, rfl⟩⟩
  | incomparable _ _ | matched _ _ | unauthorized _ _ _ | reconciled _ _ _ _
  | unmatched _ _ _ _ => exact .inl (Option.some_ne_none _)

/-- Where the budget is counted exactly, the first of the two had spent all of it. -/
theorem Ends.of_exhausted {session : BilateralSession} {ran : Ran} (hran : Ends session ran)
    (hexact : session.budget < 2 ^ 53) (hspent : session.spent ≤ session.budget)
    (hexhausted : Exhausted ran) : ran.session.spent = session.budget := by
  obtain ⟨-, hle⟩ := hran.spent_eq hexact hspent
  obtain ⟨hasked, hresult⟩ := hexhausted
  cases hran with
  | terminal _ | unpaid _ _ => exact absurd hasked.symm (List.cons_ne_nil _ _)
  | exactThrew _ _ _ => simp [BilateralSession.abandon] at hasked
  | candidateThrew _ _ _ _ _ => simp [BilateralSession.abandon] at hasked
  | incomparable _ _ | matched _ _ | unauthorized _ _ _ | reconciled _ _ _ _
  | unmatched _ _ _ _ => exact nomatch hresult
  | exhausted _ hspend _ hbudget =>
      obtain ⟨-, hpaid⟩ := BilateralSession.spend_ok_iff.1 hspend
      have hsame := congrArg BilateralSession.budget hpaid
      have hge := BilateralSession.budget_le_of_unpayable (hsame ▸ hexact) hbudget
      exact le_antisymm hle (hsame ▸ hge)

/-! ## What any calls do -/

section

variable {session : BilateralSession} {P : BilateralSession → Prop}

/-- What every call keeps and every call has as long as it is kept holds of all calls. -/
theorem forall_runSessions {Q : Ran → Prop}
    (hkeep : ∀ s ran, P s → Ends s ran → P ran.session)
    (hcall : ∀ s ran, P s → Ends s ran → Q ran) (hsession : P session)
    (calls : List SessionCall) : ∀ ran ∈ runSessions session calls, Q ran := by
  induction calls generalizing session with
  | nil => exact fun _ hmem => absurd hmem List.not_mem_nil
  | cons call calls ih =>
      have hends := runSession_ends session call
      exact List.forall_mem_cons.2 ⟨hcall _ _ hsession hends, ih (hkeep _ _ hsession hends)⟩

/-- What every call has with every later one holds of any two calls in their order. -/
theorem pairwise_runSessions {R : Ran → Ran → Prop}
    (hkeep : ∀ s ran, P s → Ends s ran → P ran.session)
    (hlater : ∀ s ran, P s → Ends s ran →
      ∀ calls, ∀ later ∈ runSessions ran.session calls, R ran later)
    (hsession : P session) (calls : List SessionCall) : (runSessions session calls).Pairwise R := by
  induction calls generalizing session with
  | nil => exact .nil
  | cons call calls ih =>
      have hends := runSession_ends session call
      exact .cons (hlater _ _ hsession hends calls) (ih (hkeep _ _ hsession hends))

/-- Nothing happens on a session that has an outcome. -/
theorem runSessions_terminal {outcome : SessionOutcome}
    (houtcome : session.outcome = some outcome) (calls : List SessionCall) :
    ∀ ran ∈ runSessions session calls, ran.session.outcome = some outcome ∧ ran.asked = [] :=
  forall_runSessions (P := fun s => s.outcome = some outcome)
    (fun _ _ hs hran => (hran.of_terminal hs).1) (fun _ _ hs hran => hran.of_terminal hs)
    houtcome calls

/-- Nothing is evaluated on a session whose budget is spent. -/
theorem runSessions_spent (hexact : session.budget < 2 ^ 53)
    (hspent : session.spent = session.budget) (calls : List SessionCall) :
    ∀ ran ∈ runSessions session calls, ran.asked = [] :=
  forall_runSessions (P := fun s => s.budget < 2 ^ 53 ∧ s.spent = s.budget)
    (fun _ _ hs hran => by
      obtain ⟨hbudget, -⟩ := hran.fixed
      exact ⟨hbudget ▸ hs.1, hbudget ▸ (hran.of_spent hs.1 hs.2).1⟩)
    (fun _ _ hs hran => (hran.of_spent hs.1 hs.2).2) ⟨hexact, hspent⟩ calls

/-- The evaluators called are what was spent, and that is within the budget. -/
theorem length_asked_le (hexact : session.budget < 2 ^ 53)
    (hspent : session.spent ≤ session.budget) (calls : List SessionCall) :
    session.spent + ((runSessions session calls).flatMap Ran.asked).length ≤ session.budget := by
  induction calls generalizing session with
  | nil => exact hspent
  | cons call calls ih =>
      have hends := runSession_ends session call
      obtain ⟨hbudget, -⟩ := hends.fixed
      obtain ⟨heq, hle⟩ := hends.spent_eq hexact hspent
      have hrest := ih (hbudget ▸ hexact) (hbudget ▸ hle)
      rw [heq, hbudget] at hrest
      rw [runSessions, List.flatMap_cons, List.length_append]
      omega

end

/-! ## The accounting -/

/-- Both parties and the committed governance allowed the tolerant query. -/
def CandidateAllowed (request : SessionRequest) : Prop :=
  request.candidateAuthorizedByA = true ∧ request.candidateAuthorizedByB = true ∧
    ∃ governance, request.governance = some governance ∧ governance.candidateAuthorized = true

/-- An accepted session is unspent, without an outcome, and authorized as was declared. -/
theorem construct_ok {keccakText : String → String} {encode : Encoder} {request : SessionRequest}
    {session : BilateralSession} (hsession : construct keccakText encode request = .ok session) :
    session.spent = 0 ∧ session.outcome = none ∧
      (session.candidateAuthorized = true → CandidateAllowed request) := by
  simp only [construct, bind_ok_iff, revertIf_ok_iff, exists_const, require_ok_iff, pure_ok_iff]
    at hsession
  obtain ⟨-, -, -, -, -, -, -, -, governance, hgovernance, -, -, -, -, -, -, -, -, -, -, -, -,
    -, -, -, -, -, -, -, -, -, rfl⟩ := hsession
  refine ⟨rfl, rfl, fun hauthorized => ?_⟩
  simp only [Bool.and_eq_true] at hauthorized
  exact ⟨hauthorized.1.1, hauthorized.1.2, governance, hgovernance, hauthorized.2⟩

/-- What holds of all the calls made on one session, in their order. -/
structure Accounted (request : SessionRequest) (session : BilateralSession) (rans : List Ran) :
    Prop where
  withinBudget : session.budget < 2 ^ 53 → (rans.flatMap Ran.asked).length ≤ session.budget
  candidate : ∀ ran ∈ rans, ∀ reply, (.candidateQuery, reply) ∈ ran.asked →
    ran.asked = [(.exactQuery, .returned false), (.candidateQuery, reply)] ∧
      CandidateAllowed request
  bindable : ∀ ran ∈ rans, ∀ outcome, ran.session.outcome = some outcome →
    (outcome.bindable = true ↔ ∃ ran ∈ rans, (.exactQuery, .returned true) ∈ ran.asked)
  returned : ∀ ran ∈ rans, ∀ outcome, ran.result = .ok outcome →
    ran.session.outcome = some outcome ∧
      (outcome.bindable = true ↔ (.exactQuery, .returned true) ∈ ran.asked)
  terminal : rans.Pairwise fun ran later => ∀ outcome, ran.session.outcome = some outcome →
    later.session.outcome = some outcome ∧ later.asked = []
  settled : ∀ ran ∈ rans, ∀ result, (.exactQuery, .returned result) ∈ ran.asked →
    ran.session.outcome ≠ none ∨
      result = false ∧ CandidateAllowed request ∧ (Exhausted ran ∨ CandidateThrew ran)
  exhausted : session.budget < 2 ^ 53 →
    rans.Pairwise fun ran later => Exhausted ran → later.asked = []
  repeated : session.budget < 2 ^ 53 →
    rans.Pairwise fun ran later => ∀ result reply, (.exactQuery, .returned result) ∈ ran.asked →
      (.exactQuery, reply) ∈ later.asked → CandidateThrew ran

/-- The outcome at any time tells whether an exact evaluation ever returned true. -/
theorem bindable_iff {session : BilateralSession} (hopen : session.outcome = none)
    (calls : List SessionCall) :
    ∀ ran ∈ runSessions session calls, ∀ outcome, ran.session.outcome = some outcome →
      (outcome.bindable = true ↔
        ∃ ran ∈ runSessions session calls, (.exactQuery, .returned true) ∈ ran.asked) := by
  induction calls generalizing session with
  | nil => exact fun _ hmem => absurd hmem List.not_mem_nil
  | cons call calls ih =>
      have hends := runSession_ends session call
      obtain ⟨hset, htrue⟩ := hends.of_outcome hopen
      simp only [runSessions, List.mem_cons, exists_eq_or_imp, forall_eq_or_imp]
      cases hfirst : (runSession session call).session.outcome with
      | none =>
          have hfalse : (.exactQuery, .returned true) ∉ (runSession session call).asked :=
            fun hasked => htrue hasked hfirst
          refine ⟨fun outcome => by simp, fun ran hran outcome houtcome => ?_⟩
          exact (ih hfirst ran hran outcome houtcome).trans (by simp only [hfalse, false_or])
      | some outcome =>
          have hquiet := runSessions_terminal hfirst calls
          have hfew : (∃ ran ∈ runSessions (runSession session call).session calls,
              (.exactQuery, .returned true) ∈ ran.asked) ↔ False :=
            iff_false_intro fun ⟨ran, hran, hasked⟩ => by simp [(hquiet ran hran).2] at hasked
          have hbindable := (hends.of_returned (hset outcome hfirst)).2
          simp only [hfew, or_false]
          refine ⟨fun other hother => Option.some.inj hother ▸ hbindable,
            fun ran hran other hother => ?_⟩
          obtain rfl := Option.some.inj ((hquiet ran hran).1.symm.trans hother)
          exact hbindable

/-- Every session that the constructor accepts keeps these accounts, whatever calls are
made on it and whatever their evaluators answer. -/
theorem session_accounting {keccakText : String → String} {encode : Encoder}
    {request : SessionRequest} {session : BilateralSession}
    (hsession : construct keccakText encode request = .ok session) (calls : List SessionCall) :
    Accounted request session (runSessions session calls) := by
  obtain ⟨hspent, hopen, hallowed⟩ := construct_ok hsession
  have hauthorized : ∀ s ran, (s.candidateAuthorized = true → CandidateAllowed request) →
      Ends s ran → ran.session.candidateAuthorized = true → CandidateAllowed request :=
    fun s ran hs hran hauthorized => hs (hran.fixed.2.symm.trans hauthorized)
  have hcounted : ∀ s ran, s.budget < 2 ^ 53 ∧ s.spent ≤ s.budget → Ends s ran →
      ran.session.budget < 2 ^ 53 ∧ ran.session.spent ≤ ran.session.budget :=
    fun s ran hs hran => by
      rw [hran.fixed.1]
      exact ⟨hs.1, (hran.spent_eq hs.1 hs.2).2⟩
  have hnone : session.spent ≤ session.budget := hspent ▸ Nat.zero_le _
  refine ⟨?withinBudget, ?candidate, bindable_iff hopen calls, ?returned, ?terminal, ?settled,
    ?exhausted, ?repeated⟩
  case withinBudget =>
    intro hexact
    have hle := length_asked_le hexact hnone calls
    omega
  case candidate =>
    refine forall_runSessions hauthorized (fun s ran hs hran reply hasked => ?_) hallowed calls
    obtain ⟨hasked, hgranted⟩ := hran.of_candidate hasked
    exact ⟨hasked, hs hgranted⟩
  case returned =>
    exact forall_runSessions (P := fun _ => True) (fun _ _ _ _ => trivial)
      (fun s ran _ hran outcome hresult => hran.of_returned hresult) trivial calls
  case terminal =>
    exact pairwise_runSessions (P := fun _ => True) (fun _ _ _ _ => trivial)
      (fun s ran _ _ calls later hlater outcome houtcome =>
        runSessions_terminal houtcome calls later hlater) trivial calls
  case settled =>
    refine forall_runSessions hauthorized (fun s ran hs hran result hasked => ?_) hallowed calls
    exact (hran.of_exact hasked).imp_right fun ⟨hfalse, hgranted, hcase⟩ =>
      ⟨hfalse, hs hgranted, hcase⟩
  case exhausted =>
    intro hexact
    exact pairwise_runSessions hcounted (fun s ran hs hran calls later hlater hexhausted =>
      runSessions_spent (hcounted s ran hs hran).1
        ((hran.of_exhausted hs.1 hs.2 hexhausted).trans hran.fixed.1.symm) calls later hlater)
      ⟨hexact, hnone⟩ calls
  case repeated =>
    intro hexact
    refine pairwise_runSessions hcounted (fun s ran hs hran calls later hlater result reply
      hasked hagain => ?_) ⟨hexact, hnone⟩ calls
    rcases hran.of_exact hasked with hset | ⟨-, -, hexhausted | hthrew⟩
    · obtain ⟨outcome, houtcome⟩ := Option.ne_none_iff_exists'.1 hset
      simp [(runSessions_terminal houtcome calls later hlater).2] at hagain
    · have hspent := (hran.of_exhausted hs.1 hs.2 hexhausted).trans hran.fixed.1.symm
      simp [runSessions_spent (hcounted s ran hs hran).1 hspent calls later hlater] at hagain
    · exact hthrew

/-! ## A session -/

namespace Sample

/-- The digest of a text, as sixty-four digits. -/
def keccakText (text : String) : String :=
  "0x" ++ String.ofList (List.replicate (64 - text.length) '0') ++ text

/-- Digests are only carried here, so the first value stands for all of them. -/
def encode : Encoder
  | (_, .hex text) :: _ => .ok text
  | _ => .error "encodeAbiParameters"

def record (scope : String) : FrozenRecord where
  recordDigest := some ("record-" ++ scope)
  controller := some "0x000000000000000000000000000000000000c0a1"
  controllerKeyId := some ("key-" ++ scope)
  scopeCommitment := some scope
  controllerEpoch := Numeric.ofNat 1
  authorizationVersion := Numeric.ofNat 1
  validFrom := Numeric.ofNat 996400

/-- A request that both parties and the committed intent allow a tolerant query. -/
def request (budget : ℕ) : SessionRequest where
  sessionId := some "session-commitment-1"
  scopeA := some "scope-a"
  scopeB := some "scope-b"
  budget := some budget
  candidateAuthorizedByA := true
  candidateAuthorizedByB := true
  governance := some
    { sessionCommitment := some "session-commitment-1"
      committedAt := Numeric.ofNat 1000000
      initiationSignatureA := some "0xaa"
      initiationSignatureB := some "0xbb"
      issuerSignature := some "0xcc"
      candidateAuthorized := true
      recordA := some (record "scope-a")
      recordB := some (record "scope-b") }

def identity : SubmittedIdentity where
  schemeVersion := none
  tier := Numeric.ofNat 1
  sellerNamespace := some "lei"
  debtorNamespace := some "lei"
  invoiceNamespace := some "seller"
  sellerProfile := Numeric.ofNat 1
  debtorProfile := Numeric.ofNat 1
  invoiceProfile := Numeric.ofNat 4

/-- A call on two comparable identities. -/
def call (evaluateExact evaluateCandidate : Reply) : SessionCall :=
  ⟨identity, identity, evaluateExact, evaluateCandidate⟩

def session (budget : ℕ) : BilateralSession where
  sessionCommitment := "session-commitment-1"
  scopeA := "scope-a"
  scopeB := "scope-b"
  budget := budget
  enrollmentBindingA := keccakText enrollmentBindingDomain
  enrollmentBindingB := keccakText enrollmentBindingDomain
  candidateAuthorized := true

theorem construct_request {budget : ℕ} (hbudget : 0 < budget) :
    construct keccakText encode (request budget) = .ok (session budget) := by
  have hpos : (0 : ℚ) < budget := Rat.num_pos.1 (Int.natCast_pos.2 hbudget)
  have hcount : positiveNat budget = some budget := if_pos ⟨rfl, hpos⟩
  have hrequired : require "SESSION_BUDGET_REQUIRED" ((request budget).budget.bind positiveNat) =
      .ok budget := congrArg (require "SESSION_BUDGET_REQUIRED") hcount
  simp only [construct, hrequired]
  rfl

/-- A call whose exact evaluation answered and whose tolerant one threw. -/
def interrupted : SessionCall := call (.returned false) (.threw "evaluator unavailable")

/-- A call whose exact evaluation threw. -/
def failing : SessionCall := call (.threw "evaluator unavailable") (.returned false)

theorem runSession_failing {session paid : BilateralSession} (hopen : session.outcome = none)
    (hspend : session.spend = .ok paid) :
    runSession session failing =
      paid.abandon [(.exactQuery, .threw "evaluator unavailable")] "evaluator unavailable" := by
  simp only [runSession, hopen, Option.isSome_none, Bool.false_eq_true, if_false, hspend]
  rfl

/-- Above `2^53` the count stands still, so that every call is paid for. -/
theorem asked_failing {session : BilateralSession} (hopen : session.outcome = none)
    (hlarge : 2 ^ 53 ≤ session.budget) (hspent : session.spent ≤ 2 ^ 53) (n : ℕ) :
    ((runSessions session (List.replicate n failing)).flatMap Ran.asked).length = n := by
  induction n generalizing session with
  | zero => rfl
  | succ n ih =>
      have hround : roundDouble (session.spent + 1) ≤ 2 ^ 53 := by
        rcases hspent.lt_or_eq with hlt | heq
        · exact (if_pos (Nat.succ_le_of_lt hlt)).trans_le (Nat.succ_le_of_lt hlt)
        · rw [heq]
          decide
      have hrun := runSession_failing hopen
        (BilateralSession.spend_ok_iff.2 ⟨hround.trans hlarge, rfl⟩)
      have hrest :=
        @ih { session with spent := roundDouble (session.spent + 1) } hopen hlarge hround
      rw [List.replicate_succ, runSessions, List.flatMap_cons, List.length_append, hrun]
      exact (congrArg (1 + ·) hrest).trans (Nat.add_comm 1 n)

end Sample

theorem session_accounting_sample :
    construct Sample.keccakText Sample.encode (Sample.request 3) = .ok (Sample.session 3) ∧
      Accounted (Sample.request 3) (Sample.session 3)
        (runSessions (Sample.session 3) [Sample.interrupted, Sample.interrupted]) :=
  ⟨Sample.construct_request (by decide),
    session_accounting (Sample.construct_request (by decide)) _⟩

/-- A candidate evaluator that throws leaves the session open, so that a second call asks
the exact query that had been answered again, and a budget above what a double counts
does not bound the evaluators called. -/
theorem accounting_not_always :
    (construct Sample.keccakText Sample.encode (Sample.request 3) = .ok (Sample.session 3) ∧
      (runSessions (Sample.session 3) [Sample.interrupted, Sample.interrupted]).map
          (fun ran => (ran.session.outcome, ran.asked.map Prod.fst)) =
        [(none, [.exactQuery, .candidateQuery]), (none, [.exactQuery])]) ∧
      construct Sample.keccakText Sample.encode (Sample.request (2 ^ 53)) =
          .ok (Sample.session (2 ^ 53)) ∧
        (Sample.session (2 ^ 53)).budget <
          ((runSessions (Sample.session (2 ^ 53))
            (List.replicate (2 ^ 53 + 1) Sample.failing)).flatMap Ran.asked).length := by
  refine ⟨⟨Sample.construct_request (by decide), rfl⟩, Sample.construct_request (by decide), ?_⟩
  rw [Sample.asked_failing rfl (le_refl (2 ^ 53)) (Nat.zero_le _)]
  exact Nat.lt_succ_self _

end Mordant.Identity.Session
