/-
# The file of a case

What a run does to one case, with money forgotten.  `CaseStep` lists what each
event can write to the register of cases and consumed digests, together with
what the code checked before it wrote; it is the same for both adapters.

`history` collects the calls about one run identifier, and `CaseFile` is the
grammar of the histories that occur, each with the record it leaves.  Replays,
late cures and second payments are absent from it.
-/

import Mordant.Recourse.Accounting

namespace Mordant.Recourse

open Evm Foundation
open Function (update update_self)

/-- The storage releases are recorded in. -/
structure Register where
  caseByRun : Bytes32 → Case
  resultConsumed : Bytes32 → Bool
  attestationConsumed : Bytes32 → Bool

def AdapterState.register (s : AdapterState) : Register where
  caseByRun := s.caseByRun
  resultConsumed := s.resultConsumed
  attestationConsumed := s.attestationConsumed

namespace Register

/-- Mark both digests of a release as consumed. -/
def consume (g : Register) (r : AcceptedRelease) : Register :=
  { g with
    resultConsumed := update g.resultConsumed r.resultDigest true
    attestationConsumed := update g.attestationConsumed r.attestationDigest true }

/-- Write one case. -/
def write (g : Register) (runId : Bytes32) (entry : Case) : Register :=
  { g with caseByRun := update g.caseByRun runId entry }

end Register

namespace AcceptedRelease

/-- The record a release without conflict leaves. -/
def refused (r : AcceptedRelease) (entry : Case) : Case :=
  { entry with holderA := r.holderA, holderB := r.holderB, state := .refused }

/-- The record a conflict leaves. -/
def opened (r : AcceptedRelease) (deadline : ℕ) (entry : Case) : Case :=
  { entry with
    holderA := r.holderA
    holderB := r.holderB
    payoutA := r.payoutA.toNat
    payoutB := r.payoutB.toNat
    state := .cureOpen
    cureDeadline := deadline }

/-- The side of a release `holderIsA` selects. -/
def holder (r : AcceptedRelease) (holderIsA : Bool) : Address :=
  if holderIsA then r.holderA else r.holderB

def payout (r : AcceptedRelease) (holderIsA : Bool) : ℕ :=
  if holderIsA then r.payoutA.toNat else r.payoutB.toNat

end AcceptedRelease

/-- The calls that write to the register. -/
def Event.Files {W R : Type} : Event W R → Prop
  | .call _ entry => match entry with
    | .consumeRelease .. | .cure .. | .finalize .. | .claim .. => True
    | .fundReserve .. | .withdrawAvailable .. => False
  | .outside .. => False

section

variable {W R : Type} (crypto : Crypto) (env : Externals W) (terms : AdapterTerms)
variable (accepted : W → R → AcceptedRelease)

/-- The end of the cure window of a release consumed at `time`. -/
def cureDeadline (time : ℕ) : ℕ := toUint64 time + terms.cureWindow.toNat

/-- What one event can do to the register. -/
inductive CaseStep (c : Chain W) : Event W R → Register → Prop
  | refuse {msg : Msg} {release : R} {signature : Bytes} {r : AcceptedRelease}
      (hrelease : accepted c.world release = r)
      (hnew : (c.adapter.caseByRun r.runId).state = .none)
      (hresult : c.adapter.resultConsumed r.resultDigest = false)
      (hattestation : c.adapter.attestationConsumed r.attestationDigest = false)
      (hsigned : crypto.ecdsaRecover r.attestationDigest signature = some terms.attestor)
      (hconflict : r.conflict = false) :
      CaseStep c (.call msg (.consumeRelease release signature))
        ((c.adapter.register.consume r).write r.runId (r.refused (c.adapter.caseByRun r.runId)))
  | openCase {msg : Msg} {release : R} {signature : Bytes} {r : AcceptedRelease}
      (hrelease : accepted c.world release = r)
      (hnew : (c.adapter.caseByRun r.runId).state = .none)
      (hresult : c.adapter.resultConsumed r.resultDigest = false)
      (hattestation : c.adapter.attestationConsumed r.attestationDigest = false)
      (hsigned : crypto.ecdsaRecover r.attestationDigest signature = some terms.attestor)
      (hconflict : r.conflict = true) (hdue : r.payoutA.toNat + r.payoutB.toNat ≠ 0) :
      CaseStep c (.call msg (.consumeRelease release signature))
        ((c.adapter.register.consume r).write r.runId
          (r.opened (cureDeadline terms msg.timestamp) (c.adapter.caseByRun r.runId)))
  | cure {msg : Msg} {runId : Bytes32} (hopen : (c.adapter.caseByRun runId).state = .cureOpen)
      (hwindow : msg.timestamp ≤ (c.adapter.caseByRun runId).cureDeadline) :
      CaseStep c (.call msg (.cure runId))
        (c.adapter.register.write runId ((c.adapter.caseByRun runId).enter .cured))
  | finalize {msg : Msg} {runId : Bytes32} (hopen : (c.adapter.caseByRun runId).state = .cureOpen)
      (hwindow : (c.adapter.caseByRun runId).cureDeadline < msg.timestamp) :
      CaseStep c (.call msg (.finalize runId))
        (c.adapter.register.write runId ((c.adapter.caseByRun runId).enter .entitled))
  | claim {msg : Msg} {runId : Bytes32} {holderIsA : Bool}
      (hentitled : (c.adapter.caseByRun runId).state = .entitled)
      (hunpaid : (c.adapter.caseByRun runId).paid holderIsA = false)
      (hpos : (c.adapter.caseByRun runId).payout holderIsA ≠ 0) :
      CaseStep c (.call msg (.claim runId holderIsA))
        (c.adapter.register.write runId ((c.adapter.caseByRun runId).markPaid holderIsA).close)
  | quiet {event : Event W R} (hquiet : ¬ event.Files) : CaseStep c event c.adapter.register

/-- What an event can do to the adapter's tokens. -/
inductive TokenStep (c c' : Chain W) : Event W R → Prop
  | claim {msg : Msg} {runId : Bytes32} {holderIsA : Bool}
      (hmove : c.token.move terms.adapter ((c.adapter.caseByRun runId).holder holderIsA)
        ((c.adapter.caseByRun runId).payout holderIsA) = some c'.token) :
      TokenStep c c' (.call msg (.claim runId holderIsA))
  | withdraw {msg : Msg} {target : Address} {amount : BitVec 256}
      (howner : msg.sender = terms.owner)
      (hmove : c.token.move terms.adapter target amount.toNat = some c'.token) :
      TokenStep c c' (.call msg (.withdrawAvailable target amount))
  | fund {msg : Msg} {amount : BitVec 256} (hself : msg.sender ≠ terms.adapter)
      (hmove : c.token.move msg.sender terms.adapter amount.toNat = some c'.token) :
      TokenStep c c' (.call msg (.fundReserve amount))
  | still {msg : Msg} {call : Call R} (htoken : c'.token = c.token) :
      TokenStep c c' (.call msg call)
  | outside {token : Ledger Address 256} {world : W}
      (hkept : c.token.balanceOf terms.adapter ≤ c'.token.balanceOf terms.adapter) :
      TokenStep c c' (.outside token world)

/-- What the shared run needs to know of the two functions that are not shared:
a consumption authenticates a fresh release and records it, and a claim is the
common one behind some gate. -/
structure Flavour.Files (flavour : Flavour W R) : Prop where
  consumeRelease : ∀ {c c' : Chain W} {msg release signature},
    flavour.consumeRelease c msg release signature = .ok c' →
      (c.adapter.caseByRun (accepted c.world release).runId).state = .none ∧
        c.adapter.resultConsumed (accepted c.world release).resultDigest = false ∧
        requireAttested crypto terms c (accepted c.world release).attestationDigest signature =
          .ok () ∧
        recordRelease terms c msg (accepted c.world release) = .ok c'
  claim : ∀ {c c' : Chain W} {runId holderIsA}, flavour.claim c runId holderIsA = .ok c' →
    ∃ gate, claimThrough env terms c gate runId holderIsA = .ok c'

end

section

variable {W R : Type} {crypto : Crypto} {env : Externals W} {terms : AdapterTerms}
variable {accepted : W → R → AcceptedRelease} {c c' : Chain W} {msg : Msg}

theorem requireAttested_ok {digest : Bytes32} {signature : Bytes} {u : Unit}
    (h : requireAttested crypto terms c digest signature = .ok u) :
    c.adapter.attestationConsumed digest = false ∧
      crypto.ecdsaRecover digest signature = some terms.attestor := by
  simp only [requireAttested, bind_ok_iff, revertIf_ok_iff, require_ok_iff, not_not,
    Bool.not_eq_true] at h
  obtain ⟨-, hfresh, signer, hrecovered, rfl⟩ := h
  exact ⟨hfresh, hrecovered⟩

/-- The record of an accepted release, and the tokens it leaves alone. -/
theorem recordRelease_register {r : AcceptedRelease} (h : recordRelease terms c msg r = .ok c') :
    c'.token = c.token ∧
      ((r.conflict = false ∧ c'.adapter.register =
          (c.adapter.register.consume r).write r.runId
            (r.refused (c.adapter.caseByRun r.runId))) ∨
        (r.conflict = true ∧ r.payoutA.toNat + r.payoutB.toNat ≠ 0 ∧ c'.adapter.register =
          (c.adapter.register.consume r).write r.runId
            (r.opened (cureDeadline terms msg.timestamp) (c.adapter.caseByRun r.runId)))) := by
  have hentry : (markConsumed c.adapter r).caseByRun r.runId =
      { c.adapter.caseByRun r.runId with holderA := r.holderA, holderB := r.holderB } :=
    update_self _ _ _
  unfold recordRelease at h
  split at h
  · next hconflict =>
      simp only [openCase, bind_ok_iff, revertIf_ok_iff, checkedAdd_ok_iff, checkedSub_ok_iff,
        pure_ok_iff] at h
      obtain ⟨-, -, total, ⟨-, rfl⟩, -, hdue, -, -, available, -, reserved, -, deadline, ⟨-, rfl⟩,
        rfl⟩ := h
      refine ⟨rfl, .inr ⟨hconflict, hdue, ?_⟩⟩
      simp only [AdapterState.emit, AdapterState.register, AdapterState.setCase,
        markConsumed_setCase, hentry]
      rfl
  · next hconflict =>
      simp only [refuseCase, bind_ok_iff, revertIf_ok_iff, pure_ok_iff] at h
      obtain ⟨-, -, rfl⟩ := h
      refine ⟨rfl, .inl ⟨Bool.not_eq_true _ ▸ hconflict, ?_⟩⟩
      simp only [AdapterState.emit, AdapterState.register, AdapterState.setCase,
        markConsumed_setCase, hentry]
      rfl

theorem cure_register {runId : Bytes32} (h : cure env terms c msg runId = .ok c') :
    c'.token = c.token ∧ (c.adapter.caseByRun runId).state = .cureOpen ∧
      msg.timestamp ≤ (c.adapter.caseByRun runId).cureDeadline ∧
      c'.adapter.register =
        c.adapter.register.write runId ((c.adapter.caseByRun runId).enter .cured) := by
  simp only [cure, bind_ok_iff, revertIf_ok_iff, checkedAdd_ok_iff, checkedSub_ok_iff,
    pure_ok_iff, not_not, not_lt] at h
  obtain ⟨-, -, -, -, -, hopen, -, hwindow, -, -, -, -, -, -, rfl⟩ := h
  exact ⟨rfl, hopen, hwindow, rfl⟩

theorem finalize_register {runId : Bytes32} (h : finalize c msg runId = .ok c') :
    c'.token = c.token ∧ (c.adapter.caseByRun runId).state = .cureOpen ∧
      (c.adapter.caseByRun runId).cureDeadline < msg.timestamp ∧
      c'.adapter.register =
        c.adapter.register.write runId ((c.adapter.caseByRun runId).enter .entitled) := by
  simp only [finalize, bind_ok_iff, revertIf_ok_iff, checkedAdd_ok_iff, checkedSub_ok_iff,
    pure_ok_iff, not_not, not_le] at h
  obtain ⟨-, hopen, -, hwindow, -, -, -, -, -, -, rfl⟩ := h
  exact ⟨rfl, hopen, hwindow, rfl⟩

theorem claimThrough_register {gate : Address → ℕ → Except AdapterError Unit} {runId : Bytes32}
    {holderIsA : Bool} (h : claimThrough env terms c gate runId holderIsA = .ok c') :
    c.token.move terms.adapter ((c.adapter.caseByRun runId).holder holderIsA)
        ((c.adapter.caseByRun runId).payout holderIsA) = some c'.token ∧
      (c.adapter.caseByRun runId).state = .entitled ∧
      (c.adapter.caseByRun runId).paid holderIsA = false ∧
      (c.adapter.caseByRun runId).payout holderIsA ≠ 0 ∧
      c'.adapter.register = c.adapter.register.write runId
        ((c.adapter.caseByRun runId).markPaid holderIsA).close := by
  simp only [claimThrough, bind_ok_iff, revertIf_ok_iff, checkedSub_ok_iff, pure_ok_iff,
    not_not, Bool.not_eq_true] at h
  obtain ⟨-, hentitled, -, hunpaid, -, hpos, -, -, -, -, unpaid, -, c₁, hsettle, rfl⟩ := h
  obtain ⟨token, hmove, rfl⟩ := settle_ok hsettle
  exact ⟨hmove, hentitled, hunpaid, hpos, rfl⟩

/-- **What an event did** to the register and to the adapter's tokens. -/
theorem exec_filed {flavour : Flavour W R} (hflavour : flavour.Files crypto env terms accepted)
    {event : Event W R} (h : exec env terms flavour c event = .ok c') :
    CaseStep crypto terms accepted c event c'.adapter.register ∧ TokenStep terms c c' event := by
  cases event with
  | outside token world =>
      simp only [exec, bind_ok_iff, revertIf_ok_iff, pure_ok_iff, not_lt] at h
      obtain ⟨-, hbalance, rfl⟩ := h
      exact ⟨.quiet id, .outside hbalance⟩
  | call msg call =>
      simp only [exec, bind_ok_iff, revertIf_ok_iff] at h
      obtain ⟨-, hself, hcall⟩ := h
      cases call with
      | fundReserve amount =>
          simp only [Call.perform, fundReserve, bind_ok_iff, pure_ok_iff] at hcall
          obtain ⟨-, -, available, -, c₁, hsettle, rfl⟩ := hcall
          obtain ⟨token, hmove, rfl⟩ := settle_ok hsettle
          exact ⟨.quiet id, .fund hself hmove⟩
      | withdrawAvailable target amount =>
          simp only [Call.perform, withdrawAvailable, bind_ok_iff, revertIf_ok_iff, pure_ok_iff,
            not_not] at hcall
          obtain ⟨-, howner, -, -, -, -, -, -, available, -, c₁, hsettle, rfl⟩ := hcall
          obtain ⟨token, hmove, rfl⟩ := settle_ok hsettle
          exact ⟨.quiet id, .withdraw howner hmove⟩
      | consumeRelease release signature =>
          obtain ⟨hnew, hresult, hattested, hrecord⟩ := hflavour.consumeRelease hcall
          obtain ⟨hattestation, hsigned⟩ := requireAttested_ok hattested
          obtain ⟨htoken, ⟨hconflict, hregister⟩ | ⟨hconflict, hdue, hregister⟩⟩ :=
            recordRelease_register hrecord
          · rw [hregister]
            exact ⟨.refuse rfl hnew hresult hattestation hsigned hconflict, .still htoken⟩
          · rw [hregister]
            exact ⟨.openCase rfl hnew hresult hattestation hsigned hconflict hdue, .still htoken⟩
      | cure runId =>
          obtain ⟨htoken, hopen, hwindow, hregister⟩ := cure_register hcall
          rw [hregister]
          exact ⟨.cure hopen hwindow, .still htoken⟩
      | finalize runId =>
          obtain ⟨htoken, hopen, hwindow, hregister⟩ := finalize_register hcall
          rw [hregister]
          exact ⟨.finalize hopen hwindow, .still htoken⟩
      | claim runId holderIsA =>
          obtain ⟨gate, hthrough⟩ := hflavour.claim hcall
          obtain ⟨hmove, hentitled, hunpaid, hpos, hregister⟩ := claimThrough_register hthrough
          rw [hregister]
          exact ⟨.claim hentitled hunpaid hpos, .claim hmove⟩

end

/-! ## Both adapters -/

section

variable {W : Type} {crypto : Crypto} {env : Externals W}

/-- What a governed adapter records, in some world. -/
def GovernedRelease.acceptedIn (crypto : Crypto) (env : Externals W) (terms : AdapterTerms)
    (world : W) (r : GovernedRelease) : AcceptedRelease :=
  r.accepted (r.hashRelease crypto env terms world)

/-- What a coalition adapter records, in some world. -/
def CoalitionRelease.acceptedIn (crypto : Crypto) (env : Externals W) (terms : AdapterTerms)
    (world : W) (r : CoalitionRelease) : AcceptedRelease :=
  r.accepted (r.hashRelease crypto env terms world)

theorem governed_files (terms : AdapterTerms) : (governed crypto env terms).Files crypto env terms
    (GovernedRelease.acceptedIn crypto env terms) where
  consumeRelease {c c' msg release signature} h := by
    obtain ⟨hnew, hunused, hattested, hrecord⟩ := consumption_ok h
    exact ⟨not_not.mp hnew, Bool.not_eq_true _ ▸ hunused, hattested, hrecord⟩
  claim {c c' runId holderIsA} h := by
    change governedClaim env terms c runId holderIsA = .ok c' at h
    exact ⟨_, h⟩

theorem coalition_files (terms : CoalitionTerms) :
    (coalition crypto env terms).Files crypto env terms.toAdapterTerms
      (CoalitionRelease.acceptedIn crypto env terms.toAdapterTerms) where
  consumeRelease {c c' msg release signature} h := by
    obtain ⟨hnew, hunused, hattested, hrecord⟩ := consumption_ok h
    exact ⟨not_not.mp hnew, Bool.not_eq_true _ ▸ hunused, hattested, hrecord⟩
  claim {c c' runId holderIsA} h := by
    change coalitionClaim env terms.toAdapterTerms c runId holderIsA = .ok c' at h
    exact ⟨_, h⟩

end

/-! ## Histories -/

/-- An accepted consumption. -/
structure Consumption where
  time : ℕ
  release : AcceptedRelease
  signature : Bytes

/-- A call about one run identifier. -/
inductive Entry
  | consumed (k : Consumption)
  | cured (time : ℕ)
  | finalized (time : ℕ)
  | claimed (time : ℕ) (holderIsA : Bool)

def Entry.time : Entry → ℕ
  | .consumed k => k.time
  | .cured time => time
  | .finalized time => time
  | .claimed time _ => time

section

variable {W R : Type} (crypto : Crypto) (env : Externals W) (terms : AdapterTerms)
variable (accepted : W → R → AcceptedRelease)

/-- What an event adds to the history of a run identifier. -/
def entries (runId : Bytes32) (c : Chain W) : Event W R → List Entry
  | .call msg (.consumeRelease release signature) =>
      if (accepted c.world release).runId = runId then
        [.consumed ⟨msg.timestamp, accepted c.world release, signature⟩]
      else []
  | .call msg (.cure id) => if id = runId then [.cured msg.timestamp] else []
  | .call msg (.finalize id) => if id = runId then [.finalized msg.timestamp] else []
  | .call msg (.claim id holderIsA) =>
      if id = runId then [.claimed msg.timestamp holderIsA] else []
  | _ => []

/-- The releases an event consumes. -/
def consumption (c : Chain W) : Event W R → List AcceptedRelease
  | .call _ (.consumeRelease release _) => [accepted c.world release]
  | _ => []

/-- The attestor signed the release, and it is about this run identifier. -/
structure Consumption.Attested (runId : Bytes32) (k : Consumption) : Prop where
  runId : k.release.runId = runId
  signed : crypto.ecdsaRecover k.release.attestationDigest k.signature = some terms.attestor

/-- The end of the cure window of a consumption. -/
def Consumption.deadline (k : Consumption) : ℕ := cureDeadline terms k.time

/-- The case a consumed conflict opens. -/
def Consumption.case (k : Consumption) : Case := k.release.opened (k.deadline terms) {}

/-- The histories that occur, each with the record it leaves. -/
inductive CaseFile (runId : Bytes32) : List Entry → Case → Prop
  | blank : CaseFile runId [] {}
  | refused (k : Consumption) (hattested : k.Attested crypto terms runId)
      (hconflict : k.release.conflict = false) :
      CaseFile runId [.consumed k] (k.release.refused {})
  | opened (k : Consumption) (hattested : k.Attested crypto terms runId)
      (hconflict : k.release.conflict = true) : CaseFile runId [.consumed k] (k.case terms)
  | cured (k : Consumption) (hattested : k.Attested crypto terms runId)
      (hconflict : k.release.conflict = true) (time : ℕ) (hwindow : time ≤ k.deadline terms) :
      CaseFile runId [.consumed k, .cured time] ((k.case terms).enter .cured)
  | entitled (k : Consumption) (hattested : k.Attested crypto terms runId)
      (hconflict : k.release.conflict = true) (time : ℕ) (hwindow : k.deadline terms < time) :
      CaseFile runId [.consumed k, .finalized time] ((k.case terms).enter .entitled)
  | paid (k : Consumption) (hattested : k.Attested crypto terms runId)
      (hconflict : k.release.conflict = true) (time : ℕ) (hwindow : k.deadline terms < time)
      (first : ℕ) (holderIsA : Bool) (hpos : k.release.payout holderIsA ≠ 0) :
      CaseFile runId [.consumed k, .finalized time, .claimed first holderIsA]
        (((k.case terms).enter .entitled).markPaid holderIsA)
  | closed (k : Consumption) (hattested : k.Attested crypto terms runId)
      (hconflict : k.release.conflict = true) (time : ℕ) (hwindow : k.deadline terms < time)
      (first last : ℕ) (holderIsA : Bool) (hpos : k.release.payout holderIsA ≠ 0)
      (hother : k.release.payout (!holderIsA) ≠ 0) :
      CaseFile runId
        [.consumed k, .finalized time, .claimed first holderIsA, .claimed last (!holderIsA)]
        ((((k.case terms).enter .claimed).markPaid holderIsA).markPaid (!holderIsA))

end

section

variable {W R : Type} {crypto : Crypto} {env : Externals W} {terms : AdapterTerms}
variable {accepted : W → R → AcceptedRelease} {c : Chain W} {runId : Bytes32}
variable {history : List Entry} {entry : Case} {event : Event W R} {g : Register}

theorem CaseFile.of_none (h : CaseFile crypto terms runId history entry)
    (hstate : entry.state = .none) : history = [] ∧ entry = {} := by
  cases h with
  | blank => exact ⟨rfl, rfl⟩
  | refused | opened | cured | entitled => exact nomatch hstate
  | paid k _ _ time _ first holderIsA | closed k _ _ time _ first last holderIsA =>
      cases holderIsA <;> exact nomatch hstate

theorem CaseFile.of_open (h : CaseFile crypto terms runId history entry)
    (hstate : entry.state = .cureOpen) :
    ∃ k : Consumption, k.Attested crypto terms runId ∧ k.release.conflict = true ∧
      history = [.consumed k] ∧ entry = k.case terms := by
  cases h with
  | opened k hattested hconflict => exact ⟨k, hattested, hconflict, rfl, rfl⟩
  | blank | refused | cured | entitled => exact nomatch hstate
  | paid k _ _ time _ first holderIsA | closed k _ _ time _ first last holderIsA =>
      cases holderIsA <;> exact nomatch hstate

/-- The file of an entitled case: nobody paid, or one side. -/
theorem CaseFile.of_entitled (h : CaseFile crypto terms runId history entry)
    (hstate : entry.state = .entitled) :
    ∃ (k : Consumption) (time : ℕ), k.Attested crypto terms runId ∧ k.release.conflict = true ∧
      k.deadline terms < time ∧
      ((history = [.consumed k, .finalized time] ∧ entry = (k.case terms).enter .entitled) ∨
        ∃ first holderIsA, k.release.payout holderIsA ≠ 0 ∧
          history = [.consumed k, .finalized time, .claimed first holderIsA] ∧
          entry = ((k.case terms).enter .entitled).markPaid holderIsA) := by
  cases h with
  | entitled k hattested hconflict time hwindow =>
      exact ⟨k, time, hattested, hconflict, hwindow, .inl ⟨rfl, rfl⟩⟩
  | paid k hattested hconflict time hwindow first holderIsA hpos =>
      exact ⟨k, time, hattested, hconflict, hwindow, .inr ⟨first, holderIsA, hpos, rfl, rfl⟩⟩
  | blank | refused | opened | cured => exact nomatch hstate
  | closed k _ _ time _ first last holderIsA => cases holderIsA <;> exact nomatch hstate

/-- Nothing is added to the file of another run identifier. -/
theorem CaseFile.other {id : Bytes32}
    (h : CaseFile crypto terms runId history (c.adapter.caseByRun runId))
    (hentries : entries accepted runId c event = if id = runId then entries accepted id c event
      else []) (hcases : g.caseByRun = update c.adapter.caseByRun id entry)
    (hother : id ≠ runId) :
    CaseFile crypto terms runId (history ++ entries accepted runId c event)
      (g.caseByRun runId) := by
  rw [hentries, if_neg hother, List.append_nil, hcases, Function.update_of_ne hother.symm]
  exact h

/-- A consumption starts the file of its run identifier and leaves the others. -/
theorem CaseFile.consume {msg : Msg} {release : R} {signature : Bytes} {record : Case → Case}
    (h : CaseFile crypto terms runId history (c.adapter.caseByRun runId))
    (hnew : (c.adapter.caseByRun (accepted c.world release).runId).state = .none)
    (hcases : g.caseByRun = update c.adapter.caseByRun (accepted c.world release).runId
      (record (c.adapter.caseByRun (accepted c.world release).runId)))
    (hfile : (accepted c.world release).runId = runId → CaseFile crypto terms runId
      [.consumed ⟨msg.timestamp, accepted c.world release, signature⟩] (record {})) :
    CaseFile crypto terms runId
      (history ++ entries accepted runId c (.call msg (.consumeRelease release signature)))
      (g.caseByRun runId) := by
  by_cases hsame : (accepted c.world release).runId = runId
  · rw [hsame] at hnew hcases
    obtain ⟨rfl, hblank⟩ := h.of_none hnew
    simp only [entries, if_pos hsame, List.nil_append, hcases, update_self, hblank]
    exact hfile hsame
  · exact h.other (by simp [entries, hsame]) hcases hsame

/-- The end of a cure window, one way or the other, is the second entry of a file
and leaves the others. -/
theorem CaseFile.closeWindow {id : Bytes32} {last : Entry} {state : CaseState}
    (h : CaseFile crypto terms runId history (c.adapter.caseByRun runId))
    (hentries : ∀ runId, entries accepted runId c event = if id = runId then [last] else [])
    (hopen : (c.adapter.caseByRun id).state = .cureOpen)
    (hcases : g.caseByRun = update c.adapter.caseByRun id
      ((c.adapter.caseByRun id).enter state))
    (hfile : ∀ k : Consumption, k.Attested crypto terms id → k.release.conflict = true →
      c.adapter.caseByRun id = k.case terms →
      CaseFile crypto terms id [.consumed k, last] ((k.case terms).enter state)) :
    CaseFile crypto terms runId (history ++ entries accepted runId c event)
      (g.caseByRun runId) := by
  by_cases hsame : id = runId
  · subst hsame
    obtain ⟨k, hattested, hconflict, rfl, hcase⟩ := h.of_open hopen
    rw [hentries, if_pos rfl, hcases, update_self, hcase]
    exact hfile k hattested hconflict hcase
  · refine h.other ?_ hcases hsame
    rw [hentries, hentries, if_pos rfl]

/-- One event keeps every file in the grammar. -/
theorem CaseFile.step (h : CaseFile crypto terms runId history (c.adapter.caseByRun runId))
    (hstep : CaseStep crypto terms accepted c event g) :
    CaseFile crypto terms runId (history ++ entries accepted runId c event)
      (g.caseByRun runId) := by
  cases hstep with
  | refuse hrelease hnew _ _ hsigned hconflict =>
      subst hrelease
      exact h.consume hnew rfl fun hsame => .refused _ ⟨hsame, hsigned⟩ hconflict
  | openCase hrelease hnew _ _ hsigned hconflict =>
      subst hrelease
      exact h.consume hnew rfl fun hsame => .opened _ ⟨hsame, hsigned⟩ hconflict
  | cure hopen hwindow =>
      apply h.closeWindow (fun _ => rfl) hopen rfl
      intro k hattested hconflict hcase
      rw [hcase] at hwindow
      exact .cured k hattested hconflict _ hwindow
  | finalize hopen hwindow =>
      apply h.closeWindow (fun _ => rfl) hopen rfl
      intro k hattested hconflict hcase
      rw [hcase] at hwindow
      exact .entitled k hattested hconflict _ hwindow
  | @claim msg id holderIsA hentitled hunpaid hpos =>
      by_cases hsame : id = runId
      · subst hsame
        obtain ⟨k, time, hattested, hconflict, hwindow, ⟨rfl, hcase⟩ | ⟨first, side, hpaid, rfl,
          hcase⟩⟩ := h.of_entitled hentitled
        · rw [hcase] at hpos
          have hclose : (((k.case terms).enter .entitled).markPaid holderIsA).close =
              ((k.case terms).enter .entitled).markPaid holderIsA := by
            cases holderIsA <;> rfl
          simp only [entries, if_true, Register.write, update_self, hcase, hclose]
          exact .paid k hattested hconflict time hwindow msg.timestamp holderIsA hpos
        · -- the side already paid is refused, so this is the other one
          rw [hcase] at hpos hunpaid
          obtain rfl : holderIsA = !side := by
            cases holderIsA <;> cases side <;> first | rfl | exact nomatch hunpaid
          have hclose : ((((k.case terms).enter .entitled).markPaid side).markPaid (!side)).close =
              (((k.case terms).enter .claimed).markPaid side).markPaid (!side) := by
            cases side <;> rfl
          have hother : k.release.payout (!side) ≠ 0 := by
            cases side <;> exact hpos
          simp only [entries, if_true, Register.write, update_self, hcase, hclose]
          exact .closed k hattested hconflict time hwindow first msg.timestamp side hpaid hother
      · exact h.other (by simp [entries, hsame]) rfl hsame
  | quiet hquiet =>
      have hentries : entries accepted runId c event = [] := by
        cases event with
        | outside => rfl
        | call msg call =>
            cases call with
            | fundReserve | withdrawAvailable => rfl
            | consumeRelease | cure | finalize | claim => exact absurd trivial hquiet
      rw [hentries, List.append_nil]
      exact h

end

end Mordant.Recourse
