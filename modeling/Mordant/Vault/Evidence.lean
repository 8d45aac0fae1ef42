/-
# The evidence behind an entitlement

Four calls make an entitlement: the activation, a commitment, its opening and
the finalization, at different times and with other calls between them.  A
commitment can expire and an opened one can be cured, and a new one may follow;
the record of the entitlement must come from the last of them alone.

`Trail` says, for each protection state, which of the four calls the history
contains and what the docket still keeps of them.  One more event either
extends the trail or cuts it back to the activation.
-/

import Mordant.Vault.Docket

namespace Mordant.Vault

open Evm Foundation
open Function (update_self update_of_ne)

/-- The half-open window of a pledge contains the time `t`. -/
def Pledge.ActiveAt (pledge : Pledge) (t : ℕ) : Prop :=
  pledge.activeFrom.toNat ≤ t ∧ t < pledge.activeUntil.toNat

/-- The calls that move a conflict along. -/
def Event.MovesConflict {W : Type} : Event W → Prop
  | .call _ entry => match entry with
    | .activate .. | .commitConflict .. | .revealConflict .. | .expireCommit | .cureConflict ..
    | .finalizeConflict => True
    | _ => False
  | _ => False

/-- The block time of a call. -/
def Event.time {W : Type} : Event W → Option ℕ
  | .call msg _ => some msg.timestamp
  | _ => none

/-- Block times do not decrease. -/
def Chronological {W : Type} (events : List (Event W)) : Prop :=
  events.Pairwise fun first second =>
    ∀ t₁ t₂, first.time = some t₁ → second.time = some t₂ → t₁ ≤ t₂

/-- The activation, with the events before it and the chain it ran on. -/
structure Activation (W : Type) where
  before : List (Event W)
  chain : Chain W
  msg : Msg
  pledge : Pledge
  signature : Bytes
  funder : Address
  holders : List Address
  allocations : List (BitVec 256)

/-- A commitment, with the events since the activation. -/
structure Commitment (W : Type) where
  between : List (Event W)
  chain : Chain W
  msg : Msg
  commitment : Bytes32

/-- The opening of a commitment, with the events since. -/
structure Opening (W : Type) where
  between : List (Event W)
  chain : Chain W
  msg : Msg
  pledge : Pledge
  signature : Bytes
  salt : Bytes32

/-- The finalization, with the events since the opening. -/
structure Finalization (W : Type) where
  between : List (Event W)
  chain : Chain W
  msg : Msg

section

variable {W : Type} (a : Activation W) (k : Commitment W) (o : Opening W) (f : Finalization W)

/-- The history up to and including each of the four calls. -/
def Activation.events : List (Event W) :=
  a.before ++ [.call a.msg (.activate a.pledge a.signature a.funder a.holders a.allocations)]

def Commitment.events : List (Event W) :=
  a.events ++ k.between ++ [.call k.msg (.commitConflict k.commitment)]

def Opening.events : List (Event W) :=
  k.events a ++ o.between ++ [.call o.msg (.revealConflict o.pledge o.signature o.salt)]

def Finalization.events : List (Event W) :=
  o.events a k ++ f.between ++ [.call f.msg .finalizeConflict]

end

section

variable {W : Type} (crypto : Crypto) (env : Externals W) (terms : Terms) (start : Chain W)

/-- What the activation established when it was made. -/
structure Activation.Sound (a : Activation W) : Prop where
  reached : run (exec crypto env terms) start a.before = .ok a.chain
  accepted : PledgeAccepted crypto env terms a.chain a.pledge a.signature a.msg.sender
    (toUint64 a.msg.timestamp)
  covers : terms.protectionEnd ≤ a.pledge.activeUntil.toNat

/-- What the docket keeps of the activation. -/
structure Activation.Recorded (a : Activation W) (d : Docket) : Prop where
  facility : d.protectedFacility = a.msg.sender
  activeFrom : d.protectedActiveFrom = a.pledge.activeFrom.toNat
  activeUntil : d.protectedActiveUntil = a.pledge.activeUntil.toNat
  digest : d.usedPledgeDigest (hashPledge crypto terms a.pledge) = true
  nonce : d.usedPledgeNonce a.pledge.originatorSigner a.pledge.nonce = true

/-- What the commitment established when it was made. -/
structure Commitment.Sound (a : Activation W) (k : Commitment W) : Prop where
  reached : run (exec crypto env terms) start (a.events ++ k.between) = .ok k.chain
  window : k.msg.timestamp ≤ terms.protectionEnd
  notBuyer : k.msg.sender ≠ terms.buyer
  notTreasury : k.msg.sender ≠ terms.originatorTreasury
  notOriginator : k.chain.vault.authorizedOriginator k.msg.sender = false
  deadline : toUint64 k.msg.timestamp + terms.revealPeriod < 2 ^ 64

/-- What the docket keeps of the commitment. -/
structure Commitment.Recorded (k : Commitment W) (d : Docket) : Prop where
  commitment : d.pendingConflict.commitment = k.commitment
  facility : d.pendingConflict.facility = k.msg.sender
  committedAt : d.pendingConflict.committedAt = toUint64 k.msg.timestamp
  revealDeadline : d.pendingConflict.revealDeadline =
    toUint64 k.msg.timestamp + terms.revealPeriod

/-- What the opening established when it was made. -/
structure Opening.Sound (a : Activation W) (k : Commitment W) (o : Opening W) : Prop where
  reached : run (exec crypto env terms) start (k.events a ++ o.between) = .ok o.chain
  undisturbed : ∀ event ∈ o.between, ¬ event.MovesConflict
  sender : o.msg.sender = k.msg.sender
  window : o.msg.timestamp ≤ toUint64 k.msg.timestamp + terms.revealPeriod
  accepted : PledgeAccepted crypto env terms o.chain o.pledge o.signature o.msg.sender
    (toUint64 k.msg.timestamp)
  opens : conflictCommitment crypto terms (hashPledge crypto terms o.pledge)
    (crypto.keccak256 o.signature) o.msg.sender o.salt = k.commitment
  facility : o.msg.sender ≠ a.msg.sender
  overlap : o.pledge.activeFrom.toNat < a.pledge.activeUntil.toNat ∧
    a.pledge.activeFrom.toNat < o.pledge.activeUntil.toNat
  digest : hashPledge crypto terms o.pledge ≠ hashPledge crypto terms a.pledge
  nonce : (o.pledge.originatorSigner, o.pledge.nonce) ≠
    (a.pledge.originatorSigner, a.pledge.nonce)
  deadline : toUint64 o.msg.timestamp + terms.curePeriod < 2 ^ 64

/-- What the finalization established when it was made. -/
structure Finalization.Sound (a : Activation W) (k : Commitment W) (o : Opening W)
    (f : Finalization W) : Prop where
  reached : run (exec crypto env terms) start (o.events a k ++ f.between) = .ok f.chain
  undisturbed : ∀ event ∈ f.between, ¬ event.MovesConflict
  window : toUint64 o.msg.timestamp + terms.curePeriod < f.msg.timestamp

/-- How far the history has come, state by state. -/
inductive Trail (events : List (Event W)) (d : Docket) : Prop
  | fresh (hstate : d.protectionState = .unfunded)
  | activated (a : Activation W) (rest : List (Event W)) (hevents : events = a.events ++ rest)
      (hstate : d.protectionState = .active ∨ d.protectionState = .released)
      (hsound : a.Sound crypto env terms start) (hrecorded : a.Recorded crypto terms d)
  | committed (a : Activation W) (k : Commitment W) (rest : List (Event W))
      (hevents : events = k.events a ++ rest) (hquiet : ∀ event ∈ rest, ¬ event.MovesConflict)
      (hstate : d.protectionState = .commitPending)
      (hsound : a.Sound crypto env terms start ∧ k.Sound crypto env terms start a)
      (hrecorded : a.Recorded crypto terms d ∧ k.Recorded terms d)
  | opened (a : Activation W) (k : Commitment W) (o : Opening W) (rest : List (Event W))
      (hevents : events = o.events a k ++ rest) (hquiet : ∀ event ∈ rest, ¬ event.MovesConflict)
      (hstate : d.protectionState = .conflictConfirmed)
      (hsound : a.Sound crypto env terms start ∧ k.Sound crypto env terms start a ∧
        o.Sound crypto env terms start a k)
      (hrecorded : a.Recorded crypto terms d)
      (hdeadline : d.pendingConflict.cureDeadline = toUint64 o.msg.timestamp + terms.curePeriod)
  | finalized (a : Activation W) (k : Commitment W) (o : Opening W) (f : Finalization W)
      (rest : List (Event W)) (hevents : events = f.events a k o ++ rest)
      (hstate : d.protectionState = .entitled)
      (hsound : a.Sound crypto env terms start ∧ k.Sound crypto env terms start a ∧
        o.Sound crypto env terms start a k ∧ f.Sound crypto env terms start a k o)

end

section

variable {W : Type} {crypto : Crypto} {env : Externals W} {terms : Terms} {start : Chain W}
variable {events : List (Event W)} {event : Event W} {c c' : Chain W} {d d' : Docket}

/-- The part of the docket a trail is read off. -/
structure SameFile (d d' : Docket) : Prop where
  state : d'.protectionState = d.protectionState
  pending : d'.pendingConflict = d.pendingConflict
  facility : d'.protectedFacility = d.protectedFacility
  activeFrom : d'.protectedActiveFrom = d.protectedActiveFrom
  activeUntil : d'.protectedActiveUntil = d.protectedActiveUntil
  digests : d'.usedPledgeDigest = d.usedPledgeDigest
  nonces : d'.usedPledgeNonce = d.usedPledgeNonce

theorem SameFile.refl (d : Docket) : SameFile d d := ⟨rfl, rfl, rfl, rfl, rfl, rfl, rfl⟩

theorem Activation.Recorded.same {a : Activation W} (h : a.Recorded crypto terms d)
    (hsame : SameFile d d') : a.Recorded crypto terms d' where
  facility := hsame.facility.trans h.facility
  activeFrom := hsame.activeFrom.trans h.activeFrom
  activeUntil := hsame.activeUntil.trans h.activeUntil
  digest := by rw [hsame.digests]; exact h.digest
  nonce := by rw [hsame.nonces]; exact h.nonce

theorem Commitment.Recorded.same {k : Commitment W} (h : k.Recorded terms d)
    (hsame : SameFile d d') : k.Recorded terms d' := by
  constructor
  · rw [hsame.pending, h.commitment]
  · rw [hsame.pending, h.facility]
  · rw [hsame.pending, h.committedAt]
  · rw [hsame.pending, h.revealDeadline]

/-- Spending another pledge keeps a spent one spent. -/
theorem Activation.Recorded.spend {a : Activation W} (h : a.Recorded crypto terms d)
    (digest : Bytes32) (pledge : Pledge) {state : ProtectionState} {pending : PendingConflict} :
    a.Recorded crypto terms
      { d.spend digest pledge with protectionState := state, pendingConflict := pending } where
  facility := h.facility
  activeFrom := h.activeFrom
  activeUntil := h.activeUntil
  digest := by
    by_cases hsame : hashPledge crypto terms a.pledge = digest
    · subst hsame
      exact update_self _ _ _
    · exact (update_of_ne hsame _ _).trans h.digest
  nonce := by
    change Function.update d.usedPledgeNonce pledge.originatorSigner _ _ _ = true
    by_cases hsigner : a.pledge.originatorSigner = pledge.originatorSigner
    · rw [hsigner, update_self]
      by_cases hnonce : a.pledge.nonce = pledge.nonce
      · rw [hnonce, update_self]
      · rw [update_of_ne hnonce, ← hsigner]
        exact h.nonce
    · rw [update_of_ne hsigner]
      exact h.nonce

theorem not_movesConflict_of_quiet (hquiet : ¬ event.Files) : ¬ event.MovesConflict := by
  cases event with
  | call msg entry =>
      cases entry with
      | activate | commitConflict | revealConflict | expireCommit | cureConflict
      | finalizeConflict => exact absurd trivial hquiet
      | _ => exact id
  | donate | outside => exact id

theorem forall_mem_snoc {p : Event W → Prop} {rest : List (Event W)} (hrest : ∀ e ∈ rest, p e)
    (hlast : p event) : ∀ e ∈ rest ++ [event], p e := by
  intro e hmem
  rcases List.mem_append.mp hmem with hmem | hmem
  · exact hrest e hmem
  · rw [List.mem_singleton.mp hmem]
    exact hlast

/-- An event that does not move the conflict extends the trail. -/
theorem Trail.extend (h : Trail crypto env terms start events d) (hsame : SameFile d d')
    (hquiet : ¬ event.MovesConflict) : Trail crypto env terms start (events ++ [event]) d' := by
  cases h with
  | fresh hstate => exact .fresh (hsame.state.trans hstate)
  | activated a rest hevents hstate hsound hrecorded =>
      refine .activated a (rest ++ [event]) ?_ ?_ hsound (hrecorded.same hsame)
      · rw [hevents, List.append_assoc]
      · rwa [hsame.state]
  | committed a k rest hevents hrest hstate hsound hrecorded =>
      refine .committed a k (rest ++ [event]) ?_ (forall_mem_snoc hrest hquiet)
        (hsame.state.trans hstate) hsound ⟨hrecorded.1.same hsame, hrecorded.2.same hsame⟩
      rw [hevents, List.append_assoc]
  | opened a k o rest hevents hrest hstate hsound hrecorded hdeadline =>
      refine .opened a k o (rest ++ [event]) ?_ (forall_mem_snoc hrest hquiet)
        (hsame.state.trans hstate) hsound (hrecorded.same hsame) ?_
      · rw [hevents, List.append_assoc]
      · rw [hsame.pending, hdeadline]
  | finalized a k o f rest hevents hstate hsound =>
      refine .finalized a k o f (rest ++ [event]) ?_ (hsame.state.trans hstate) hsound
      rw [hevents, List.append_assoc]

/-! The trail in a given state. -/

theorem Trail.inActive (h : Trail crypto env terms start events d)
    (hstate : d.protectionState = .active) :
    ∃ (a : Activation W) (rest : List (Event W)), events = a.events ++ rest ∧
      a.Sound crypto env terms start ∧ a.Recorded crypto terms d := by
  cases h with
  | activated a rest hevents _ hsound hrecorded => exact ⟨a, rest, hevents, hsound, hrecorded⟩
  | _ => simp_all

theorem Trail.inCommitPending (h : Trail crypto env terms start events d)
    (hstate : d.protectionState = .commitPending) :
    ∃ (a : Activation W) (k : Commitment W) (rest : List (Event W)),
      events = k.events a ++ rest ∧ (∀ event ∈ rest, ¬ event.MovesConflict) ∧
      (a.Sound crypto env terms start ∧ k.Sound crypto env terms start a) ∧
      a.Recorded crypto terms d ∧ k.Recorded terms d := by
  cases h with
  | committed a k rest hevents hquiet _ hsound hrecorded =>
      exact ⟨a, k, rest, hevents, hquiet, hsound, hrecorded⟩
  | _ => simp_all

theorem Trail.inConflictConfirmed (h : Trail crypto env terms start events d)
    (hstate : d.protectionState = .conflictConfirmed) :
    ∃ (a : Activation W) (k : Commitment W) (o : Opening W) (rest : List (Event W)),
      events = o.events a k ++ rest ∧ (∀ event ∈ rest, ¬ event.MovesConflict) ∧
      (a.Sound crypto env terms start ∧ k.Sound crypto env terms start a ∧
        o.Sound crypto env terms start a k) ∧
      a.Recorded crypto terms d ∧
      d.pendingConflict.cureDeadline = toUint64 o.msg.timestamp + terms.curePeriod := by
  cases h with
  | opened a k o rest hevents hquiet _ hsound hrecorded hdeadline =>
      exact ⟨a, k, o, rest, hevents, hquiet, hsound, hrecorded, hdeadline⟩
  | _ => simp_all

theorem Trail.inEntitled (h : Trail crypto env terms start events d)
    (hstate : d.protectionState = .entitled) :
    ∃ (a : Activation W) (k : Commitment W) (o : Opening W) (f : Finalization W)
        (rest : List (Event W)), events = f.events a k o ++ rest ∧
      a.Sound crypto env terms start ∧ k.Sound crypto env terms start a ∧
      o.Sound crypto env terms start a k ∧ f.Sound crypto env terms start a k o := by
  cases h with
  | finalized a k o f rest hevents _ hsound => exact ⟨a, k, o, f, rest, hevents, hsound⟩
  | _ => simp_all

/-- **One more event.** -/
theorem Trail.step (h : Trail crypto env terms start events c.vault.docket)
    (hrun : run (exec crypto env terms) start events = .ok c)
    (hstep : DocketStep crypto env terms c event d) :
    Trail crypto env terms start (events ++ [event]) d := by
  cases hstep with
  | @activate msg pledge signature funder holders allocations hstate haccepted hcovers hfresh =>
      refine .activated ⟨events, c, msg, pledge, signature, funder, holders, allocations⟩ []
        (List.append_nil _).symm (.inl rfl) ⟨hrun, haccepted, hcovers⟩ ⟨rfl, rfl, rfl, ?_, ?_⟩
      · exact update_self _ _ _
      · exact (congrFun (update_self _ _ _) _).trans (update_self _ _ _)
  | authorize => exact h.extend ⟨rfl, rfl, rfl, rfl, rfl, rfl, rfl⟩ id
  | @commit msg commitment exposed hstate hcommitment hwindow hother hbuyer htreasury horiginator _
      _ _ hdeadline =>
      obtain ⟨a, rest, hevents, hsound, hrecorded⟩ := h.inActive hstate
      refine .committed a ⟨rest, c, msg, commitment⟩ [] ?_ (fun _ hmem => nomatch hmem) rfl
        ⟨hsound, ?_⟩ ⟨?_, ⟨rfl, rfl, rfl, rfl⟩⟩
      · rw [Commitment.events, List.append_nil, hevents]
      · refine ⟨?_, hwindow, hbuyer, htreasury, horiginator, hdeadline⟩
        rw [← hevents]
        exact hrun
      · exact ⟨hrecorded.facility, hrecorded.activeFrom, hrecorded.activeUntil, hrecorded.digest,
          hrecorded.nonce⟩
  | @reveal msg pledge signature salt hstate hsender hwindow haccepted hopens hother hoverlap hfresh
      hdeadline =>
      obtain ⟨a, k, rest, hevents, hquiet, hsound, hactivation, hcommitment⟩ :=
        h.inCommitPending hstate
      refine .opened a k ⟨rest, c, msg, pledge, signature, salt⟩ [] ?_ (fun _ hmem => nomatch hmem)
        rfl ⟨hsound.1, hsound.2, ?_⟩ (hactivation.spend _ pledge) rfl
      · rw [Opening.events, List.append_nil, hevents]
      · exact
          { reached := by rw [← hevents]; exact hrun
            undisturbed := hquiet
            sender := hsender.trans hcommitment.facility
            window := hwindow.trans_eq hcommitment.revealDeadline
            accepted := hcommitment.committedAt ▸ haccepted
            opens := hopens.trans hcommitment.commitment
            facility := fun hsame => hother (hsame.trans hactivation.facility.symm)
            overlap := ⟨hoverlap.1.trans_eq hactivation.activeUntil,
              hactivation.activeFrom.symm.trans_lt hoverlap.2⟩
            digest := fun hsame => hfresh (.inl (hsame ▸ hactivation.digest))
            nonce := fun hsame => by
              obtain ⟨hsigner, hnonce⟩ := Prod.mk.inj hsame
              refine hfresh (.inr ?_)
              rw [hsigner, hnonce]
              exact hactivation.nonce
            deadline := hdeadline }
  | @expire msg hstate hwindow =>
      obtain ⟨a, k, rest, hevents, -, hsound, hactivation, -⟩ := h.inCommitPending hstate
      refine .activated a (k.between ++ [.call k.msg (.commitConflict k.commitment)] ++ rest ++
        [.call msg .expireCommit]) ?_ (.inl rfl) hsound.1
        ⟨hactivation.facility, hactivation.activeFrom, hactivation.activeUntil, hactivation.digest,
          hactivation.nonce⟩
      rw [hevents, Commitment.events]
      simp only [List.append_assoc]
  | @cure msg cancellation signature hstate hwindow =>
      obtain ⟨a, k, o, rest, hevents, -, hsound, hactivation, -⟩ := h.inConflictConfirmed hstate
      refine .activated a (k.between ++ [.call k.msg (.commitConflict k.commitment)] ++ o.between ++
        [.call o.msg (.revealConflict o.pledge o.signature o.salt)] ++ rest ++
        [.call msg (.cureConflict cancellation signature)]) ?_ (.inl rfl) hsound.1
        ⟨hactivation.facility, hactivation.activeFrom, hactivation.activeUntil, hactivation.digest,
          hactivation.nonce⟩
      rw [hevents, Opening.events, Commitment.events]
      simp only [List.append_assoc]
  | @finalize msg hstate hwindow =>
      obtain ⟨a, k, o, rest, hevents, hquiet, hsound, -, hdeadline⟩ := h.inConflictConfirmed hstate
      refine .finalized a k o ⟨rest, c, msg⟩ [] ?_ rfl
        ⟨hsound.1, hsound.2.1, hsound.2.2, ?_, hquiet, ?_⟩
      · rw [Finalization.events, List.append_nil, hevents]
      · rw [← hevents]
        exact hrun
      · exact hdeadline.symm.trans_lt hwindow
  | claim => exact h.extend ⟨rfl, rfl, rfl, rfl, rfl, rfl, rfl⟩ id
  | @release msg entry hstate hentry =>
      obtain ⟨a, rest, hevents, hsound, hrecorded⟩ := h.inActive hstate
      refine .activated a (rest ++ [.call msg entry]) ?_ (.inr rfl) hsound
        ⟨hrecorded.facility, hrecorded.activeFrom, hrecorded.activeUntil, hrecorded.digest,
          hrecorded.nonce⟩
      rw [hevents, List.append_assoc]
  | quiet hquiet => exact h.extend (.refl _) (not_movesConflict_of_quiet hquiet)

/-- **Every run has a trail.** -/
theorem Deployed.trail {token : Settlement} (hstart : Deployed env terms token start)
    (hrun : run (exec crypto env terms) start events = .ok c) :
    Trail crypto env terms start events c.vault.docket := by
  refine run_history (P := fun events c => Trail crypto env terms start events c.vault.docket)
    ?_ ?_ hrun
  · obtain ⟨signer, world, hstart⟩ := hstart.initial
    exact .fresh (by rw [hstart]; rfl)
  · intro before event c₁ c₂ hbefore htrail hexec
    exact htrail.step hbefore (exec_docket hexec).step

end

/-! ## The record of an entitlement -/

/-- The four calls behind an entitlement, and the events since. -/
structure ConflictRecord (W : Type) where
  activation : Activation W
  commitment : Commitment W
  opening : Opening W
  finalization : Finalization W
  rest : List (Event W)

namespace ConflictRecord

variable {W : Type} (r : ConflictRecord W)

def events : List (Event W) :=
  r.finalization.events r.activation r.commitment r.opening ++ r.rest

/-- The pledge the activation accepted. -/
def first : Pledge := r.activation.pledge

/-- The pledge the opening accepted. -/
def second : Pledge := r.opening.pledge

def commitTime : ℕ := r.commitment.msg.timestamp

end ConflictRecord

/-- A pledge of this vault's invoice, signed by an originator authorized on the
given chain. -/
structure SignedPledge {W : Type} (crypto : Crypto) (terms : Terms) (chain : Chain W)
    (pledge : Pledge) (signature : Bytes) : Prop where
  invoiceRoot : pledge.invoiceRoot = terms.invoiceRoot
  amount : pledge.amount.toNat = terms.faceValue
  currency : pledge.currency = terms.currency
  exclusive : pledge.exclusive = true
  authorized : chain.vault.authorizedOriginator pledge.originatorSigner = true
  signed : crypto.ecdsaRecover (hashPledge crypto terms pledge) signature =
    some pledge.originatorSigner

/-- What the record of an entitlement proves. -/
structure ConflictRecord.Sound {W : Type} (crypto : Crypto) (env : Externals W) (terms : Terms)
    (start : Chain W) (r : ConflictRecord W) : Prop where
  activatedOn : run (exec crypto env terms) start r.activation.before = .ok r.activation.chain
  committedOn : run (exec crypto env terms) start
    (r.activation.events ++ r.commitment.between) = .ok r.commitment.chain
  openedOn : run (exec crypto env terms) start
    (r.commitment.events r.activation ++ r.opening.between) = .ok r.opening.chain
  finalizedOn : run (exec crypto env terms) start
    (r.opening.events r.activation r.commitment ++ r.finalization.between) =
      .ok r.finalization.chain
  firstSigned : SignedPledge crypto terms r.activation.chain r.first r.activation.signature
  secondSigned : SignedPledge crypto terms r.opening.chain r.second r.opening.signature
  facilities : r.first.facility ≠ r.second.facility
  digests : hashPledge crypto terms r.first ≠ hashPledge crypto terms r.second
  nonces : (r.first.originatorSigner, r.first.nonce) ≠ (r.second.originatorSigner, r.second.nonce)
  overlap : ∃ t, r.first.ActiveAt t ∧ r.second.ActiveAt t
  commitWindow : r.commitTime ≤ terms.protectionEnd
  committer : r.commitment.msg.sender = r.second.facility
  notBuyer : r.commitment.msg.sender ≠ terms.buyer
  notTreasury : r.commitment.msg.sender ≠ terms.originatorTreasury
  notOriginator : r.commitment.chain.vault.authorizedOriginator r.commitment.msg.sender = false
  opens : conflictCommitment crypto terms (hashPledge crypto terms r.second)
    (crypto.keccak256 r.opening.signature) r.second.facility r.opening.salt =
      r.commitment.commitment
  openWindow : r.opening.msg.timestamp ≤ r.commitTime + terms.revealPeriod
  cureWindow : r.opening.msg.timestamp + terms.curePeriod < r.finalization.msg.timestamp
  uncured : ∀ event ∈ r.finalization.between, ¬ event.MovesConflict

section

variable {W : Type} {crypto : Crypto} {env : Externals W} {terms : Terms} {token : Settlement}
variable {start c : Chain W} {events : List (Event W)}

theorem PledgeAccepted.signedPledge {pledge : Pledge} {signature : Bytes} {facility : Address}
    {validAt : ℕ} (h : PledgeAccepted crypto env terms c pledge signature facility validAt) :
    SignedPledge crypto terms c pledge signature :=
  ⟨h.invoiceRoot, h.amount, h.currency, h.exclusive, h.authorized, h.signed⟩

/-- Two half-open windows that each start before the other ends share a time. -/
theorem overlap_of_lt {first second : Pledge}
    (hfirst : first.activeFrom.toNat < first.activeUntil.toNat)
    (hsecond : second.activeFrom.toNat < second.activeUntil.toNat)
    (hlt : second.activeFrom.toNat < first.activeUntil.toNat ∧
      first.activeFrom.toNat < second.activeUntil.toNat) :
    ∃ t, first.ActiveAt t ∧ second.ActiveAt t :=
  ⟨max first.activeFrom.toNat second.activeFrom.toNat,
    ⟨le_max_left _ _, max_lt hfirst hlt.1⟩, ⟨le_max_right _ _, max_lt hlt.2 hsecond⟩⟩

/-- In a chronological run the commitment does not precede the activation. -/
theorem Chronological.activation_le {a : Activation W} {k : Commitment W} {rest : List (Event W)}
    (h : Chronological (k.events a ++ rest)) : a.msg.timestamp ≤ k.msg.timestamp := by
  have hcommit := (List.pairwise_append.mp h).1
  rw [Commitment.events, List.append_assoc] at hcommit
  refine (List.pairwise_append.mp hcommit).2.2 _ (List.mem_append_right _ List.mem_cons_self) _
    (List.mem_append_right _ List.mem_cons_self) _ _ rfl rfl

/-- **Entitlement soundness.** Behind every entitlement of a chronological run
stand two signed pledges to different facilities with overlapping windows, a
commitment in time by the second facility, its opening in time, and an uncured
cure window.  The commit time lies in the second window, and in the first as
well unless it is the very end of both the protection and that window. -/
theorem entitlement_sound (hstart : Deployed env terms token start)
    (hrun : run (exec crypto env terms) start events = .ok c) (htimes : Chronological events)
    (hentitled : c.vault.protectionState = .entitled) :
    ∃ r : ConflictRecord W, r.events = events ∧ r.Sound crypto env terms start ∧
      r.second.ActiveAt r.commitTime ∧ r.first.activeFrom.toNat ≤ r.commitTime ∧
      (r.commitTime < r.first.activeUntil.toNat ∨
        r.commitTime = terms.protectionEnd ∧ r.first.activeUntil.toNat = terms.protectionEnd) := by
  have htimed := (hstart.reaches hrun).timed
  obtain ⟨a, k, o, f, rest, rfl, ha, hk, ho, hf⟩ := (hstart.trail hrun).inEntitled hentitled
  have hend := htimed.end_lt
  have hwindow := hk.window
  have hcommit : toUint64 k.msg.timestamp = k.msg.timestamp := Nat.mod_eq_of_lt (by omega)
  have hopening := ho.window
  have hdeadline := hk.deadline
  have hopen : toUint64 o.msg.timestamp = o.msg.timestamp := Nat.mod_eq_of_lt (by omega)
  have hfinal := hf.window
  have hcovers := ha.covers
  have haccepted := ho.accepted
  rw [hcommit] at haccepted hopening
  refine ⟨⟨a, k, o, f, rest⟩, rfl, ?_, ⟨haccepted.started, haccepted.unexpired⟩, ?_, ?_⟩
  · exact
      { activatedOn := ha.reached
        committedOn := hk.reached
        openedOn := ho.reached
        finalizedOn := hf.reached
        firstSigned := ha.accepted.signedPledge
        secondSigned := ho.accepted.signedPledge
        facilities := by
          intro hsame
          exact ho.facility (ho.accepted.facility_eq.symm.trans
            (hsame.symm.trans ha.accepted.facility_eq))
        digests := ho.digest.symm
        nonces := ho.nonce.symm
        overlap := overlap_of_lt (ha.accepted.started.trans_lt ha.accepted.unexpired)
          (haccepted.started.trans_lt haccepted.unexpired) ho.overlap
        commitWindow := hwindow
        committer := ho.sender.symm.trans ho.accepted.facility_eq.symm
        notBuyer := hk.notBuyer
        notTreasury := hk.notTreasury
        notOriginator := hk.notOriginator
        opens := by
          have hopens := ho.opens
          rwa [← ho.accepted.facility_eq] at hopens
        openWindow := hopening
        cureWindow := by
          rw [hopen] at hfinal
          exact hfinal
        uncured := hf.undisturbed }
  · -- the activation was inside the first window, and not later than the commitment
    have hearlier : a.msg.timestamp ≤ k.msg.timestamp := by
      have hprefix : Chronological (k.events a ++ (o.between ++
          [.call o.msg (.revealConflict o.pledge o.signature o.salt)] ++ f.between ++
            [.call f.msg .finalizeConflict] ++ rest)) := by
        simpa only [Finalization.events, Opening.events, List.append_assoc] using htimes
      exact hprefix.activation_le
    have hstarted := ha.accepted.started
    exact hstarted.trans ((Nat.mod_le _ _).trans hearlier)
  · change k.msg.timestamp < a.pledge.activeUntil.toNat ∨
      k.msg.timestamp = terms.protectionEnd ∧ a.pledge.activeUntil.toNat = terms.protectionEnd
    omega

end

/-! ## The end of the window

A first pledge that ends with the protection, and a commitment made at that very
time. -/

namespace Sample

def endingPledge : Pledge := { pledge with activeUntil := 50 }

def lastMoment : List (Event Custody) :=
  [.call ⟨0x20, 5, 1⟩ (.activate endingPledge signature 0x30 [0x30, 0x31] [4, 6]),
    .call ⟨0x21, 50, 2⟩ (.commitConflict (commitmentTo rival)),
    .call ⟨0x21, 51, 3⟩ (.revealConflict rival signature 7),
    .call ⟨0x31, 57, 4⟩ .finalizeConflict]

end Sample

/-- The sample dispute. -/
theorem entitlement_sound_sample :
    ∃ start c, Deployed Sample.env Sample.terms Sample.token start ∧
      run (exec Sample.hashing Sample.env Sample.terms) start Sample.dispute = .ok c ∧
      ∃ r : ConflictRecord Sample.Custody, r.events = Sample.dispute ∧
        r.Sound Sample.hashing Sample.env Sample.terms start := by
  obtain ⟨c, ⟨world, chainId, now, init, s, hconstruct, hrun⟩, hholds⟩ := Sample.dispute_reaches
  have hstart : Deployed Sample.env Sample.terms Sample.token (deployed s Sample.token world) :=
    ⟨world, chainId, now, init, s, hconstruct, rfl⟩
  have htimes : Chronological Sample.dispute := by
    simp [Chronological, Sample.dispute, Event.time]
  obtain ⟨r, hevents, hsound, -⟩ :=
    entitlement_sound hstart hrun htimes (of_decide_eq_true hholds).1
  exact ⟨_, c, hstart, hrun, r, hevents, hsound⟩

/-- A commitment at the end of the protection can lie outside the first
window. -/
theorem entitlement_outside_first_window :
    ∃ start c, Deployed Sample.env Sample.terms Sample.token start ∧
      run (exec Sample.hashing Sample.env Sample.terms) start Sample.lastMoment = .ok c ∧
      Chronological Sample.lastMoment ∧ c.vault.protectionState = .entitled ∧
      ¬ ∃ r : ConflictRecord Sample.Custody, r.events = Sample.lastMoment ∧
        r.Sound Sample.hashing Sample.env Sample.terms start ∧
        r.first.ActiveAt r.commitTime ∧ r.second.ActiveAt r.commitTime := by
  obtain ⟨c, ⟨world, chainId, now, init, s, hconstruct, hrun⟩, hentitled⟩ :=
    Sample.reaches_such Sample.lastMoment
      (fun c => decide (c.vault.protectionState = .entitled)) (by decide +kernel)
  refine ⟨_, c, ⟨world, chainId, now, init, s, hconstruct, rfl⟩, hrun, ?_,
    of_decide_eq_true hentitled, ?_⟩
  · simp [Chronological, Sample.lastMoment, Event.time]
  · rintro ⟨r, hevents, -, hfirst, -⟩
    have hpledge : r.first = Sample.endingPledge := by
      have hmem : .call r.activation.msg (.activate r.first r.activation.signature
          r.activation.funder r.activation.holders r.activation.allocations) ∈
            Sample.lastMoment := by
        rw [← hevents]
        simp [ConflictRecord.events, Finalization.events, Opening.events, Commitment.events,
          Activation.events, ConflictRecord.first]
      have hunique := hmem
      simp only [Sample.lastMoment, List.mem_cons, Event.call.injEq, Call.activate.injEq,
        reduceCtorEq, and_false, List.not_mem_nil, or_false] at hunique
      exact hunique.2.1
    have htime : r.commitTime = 50 := by
      have hmem : .call r.commitment.msg (.commitConflict r.commitment.commitment) ∈
          Sample.lastMoment := by
        rw [← hevents]
        simp [ConflictRecord.events, Finalization.events, Opening.events, Commitment.events]
      simp only [Sample.lastMoment, List.mem_cons, Event.call.injEq, Call.commitConflict.injEq,
        reduceCtorEq, and_false, List.not_mem_nil, or_false, false_or] at hmem
      rw [ConflictRecord.commitTime, hmem.1]
    rw [hpledge, htime] at hfirst
    exact absurd hfirst.2 (by decide)

end Mordant.Vault
