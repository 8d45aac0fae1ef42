/-
# The way to recourse

Committing a conflict, opening the commitment and finalizing it must not fail
once the parties and the outside contracts do their part.  What can still stop
them is the vault's own arithmetic: the bond it locks, its accounting assertion,
and the two deadlines it computes in 64 bits.  The first two never do; a deadline
does exactly when the configured period pushes it past the word, and nothing
bounds the periods from above.
-/

import Mordant.Vault.Conservation
import Mordant.Vault.Evidence
import Mordant.Vault.Face

namespace Mordant.Vault

open Evm Foundation

section

variable {W : Type} (crypto : Crypto) (env : Externals W) (terms : Terms) (c : Chain W) (msg : Msg)

/-- Everything `commitConflict` asks for, deadlines and bond apart: the outside
contracts agree, the reserve is active over a positive supply, and a registered
facility outside the pledge commits in time. -/
structure CommitReady (commitment : Bytes32) : Prop where
  integrity : assertCvaIntegrity env terms c = .ok ()
  state : c.vault.protectionState = .active
  supply : 0 < c.vault.totalSupply
  commitment_ne : commitment ≠ 0
  window : msg.timestamp ≤ terms.protectionEnd
  other : msg.sender ≠ c.vault.protectedFacility
  notBuyer : msg.sender ≠ terms.buyer
  notTreasury : msg.sender ≠ terms.originatorTreasury
  notOriginator : c.vault.authorizedOriginator msg.sender = false
  registered : env.isFacility c.world msg.sender = true
  eligible : env.isEligible c.world msg.sender roleFacility = true

/-- Everything `revealConflict` asks for, the cure deadline apart. -/
structure RevealReady (pledge : Pledge) (signature : Bytes) (salt : Bytes32) : Prop where
  integrity : assertCvaIntegrity env terms c = .ok ()
  state : c.vault.protectionState = .commitPending
  sender : msg.sender = c.vault.pendingConflict.facility
  window : msg.timestamp ≤ c.vault.pendingConflict.revealDeadline
  valid : validatePledge crypto env terms c pledge signature msg.sender
    c.vault.pendingConflict.committedAt = .ok (hashPledge crypto terms pledge)
  opens : conflictCommitment crypto terms (hashPledge crypto terms pledge)
    (crypto.keccak256 signature) msg.sender salt = c.vault.pendingConflict.commitment
  other : msg.sender ≠ c.vault.protectedFacility
  overlap : pledge.activeFrom.toNat < c.vault.protectedActiveUntil ∧
    c.vault.protectedActiveFrom < pledge.activeUntil.toNat
  fresh : ¬ c.vault.PledgeSpent (hashPledge crypto terms pledge) pledge

/-- Everything `finalizeConflict` asks for. -/
structure FinalizeReady : Prop where
  integrity : assertCvaIntegrity env terms c = .ok ()
  state : c.vault.protectionState = .conflictConfirmed
  window : c.vault.pendingConflict.cureDeadline < msg.timestamp

end

section

variable {W : Type} {crypto : Crypto} {env : Externals W} {terms : Terms} {token : Settlement}
variable {events : List (Event W)} {c c' : Chain W} {msg : Msg}

/-- All the figures of the books are in order. -/
structure BooksInOrder (terms : Terms) (b : Books) : Prop where
  bond : b.BondOrdered terms
  face : b.FaceOrdered terms
  claims : b.ClaimsOrdered
  backed : ∃ extra, b.Backed extra

theorem BooksInOrder.step {b b' : Books} (h : BooksInOrder terms b)
    (hstep : Books.Step terms b b') : BooksInOrder terms b' where
  bond := h.bond.step hstep
  face := h.face.step hstep
  claims := h.claims.step hstep
  backed := by
    obtain ⟨extra, hbacked⟩ := h.backed
    exact ⟨extra, hbacked.step h.claims hstep⟩

theorem Reaches.booksInOrder (hreach : Reaches crypto env terms token events c) :
    BooksInOrder terms (books terms c) :=
  ⟨hreach.bondOrdered.2, hreach.faceOrdered.2, hreach.claimsOrdered, hreach.backed⟩

/-- The accounting assertion fails on a funded vault only through custody. -/
theorem assertAccounting_of_books (h : BooksInOrder terms (books terms c))
    (hfunded : c.vault.protectionState ≠ .unfunded)
    (hintegrity : assertCvaIntegrity env terms c = .ok ()) :
    assertAccounting env terms c = .ok () := by
  have hbonds := (bondLifecycle_of_books h.bond hfunded).total
  have hissued := h.face.issued hfunded
  have hsupply : c.vault.totalSupply = c.vault.cvaAccounted := hissued.custody.symm
  have hface : c.vault.redeemedFace + c.vault.cvaReleasedFace + c.vault.redemptionEscrow ≤
      terms.faceValue := hissued.escrow
  have hclaimed : c.vault.entitlementClaimed ≤ c.vault.entitlementAllocated := h.claims.amount
  have hunits : c.vault.entitlementClaimedUnits ≤ c.vault.entitlementSnapshotSupply :=
    h.claims.units
  obtain ⟨extra, hbacked⟩ := h.backed
  have hbond := terms.bond_lt
  have hadvance := terms.advance_lt
  have hvalue := terms.face_lt
  simp only [assertAccounting, bind_ok_iff, revertIf_ok_iff, checkedAdd_ok_iff, not_or, not_lt,
    not_not]
  exact ⟨(), hintegrity, (), hsupply, _, ⟨by omega, rfl⟩, _, ⟨by omega, rfl⟩, (), hbonds, (),
    ⟨hclaimed, hunits⟩, _, ⟨by omega, rfl⟩, (), by omega,
    assertSettlementFunded_of_backed hbacked h.claims⟩

/-- A ready commitment fails only on its deadline. -/
theorem commitConflict_ok_iff (hbond : (books terms c).BondOrdered terms) {commitment : Bytes32}
    (hready : CommitReady env terms c msg commitment) :
    (∃ c', commitConflict env terms c msg commitment = .ok c') ↔
      toUint64 msg.timestamp + terms.revealPeriod < 2 ^ 64 := by
  constructor
  · rintro ⟨c', hcommit⟩
    simp only [commitConflict, bind_ok_iff, checkedAdd_ok_iff] at hcommit
    obtain ⟨-, -, -, -, -, -, -, -, -, -, -, -, -, -, _, -, -, -, _, ⟨hdeadline, -⟩, -⟩ := hcommit
    exact hdeadline
  · intro hdeadline
    have hrequired : requiredBond terms c.vault.totalSupply = .ok c.vault.bondLocked :=
      (bondLifecycle_of_books hbond (by rw [hready.state]; decide)).active hready.state
    have hrange : c.vault.totalSupply ≤ terms.initialUnits := hbond.supply
    have hunits := terms.units_lt
    have hpos := hready.supply
    apply Exists.intro
    simp only [commitConflict, requireEligible, bind_ok_iff, revertIf_ok_iff, checkedAdd_ok_iff,
      not_or, not_lt, not_not, Bool.not_eq_true, Bool.not_eq_false, pure_ok_iff]
    exact ⟨(), hready.integrity, (), hready.state, (), hready.commitment_ne, (), hready.window, (),
      ⟨hready.other, hready.notBuyer, hready.notTreasury, hready.notOriginator, hready.registered⟩,
      (), hready.eligible, (), ⟨hpos.ne', by omega⟩, _, hrequired, (), le_rfl, _,
      ⟨hdeadline, rfl⟩, rfl⟩

/-- A ready opening fails only on its deadline. -/
theorem revealConflict_ok_iff {pledge : Pledge} {signature : Bytes} {salt : Bytes32}
    (hready : RevealReady crypto env terms c msg pledge signature salt) :
    (∃ c', revealConflict crypto env terms c msg pledge signature salt = .ok c') ↔
      toUint64 msg.timestamp + terms.curePeriod < 2 ^ 64 := by
  constructor
  · rintro ⟨c', hreveal⟩
    simp only [revealConflict, bind_ok_iff, checkedAdd_ok_iff] at hreveal
    obtain ⟨-, -, -, -, -, -, -, -, _, -, -, -, -, -, -, -, -, -, _, ⟨hdeadline, -⟩, -⟩ := hreveal
    exact hdeadline
  · intro hdeadline
    apply Exists.intro
    simp only [revealConflict, bind_ok_iff, revertIf_ok_iff, checkedAdd_ok_iff, not_or, not_lt,
      not_le, not_not, pure_ok_iff]
    exact ⟨(), hready.integrity, (), hready.state, (), hready.sender, (), hready.window, _,
      hready.valid, (), hready.opens, (), hready.other, (), hready.overlap, (), hready.fresh, _,
      ⟨hdeadline, rfl⟩, rfl⟩

/-- A ready finalization does not fail. -/
theorem finalizeConflict_ok (hunits : UnitsConsistent c.vault)
    (hbooks : BooksInOrder terms (books terms c)) (hready : FinalizeReady env terms c msg) :
    ∃ c', finalizeConflict env terms c msg = .ok c' := by
  obtain ⟨⟨hlocked, -⟩, -, hallocated, -⟩ := hbooks.bond.inState hready.state
  simp only [books, booksOf] at hlocked hallocated
  have hbody : ∃ c', finalizeConflictBody c msg = .ok c' := by
    apply Exists.intro
    simp only [finalizeConflictBody, bind_ok_iff, revertIf_ok_iff, checkedSub_ok_iff, not_or,
      not_lt, not_le, not_not, pure_ok_iff]
    exact ⟨(), hready.state, (), hready.window, (), ⟨hlocked.symm.le, hallocated⟩, _,
      ⟨hlocked.symm.le, rfl⟩, rfl⟩
  obtain ⟨c', hbody⟩ := hbody
  refine ⟨c', ?_⟩
  have hstep : Books.Step terms (books terms c) (books terms c') :=
    (finalizeConflictBody_refines hunits hbody).step
  have hfunded : c'.vault.protectionState ≠ .unfunded :=
    hstep.funded (by change c.vault.protectionState ≠ _; rw [hready.state]; decide)
  have hintegrity : assertCvaIntegrity env terms c' = .ok () := by
    have hsame := hready.integrity
    simp only [finalizeConflictBody, bind_ok_iff, pure_ok_iff] at hbody
    obtain ⟨-, -, -, -, -, -, -, -, rfl⟩ := hbody
    exact hsame
  rw [finalizeConflict, bind_ok_iff]
  refine ⟨c', hbody, ?_⟩
  simp only [closing, bind_ok_iff, pure_ok_iff]
  exact ⟨(), assertAccounting_of_books (hbooks.step hstep) hfunded hintegrity, trivial⟩

/-- In a reachable state the deadline of a pending commitment fits its word. -/
theorem Reaches.revealDeadline_lt (hreach : Reaches crypto env terms token events c)
    (hstate : c.vault.protectionState = .commitPending) :
    c.vault.pendingConflict.revealDeadline < 2 ^ 64 := by
  obtain ⟨world, chainId, now, init, s, hconstruct, hrun⟩ := hreach
  have hstart : Deployed env terms token (deployed s token world) :=
    ⟨world, chainId, now, init, s, hconstruct, rfl⟩
  obtain ⟨a, k, rest, -, -, ⟨-, hcommit⟩, -, hrecorded⟩ :=
    (hstart.trail hrun).inCommitPending hstate
  exact hrecorded.revealDeadline.trans_lt hcommit.deadline

/-- **The way to recourse.** In every reachable state a ready commitment and a
ready opening succeed if and only if their deadline fits 64 bits, and a ready
finalization always succeeds. -/
theorem recourse_path_iff (hreach : Reaches crypto env terms token events c) :
    (∀ msg commitment, CommitReady env terms c msg commitment →
        ((∃ c', commitConflict env terms c msg commitment = .ok c') ↔
          msg.timestamp + terms.revealPeriod < 2 ^ 64)) ∧
      (∀ msg pledge signature salt, RevealReady crypto env terms c msg pledge signature salt →
        ((∃ c', revealConflict crypto env terms c msg pledge signature salt = .ok c') ↔
          msg.timestamp + terms.curePeriod < 2 ^ 64)) ∧
      ∀ msg, FinalizeReady env terms c msg →
        ∃ c', finalizeConflict env terms c msg = .ok c' := by
  refine ⟨fun msg commitment hready => ?_, fun msg pledge signature salt hready => ?_,
    fun msg hready => ?_⟩
  · have hwindow : msg.timestamp < 2 ^ 64 := hready.window.trans_lt hreach.timed.end_lt
    have hiff := commitConflict_ok_iff hreach.bondOrdered.2 hready
    rwa [show toUint64 msg.timestamp = msg.timestamp from Nat.mod_eq_of_lt hwindow] at hiff
  · have hwindow : msg.timestamp < 2 ^ 64 :=
      hready.window.trans_lt (hreach.revealDeadline_lt hready.state)
    have hiff := revealConflict_ok_iff hready
    rwa [show toUint64 msg.timestamp = msg.timestamp from Nat.mod_eq_of_lt hwindow] at hiff
  · exact finalizeConflict_ok hreach.bondOrdered.1 hreach.booksInOrder hready

end

/-! ## A period without a bound -/

namespace Sample

/-- The sample terms with the longest period a constructor accepts. -/
def endlessInit : Init := { init with revealPeriod := 0xffffffffffffffff }

def endlessTerms : Terms := { terms with revealPeriod := 2 ^ 64 - 1 }

def activation : Event Custody :=
  .call ⟨0x20, 5, 1⟩ (.activate pledge signature 0x30 [0x30, 0x31] [4, 6])

/-- The tests of `CommitReady` for the facility `0x21` and the commitment 77. -/
def readyToCommit (terms : Terms) (c : Chain Custody) : Bool :=
  decide (assertCvaIntegrity env terms c = .ok () ∧ c.vault.protectionState = .active ∧
    0 < c.vault.totalSupply ∧ 9 ≤ terms.protectionEnd ∧ 0x21 ≠ c.vault.protectedFacility ∧
    0x21 ≠ terms.buyer ∧ 0x21 ≠ terms.originatorTreasury ∧
    c.vault.authorizedOriginator 0x21 = false)

theorem commitReady_of_tests {terms : Terms} {c : Chain Custody}
    (h : readyToCommit terms c = true) : CommitReady env terms c ⟨0x21, 9, 2⟩ 77 := by
  obtain ⟨hintegrity, hstate, hsupply, hwindow, hother, hbuyer, htreasury, horiginator⟩ :=
    of_decide_eq_true h
  exact ⟨hintegrity, hstate, hsupply, by decide, hwindow, hother, hbuyer, htreasury, horiginator,
    rfl, rfl⟩

/-- Whether that commitment ends in an arithmetic panic. -/
def panics (terms : Terms) (c : Chain Custody) : Bool :=
  match commitConflict env terms c ⟨0x21, 9, 2⟩ 77 with
  | .error error => error == .panic
  | .ok _ => false

end Sample

/-- After the sample activation a commitment is ready, and succeeds. -/
theorem recourse_path_sample :
    ∃ c, Reaches Sample.hashing Sample.env Sample.terms Sample.token [Sample.activation] c ∧
      CommitReady Sample.env Sample.terms c ⟨0x21, 9, 2⟩ 77 ∧
      ∃ c', commitConflict Sample.env Sample.terms c ⟨0x21, 9, 2⟩ 77 = .ok c' := by
  obtain ⟨c, hreach, htests⟩ := Sample.reaches_such [Sample.activation]
    (Sample.readyToCommit Sample.terms) (by decide +kernel)
  have hready := Sample.commitReady_of_tests htests
  exact ⟨c, hreach, hready, ((recourse_path_iff hreach).1 _ _ hready).mpr (by decide)⟩

/-- A constructor accepts a period under which every ready commitment panics. -/
theorem recourse_path_blocked :
    construct Sample.env (10, 10) Sample.endlessTerms.vault 1 3 Sample.endlessInit =
        .ok (Sample.endlessTerms, VaultState.initial 0x17) ∧
      ∃ c, Reaches Sample.hashing Sample.env Sample.endlessTerms Sample.token
          [Sample.activation] c ∧
        CommitReady Sample.env Sample.endlessTerms c ⟨0x21, 9, 2⟩ 77 ∧
        commitConflict Sample.env Sample.endlessTerms c ⟨0x21, 9, 2⟩ 77 = .error .panic := by
  have hconstruct : construct Sample.env (10, 10) Sample.endlessTerms.vault 1 3
      Sample.endlessInit = .ok (Sample.endlessTerms, VaultState.initial 0x17) := rfl
  obtain ⟨c, hreach, hholds⟩ := Sample.reaches_from hconstruct [Sample.activation]
    (fun c => Sample.readyToCommit Sample.endlessTerms c && Sample.panics Sample.endlessTerms c)
    (by decide +kernel)
  obtain ⟨htests, hpanics⟩ := Bool.and_eq_true_iff.mp hholds
  refine ⟨hconstruct, c, hreach, Sample.commitReady_of_tests htests, ?_⟩
  unfold Sample.panics at hpanics
  split at hpanics
  · next error herror => rw [herror, eq_of_beq hpanics]
  · exact nomatch hpanics

end Mordant.Vault
