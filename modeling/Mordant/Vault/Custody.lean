/-
# Custody behind the vault

The vault composed with the adapter it was written for.  The outside world of
the vault is now the adapter's storage, the A-Token and whatever else there is;
the vault's custody calls are the adapter's functions, and every other contract
stays an arbitrary function of that world.

`Lockstep` relates the counters of the two contracts and the token.  It reads
the world and two numbers of the vault only, so it can also be asked in the
middle of a call, between the custody call and the burn of the units, where the
vault checks it again.
-/

import Mordant.Cleanverse.Adapter
import Mordant.Vault.Face
import Mordant.Vault.Lifecycle

namespace Mordant.Vault

open Evm Foundation Cleanverse

/-- Units an event burned for cash. -/
def Event.redeemedUnits {W : Type} : Event W → ℕ
  | .call _ (.redeem units) => units.toNat
  | _ => 0

/-- Units an event released in kind. -/
def Event.releasedUnits {W : Type} : Event W → ℕ
  | .call _ (.releaseDefaultCva units) => units.toNat
  | _ => 0

def redeemedUnits {W : Type} (events : List (Event W)) : ℕ := (events.map Event.redeemedUnits).sum

def releasedUnits {W : Type} (events : List (Event W)) : ℕ := (events.map Event.releasedUnits).sum

section

variable {V : Type} (k : Contracts V) (rest : Externals (Custody V))

/-- The vault's outside world with its custody adapter in place. The vault
passes its own address, and is the sender. -/
def withAdapter : Externals (Custody V) :=
  { rest with
    asset := fun _ => k.token
    issuedSupply := fun w => (issuedSupply k w).toOption
    availableBalance := fun w vault => (availableBalance k w vault).toOption
    isActivationReady := isActivationReady k
    isCashRedemptionReady := isCashRedemptionReady k
    isRedemptionReady := isRedemptionReady k
    consumeOnRedemption := fun w vault units =>
      (consumeOnRedemption k w vault vault units).toOption
    releaseOnDefault := fun w vault holder units =>
      (releaseOnDefault k w vault vault holder units).toOption }

/-- What may happen to custody without the vault: anything that leaves the
adapter's balance and the supply alone, or a call into the adapter by somebody
else. -/
inductive OutsideStep (self : Address) (w : Custody V) : Custody V → Prop
  | elsewhere (owner : Address) (token : AToken) (outer : V)
      (hheld : token.balanceOf k.self = w.token.balanceOf k.self)
      (hsupply : token.supply = w.token.supply) :
      OutsideStep self w ⟨{ w.adapter with owner := owner }, token, outer⟩
  | bind {sender vault : Address} {units : ℕ} {w' : Custody V}
      (hbind : bindVault k w sender vault units = .ok w') : OutsideStep self w w'
  | consume {sender vault : Address} {units : ℕ} {w' : Custody V} (hsender : sender ≠ self)
      (hconsume : consumeOnRedemption k w sender vault units = .ok w') : OutsideStep self w w'
  | release {sender vault holder : Address} {units : ℕ} {w' : Custody V} (hsender : sender ≠ self)
      (hrelease : releaseOnDefault k w sender vault holder units = .ok w') : OutsideStep self w w'

/-- Once the vault is active, nobody but the adapter moves the adapter's balance
or the supply of its token. -/
def Undisturbed (crypto : Crypto) (terms : Terms) (start : Chain (Custody V))
    (events : List (Event (Custody V))) : Prop :=
  ∀ before after token world c, events = before ++ .outside token world :: after →
    run (exec crypto (withAdapter k rest) terms) start before = .ok c →
    c.vault.protectionState ≠ .unfunded →
    Relation.ReflTransGen (OutsideStep k terms.vault) c.world world

/-- Adapter, token and vault agree on the units in custody and the units
issued. `cva` is what the vault accounts for and what it has burned. -/
structure Lockstep (terms : Terms) (w : Custody V) (cva : ℕ × ℕ) : Prop where
  vault_ne : terms.vault ≠ 0
  bound : w.adapter.boundVault = terms.vault
  decimals : k.decimals = some expectedDecimals
  asset : k.token = terms.cvaToken
  credit : w.adapter.custodyCredit = cva.1
  held : w.token.balanceOf k.self = cva.1
  issued : w.token.supply + cva.2 = terms.initialUnits

end

section

variable {V : Type} {k : Contracts V} {rest : Externals (Custody V)} {crypto : Crypto}
variable {terms : Terms} {w w' : Custody V} {accounted burned units : ℕ}

/-! ## One step -/

/-- Activation accepts an adapter that is bound to the vault, holds the whole
supply and has issued the vault's units and no more. -/
theorem Lockstep.activate
    (havailable : (withAdapter k rest).availableBalance w terms.vault = some terms.initialUnits)
    (hasset : (withAdapter k rest).asset w = terms.cvaToken)
    (hready : (withAdapter k rest).isActivationReady w terms.vault = true) :
    Lockstep k terms w (terms.initialUnits, 0) := by
  obtain ⟨hbound, hcredit, hdecimals, hheld, hsupply⟩ := isActivationReady_ok hready
  have hreported := availableBalance_bound hbound hdecimals hheld
  have hunits : w.adapter.custodyCredit = terms.initialUnits :=
    Except.ok.inj (hreported.symm.trans (toOption_eq_some_iff.mp havailable))
  refine ⟨fun hzero => hcredit (w.adapter.unbound (hbound.trans hzero)), hbound, hdecimals, hasset,
    hunits, ?_, ?_⟩
  · -- no balance exceeds the supply, and the supply is the credit
    have hbounded := w.token.le_supply k.self
    rw [hsupply] at hbounded
    exact (le_antisymm hbounded hheld).trans hunits
  · rw [hsupply, hunits, Nat.add_zero]

theorem Lockstep.drawn (h : Lockstep k terms w (accounted, burned)) {sender : Address}
    (hdrawn : Drawn k w sender units w') {burned' : ℕ}
    (hissued : w'.token.supply + burned' = terms.initialUnits) :
    Lockstep k terms w' (accounted - units, burned') where
  vault_ne := h.vault_ne
  bound := hdrawn.bound.trans h.bound
  decimals := h.decimals
  asset := h.asset
  credit := Nat.eq_sub_of_add_eq (hdrawn.credit.trans h.credit)
  held := Nat.eq_sub_of_add_eq (hdrawn.held.trans h.held)
  issued := hissued

theorem Lockstep.consume (h : Lockstep k terms w (accounted, burned))
    (hexit : (withAdapter k rest).consumeOnRedemption w terms.vault units = some w') :
    Lockstep k terms w' (accounted - units, burned + units) := by
  obtain ⟨hdrawn, hsupply⟩ := consumeOnRedemption_ok (toOption_eq_some_iff.mp hexit)
  refine h.drawn hdrawn ?_
  have hissued : w.token.supply + burned = terms.initialUnits := h.issued
  rw [← hissued, ← hsupply, Nat.add_right_comm, Nat.add_assoc]

theorem Lockstep.release (h : Lockstep k terms w (accounted, burned)) {holder : Address}
    (hexit : (withAdapter k rest).releaseOnDefault w terms.vault holder units = some w') :
    Lockstep k terms w' (accounted - units, burned) := by
  obtain ⟨hdrawn, hsupply⟩ := releaseOnDefault_ok (toOption_eq_some_iff.mp hexit)
  refine h.drawn hdrawn ?_
  rw [hsupply]
  exact h.issued

/-- Nobody else can bind the adapter again, or draw on it. -/
theorem Lockstep.outside {cva : ℕ × ℕ} (h : Lockstep k terms w cva)
    (hstep : OutsideStep k terms.vault w w') : Lockstep k terms w' cva := by
  cases hstep with
  | elsewhere owner token outer hheld hsupply =>
      exact ⟨h.vault_ne, h.bound, h.decimals, h.asset, h.credit, hheld.trans h.held,
        (congrArg (· + cva.2) hsupply).trans h.issued⟩
  | bind hbind => exact absurd (h.bound.symm.trans (bindVault_unbound hbind)) h.vault_ne
  | consume hsender hconsume =>
      exact absurd ((consumeOnRedemption_ok hconsume).1.sender.trans h.bound) hsender
  | release hsender hrelease =>
      exact absurd ((releaseOnDefault_ok hrelease).1.sender.trans h.bound) hsender

theorem Lockstep.undisturbed {cva : ℕ × ℕ} (h : Lockstep k terms w cva)
    (hsteps : Relation.ReflTransGen (OutsideStep k terms.vault) w w') :
    Lockstep k terms w' cva := by
  induction hsteps with
  | refl => exact h
  | tail _ hstep ih => exact ih.outside hstep

/-- A call into a funded vault, committed or not yet closed. -/
theorem Lockstep.call {c c' : Chain (Custody V)} {msg : Msg} {entry : Call}
    (h : Lockstep k terms c.world c.vault.cva) (hfunded : c.vault.protectionState ≠ .unfunded)
    (hstep : CustodyStep (withAdapter k rest) terms c c' (.call msg entry)) :
    Lockstep k terms c'.world c'.vault.cva := by
  cases hstep with
  | activate hstate => exact absurd hstate hfunded
  | redeem _ _ hexit hcva =>
      rw [hcva]
      exact h.consume hexit
  | release _ _ hexit hcva =>
      rw [hcva]
      exact h.release hexit
  | same _ hworld hcva =>
      rw [hworld, hcva]
      exact h

/-- What the vault reads from an adapter in lockstep. -/
theorem Lockstep.available (h : Lockstep k terms w (accounted, burned)) :
    availableBalance k w terms.vault = .ok accounted := by
  have hcovered : w.adapter.custodyCredit ≤ w.token.balanceOf k.self :=
    (h.credit.trans h.held.symm).le
  rw [availableBalance_bound h.bound h.decimals hcovered, h.credit]

theorem Lockstep.issuedSupply (h : Lockstep k terms w (accounted, burned)) :
    burned ≤ terms.initialUnits ∧
      Cleanverse.issuedSupply k w = .ok (terms.initialUnits - burned) := by
  have hissued : w.token.supply + burned = terms.initialUnits := h.issued
  exact ⟨hissued ▸ Nat.le_add_left _ _,
    issuedSupply_ok_iff.mpr ⟨h.decimals, Nat.eq_sub_of_add_eq hissued⟩⟩

/-- The vault's own check passes whenever the contracts are in lockstep. -/
theorem Lockstep.integrity {c : Chain (Custody V)} (h : Lockstep k terms c.world c.vault.cva) :
    assertCvaIntegrity (withAdapter k rest) terms c = .ok () := by
  obtain ⟨hburned, hissued⟩ := h.issuedSupply
  simp only [assertCvaIntegrity, bind_ok_iff, revertIf_ok_iff, require_ok_iff, checkedSub_ok_iff,
    not_not]
  exact ⟨(), h.asset, _, toOption_eq_some_iff.mpr h.available, (), rfl, _,
    toOption_eq_some_iff.mpr hissued, _, ⟨hburned, rfl⟩, rfl⟩

end

section

variable {V : Type} {k : Contracts V} {rest : Externals (Custody V)} {crypto : Crypto}
variable {terms : Terms} {token : Settlement} {events : List (Event (Custody V))}
variable {start c c' : Chain (Custody V)} {event : Event (Custody V)}

/-! ## Runs -/

theorem redeemedUnits_snoc {W : Type} (events : List (Event W)) (event : Event W) :
    redeemedUnits (events ++ [event]) = redeemedUnits events + event.redeemedUnits := by
  simp [redeemedUnits]

theorem releasedUnits_snoc {W : Type} (events : List (Event W)) (event : Event W) :
    releasedUnits (events ++ [event]) = releasedUnits events + event.releasedUnits := by
  simp [releasedUnits]

theorem Event.units_of_still {W : Type} {event : Event W} (h : ¬ event.MovesCustody) :
    event.redeemedUnits = 0 ∧ event.releasedUnits = 0 := by
  cases event with
  | call msg entry =>
      cases entry with
      | activate | redeem | releaseDefaultCva => exact absurd trivial h
      | _ => exact ⟨rfl, rfl⟩
  | donate => exact ⟨rfl, rfl⟩
  | outside => exact absurd trivial h

/-- Only an activation funds a vault. -/
theorem Filed.unfunded {W : Type} {env : Externals W} {c c' : Chain W} {event : Event W}
    (h : Filed crypto env terms c event c') (hevent : ¬ event.IsActivation)
    (hstate : c.vault.protectionState = .unfunded) : c'.vault.protectionState = .unfunded := by
  obtain ⟨hstep, -, -⟩ := h
  change c'.vault.docket.protectionState = .unfunded
  generalize c'.vault.docket = d at hstep
  cases hstep with
  | activate => exact absurd trivial hevent
  | authorize | quiet => exact hstate
  | commit hother | reveal hother | expire hother | cure hother | finalize hother | claim hother
  | release hother =>
      rw [hstate] at hother
      exact nomatch hother

/-- Where every unit is: nothing has moved before activation; afterwards the
contracts are in lockstep, and each unit issued is in custody, burned by some
redemption or released by some default exit. -/
structure UnitsPlaced (k : Contracts V) (terms : Terms) (events : List (Event (Custody V)))
    (c : Chain (Custody V)) : Prop where
  unfunded : c.vault.protectionState = .unfunded →
    c.vault.cvaBurned = 0 ∧ releasedUnits events = 0
  lockstep : c.vault.protectionState ≠ .unfunded → Lockstep k terms c.world c.vault.cva
  burned : c.vault.cvaBurned = redeemedUnits events
  placed : c.vault.protectionState ≠ .unfunded →
    c.vault.cvaAccounted + c.vault.cvaBurned + releasedUnits events = terms.initialUnits

theorem UnitsPlaced.initial (signer : Address) (world : Custody V) :
    UnitsPlaced k terms [] (deployed (VaultState.initial signer) token world) where
  unfunded _ := ⟨rfl, rfl⟩
  lockstep hfunded := absurd rfl hfunded
  burned := rfl
  placed hfunded := absurd rfl hfunded

/-- An exit moves units from the vault's custody counter to what has been burned
or released. -/
theorem UnitsPlaced.exit (h : UnitsPlaced k terms events c)
    (hfunded : c.vault.protectionState ≠ .unfunded) (hstill : c'.vault.protectionState ≠ .unfunded)
    (hlockstep : Lockstep k terms c'.world c'.vault.cva)
    (hburned : c'.vault.cvaBurned = c.vault.cvaBurned + event.redeemedUnits)
    (hleft : c'.vault.cvaAccounted + event.redeemedUnits + event.releasedUnits =
      c.vault.cvaAccounted) : UnitsPlaced k terms (events ++ [event]) c' where
  unfunded hunfunded := absurd hunfunded hstill
  lockstep _ := hlockstep
  burned := by rw [redeemedUnits_snoc, hburned, h.burned]
  placed _ := by
    have hplaced := h.placed hfunded
    rw [releasedUnits_snoc, hburned, ← hplaced]
    omega

/-- An event that moves no units keeps them placed. -/
theorem UnitsPlaced.still (h : UnitsPlaced k terms events c)
    (hunits : event.redeemedUnits = 0 ∧ event.releasedUnits = 0)
    (hstate : c'.vault.protectionState = .unfunded ↔ c.vault.protectionState = .unfunded)
    (hcva : c'.vault.cva = c.vault.cva)
    (hlockstep : c.vault.protectionState ≠ .unfunded → Lockstep k terms c'.world c.vault.cva) :
    UnitsPlaced k terms (events ++ [event]) c' := by
  obtain ⟨hredeemed, hreleased⟩ := hunits
  obtain ⟨haccounted, hburned⟩ := Prod.mk.inj hcva
  refine ⟨fun hunfunded => ?_, fun hfunded => ?_, ?_, fun hfunded => ?_⟩
  · rw [releasedUnits_snoc, hreleased, hburned]
    exact h.unfunded (hstate.mp hunfunded)
  · rw [hcva]
    exact hlockstep (hstate.not.mp hfunded)
  · rw [redeemedUnits_snoc, hredeemed, hburned]
    exact h.burned
  · rw [releasedUnits_snoc, hreleased, haccounted, hburned]
    exact h.placed (hstate.not.mp hfunded)

/-- One event keeps the units placed. -/
theorem UnitsPlaced.step (h : UnitsPlaced k terms events c)
    (hreach : Reaches crypto (withAdapter k rest) terms token events c)
    (hexec : exec crypto (withAdapter k rest) terms c event = .ok c')
    (houtside : ∀ token world, event = .outside token world →
      c.vault.protectionState ≠ .unfunded →
        Relation.ReflTransGen (OutsideStep k terms.vault) c.world world) :
    UnitsPlaced k terms (events ++ [event]) c' := by
  obtain ⟨hunits, -, hcoupled⟩ := hreach.coupled
  have hprogress := (exec_progress hunits hexec).1
  have hfiled := exec_docket hexec
  have hlive : c.vault.receivableState = .outstanding ∨
      c.vault.receivableState = .defaultOutstanding → c.vault.protectionState ≠ .unfunded := by
    intro hstate hunfunded
    have hunissued : c.vault.receivableState = .unissued := hcoupled.issuance.mp hunfunded
    rcases hstate with hstate | hstate <;> rw [hunissued] at hstate <;> exact nomatch hstate
  cases hfiled.custody with
  | activate hstate havailable hasset hissued hready hworld hcva =>
      have hfunded := exec_activated hunits hexec trivial
      obtain ⟨hburned, hreleased⟩ := h.unfunded hstate
      obtain ⟨haccounted, hburned'⟩ := Prod.mk.inj hcva
      rw [hburned] at hcva
      refine ⟨fun hunfunded => absurd hunfunded hfunded, fun _ => ?_, ?_, fun _ => ?_⟩
      · rw [hworld, hcva]
        exact .activate havailable hasset hready
      · rw [redeemedUnits_snoc, hburned', h.burned]
        rfl
      · rw [releasedUnits_snoc, hreleased, haccounted, hburned', hburned]
        rfl
  | redeem hstate hcovered hexit hcva =>
      have hfunded := hlive hstate
      have hlockstep := (h.lockstep hfunded).consume hexit
      rw [← hcva] at hlockstep
      obtain ⟨haccounted, hburned⟩ := Prod.mk.inj hcva
      refine h.exit hfunded (hprogress hfunded) hlockstep hburned ?_
      rw [haccounted]
      exact Nat.sub_add_cancel hcovered
  | release hstate hcovered hexit hcva =>
      have hfunded := hlive (.inr hstate)
      have hlockstep := (h.lockstep hfunded).release hexit
      rw [← hcva] at hlockstep
      obtain ⟨haccounted, hburned⟩ := Prod.mk.inj hcva
      refine h.exit hfunded (hprogress hfunded) hlockstep hburned ?_
      rw [haccounted]
      exact Nat.sub_add_cancel hcovered
  | @outside token world hworld hvault =>
      refine h.still ⟨rfl, rfl⟩ (by rw [hvault]) (by rw [hvault]) fun hfunded => ?_
      rw [hworld]
      exact (h.lockstep hfunded).undisturbed (houtside _ _ rfl hfunded)
  | same hevent hworld hcva =>
      have hactivation : ¬ event.IsActivation := by
        intro hactivation
        apply hevent
        cases event with
        | call msg entry => cases entry with
          | activate => trivial
          | _ => exact hactivation.elim
        | _ => exact hactivation.elim
      refine h.still (Event.units_of_still hevent) ⟨fun hunfunded => ?_, ?_⟩ hcva fun hfunded => ?_
      · by_contra hfunded
        exact hprogress hfunded hunfunded
      · exact hfiled.unfunded hactivation
      · rw [hworld]
        exact h.lockstep hfunded

theorem Undisturbed.before (h : Undisturbed k rest crypto terms start (events ++ [event])) :
    Undisturbed k rest crypto terms start events := by
  intro before after token world c hsplit hrun hfunded
  refine h before (after ++ [event]) token world c ?_ hrun hfunded
  rw [hsplit, List.append_assoc, List.cons_append]

/-- Every reachable chain of an undisturbed run has its units placed. -/
theorem Deployed.unitsPlaced (hstart : Deployed (withAdapter k rest) terms token start)
    (hrun : run (exec crypto (withAdapter k rest) terms) start events = .ok c)
    (hundisturbed : Undisturbed k rest crypto terms start events) :
    UnitsPlaced k terms events c := by
  refine run_history (P := fun events c => Undisturbed k rest crypto terms start events →
    UnitsPlaced k terms events c) ?_ ?_ hrun hundisturbed
  · intro _
    obtain ⟨signer, world, rfl⟩ := hstart.initial
    exact .initial signer world
  · intro before event c₁ c₂ hbefore hplaced hexec hundisturbed
    refine (hplaced hundisturbed.before).step (hstart.reaches hbefore) hexec ?_
    rintro token world rfl hfunded
    exact hundisturbed before [] token world c₁ rfl hbefore hfunded

/-- In the middle of an exit: after the custody call and before the burn of the
units, with the vault's two counters already written. -/
theorem custodyExit_midway {units : ℕ} {call : Option (Custody V)} {cva : ℕ × ℕ} {s : VaultState}
    (hexit : custodyExit (withAdapter k rest) terms c units call = .ok c')
    (hlockstep : ∀ world, call = some world → Lockstep k terms world cva) (hcva : s.cva = cva) :
    assertCvaIntegrity (withAdapter k rest) terms { c' with vault := s } = .ok () := by
  apply Lockstep.integrity
  rw [hcva]
  exact hlockstep c'.world (custodyExit_world hexit)

/-- The counters of the vault, its adapter and the token, and where the units
are. -/
structure CvaBacked (k : Contracts V) (terms : Terms) (events : List (Event (Custody V)))
    (c : Chain (Custody V)) : Prop where
  supply : c.vault.totalSupply = c.vault.cvaAccounted
  available : availableBalance k c.world terms.vault = .ok c.vault.cvaAccounted
  held : c.world.token.balanceOf k.self = c.vault.cvaAccounted
  burned_le : c.vault.cvaBurned ≤ terms.initialUnits
  issued : issuedSupply k c.world = .ok (terms.initialUnits - c.vault.cvaBurned)
  placed : terms.initialUnits =
    c.vault.totalSupply + c.vault.cvaBurned + releasedUnits events
  burned : c.vault.cvaBurned = redeemedUnits events

/-- **CVA backing.** In every state an undisturbed run reaches after activation
the vault's supply, its custody counter, the adapter's report and the adapter's
balance are one number, the token's supply is the units not yet burned, and each
unit issued is held, burned or released.  The vault's integrity check passes in
that state, at the end of every call from it, and inside the burn of every
redemption and default release from it. -/
theorem cva_backed (hstart : Deployed (withAdapter k rest) terms token start)
    (hrun : run (exec crypto (withAdapter k rest) terms) start events = .ok c)
    (hactivated : ∃ event ∈ events, event.IsActivation)
    (hundisturbed : Undisturbed k rest crypto terms start events) :
    CvaBacked k terms events c ∧
      assertCvaIntegrity (withAdapter k rest) terms c = .ok () ∧
      (∀ msg (call : Call) c', call.body crypto (withAdapter k rest) terms c msg = .ok c' →
        assertCvaIntegrity (withAdapter k rest) terms c' = .ok ()) ∧
      (∀ units c₁ s,
        custodyExit (withAdapter k rest) terms c units
            ((withAdapter k rest).consumeOnRedemption c.world terms.vault units) = .ok c₁ →
        s.cva = (c.vault.cvaAccounted - units, c.vault.cvaBurned + units) →
        assertCvaIntegrity (withAdapter k rest) terms { c₁ with vault := s } = .ok ()) ∧
      (∀ holder units c₁ s,
        custodyExit (withAdapter k rest) terms c units
            ((withAdapter k rest).releaseOnDefault c.world terms.vault holder units) = .ok c₁ →
        s.cva = (c.vault.cvaAccounted - units, c.vault.cvaBurned) →
        assertCvaIntegrity (withAdapter k rest) terms { c₁ with vault := s } = .ok ()) := by
  have hreach := hstart.reaches hrun
  have hfunded := hreach.activated hactivated
  have hplaced := hstart.unitsPlaced hrun hundisturbed
  have hlockstep := hplaced.lockstep hfunded
  have hcustody : c.vault.cvaAccounted = c.vault.totalSupply :=
    (hreach.faceOrdered.2.issued hfunded).custody
  obtain ⟨hburned, hissued⟩ := hlockstep.issuedSupply
  refine ⟨⟨hcustody.symm, hlockstep.available, hlockstep.held, hburned, hissued, ?_,
    hplaced.burned⟩, hlockstep.integrity, ?_, ?_, ?_⟩
  · rw [← hcustody]
    exact (hplaced.placed hfunded).symm
  · intro msg call c' hbody
    exact (hlockstep.call hfunded (Call.body_docket hbody).custody).integrity
  · intro units c₁ s hexit hcva
    exact custodyExit_midway hexit (fun world hcall => hlockstep.consume hcall) hcva
  · intro holder units c₁ s hexit hcva
    exact custodyExit_midway hexit (fun world hcall => hlockstep.release hcall) hcva

end

/-! ## A sample custody

Ten A-Tokens held by the adapter `0x13`.  The adapter is bound before activation;
three units are redeemed, and after the protection has ended two are released. -/

namespace Sample

def contracts : Contracts Unit where
  self := 0x13
  token := 0x14
  decimals := some 6
  minterRole _ := some 1
  hasRole _ _ _ := some true
  policy _ := some 0x19
  burned _ _ _ := some ()
  transferred _ _ _ _ := some ()
  isValidAPass _ _ := some true
  canTransfer _ _ _ _ _ _ := some true
  hasCode _ _ := true
  cvaAdapter _ _ := some 0x13
  cvaToken _ _ := some 0x14
  initialUnits _ _ := some 10

/-- Everybody is eligible; the custody entries are not used. -/
def others : Externals (Cleanverse.Custody Unit) where
  isFacility _ account := account == 0x20 || account == 0x21
  hasValidIdentity _ _ := true
  isEligible _ _ _ := true
  isEligibleForAsset _ _ _ _ _ _ := true
  isAssetTransferAllowed _ _ _ _ _ := true
  asset _ := 0
  issuedSupply _ := none
  availableBalance _ _ := none
  isActivationReady _ _ := false
  isCashRedemptionReady _ _ := false
  isRedemptionReady _ _ _ := false
  consumeOnRedemption _ _ _ := none
  releaseOnDefault _ _ _ _ := none
  settlementAccepts _ _ _ _ := true

def tenTokens : AToken where
  balanceOf := Function.update (fun _ => 0) 0x13 10
  fits account := by
    by_cases h : account = 0x13
    · rw [h, Function.update_self]
      decide
    · rw [Function.update_of_ne h]
      decide
  supply := 10
  total := sum_update_zero 0x13 10

def unboundCustody : Cleanverse.Custody Unit where
  adapter := ⟨0x40, 0, 0, fun _ => rfl⟩
  token := tenTokens
  outer := ()

def boundCustody : Cleanverse.Custody Unit where
  adapter := ⟨0x40, 0x10, 10, fun hzero => absurd hzero (by decide)⟩
  token := tenTokens
  outer := ()

def custodyEvents : List (Event (Cleanverse.Custody Unit)) :=
  [.outside token boundCustody,
    .call ⟨0x20, 5, 1⟩ (.activate pledge signature 0x30 [0x30, 0x31] [4, 6]),
    .call ⟨0x15, 6, 2⟩ (.fundRedemption 50),
    .call ⟨0x31, 8, 3⟩ (.redeem 3),
    .call ⟨0x40, 51, 4⟩ .closeProtection,
    .call ⟨0x30, 52, 5⟩ (.releaseDefaultCva 2)]

def custodyStart : Chain (Cleanverse.Custody Unit) :=
  deployed (VaultState.initial 0x17) token unboundCustody

theorem custody_deployed : Deployed (withAdapter contracts others) terms token custodyStart :=
  ⟨unboundCustody, 1, 3, init, _, rfl, rfl⟩

/-- The binding comes from `bindVault`, called by the owner. -/
example : bindVault contracts unboundCustody 0x40 0x10 10 = .ok boundCustody := rfl

theorem custody_undisturbed :
    Undisturbed contracts others hashing terms custodyStart custodyEvents := by
  intro before after token world c hsplit hrun hfunded
  cases before with
  | nil =>
      obtain rfl : custodyStart = c := by simpa using hrun
      exact absurd rfl hfunded
  | cons event before =>
      have hmem : .outside token world ∈ custodyEvents.tail := by
        rw [hsplit]
        exact List.mem_append_right before List.mem_cons_self
      simp [custodyEvents] at hmem

end Sample

/-- Three units burned, two released, five left. -/
theorem cva_backed_sample :
    ∃ c, run (exec Sample.hashing (withAdapter Sample.contracts Sample.others) Sample.terms)
        Sample.custodyStart Sample.custodyEvents = .ok c ∧
      CvaBacked Sample.contracts Sample.terms Sample.custodyEvents c ∧
      c.vault.cvaBurned = 3 ∧ c.vault.totalSupply = 5 := by
  have hcommits : (run (exec Sample.hashing (withAdapter Sample.contracts Sample.others)
      Sample.terms) Sample.custodyStart Sample.custodyEvents).toOption.any
        (fun c => decide (c.vault.cvaBurned = 3 ∧ c.vault.totalSupply = 5)) = true := by
    decide +kernel
  obtain ⟨c, hrun, hends⟩ := any_ok_iff.mp hcommits
  exact ⟨c, hrun, (cva_backed Sample.custody_deployed hrun
    ⟨_, List.mem_cons_of_mem _ List.mem_cons_self, trivial⟩ Sample.custody_undisturbed).1,
    of_decide_eq_true hends⟩

end Mordant.Vault
