/-
# Originator roles and snapshot claims

Authorizing an originator wallet looks at the wallet's present balance, and a
claim on the bond lives in a past one.  `OriginatorsEmpty` is what the code does
keep: no originator ever holds units.  A wallet that held units at the snapshot
and has since parted with them passes the check all the same, and its claim is
refused from then on; that the wallet's unclaimed snapshot balance is nothing is
exactly what the check leaves open.
-/

import Mordant.Vault.Snapshot

namespace Mordant.Vault

open Evm Foundation

/-- No originator holds units. -/
def OriginatorsEmpty (s : VaultState) : Prop :=
  ∀ account, s.authorizedOriginator account = true → s.balanceOf account = 0

/-- The account held units at the snapshot in force and has not claimed for
them. -/
def SnapshotHolder (s : VaultState) (account : Address) : Prop :=
  s.bondClaimedBy account = false ∧
    ∃ n supply units, s.docket.snapshot = some (n, supply) ∧
      balanceAt s account n = .ok units ∧ 0 < units

/-- No originator has an unclaimed snapshot balance. -/
def RolesRespected (s : VaultState) : Prop :=
  ∀ account, s.authorizedOriginator account = true → ¬ SnapshotHolder s account

section

variable {W : Type} {crypto : Crypto} {env : Externals W} {terms : Terms} {token : Settlement}
variable {events : List (Event W)} {event : Event W} {start c c' : Chain W} {d : Docket}
  {account : Address}

/-- An account becomes an originator only through its own authorization. -/
theorem DocketStep.authorized (hstep : DocketStep crypto env terms c event d)
    (h : d.authorizedOriginator account = true) :
    c.vault.authorizedOriginator account = true ∨
      (∃ msg, event = .call msg (.authorizeOriginatorWallet account)) ∧
        c.vault.balanceOf account = 0 := by
  cases hstep with
  | @authorize msg signer hbalance =>
      by_cases hsame : account = signer
      · subst hsame
        exact .inr ⟨⟨msg, rfl⟩, hbalance⟩
      · exact .inl ((Function.update_of_ne hsame _ _).symm.trans h)
  | activate | commit | reveal | expire | cure | finalize | claim | release | quiet => exact .inl h

/-- A claim once made stays made. -/
theorem DocketStep.claimed (hstep : DocketStep crypto env terms c event d)
    (h : d.bondClaimedBy account = false) : c.vault.bondClaimedBy account = false := by
  cases hstep with
  | @claim msg =>
      by_cases hsame : account = msg.sender
      · subst hsame
        exact nomatch (Function.update_self _ _ _).symm.trans h
      · exact (Function.update_of_ne hsame _ _).symm.trans h
  | activate | authorize | commit | reveal | expire | cure | finalize | release | quiet => exact h

/-- Authorizing a wallet changes no holding and no snapshot. -/
theorem DocketStep.authorize_eq {msg : Msg} {signer : Address}
    (hstep : DocketStep crypto env terms c (.call msg (.authorizeOriginatorWallet signer)) d) :
    d = { c.vault.docket with
      authorizedOriginator := Function.update c.vault.authorizedOriginator signer true } := by
  cases hstep with
  | authorize => rfl
  | release _ hentry =>
      rcases hentry with hentry | ⟨units, hentry⟩ <;> exact nomatch hentry
  | quiet hquiet => exact absurd trivial hquiet

theorem OriginatorsEmpty.exec (h : OriginatorsEmpty c.vault)
    (hexec : exec crypto env terms c event = .ok c') : OriginatorsEmpty c'.vault := by
  have hfiled := exec_docket hexec
  intro account horiginator
  rcases hfiled.step.authorized horiginator with hbefore | ⟨⟨msg, rfl⟩, hempty⟩
  · exact Nat.le_zero.mp ((hfiled.originators account hbefore).trans (h account hbefore).le)
  · -- the authorization itself moves no units
    simp only [Vault.exec, Call.perform, authorizeOriginatorWallet, bind_ok_iff,
      pure_ok_iff] at hexec
    obtain ⟨-, -, -, -, -, -, -, -, -, -, -, -, rfl⟩ := hexec
    exact hempty

theorem Reaches.originatorsEmpty (hreach : Reaches crypto env terms token events c) :
    OriginatorsEmpty c.vault :=
  hreach.history (P := fun _ c => OriginatorsEmpty c.vault) (fun _ _ _ _ => rfl)
    (fun _ _ _ _ _ hempty hexec => hempty.exec hexec)

/-- A snapshot holder after an event was one before, unless the snapshot was
taken just now from its present balance. -/
theorem SnapshotHolder.before (hreach : Reaches crypto env terms token events c)
    (hexec : exec crypto env terms c event = .ok c') (h : SnapshotHolder c'.vault account) :
    SnapshotHolder c.vault account ∨ 0 < c.vault.balanceOf account := by
  obtain ⟨hunits, hfaithful⟩ := hreach.faithful
  obtain ⟨-, hreads⟩ := hfaithful.reads_kept (exec_moves hunits hexec)
  obtain ⟨hunclaimed, n, supply, units, hsnapshot, hbalance, hpos⟩ := h
  have hstep := (exec_docket hexec).step
  rcases hstep.snapshot with hkept | hnone | htaken
  · have hbefore := hkept.symm.trans hsnapshot
    have hpast := (hreach.snapshotTaken n supply hbefore).1
    rw [(hreads n hpast).2.1 account] at hbalance
    exact .inl ⟨hstep.claimed hunclaimed, n, supply, units, hbefore, hbalance, hpos⟩
  · rw [hnone] at hsnapshot
    exact nomatch hsnapshot
  · obtain ⟨rfl, rfl⟩ := Prod.mk.inj (Option.some.inj (htaken.symm.trans hsnapshot))
    rw [(hreads _ le_rfl).2.1 account, hfaithful.balanceAt_eq le_rfl, hfaithful.current] at hbalance
    rw [← Except.ok.inj hbalance] at hpos
    exact .inr hpos

/-- One event keeps the roles respected, provided a wallet it authorizes is not
a snapshot holder. -/
theorem RolesRespected.exec (hreach : Reaches crypto env terms token events c)
    (h : RolesRespected c.vault) (hexec : exec crypto env terms c event = .ok c')
    (hwallet : ∀ msg signer, event = .call msg (.authorizeOriginatorWallet signer) →
      ¬ SnapshotHolder c.vault signer) : RolesRespected c'.vault := by
  intro account horiginator hholder
  have hempty : c.vault.balanceOf account = 0 := by
    rcases (exec_docket hexec).step.authorized horiginator with hbefore | ⟨-, hempty⟩
    · exact hreach.originatorsEmpty account hbefore
    · exact hempty
  rcases hholder.before hreach hexec with hholder | hpos
  · rcases (exec_docket hexec).step.authorized horiginator with hbefore | ⟨⟨msg, rfl⟩, -⟩
    · exact h account hbefore hholder
    · exact hwallet msg account rfl hholder
  · exact hpos.ne' hempty

/-- Authorizing a snapshot holder strips it. -/
theorem SnapshotHolder.stripped (hreach : Reaches crypto env terms token events c) {msg : Msg}
    {signer : Address} (h : SnapshotHolder c.vault signer)
    (hexec : exec crypto env terms c (.call msg (.authorizeOriginatorWallet signer)) = .ok c') :
    ¬ RolesRespected c'.vault := by
  intro hroles
  obtain ⟨hunits, hfaithful⟩ := hreach.faithful
  obtain ⟨-, hreads⟩ := hfaithful.reads_kept (exec_moves hunits hexec)
  have hdocket := (exec_docket hexec).step.authorize_eq
  obtain ⟨hunclaimed, n, supply, units, hsnapshot, hbalance, hpos⟩ := h
  have hpast := (hreach.snapshotTaken n supply hsnapshot).1
  refine hroles signer ?_ ⟨?_, n, supply, units, ?_, ?_, hpos⟩
  · exact (congrFun (congrArg Docket.authorizedOriginator hdocket) signer).trans
      (Function.update_self _ _ _)
  · exact (congrFun (congrArg Docket.bondClaimedBy hdocket) signer).trans hunclaimed
  · rw [hdocket]
    exact hsnapshot
  · rw [(hreads n hpast).2.1 signer]
    exact hbalance

/-- **Roles and claims.** Along a run, no originator ever has an unclaimed
snapshot balance if and only if no wallet is authorized while it has one. -/
theorem roles_respected_iff (hstart : Deployed env terms token start)
    (hrun : run (exec crypto env terms) start events = .ok c) :
    (∀ before after c₁, events = before ++ after →
        run (exec crypto env terms) start before = .ok c₁ → RolesRespected c₁.vault) ↔
      ∀ before after msg signer c₁,
        events = before ++ .call msg (.authorizeOriginatorWallet signer) :: after →
        run (exec crypto env terms) start before = .ok c₁ → ¬ SnapshotHolder c₁.vault signer := by
  constructor
  · intro hrespected before after msg signer c₁ hsplit hbefore hholder
    rw [hsplit] at hrun
    obtain ⟨c₁', hbefore', hrest⟩ := run_append_ok_iff.mp hrun
    obtain rfl := Except.ok.inj (hbefore.symm.trans hbefore')
    obtain ⟨c₂, hexec, -⟩ := run_cons_ok_iff.mp hrest
    refine hholder.stripped (hstart.reaches hbefore) hexec ?_
    refine hrespected (before ++ [_]) after c₂ ?_ (run_snoc_ok_iff.mpr ⟨c₁, hbefore, hexec⟩)
    rw [hsplit, List.append_assoc]
    rfl
  · intro hwallets before after c₁ hsplit hbefore
    -- along the prefix: every authorization in it is one of the run's
    refine run_history (P := fun before c => ∀ after, events = before ++ after →
      RolesRespected c.vault) ?_ ?_ hbefore after hsplit
    · intro after hsplit account horiginator hholder
      obtain ⟨signer, world, rfl⟩ := hstart.initial
      obtain ⟨-, n, supply, units, hsnapshot, -⟩ := hholder
      exact nomatch hsnapshot
    · intro before event c₁ c₂ hbefore hrespected hexec after hsplit
      rw [List.append_assoc] at hsplit
      refine (hrespected _ hsplit).exec (hstart.reaches hbefore) hexec ?_
      rintro msg signer rfl
      exact hwallets before after msg signer c₁ hsplit hbefore

/-- The sample dispute authorizes nobody. -/
theorem roles_respected_sample :
    ∃ start c, Deployed Sample.env Sample.terms Sample.token start ∧
      run (exec Sample.hashing Sample.env Sample.terms) start Sample.dispute = .ok c ∧
      ∀ before after c₁, Sample.dispute = before ++ after →
        run (exec Sample.hashing Sample.env Sample.terms) start before = .ok c₁ →
        RolesRespected c₁.vault := by
  obtain ⟨c, ⟨world, chainId, now, init, s, hconstruct, hrun⟩, -⟩ := Sample.dispute_reaches
  have hstart : Deployed Sample.env Sample.terms Sample.token (deployed s Sample.token world) :=
    ⟨world, chainId, now, init, s, hconstruct, rfl⟩
  refine ⟨_, c, hstart, hrun, (roles_respected_iff hstart hrun).mpr ?_⟩
  intro before after msg signer c₁ hsplit
  have hmem : .call msg (.authorizeOriginatorWallet signer) ∈ Sample.dispute := by
    rw [hsplit]
    exact List.mem_append_right _ List.mem_cons_self
  simp [Sample.dispute] at hmem

end

/-! ## A stripped holder

A holder of four units passes them on while a conflict is pending and is then
authorized as an originator wallet; its claim is refused. -/

namespace Sample

def strippingEvents : List (Event Custody) :=
  [.call ⟨0x20, 5, 1⟩ (.activate pledge signature 0x30 [0x30, 0x31] [4, 6]),
    .call ⟨0x21, 9, 2⟩ (.commitConflict (commitmentTo rival)),
    .call ⟨0x30, 10, 3⟩ (.transfer 0x31 4),
    .call ⟨0x15, 10, 4⟩ (.authorizeOriginatorWallet 0x30),
    .call ⟨0x21, 10, 5⟩ (.revealConflict rival signature 7),
    .call ⟨0x31, 16, 6⟩ .finalizeConflict]

/-- The holder's claim at the end of the stripping run. -/
def strippedClaim (c : Chain Custody) : Bool :=
  match claimBond env terms c ⟨0x30, 17, 7⟩ with
  | .error error => error == .ineligible 0x30 roleHolder
  | .ok _ => false

end Sample

/-- The vault itself strips a holder of four snapshot units, and the holder's
claim reverts. -/
theorem roles_stripped :
    ∃ c, Reaches Sample.hashing Sample.env Sample.terms Sample.token Sample.strippingEvents c ∧
      c.vault.protectionState = .entitled ∧ ¬ RolesRespected c.vault ∧
      claimBond Sample.env Sample.terms c ⟨0x30, 17, 7⟩ =
        .error (.ineligible 0x30 roleHolder) := by
  obtain ⟨c, hreach, hholds⟩ := Sample.reaches_such Sample.strippingEvents
    (fun c => decide (c.vault.protectionState = .entitled ∧
      c.vault.authorizedOriginator 0x30 = true ∧ c.vault.bondClaimedBy 0x30 = false ∧
      balanceAt c.vault 0x30 c.vault.entitlementSnapshotSequence = .ok 4) &&
      Sample.strippedClaim c) (by decide +kernel)
  simp only [Bool.and_eq_true, decide_eq_true_eq] at hholds
  obtain ⟨⟨hentitled, horiginator, hunclaimed, hbalance⟩, hclaim⟩ := hholds
  refine ⟨c, hreach, hentitled, fun hroles => ?_, ?_⟩
  · exact hroles 0x30 horiginator
      ⟨hunclaimed, _, _, 4, Docket.snapshot_entitled hentitled, hbalance, by decide⟩
  · unfold Sample.strippedClaim at hclaim
    split at hclaim
    · next error herror => rw [herror, eq_of_beq hclaim]
    · exact nomatch hclaim

end Mordant.Vault
