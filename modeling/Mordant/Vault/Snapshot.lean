/-
# The snapshot a conflict is settled by

A commitment fixes the sequence at which holders are counted and the supply
they are counted against.  The pair travels through the pending record into the
entitlement while units keep moving.  `DocketStep.snapshot` says that an event
takes a snapshot of the present, keeps the one it found, or drops it; so the
snapshot always lies in the past, and the supply it names is the one the
checkpoints give back.
-/

import Mordant.Vault.Docket
import Mordant.Vault.History

namespace Mordant.Vault

open Evm Foundation

/-- The sequence and the supply of the snapshot in force, if there is one. -/
def Docket.snapshot (d : Docket) : Option (ℕ × ℕ) :=
  match d.protectionState with
  | .commitPending | .conflictConfirmed =>
      some (d.pendingConflict.snapshotSequence, d.pendingConflict.snapshotSupply)
  | .entitled => some (d.entitlementSnapshotSequence, d.entitlementSnapshotSupply)
  | .unfunded | .active | .released => none

theorem Docket.snapshot_entitled {d : Docket} (hstate : d.protectionState = .entitled) :
    d.snapshot = some (d.entitlementSnapshotSequence, d.entitlementSnapshotSupply) := by
  rw [Docket.snapshot, hstate]

section

variable {W : Type} {crypto : Crypto} {env : Externals W} {terms : Terms} {token : Settlement}
variable {events : List (Event W)} {event : Event W} {c c' : Chain W} {d : Docket}

/-- An event keeps the snapshot, drops it, or takes one of the present. -/
theorem DocketStep.snapshot (hstep : DocketStep crypto env terms c event d) :
    d.snapshot = c.vault.docket.snapshot ∨ d.snapshot = none ∨
      d.snapshot = some (c.vault.sequence, c.vault.totalSupply) := by
  cases hstep with
  | activate | expire | cure | release => exact .inr (.inl rfl)
  | commit => exact .inr (.inr rfl)
  | reveal hstate =>
      left
      simp only [Docket.snapshot, VaultState.docket, hstate]
  | finalize hstate =>
      left
      simp only [Docket.snapshot, VaultState.docket, hstate]
  | claim hstate =>
      left
      simp only [Docket.snapshot, VaultState.docket, hstate]
  | authorize | quiet => exact .inl rfl

/-- The snapshot in force lies in the past, and its supply is the supply
there. -/
def SnapshotTaken (s : VaultState) : Prop :=
  ∀ n supply, s.docket.snapshot = some (n, supply) →
    n ≤ s.sequence ∧ (unitsAfter s n).2 = supply

theorem SnapshotTaken.exec (hunits : UnitsConsistent c.vault) (hfaithful : Faithful c.vault)
    (h : SnapshotTaken c.vault) (hexec : exec crypto env terms c event = .ok c') :
    SnapshotTaken c'.vault := by
  obtain ⟨hsequence, hreads⟩ := hfaithful.reads_kept (exec_moves hunits hexec)
  intro n supply hsnapshot
  have hpast : n ≤ c.vault.sequence ∧ (unitsAfter c.vault n).2 = supply := by
    rcases (exec_docket hexec).step.snapshot with hkept | hnone | htaken
    · exact h n supply (hkept.symm.trans hsnapshot)
    · rw [hnone] at hsnapshot
      exact nomatch hsnapshot
    · obtain ⟨rfl, rfl⟩ := Prod.mk.inj (Option.some.inj (htaken.symm.trans hsnapshot))
      rw [hfaithful.current]
      exact ⟨le_rfl, rfl⟩
  refine ⟨hpast.1.trans hsequence, ?_⟩
  rw [(hreads n hpast.1).1]
  exact hpast.2

theorem Reaches.snapshotTaken (hreach : Reaches crypto env terms token events c) :
    SnapshotTaken c.vault := by
  refine hreach.history (P := fun _ c => SnapshotTaken c.vault) ?_ ?_
  · exact fun signer world n supply hnone => nomatch hnone
  · intro before event c₁ c₂ hbefore htaken hexec
    obtain ⟨hunits, hfaithful⟩ := hbefore.faithful
    exact htaken.exec hunits hfaithful hexec

end

end Mordant.Vault
