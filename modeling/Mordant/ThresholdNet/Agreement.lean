/-
# Agreement of two operators

A record that is acknowledged at either operator was acknowledged for a journal that a
coordinator wrote: one with the responses of two operators to the binding, each released
before the journal was written and each the response of the operator's record.

Neither operator ever delivers two responses for one binding, whoever asks.
-/

import Mordant.ThresholdNet.OneShot

namespace Mordant.ThresholdNet

open Evm Foundation
open Coalition (Digest ReleaseDescriptor)

variable {ι S : Type}

/-- The operator released this response to the binding before some point, and its record
is the record of this response. -/
structure ReleasedAs (network : Network S) (w : World ι S) (before : List (Event ι S))
    (binding : Digest) (server : S) (wire : Bytes) : Prop where
  released : Released server binding (network.library.sha256 wire) before
  recorded : ∃ record, (w.ledgers server).record binding = some record ∧
    record.responseDigest = network.library.sha256 wire

/-- A record was acknowledged, after the responses of both operators were journaled, after
both were released. -/
structure Concluded (network : Network S) (w : World ι S) (server : S) (binding : Digest) :
    Prop where
  journaled : ∃ i asked record j journal later middle before,
    w.history = later ++ .wrote i server asked record ::
      (middle ++ .persisted j journal :: before) ∧
    record.state = .acked ∧ record.binding = binding ∧
    journal.descriptor.protocolBinding = binding ∧
    journal.servers.1 ≠ journal.servers.2 ∧
    (server = journal.servers.1 ∨ server = journal.servers.2) ∧
    ReleasedAs network w before binding journal.servers.1 journal.wires.1 ∧
    ReleasedAs network w before binding journal.servers.2 journal.wires.2

/-- The binding that an operator delivered a response for. -/
def Event.delivered [DecidableEq S] (server : S) : Event ι S → Option Digest
  | .answered _ _ server' response =>
    if server' = server then response.carries.map ReleaseDescriptor.protocolBinding else none
  | _ => none

section

variable {network : Network S} {w : World ι S} {server : S} {binding digest : Digest}
  {history : List (Event ι S)} {record : Record}

/-- What was released is what the record says. -/
theorem World.Sound.releasedAs (h : w.Sound network) {before : List (Event ι S)} {wire : Bytes}
    (hsub : before ⊆ w.history)
    (hreleased : Released server binding (network.library.sha256 wire) before) :
    ReleasedAs network w before binding server wire where
  released := hreleased
  recorded := by
    obtain ⟨i, asked, record, hmem, hstate, hbinding, hdigest⟩ := hreleased
    obtain ⟨current, hcurrent, hfollows⟩ := h.recorded (hsub hmem)
    rw [hbinding] at hcurrent
    have hsame := hfollows.responseDigest (by rw [hstate]; decide)
    exact ⟨current, hcurrent, hsame.trans hdigest⟩

/-- An acknowledged record was acknowledged for a journal. -/
theorem World.Sound.concluded (h : w.Sound network) (hunforgeable : network.Unforgeable)
    (hrecord : (w.ledgers server).record binding = some record) (hacked : record.state = .acked) :
    Concluded network w server binding := by
  have hbinding : record.binding = binding := (h.consistent server).keyed hrecord
  obtain ⟨i, asked, hwrote⟩ := h.written hrecord (by rw [hacked]; decide)
  obtain ⟨later, earlier, hhistory⟩ := List.append_of_mem hwrote
  have hchronicle := h.chronicle
  rw [hhistory] at hchronicle
  -- what an acknowledgement is justified by
  have hjustified := hchronicle.of_split
  simp only [Event.Justified, RecordJustified, hacked] at hjustified
  obtain ⟨j, journal, hjournal, hsame, hserver⟩ := hjustified hunforgeable
  rw [hbinding] at hsame
  obtain ⟨middle, before, hearlier⟩ := List.append_of_mem hjournal
  have hpersisted := hchronicle.of_later
  rw [hearlier] at hpersisted
  obtain ⟨hne, hfirst, hsecond⟩ := hpersisted.of_split
  rw [hsame] at hfirst hsecond
  have hsub : before ⊆ w.history := by
    rw [hhistory, hearlier]
    intro event hevent
    exact List.mem_append_right _ (List.mem_cons_of_mem _ (List.mem_append_right _
      (List.mem_cons_of_mem _ hevent)))
  refine ⟨i, asked, record, j, journal, later, middle, before, ?_, hacked, hbinding, hsame, hne,
    ?_, h.releasedAs hsub hfirst, h.releasedAs hsub hsecond⟩
  · rw [hhistory, hearlier]
  · exact hserver.imp (fun h => h.1.symm) fun h => h.1.symm

variable [DecidableEq S]

theorem Event.claim_of_delivered {event : Event ι S}
    (h : event.delivered server = some binding) :
    event.claim = some ⟨.answered, server, binding⟩ := by
  cases event with
  | answered i source server' response =>
      simp only [Event.delivered, Option.ite_none_right_eq_some, Option.map_eq_some_iff] at h
      obtain ⟨rfl, descriptor, hcarries, rfl⟩ := h
      rw [Event.claim, hcarries, Option.map_some]
  | wrote | generated | persisted => cases h

/-- A delivered response is for some binding. -/
theorem World.Sound.delivered (h : w.Sound network) {i : ι} {source : Source S}
    {response : Response} (hmem : .answered i source server response ∈ w.history)
    (hdelivers : response.Delivers) :
    ∃ binding, Event.delivered server (.answered i source server response) = some binding := by
  obtain ⟨-, hempty⟩ := h.justified hmem
  cases hcarries : response.carries with
  | none => exact (hempty hcarries hdelivers).elim
  | some descriptor =>
      exact ⟨descriptor.protocolBinding, by
        rw [Event.delivered, if_pos rfl, hcarries, Option.map_some]⟩

end

section

variable [DecidableEq ι] [DecidableEq S] {network : Network S} {moves : List (Move ι (Task S))}
  {pool : Pool ι (World ι S) (Op S) Op.Answer String Unit}

/-- Where an operator's record is acknowledged, the responses of both were journaled after
both were released; and no operator delivers two responses for one binding. -/
theorem acknowledged_agreement (hunforgeable : network.Unforgeable)
    (hrun : run (exec network) (start ι S) moves = .ok pool) (server : S) :
    (∀ binding record, (pool.state.ledgers server).record binding = some record →
        record.state = .acked → Concluded network pool.state server binding) ∧
      (∀ i source response, .answered i source server response ∈ pool.state.history →
        response.Delivers →
          ∃ binding, Event.delivered server (.answered i source server response) =
            some binding) ∧
      ClaimedOnce (Event.delivered server) pool.state.history := by
  have hsound := (run_sound_start hrun).1
  refine ⟨fun binding record hrecord hacked => ?_, fun i source response hmem hdelivers => ?_, ?_⟩
  · exact hsound.concluded hunforgeable hrecord hacked
  · exact hsound.delivered hmem hdelivers
  · exact hsound.claimed.of_claim Event.claim_of_delivered

end

/-! ## A run -/

/-- Strangers reach the operators without the coordinator's certificate. -/
def guardedNetwork : Network Bool :=
  { sampleNetwork with outside := fun _ request => request.peerKey ≠ some (List.replicate 32 2) }

theorem guardedNetwork_unforgeable : guardedNetwork.Unforgeable := by
  intro server request now result hstranger hauthorize
  simp only [authorizeAck, authorize, bind_ok_iff, revertIf_ok_iff, exists_const,
    not_not] at hauthorize
  obtain ⟨_, ⟨-, hpeer, -⟩, -⟩ := hauthorize
  exact of_decide_eq_true hstranger hpeer

/-- A coordinator that releases the sample at both operators. -/
def sampleRelease : ReleaseCall Bool where
  clients := (sampleClient false, sampleClient true)
  descriptor := sampleDescriptor
  ciphertext := [8, 9]
  persists := true
  env _ := ⟨1, 0⟩

/-- The coordinator sends a request, which a new party serves, and reads the reply. -/
def sampleExchange (ticket steps : ℕ) : List (Move ℕ (Task Bool)) :=
  .step 0 :: .start (ticket + 1) (.serve (.sent ticket) ⟨10, fun _ => ⟨7, true⟩, [1]⟩) ::
    List.replicate steps (.step (ticket + 1)) ++ [.step 0]

/-- PREPARE and COMMIT at both operators, the journal, and an acknowledgement at the first. -/
def sampleRound : List (Move ℕ (Task Bool)) :=
  .start 0 (.release sampleRelease) ::
    (sampleExchange 0 3 ++ sampleExchange 1 3 ++ sampleExchange 2 7 ++ sampleExchange 3 7 ++
      [.step 0] ++ sampleExchange 4 4)

theorem sample_acked :
    ((run (exec guardedNetwork) (start ℕ Bool) sampleRound).toOption.bind fun pool =>
      ((pool.state.ledgers false).record 10).map Record.state) = some .acked := by
  decide +kernel

theorem acknowledged_agreement_sample :
    ∃ pool, run (exec guardedNetwork) (start ℕ Bool) sampleRound = .ok pool ∧
      Concluded guardedNetwork pool.state false 10 ∧
      ClaimedOnce (Event.delivered false) pool.state.history := by
  obtain ⟨pool, hrun, hstate⟩ := Option.bind_eq_some_iff.mp sample_acked
  obtain ⟨record, hrecord, hacked⟩ := Option.map_eq_some_iff.mp hstate
  have hrun := toOption_eq_some_iff.mp hrun
  obtain ⟨hconcluded, -, honce⟩ :=
    acknowledged_agreement guardedNetwork_unforgeable hrun false
  exact ⟨pool, hrun, hconcluded 10 record hrecord hacked, honce⟩

end Mordant.ThresholdNet
