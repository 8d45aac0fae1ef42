/-
# One-shot generation behind the network boundary

Requests may be delivered, duplicated and interleaved in any order, parties lost at any
point and ledgers opened at any moment.  No binding is reserved, committed, generated for
or answered twice at an operator, a share is generated only behind the barrier, and a
response leaves only once its digest is released.

Between PREPARE and COMMIT the ledger pins the session, the binding and the coalition, and
the operator its key and parameters.  The rest of the descriptor that a share is signed
under is the one of the COMMIT.
-/

import Mordant.Coalition.ReleaseStatement
import Mordant.ThresholdNet.Conduct

namespace Mordant.ThresholdNet

open Evm Foundation
open Coalition (Digest Word64 ReleaseDescriptor Ciphertext ThresholdOperator uint64Bytes)

variable {ι S : Type}

/-- One-shot generation at an operator. -/
structure OneShot (network : Network S) (server : S) (w : World ι S) : Prop where
  /-- Nothing happens to a binding twice. -/
  once : ClaimedOnce Event.claim w.history
  /-- A binding is only ever recorded for one session, and a session for one binding. -/
  one_session : ∀ {i j asked asked' record record'},
    .wrote i server asked record ∈ w.history → .wrote j server asked' record' ∈ w.history →
      (record.sessionID = record'.sessionID ↔ record.binding = record'.binding)
  /-- The sessions are the sessions of the records. -/
  indexed : ∀ sessionID binding, (w.ledgers server).session sessionID = some binding ↔
    ∃ record, (w.ledgers server).record binding = some record ∧ record.binding = binding ∧
      record.sessionID = sessionID
  /-- A share is generated behind the barrier. -/
  generated : ∀ {i descriptor later earlier},
    w.history = later ++ .generated i server descriptor :: earlier →
      ∃ record, .wrote i server descriptor record ∈ earlier ∧ record.state = .committed ∧
        record.sessionID = descriptor.sessionID ∧ record.binding = descriptor.protocolBinding
  /-- A response leaves when its digest is released, and it is the digest of the record. -/
  answered : ∀ {i source response later earlier},
    w.history = later ++ .answered i source server response :: earlier → response.Delivers →
      ∃ descriptor record current, response.carries = some descriptor ∧
        .generated i server descriptor ∈ earlier ∧
        .wrote i server descriptor record ∈ earlier ∧ record.state = .released ∧
        record.binding = descriptor.protocolBinding ∧
        record.responseDigest = network.library.sha256 response.body ∧
        (w.ledgers server).record record.binding = some current ∧
        current.responseDigest = record.responseDigest
  /-- The ledger opens, and what was in flight is closed. -/
  opens : ∀ clock, ∃ ledger, (w.ledgers server).initializeAndRecover clock = .ok ledger ∧
    ledger.session = (w.ledgers server).session ∧
    (∀ binding, (w.ledgers server).record binding = none → ledger.record binding = none) ∧
    ∀ binding record, (w.ledgers server).record binding = some record →
      ∃ record', ledger.record binding = some record' ∧
        (record.state.InFlight → record'.state = .failedTerminal ∧
          record'.failureCode = failureRestartAfterCommit ∧
          record'.responseDigest = record.responseDigest) ∧
        (¬ record.state.InFlight → record' = record)

section

variable {network : Network S} {w : World ι S} {server : S}

/-- What a sound history says of two records of one operator. -/
theorem World.Sound.one_session (h : w.Sound network) {i j : ι}
    {asked asked' : ReleaseDescriptor} {record record' : Record}
    (hwrote : .wrote i server asked record ∈ w.history)
    (hwrote' : .wrote j server asked' record' ∈ w.history) :
    record.sessionID = record'.sessionID ↔ record.binding = record'.binding := by
  obtain ⟨current, hcurrent, hfollows⟩ := h.recorded hwrote
  obtain ⟨current', hcurrent', hfollows'⟩ := h.recorded hwrote'
  have hindexed := (h.consistent server).indexed hcurrent
  have hindexed' := (h.consistent server).indexed hcurrent'
  rw [hfollows.identity.1] at hindexed
  rw [hfollows'.identity.1] at hindexed'
  constructor
  · intro hsession
    rw [hsession, hindexed'] at hindexed
    exact (Option.some.inj hindexed).symm
  · intro hbinding
    rw [← hbinding] at hindexed'
    exact (h.consistent server).session_inj hindexed hindexed'

theorem World.Sound.indexed (h : w.Sound network) (sessionID binding : Digest) :
    (w.ledgers server).session sessionID = some binding ↔
      ∃ record, (w.ledgers server).record binding = some record ∧ record.binding = binding ∧
        record.sessionID = sessionID := by
  constructor
  · intro hsession
    obtain ⟨record, hrecord, hid⟩ := (h.consistent server).listed hsession
    exact ⟨record, hrecord, (h.consistent server).keyed hrecord, hid⟩
  · rintro ⟨record, hrecord, -, rfl⟩
    exact (h.consistent server).indexed hrecord

theorem World.Sound.oneShot (h : w.Sound network) (server : S) : OneShot network server w where
  once := h.claimed
  one_session := h.one_session
  indexed := h.indexed
  generated heq := by
    have hchronicle := h.chronicle
    rw [heq] at hchronicle
    obtain ⟨record, hmem, hstate, hmatches⟩ := hchronicle.of_split
    exact ⟨record, hmem, hstate, hmatches.sessionID, hmatches.binding⟩
  answered {i source response later earlier} heq hdelivers := by
    have hchronicle := h.chronicle
    rw [heq] at hchronicle
    obtain ⟨hcarries, hempty⟩ := hchronicle.of_split
    cases hsome : response.carries with
    | none => exact (hempty hsome hdelivers).elim
    | some descriptor =>
        obtain ⟨hgenerated, record, hmem, hstate, hbinding, hdigest⟩ := hcarries descriptor hsome
        have hhistory : .wrote i server descriptor record ∈ w.history := by
          rw [heq]
          exact List.mem_append_right _ (List.mem_cons_of_mem _ hmem)
        obtain ⟨current, hcurrent, hfollows⟩ := h.recorded hhistory
        have hsame := hfollows.responseDigest (by rw [hstate]; decide)
        exact ⟨descriptor, record, current, rfl, hgenerated, hmem, hstate, hbinding, hdigest,
          hcurrent, hsame⟩
  opens clock := by
    obtain ⟨ledger, hopen, hsession, hrecord⟩ :=
      (h.consistent server).initializeAndRecover_ok clock
    refine ⟨ledger, hopen, hsession, fun binding hnone => ?_, fun binding record hfound => ?_⟩
    · rw [hrecord, hnone, Option.map_none]
    · refine ⟨Ledger.recovered (clock binding) record, by rw [hrecord, hfound, Option.map_some],
        fun hflight => ?_, fun hflight => ?_⟩
      · rw [Ledger.recovered, if_pos hflight]
        exact ⟨rfl, rfl, rfl⟩
      · rw [Ledger.recovered, if_neg hflight]

end

/-! ## Every run -/

section

variable [DecidableEq ι] [DecidableEq S] {network : Network S}
  {before after : List (Move ι (Task S))}
  {middle pool : Pool ι (World ι S) (Op S) Op.Answer String Unit}

/-- Generation is one-shot in every run, and a record that stands in a ledger stays: for its
session and its binding always, and as it is once it is terminal. -/
theorem one_shot_generation (hbefore : run (exec network) (start ι S) before = .ok middle)
    (hafter : run (exec network) middle after = .ok pool) (server : S) :
    OneShot network server pool.state ∧
      ∀ binding record, (middle.state.ledgers server).record binding = some record →
        ∃ record', (pool.state.ledgers server).record binding = some record' ∧
          record'.sessionID = record.sessionID ∧ record'.binding = record.binding ∧
          (record.state.IsTerminal → record' = record) := by
  obtain ⟨hmiddle, hpool⟩ := run_sound_start hbefore
  have hlater := run_later hafter hpool
  refine ⟨(hlater.sound hmiddle).oneShot server, fun binding record hrecord => ?_⟩
  obtain ⟨record', hrecord', hfollows⟩ := (hlater.ledgers hmiddle server).record hrecord
  obtain ⟨hsession, hbinding, -⟩ := hfollows.identity
  exact ⟨record', hrecord', hsession, hbinding, hfollows.eq_of_isTerminal⟩

end

/-! ## What COMMIT and PREPARE have in common -/

/-- The descriptor that a successful PREPARE was made with. -/
def Event.reservedFor [DecidableEq S] (server : S) : Event ι S → Option ReleaseDescriptor
  | .wrote _ server' asked record =>
    if server' = server ∧ record.state = .prepared then some asked else none
  | _ => none

/-- The text of a coalition tells who is in it. -/
theorem coalitionText_inj {coalition coalition' : Word64 × Word64}
    (h : coalitionText coalition = coalitionText coalition') :
    coalition = coalition' ∨ coalition = (coalition'.2, coalition'.1) := by
  have h := List.append_cancel_left h
  split at h <;> split at h
  all_goals
    obtain ⟨hfirst, hrest⟩ := Coalition.uint64Bytes_append_inj h
    have hsecond := (Coalition.uint64Bytes_append_inj (congrArg (· ++ []) hrest)).1
  · exact .inl (Prod.ext hfirst hsecond)
  · exact .inr (Prod.ext hfirst hsecond)
  · exact .inr (Prod.ext hsecond hfirst)
  · exact .inl (Prod.ext hsecond hfirst)

/-- The operator accepts only descriptors of its own key and parameters, and of the policy
version. -/
theorem Network.Accepts.own {network : Network S} {server : S} {descriptor : ReleaseDescriptor}
    (h : network.Accepts server descriptor) :
    descriptor.keyID = (network.servers server).operator.keyID ∧
      descriptor.parameterFingerprint = (network.servers server).operator.fingerprint ∧
      descriptor.policyVersion = Coalition.policyVersion := by
  obtain ⟨ciphertext, hvalid⟩ := h
  simp only [ThresholdOperator.validateReleaseRequest, Coalition.validateReleaseDescriptor,
    bind_ok_iff, revertIf_ok_iff, exists_const, not_or, not_not] at hvalid
  obtain ⟨-, ⟨-, -, -, -, hversion, -⟩, ⟨hkey, hfingerprint⟩, -⟩ := hvalid
  exact ⟨hkey, hfingerprint, hversion⟩

section

variable [DecidableEq ι] [DecidableEq S] {network : Network S} {moves : List (Move ι (Task S))}
  {pool : Pool ι (World ι S) (Op S) Op.Answer String Unit} {i : ι} {server : S}
  {descriptor : ReleaseDescriptor} {later earlier : List (Event ι S)}

/-- A share is generated for the session, the key, the parameters, the policy version, the
binding and the coalition of an earlier reservation. -/
theorem generated_as_reserved (hrun : run (exec network) (start ι S) moves = .ok pool)
    (hgenerated : pool.state.history = later ++ .generated i server descriptor :: earlier) :
    ∃ reserved ∈ earlier.filterMap (Event.reservedFor server),
      reserved.sessionID = descriptor.sessionID ∧ reserved.keyID = descriptor.keyID ∧
      reserved.parameterFingerprint = descriptor.parameterFingerprint ∧
      reserved.policyVersion = descriptor.policyVersion ∧
      reserved.protocolBinding = descriptor.protocolBinding ∧
      (Set.InjOn network.library.sha256
          {coalitionText reserved.coalition, coalitionText descriptor.coalition} →
        reserved.coalition = descriptor.coalition ∨
          reserved.coalition = (descriptor.coalition.2, descriptor.coalition.1)) := by
  have hchronicle := (run_sound_start hrun).1.chronicle
  rw [hgenerated] at hchronicle
  have hjustified {event : Event ι S} (hevent : event ∈ earlier) :=
    hchronicle.of_later.of_mem (fun hsub => Event.Justified.mono hsub) hevent
  obtain ⟨record, hmem, hstate, hmatches⟩ := hchronicle.of_split
  have hcommitted := hjustified hmem
  simp only [Event.Justified, RecordJustified, hstate] at hcommitted
  obtain ⟨haccepts, -, j, reserved, old, hold, hprepared, hfollows⟩ := hcommitted
  have hreserved := hjustified hold
  simp only [Event.Justified, RecordJustified, hprepared] at hreserved
  obtain ⟨haccepts', hmatches'⟩ := hreserved
  have hmatches' := hmatches'.mono hfollows
  obtain ⟨hkey, hfingerprint, hversion⟩ := haccepts.own
  obtain ⟨hkey', hfingerprint', hversion'⟩ := haccepts'.own
  refine ⟨reserved, List.mem_filterMap.mpr ⟨_, hold, if_pos ⟨rfl, hprepared⟩⟩,
    hmatches'.sessionID.symm.trans hmatches.sessionID, hkey'.trans hkey.symm,
    hfingerprint'.trans hfingerprint.symm, hversion'.trans hversion.symm,
    hmatches'.binding.symm.trans hmatches.binding, fun hinj => ?_⟩
  have hdigest : coalitionDigest network.library reserved.coalition =
      coalitionDigest network.library descriptor.coalition :=
    hmatches'.coalition.symm.trans hmatches.coalition
  exact coalitionText_inj (hinj (.inl rfl) (.inr rfl) hdigest)

end

/-! ## A run -/

/-- Ciphertexts of two polynomials of one byte each. -/
def sampleLibrary : NetworkLibrary where
  keccak256 bytes := BitVec.ofNat 256 bytes.length
  ed25519Verify _ _ _ := true
  recomputeCircuitV5 _ _ := .error ""
  ciphertextCommitment ciphertext := .ok (BitVec.ofNat 256
    (1 + 256 * (ciphertext.getD 0 0).toNat + (ciphertext.getD 1 0).toNat))
  protocolBindingDigest _ ciphertext := .ok (BitVec.ofNat 256 (1 + (ciphertext.getD 1 0).toNat))
  keySwitchShare _ _ _ coins := .ok (7 :: coins)
  thresholdResponseStatementDigest _ _ _ _ := 1
  sign _ _ := []
  combineReleaseBitV5 _ _ _ _ := .error ""
  sha256 bytes := BitVec.ofNat 256 (bytes.foldl (fun acc b => acc * 257 + b.toNat + 1) 0)
  unmarshalCiphertext := .ok

def sampleOperator (point : Word64) : ThresholdOperator where
  keyID := 1
  fingerprint := 1
  share := [point.toNat.toUInt8]
  signingKey := List.replicate 64 1
  identity := ⟨1, point, List.replicate 32 1⟩

def sampleNetwork : Network Bool where
  library := sampleLibrary
  servers second := ⟨sampleOperator (if second then 2 else 1), List.replicate 32 2⟩
  outside _ _ := true

def sampleDescriptor : ReleaseDescriptor where
  sessionID := 5
  keyID := 1
  parameterFingerprint := 1
  policyID := 3
  policyVersion := Coalition.policyVersion
  inputCommitmentA := 1
  inputCommitmentB := 2
  resultNonce := 1
  validUntil := 100
  resultCiphertextCommitment := 1 + 256 * 8 + 9
  protocolBinding := 10
  coalition := (1, 2)

def sampleClient (server : Bool) : OperatorClient Bool :=
  ⟨server, List.replicate 64 1, List.replicate 32 2⟩

/-- A signed request, from outside. -/
def sampleTask (operation : Operation) (descriptor : ReleaseDescriptor) (ciphertext : Bytes) :
    Task Bool :=
  match signRequest sampleLibrary (sampleClient false) operation descriptor ciphertext 0 1 with
  | .ok request => .serve (.outside false request) ⟨10, fun _ => ⟨7, true⟩, [1]⟩
  | .error _ => .openLedger false fun _ => 0

/-- A PREPARE and a COMMIT, served one after the other. -/
def sampleMoves (prepared committed : ReleaseDescriptor) (ciphertext ciphertext' : Bytes) :
    List (Move ℕ (Task Bool)) :=
  .start 0 (sampleTask operationPrepare prepared ciphertext) :: List.replicate 3 (.step 0) ++
    .start 1 (sampleTask operationCommit committed ciphertext') :: List.replicate 7 (.step 1)

/-- A restart. -/
def sampleRestart : List (Move ℕ (Task Bool)) :=
  [.start 2 (.openLedger false fun _ => 8), .step 2]

theorem sample_runs :
    ((run (exec sampleNetwork) (start ℕ Bool)
      (sampleMoves sampleDescriptor sampleDescriptor [8, 9] [8, 9] ++ sampleRestart)).toOption.bind
        fun pool => ((pool.state.ledgers false).record 10).map Record.state) =
      some .failedTerminal := by
  decide +kernel

theorem one_shot_generation_sample :
    ∃ middle pool,
      run (exec sampleNetwork) (start ℕ Bool)
        (sampleMoves sampleDescriptor sampleDescriptor [8, 9] [8, 9]) = .ok middle ∧
      run (exec sampleNetwork) middle sampleRestart = .ok pool ∧
      (((pool.state.ledgers false).record 10).map Record.state = some .failedTerminal) ∧
      OneShot sampleNetwork false pool.state ∧
      ∀ binding record, (middle.state.ledgers false).record binding = some record →
        ∃ record', (pool.state.ledgers false).record binding = some record' ∧
          record'.sessionID = record.sessionID ∧ record'.binding = record.binding ∧
          (record.state.IsTerminal → record' = record) := by
  obtain ⟨pool, hrun, hstate⟩ := Option.bind_eq_some_iff.mp sample_runs
  obtain ⟨middle, hbefore, hafter⟩ := run_append_ok_iff.mp (toOption_eq_some_iff.mp hrun)
  exact ⟨middle, pool, hbefore, hafter, hstate, one_shot_generation hbefore hafter false⟩

/-- Another descriptor of the same session, binding and coalition. -/
def sampleSubstitute : ReleaseDescriptor :=
  { sampleDescriptor with
    policyID := 4
    inputCommitmentA := 3
    inputCommitmentB := 4
    resultNonce := 2
    validUntil := 200
    resultCiphertextCommitment := 1 + 256 * 7 + 9
    coalition := (2, 1) }

/-- A share that was generated. -/
def Event.share : Event ι S → Option (ι × S × ReleaseDescriptor)
  | .generated i server descriptor => some (i, server, descriptor)
  | _ => none

theorem Event.eq_of_share {event : Event ι S} {i : ι} {server : S}
    {descriptor : ReleaseDescriptor} (h : event.share = some (i, server, descriptor)) :
    event = .generated i server descriptor := by
  cases event with
  | generated j server' descriptor' =>
      obtain ⟨rfl, rfl, rfl⟩ := Option.some.inj h
      rfl
  | wrote | answered | persisted => exact nomatch h

/-- The history of a PREPARE and a COMMIT: a share was generated after one reservation. -/
theorem sample_generated {prepared committed : ReleaseDescriptor} {ciphertext ciphertext' : Bytes}
    (h : ((run (exec sampleNetwork) (start ℕ Bool)
        (sampleMoves prepared committed ciphertext ciphertext')).toOption.any fun pool =>
      decide ((pool.state.history.drop 3).head?.bind Event.share = some (1, false, committed) ∧
        (pool.state.history.drop 4).filterMap (Event.reservedFor false) = [prepared])) = true) :
    ∃ pool later earlier, run (exec sampleNetwork) (start ℕ Bool)
        (sampleMoves prepared committed ciphertext ciphertext') = .ok pool ∧
      pool.state.history = later ++ .generated 1 false committed :: earlier ∧
      earlier.filterMap (Event.reservedFor false) = [prepared] := by
  obtain ⟨pool, hrun, htest⟩ := any_ok_iff.mp h
  obtain ⟨hshare, hreserved⟩ := of_decide_eq_true htest
  refine ⟨pool, pool.state.history.take 3, pool.state.history.drop 4, hrun, ?_, hreserved⟩
  obtain ⟨event, hhead, hshare⟩ := Option.bind_eq_some_iff.mp hshare
  obtain ⟨rest, hdrop⟩ := List.head?_eq_some_iff.mp hhead
  have hrest : rest = pool.state.history.drop 4 := by
    rw [← List.tail_drop, hdrop, List.tail_cons]
  rw [← Event.eq_of_share hshare, ← hrest, ← hdrop, List.take_append_drop]

theorem sample_substituted :
    ((run (exec sampleNetwork) (start ℕ Bool)
        (sampleMoves sampleDescriptor sampleSubstitute [8, 9] [7, 9])).toOption.any fun pool =>
      decide ((pool.state.history.drop 3).head?.bind Event.share =
          some (1, false, sampleSubstitute) ∧
        (pool.state.history.drop 4).filterMap (Event.reservedFor false) = [sampleDescriptor])) =
      true := by
  decide +kernel

theorem generated_as_reserved_sample :
    ∃ pool later earlier, run (exec sampleNetwork) (start ℕ Bool)
        (sampleMoves sampleDescriptor sampleSubstitute [8, 9] [7, 9]) = .ok pool ∧
      pool.state.history = later ++ .generated 1 false sampleSubstitute :: earlier ∧
      ∃ reserved ∈ earlier.filterMap (Event.reservedFor false),
        reserved.sessionID = sampleSubstitute.sessionID ∧
        reserved.keyID = sampleSubstitute.keyID ∧
        reserved.parameterFingerprint = sampleSubstitute.parameterFingerprint ∧
        reserved.policyVersion = sampleSubstitute.policyVersion ∧
        reserved.protocolBinding = sampleSubstitute.protocolBinding ∧
        (Set.InjOn sampleNetwork.library.sha256
            {coalitionText reserved.coalition, coalitionText sampleSubstitute.coalition} →
          reserved.coalition = sampleSubstitute.coalition ∨
            reserved.coalition =
              (sampleSubstitute.coalition.2, sampleSubstitute.coalition.1)) := by
  obtain ⟨pool, later, earlier, hrun, hgenerated, -⟩ :=
    sample_generated sample_substituted
  exact ⟨pool, later, earlier, hrun, hgenerated, generated_as_reserved hrun hgenerated⟩

/-- A share is generated under a descriptor that no PREPARE was made with: the policy, both
input commitments, the nonce, the expiry, the ciphertext commitment and the order of the
coalition are others. -/
theorem generated_not_reserved :
    ∃ pool later earlier, run (exec sampleNetwork) (start ℕ Bool)
        (sampleMoves sampleDescriptor sampleSubstitute [8, 9] [7, 9]) = .ok pool ∧
      pool.state.history = later ++ .generated 1 false sampleSubstitute :: earlier ∧
      ∀ reserved ∈ earlier.filterMap (Event.reservedFor false),
        reserved.policyID ≠ sampleSubstitute.policyID ∧
        reserved.inputCommitmentA ≠ sampleSubstitute.inputCommitmentA ∧
        reserved.inputCommitmentB ≠ sampleSubstitute.inputCommitmentB ∧
        reserved.resultNonce ≠ sampleSubstitute.resultNonce ∧
        reserved.validUntil ≠ sampleSubstitute.validUntil ∧
        reserved.resultCiphertextCommitment ≠ sampleSubstitute.resultCiphertextCommitment ∧
        reserved.coalition ≠ sampleSubstitute.coalition := by
  obtain ⟨pool, later, earlier, hrun, hgenerated, hreserved⟩ :=
    sample_generated sample_substituted
  refine ⟨pool, later, earlier, hrun, hgenerated, ?_⟩
  rw [hreserved]
  decide

end Mordant.ThresholdNet
