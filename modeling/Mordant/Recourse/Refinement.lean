/-
# The coalition adapter refines the governed one

Take a run of the coalition adapter and put a governed adapter in its place,
with the same facility, owner, token and cure window.  Every release is reissued
as a governed one: its policy conflict becomes the conflict, the evidence about
the coalition is dropped, and the governed attestor signs the result.  The
governed adapter then follows the run call by call, and after each call it holds
the same cases, the same reserves and the same tokens.

What the governed adapter could refuse and the coalition adapter does not is an
attestation it has already seen.  Two releases of a run are about different run
identifiers, so this is a collision of the hash.
-/

import Mordant.Recourse.Payout

namespace Mordant.Recourse

open Evm Foundation

/-- Two adapters for one settlement: the same contracts, parties and cure window.
The authorities, their modes and their circuits may differ. -/
structure SameSettlement (terms terms' : AdapterTerms) : Prop where
  adapter : terms'.adapter = terms.adapter
  settlementToken : terms'.settlementToken = terms.settlementToken
  cviVerifier : terms'.cviVerifier = terms.cviVerifier
  facility : terms'.facility = terms.facility
  owner : terms'.owner = terms.owner
  assetIdentityDigest : terms'.assetIdentityDigest = terms.assetIdentityDigest
  cureWindow : terms'.cureWindow = terms.cureWindow

/-- A coalition release as a governed one under other terms. The transcript takes
the place of the result ciphertext. -/
def CoalitionRelease.asGoverned (terms : AdapterTerms) (r : CoalitionRelease) :
    GovernedRelease where
  runId := r.runId
  fheCaseId := r.fheCaseId
  caseBindingDigest := r.caseBindingDigest
  assetIdentityDigest := r.assetIdentityDigest
  governedResultDigest := r.coalitionResultDigest
  resultCiphertextDigest := r.releaseTranscript
  participantArtifactDigestA := r.participantArtifactDigestA
  participantArtifactDigestB := r.participantArtifactDigestB
  holderA := r.holderA
  holderB := r.holderB
  payoutA := r.payoutA
  payoutB := r.payoutB
  conflict := r.policyConflict
  releaseAuthorityId := terms.expectedAuthorityId
  releaseMode := terms.releaseMode
  circuitHash := terms.circuitHash
  parameterFingerprint := terms.parameterFingerprint
  nonce := r.nonce
  issuedAt := r.issuedAt
  expiry := r.expiry

/-- The log the governed adapter writes where the coalition adapter writes this
one. A consumed release then carries one Boolean. -/
def Log.asGoverned : Log → Log
  | .releaseConsumed runId facts resultDigest => .releaseConsumed runId facts.tail resultDigest
  | log => log

section

variable {W : Type} (crypto : Crypto) (env : Externals W) (terms : AdapterTerms)
variable (sign : Bytes32 → Bytes)

/-- The call on the governed adapter that answers one on the coalition adapter. -/
def Call.asGoverned (world : W) : Call CoalitionRelease → Call GovernedRelease
  | .fundReserve amount => .fundReserve amount
  | .withdrawAvailable target amount => .withdrawAvailable target amount
  | .consumeRelease release _ =>
      .consumeRelease (release.asGoverned terms)
        (sign ((release.asGoverned terms).hashRelease crypto env terms world))
  | .cure runId => .cure runId
  | .finalize runId => .finalize runId
  | .claim runId holderIsA => .claim runId holderIsA

/-- The event that answers an event: the same caller, time and outside world. -/
def Event.asGoverned (c : Chain W) : Event W CoalitionRelease → Event W GovernedRelease
  | .call msg entry => .call msg (entry.asGoverned crypto env terms sign c.world)
  | .outside token world => .outside token world

/-- The releases an event consumes, as governed ones, with the world they are
consumed in. -/
def reissued (c : Chain W) : Event W CoalitionRelease → List (W × GovernedRelease)
  | .call _ (.consumeRelease release _) => [(c.world, release.asGoverned terms)]
  | _ => []

/-- What `_hashRelease` hashes then: the domain and the first hash. -/
def GovernedRelease.typedBytes (world : W) (r : GovernedRelease) : Bytes :=
  typedDataText (domainSeparator crypto env terms "MordantRecourseAdapter" world)
    (crypto.keccak256 (r.structBytes crypto))

/-- Everything hashed for the releases of a list. -/
def hashedBytes (releases : List (W × GovernedRelease)) : Set Bytes :=
  { bytes | ∃ p ∈ releases,
    bytes = p.2.structBytes crypto ∨ bytes = p.2.typedBytes crypto env terms p.1 }

end

/-- The governed adapter is in step with the coalition adapter: the same cases,
with their states, paid flags, deadlines, holders and payouts, the same reserves,
the same digests used up, the same tokens, and the same events but for the
forgotten Boolean. -/
structure InStep {W : Type} (c c' : Chain W) : Prop where
  caseByRun : c'.adapter.caseByRun = c.adapter.caseByRun
  availableReserve : c'.adapter.availableReserve = c.adapter.availableReserve
  openReserved : c'.adapter.openReserved = c.adapter.openReserved
  entitledUnpaid : c'.adapter.entitledUnpaid = c.adapter.entitledUnpaid
  resultConsumed : c'.adapter.resultConsumed = c.adapter.resultConsumed
  logs : c'.adapter.logs = c.adapter.logs.map Log.asGoverned
  token : c'.token = c.token
  world : c'.world = c.world

/-- The governed chain in step with a coalition chain, with these attestations
used up. -/
def Chain.asGoverned {W : Type} (marks : Bytes32 → Bool) (c : Chain W) : Chain W :=
  { c with adapter := { c.adapter with
      attestationConsumed := marks
      logs := c.adapter.logs.map Log.asGoverned } }

theorem Chain.asGoverned_inStep {W : Type} (marks : Bytes32 → Bool) (c : Chain W) :
    InStep c (c.asGoverned marks) where
  caseByRun := rfl
  availableReserve := rfl
  openReserved := rfl
  entitledUnpaid := rfl
  resultConsumed := rfl
  logs := rfl
  token := rfl
  world := rfl

section

/-! ## The functions both adapters share

None of them reads the attestations or the logs, so each does the same in step. -/

variable {W : Type} {env : Externals W} {terms terms' : AdapterTerms} {c : Chain W} {msg : Msg}
variable {marks : Bytes32 → Bool}

theorem fundReserve_asGoverned (hsame : SameSettlement terms terms') (amount : ℕ) :
    fundReserve env terms' (c.asGoverned marks) msg amount =
      Chain.asGoverned marks <$> fundReserve env terms c msg amount := by
  simp only [fundReserve, settle, map_bind, map_pure, bind_assoc, pure_bind, hsame.adapter]
  rfl

theorem withdrawAvailable_asGoverned (hsame : SameSettlement terms terms') (target : Address)
    (amount : ℕ) :
    withdrawAvailable env terms' (c.asGoverned marks) msg target amount =
      Chain.asGoverned marks <$> withdrawAvailable env terms c msg target amount := by
  simp only [withdrawAvailable, settle, map_bind, map_pure, bind_assoc, pure_bind, hsame.adapter,
    hsame.owner]
  rfl

theorem cure_asGoverned (hsame : SameSettlement terms terms') (runId : Bytes32) :
    cure env terms' (c.asGoverned marks) msg runId =
      Chain.asGoverned marks <$> cure env terms c msg runId := by
  simp only [cure, map_bind, map_pure, hsame.facility]
  rfl

theorem finalize_asGoverned (runId : Bytes32) :
    finalize (c.asGoverned marks) msg runId =
      Chain.asGoverned marks <$> finalize c msg runId := by
  simp only [finalize, map_bind, map_pure]
  rfl

theorem claimThrough_asGoverned (hsame : SameSettlement terms terms')
    (gate : Address → ℕ → Except AdapterError Unit) (runId : Bytes32) (holderIsA : Bool) :
    claimThrough env terms' (c.asGoverned marks) gate runId holderIsA =
      Chain.asGoverned marks <$> claimThrough env terms c gate runId holderIsA := by
  simp only [claimThrough, settle, map_bind, map_pure, bind_assoc, pure_bind, hsame.adapter]
  rfl

/-- A record is the same but for the attestation it marks and the Boolean it logs. -/
theorem recordRelease_asGoverned (hsame : SameSettlement terms terms') (r : AcceptedRelease)
    (digest : Bytes32) :
    recordRelease terms' (c.asGoverned marks) msg
        { r with attestationDigest := digest, facts := r.facts.tail } =
      Chain.asGoverned (Function.update marks digest true) <$> recordRelease terms c msg r := by
  unfold recordRelease
  split
  · simp only [openCase, map_bind, map_pure, hsame.cureWindow]
    rfl
  · simp only [refuseCase, map_bind, map_pure]
    rfl

end

section

/-! ## The two functions that differ -/

variable {W : Type} {crypto : Crypto} {env : Externals W} {terms : CoalitionTerms}
variable {terms' : AdapterTerms} {c d : Chain W} {msg : Msg} {marks : Bytes32 → Bool}

/-- The governed checks are those of the coalition without its evidence. -/
theorem checkFields_asGoverned (hsame : SameSettlement terms.toAdapterTerms terms')
    {r : CoalitionRelease} {u : Unit} (h : r.checkFields terms c msg = .ok u) :
    (r.asGoverned terms').checkFields terms' (c.asGoverned marks) msg = .ok () := by
  simp only [CoalitionRelease.checkFields, revertIf_bind_ok_iff, revertIf_ok_iff] at h
  obtain ⟨hnew, hresult, hasset, -, -, -, -, -, hexpiry, hissued, hzero⟩ := h
  simp only [GovernedRelease.checkFields, revertIf_bind_ok_iff, revertIf_ok_iff]
  refine ⟨hnew, hresult, ?_, not_not.mpr rfl, not_not.mpr rfl, ?_, hexpiry, hissued, ?_⟩
  · rw [hsame.assetIdentityDigest]
    exact hasset
  · rintro (hcircuit | hparameters)
    · exact hcircuit rfl
    · exact hparameters rfl
  · rintro (hrun | hdigest)
    · exact hzero (.inl hrun)
    · exact hzero (.inr (.inl hdigest))

/-- A release one adapter consumes is consumed by the other, reissued and signed,
as long as its attestation is new there. -/
theorem consume_asGoverned (hsame : SameSettlement terms.toAdapterTerms terms')
    {r : CoalitionRelease} {signature signature' : Bytes}
    (hfresh : marks ((r.asGoverned terms').hashRelease crypto env terms' c.world) = false)
    (hsigned : crypto.ecdsaRecover ((r.asGoverned terms').hashRelease crypto env terms' c.world)
      signature' = some terms'.attestor)
    (h : consumeCoalitionRelease crypto env terms c msg r signature = .ok d) :
    consumeGovernedRelease crypto env terms' (c.asGoverned marks) msg (r.asGoverned terms')
        signature' =
      .ok (d.asGoverned (Function.update marks
        ((r.asGoverned terms').hashRelease crypto env terms' c.world) true)) := by
  obtain ⟨_, hfields, hrest⟩ := bind_ok_iff.mp h
  obtain ⟨_, -, hrecord⟩ := bind_ok_iff.mp hrest
  have hattested : requireAttested crypto terms' (c.asGoverned marks)
      ((r.asGoverned terms').hashRelease crypto env terms' c.world) signature' = .ok () := by
    simp only [requireAttested, bind_ok_iff, require_ok_iff, revertIf_ok_iff]
    refine ⟨(), ?_, terms'.attestor, hsigned, not_not.mpr rfl⟩
    change ¬ marks _ = true
    rw [hfresh]
    exact Bool.false_ne_true
  refine bind_ok_iff.mpr ⟨(), checkFields_asGoverned hsame hfields,
    bind_ok_iff.mpr ⟨(), hattested, ?_⟩⟩
  apply (recordRelease_asGoverned hsame
    (r.accepted (r.hashRelease crypto env terms.toAdapterTerms c.world)) _).trans
  rw [hrecord]
  rfl

/-- A claim that passes the asset's policy is a claim without it. -/
theorem claim_asGoverned (hsame : SameSettlement terms.toAdapterTerms terms') {runId : Bytes32}
    {holderIsA : Bool} (h : coalitionClaim env terms.toAdapterTerms c runId holderIsA = .ok d) :
    governedClaim env terms' (c.asGoverned marks) runId holderIsA = .ok (d.asGoverned marks) := by
  have hungated : governedClaim env terms.toAdapterTerms c runId holderIsA = .ok d := by
    simp only [coalitionClaim, governedClaim, claimThrough, bind_ok_iff] at h ⊢
    obtain ⟨_, hentitled, _, hunpaid, _, hpos, _, heligible, _, -, hrest⟩ := h
    exact ⟨_, hentitled, _, hunpaid, _, hpos, _, heligible, (), rfl, hrest⟩
  apply (claimThrough_asGoverned hsame (fun _ _ => pure ()) runId holderIsA).trans
  change _ <$> governedClaim env terms.toAdapterTerms c runId holderIsA = _
  rw [hungated]
  rfl

end

section

variable {W : Type} {crypto : Crypto} {env : Externals W} {terms : AdapterTerms}

/-- Two releases with one attestation are about one run identifier, unless the
hash collides on what was hashed for them. -/
theorem hashRelease_runId {releases : List (W × GovernedRelease)}
    (hcollision : Set.InjOn crypto.keccak256 (hashedBytes crypto env terms releases))
    {p q : W × GovernedRelease} (hp : p ∈ releases) (hq : q ∈ releases)
    (hdigest : p.2.hashRelease crypto env terms p.1 = q.2.hashRelease crypto env terms q.1) :
    p.2.runId = q.2.runId := by
  have htyped : p.2.typedBytes crypto env terms p.1 = q.2.typedBytes crypto env terms q.1 :=
    hcollision ⟨p, hp, .inr rfl⟩ ⟨q, hq, .inr rfl⟩ hdigest
  have hstruct := hcollision ⟨p, hp, .inl rfl⟩ ⟨q, hq, .inl rfl⟩ (Crypto.typedData_inj htyped).2
  simp only [GovernedRelease.structBytes, abiEncode_cons, List.append_assoc] at hstruct
  exact (wordBytes_append_inj (wordBytes_append_inj hstruct).2).1

end

section

variable {W : Type} {crypto : Crypto} {env : Externals W} {terms : CoalitionTerms}
variable {terms' : AdapterTerms} {sign : Bytes32 → Bytes} {c c' d : Chain W} {msg : Msg}
  {releases : List (W × GovernedRelease)} {caseByRun : Bytes32 → Case} {marks : Bytes32 → Bool}

/-- Each attestation marked is that of a release of the list whose case has begun. -/
def UsedUp (crypto : Crypto) (env : Externals W) (terms' : AdapterTerms)
    (releases : List (W × GovernedRelease)) (caseByRun : Bytes32 → Case)
    (marks : Bytes32 → Bool) : Prop :=
  ∀ digest, marks digest = true → ∃ p ∈ releases,
    p.2.hashRelease crypto env terms' p.1 = digest ∧ (caseByRun p.2.runId).state ≠ .none

/-- A release whose case has not begun has an attestation not yet used up. -/
theorem UsedUp.fresh (h : UsedUp crypto env terms' releases caseByRun marks)
    {r : W × GovernedRelease} (hcollision : Set.InjOn crypto.keccak256
      (hashedBytes crypto env terms' (releases ++ [r])))
    (hnew : (caseByRun r.2.runId).state = .none) :
    marks (r.2.hashRelease crypto env terms' r.1) = false := by
  by_contra hmark
  obtain ⟨p, hmem, hdigest, hstate⟩ := h _ (Bool.not_eq_false _ ▸ hmark)
  have hrun := hashRelease_runId hcollision (List.mem_append_left _ hmem)
    (List.mem_append_right _ List.mem_cons_self) hdigest
  rw [hrun] at hstate
  exact hstate hnew

/-- Cases that have begun stay so, and more releases do no harm. -/
theorem UsedUp.advance {caseByRun' : Bytes32 → Case}
    (h : UsedUp crypto env terms' releases caseByRun marks) (more : List (W × GovernedRelease))
    (hbegun : ∀ runId, (caseByRun runId).state ≠ .none →
      (caseByRun' runId).state ≠ .none) :
    UsedUp crypto env terms' (releases ++ more) caseByRun' marks := by
  intro digest hmark
  obtain ⟨p, hmem, hdigest, hstate⟩ := h digest hmark
  exact ⟨p, List.mem_append_left _ hmem, hdigest, hbegun _ hstate⟩

/-- The attestation of a release whose case has begun may be marked. -/
theorem UsedUp.mark (h : UsedUp crypto env terms' releases caseByRun marks)
    {r : W × GovernedRelease} (hmem : r ∈ releases) (hbegun : (caseByRun r.2.runId).state ≠ .none) :
    UsedUp crypto env terms' releases caseByRun
      (Function.update marks (r.2.hashRelease crypto env terms' r.1) true) := by
  intro digest hmark
  by_cases hdigest : digest = r.2.hashRelease crypto env terms' r.1
  · exact ⟨r, hmem, hdigest.symm, hbegun⟩
  · rw [Function.update_of_ne hdigest] at hmark
    exact h digest hmark

/-- The governed chain is in step, and the attestations it has used up are those of
the releases reissued so far. -/
def Follows (crypto : Crypto) (env : Externals W) (terms' : AdapterTerms)
    (releases : List (W × GovernedRelease)) (c c' : Chain W) : Prop :=
  ∃ marks, c' = c.asGoverned marks ∧ UsedUp crypto env terms' releases c.adapter.caseByRun marks

theorem Follows.inStep (h : Follows crypto env terms' releases c c') : InStep c c' := by
  obtain ⟨marks, rfl, -⟩ := h
  exact c.asGoverned_inStep marks

/-- The calls that both adapters answer alike, once the marks are set aside. -/
theorem perform_asGoverned (hsame : SameSettlement terms.toAdapterTerms terms')
    (marks : Bytes32 → Bool) {call : Call CoalitionRelease}
    (hother : ∀ release signature, call ≠ .consumeRelease release signature)
    (h : call.perform env terms.toAdapterTerms (coalition crypto env terms) c msg = .ok d) :
    (call.asGoverned crypto env terms' sign c.world).perform env terms'
      (governed crypto env terms') (c.asGoverned marks) msg = .ok (d.asGoverned marks) := by
  cases call with
  | fundReserve amount =>
      change fundReserve env terms.toAdapterTerms c msg amount.toNat = .ok d at h
      apply (fundReserve_asGoverned hsame amount.toNat).trans
      rw [h]
      rfl
  | withdrawAvailable target amount =>
      change withdrawAvailable env terms.toAdapterTerms c msg target amount.toNat = .ok d at h
      apply (withdrawAvailable_asGoverned hsame target amount.toNat).trans
      rw [h]
      rfl
  | consumeRelease release signature => exact absurd rfl (hother release signature)
  | cure runId =>
      change cure env terms.toAdapterTerms c msg runId = .ok d at h
      apply (cure_asGoverned hsame runId).trans
      rw [h]
      rfl
  | finalize runId =>
      change finalize c msg runId = .ok d at h
      apply (finalize_asGoverned runId).trans
      rw [h]
      rfl
  | claim runId holderIsA =>
      change coalitionClaim env terms.toAdapterTerms c runId holderIsA = .ok d at h
      exact claim_asGoverned hsame h

/-- **One event.** What the coalition adapter does, the governed one does in step. -/
theorem exec_asGoverned (hsame : SameSettlement terms.toAdapterTerms terms')
    (hsign : ∀ digest, crypto.ecdsaRecover digest (sign digest) = some terms'.attestor)
    {event : Event W CoalitionRelease} (hcollision : Set.InjOn crypto.keccak256
      (hashedBytes crypto env terms' (releases ++ reissued terms' c event)))
    (hfollows : Follows crypto env terms' releases c c')
    (hexec : exec env terms.toAdapterTerms (coalition crypto env terms) c event = .ok d) :
    ∃ d', exec env terms' (governed crypto env terms') c'
        (event.asGoverned crypto env terms' sign c) = .ok d' ∧
      Follows crypto env terms' (releases ++ reissued terms' c event) d d' := by
  obtain ⟨marks, rfl, hmarks⟩ := hfollows
  have hstep := (exec_filed (coalition_files terms) hexec).1
  have hkept : UsedUp crypto env terms' (releases ++ reissued terms' c event)
      d.adapter.caseByRun marks :=
    hmarks.advance _ fun runId => (hstep.next runId).keeps.left
  cases event with
  | outside token world =>
      simp only [exec, revertIf_bind_ok_iff, pure_ok_iff] at hexec
      obtain ⟨hbalance, rfl⟩ := hexec
      refine ⟨_, ?_, marks, rfl, hkept⟩
      simp only [Event.asGoverned, exec, revertIf_bind_ok_iff, pure_ok_iff, hsame.adapter]
      exact ⟨hbalance, rfl⟩
  | call msg call =>
      simp only [exec, revertIf_bind_ok_iff] at hexec
      obtain ⟨hself, hcall⟩ := hexec
      have hself' : ¬ msg.sender = terms'.adapter := by
        rw [hsame.adapter]
        exact hself
      by_cases hother : ∀ release signature, call ≠ .consumeRelease release signature
      · refine ⟨d.asGoverned marks, ?_, marks, rfl, hkept⟩
        simp only [Event.asGoverned, exec, revertIf_bind_ok_iff]
        exact ⟨hself', perform_asGoverned hsame marks hother hcall⟩
      · simp only [not_forall, not_not] at hother
        obtain ⟨release, signature, rfl⟩ := hother
        obtain ⟨r, hone, hnew, -, -, hmarked⟩ :=
          hstep.consumes.resolve_left (by rintro ⟨⟩)
        obtain rfl := List.singleton_inj.mp hone
        have hfresh := hmarks.fresh hcollision hnew
        have hused := hkept.mark (r := (c.world, release.asGoverned terms'))
          (List.mem_append_right _ List.mem_cons_self) (hmarked _ List.mem_cons_self).1
        refine ⟨_, ?_, _, rfl, hused⟩
        simp only [Event.asGoverned, exec, revertIf_bind_ok_iff]
        exact ⟨hself', consume_asGoverned hsame hfresh (hsign _) hcall⟩

/-- The releases of a run, reissued, with the world each is consumed in. -/
def releasesOf (crypto : Crypto) (env : Externals W) (terms : CoalitionTerms)
    (terms' : AdapterTerms) (start : Chain W) (events : List (Event W CoalitionRelease)) :
    List (W × GovernedRelease) :=
  trace (exec env terms.toAdapterTerms (coalition crypto env terms)) (reissued terms') start events

/-- The events on the governed adapter that answer a run of the coalition adapter. -/
def asGovernedRun (crypto : Crypto) (env : Externals W) (terms : CoalitionTerms)
    (terms' : AdapterTerms) (sign : Bytes32 → Bytes) (start : Chain W)
    (events : List (Event W CoalitionRelease)) : List (Event W GovernedRelease) :=
  mirrored (exec env terms.toAdapterTerms (coalition crypto env terms))
    (fun c event => event.asGoverned crypto env terms' sign c) start events

end

/-- **The coalition adapter refines the governed one.** Every run of the first is
answered call by call by a run of the second, with the same callers, amounts,
payouts and block times; after each call the two are in step. -/
theorem coalition_refines {W : Type} (crypto : Crypto) (env : Externals W)
    (terms : CoalitionTerms) (terms' : AdapterTerms) (sign : Bytes32 → Bytes)
    (token : Ledger Address 256) (world : W) (events : List (Event W CoalitionRelease))
    (c : Chain W) (hsame : SameSettlement terms.toAdapterTerms terms')
    (hsign : ∀ digest, crypto.ecdsaRecover digest (sign digest) = some terms'.attestor)
    (hcollision : Set.InjOn crypto.keccak256 (hashedBytes crypto env terms'
      (releasesOf crypto env terms terms' (deployed token world) events)))
    (hrun : run (exec env terms.toAdapterTerms (coalition crypto env terms))
      (deployed token world) events = .ok c) (n : ℕ) :
    ∃ c₁ c₁', run (exec env terms.toAdapterTerms (coalition crypto env terms))
        (deployed token world) (events.take n) = .ok c₁ ∧
      run (exec env terms' (governed crypto env terms')) (deployed token world)
        ((asGovernedRun crypto env terms terms' sign (deployed token world) events).take n) =
          .ok c₁' ∧
      InStep c₁ c₁' := by
  have hstart : Follows crypto env terms' [] (deployed token world) (deployed token world) :=
    ⟨fun _ => false, rfl, fun _ hmark => absurd hmark Bool.false_ne_true⟩
  refine (run_simulates (R := fun before => Follows crypto env terms'
    (releasesOf crypto env terms terms' (deployed token world) before)) hstart ?_ hrun n).imp
    fun c₁ h => h.imp fun c₁' h => ⟨h.1, h.2.1, h.2.2.inStep⟩
  intro before event after c₁ c₂ c₁' hsplit hbefore hfollows hexec
  have hsoFar : releasesOf crypto env terms terms' (deployed token world) (before ++ [event]) =
      releasesOf crypto env terms terms' (deployed token world) before ++
        reissued terms' c₁ event := trace_snoc hbefore hexec
  rw [hsoFar]
  apply exec_asGoverned hsame hsign ?_ hfollows hexec
  -- these releases are among those of the whole run
  apply hcollision.mono
  rintro bytes ⟨p, hmem, hbytes⟩
  refine ⟨p, ?_, hbytes⟩
  rw [hsplit, ← List.singleton_append, ← List.append_assoc, releasesOf,
    trace_append after (run_snoc_ok_iff.mpr ⟨c₁, hbefore, hexec⟩)]
  apply List.mem_append_left
  change p ∈ releasesOf crypto env terms terms' (deployed token world) (before ++ [event])
  rw [hsoFar]
  exact hmem

namespace Sample

/-- A governed adapter for the settlement of the sample coalition, under an
authority and a circuit of its own. -/
def counterpart : AdapterTerms :=
  { terms with expectedAuthorityId := 12, releaseMode := 13, circuitHash := 14 }

def sign (_ : Bytes32) : Bytes := List.replicate 65 0

theorem sign_accepted (digest : Bytes32) :
    crypto.ecdsaRecover digest (sign digest) = some counterpart.attestor := by
  have hparts : Crypto.signatureParts (List.replicate 65 0) = (0, 0, 0) := by decide +kernel
  simp only [Crypto.ecdsaRecover, sign, hparts]
  rfl

/-- The sample run hashes two texts, of different lengths. -/
theorem counterpart_collision : Set.InjOn crypto.keccak256 (hashedBytes crypto env counterpart
    (releasesOf crypto env coalitionTerms counterpart (deployed token ())
      (events coalitionRelease))) := by
  have hreissued : ∀ p ∈ releasesOf crypto env coalitionTerms counterpart (deployed token ())
      (events coalitionRelease), p = ((), coalitionRelease.asGoverned counterpart) := by
    intro p hmem
    obtain ⟨event, hevent, c, hp⟩ := mem_trace hmem
    simp only [events, List.mem_cons, List.not_mem_nil, or_false] at hevent
    rcases hevent with rfl | rfl | rfl | rfl | rfl
    · exact nomatch hp
    · exact List.mem_singleton.mp hp
    · exact nomatch hp
    · exact nomatch hp
    · exact nomatch hp
  have hdiffer : crypto.keccak256 ((coalitionRelease.asGoverned counterpart).structBytes crypto) ≠
      crypto.keccak256 ((coalitionRelease.asGoverned counterpart).typedBytes crypto env
        counterpart ()) := by
    decide +kernel
  rintro bytes ⟨p, hp, hbytes⟩ bytes' ⟨q, hq, hbytes'⟩ hhash
  obtain rfl := hreissued p hp
  obtain rfl := hreissued q hq
  rcases hbytes with rfl | rfl
  · rcases hbytes' with rfl | rfl
    · rfl
    · exact absurd hhash hdiffer
  · rcases hbytes' with rfl | rfl
    · exact absurd hhash.symm hdiffer
    · rfl

end Sample

/-- The sample run of the coalition adapter, followed by the governed one. -/
theorem coalition_refines_sample :
    ∃ c₁ c₁', run (exec Sample.env Sample.coalitionTerms.toAdapterTerms
        (coalition Sample.crypto Sample.env Sample.coalitionTerms)) (deployed Sample.token ())
          ((Sample.events Sample.coalitionRelease).take 5) = .ok c₁ ∧
      run (exec Sample.env Sample.counterpart
        (governed Sample.crypto Sample.env Sample.counterpart)) (deployed Sample.token ())
          ((asGovernedRun Sample.crypto Sample.env Sample.coalitionTerms Sample.counterpart
            Sample.sign (deployed Sample.token ())
              (Sample.events Sample.coalitionRelease)).take 5) = .ok c₁' ∧
      InStep c₁ c₁' := by
  obtain ⟨c, -, ⟨⟩, hrun⟩ := Sample.coalition_reaches
  exact coalition_refines Sample.crypto Sample.env Sample.coalitionTerms Sample.counterpart
    Sample.sign Sample.token () _ c ⟨rfl, rfl, rfl, rfl, rfl, rfl, rfl⟩ Sample.sign_accepted
    Sample.counterpart_collision hrun 5

end Mordant.Recourse
