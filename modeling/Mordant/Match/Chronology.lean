/-
# Before, and by both

Four contracts each see one part of a bind: the governance registry its records
and the session, the source registry its commitments, the verifier the block of
acceptance, the binder the consents and the anchor.  Put together with what the
registries remember, every open recourse stands at the end of one order of
blocks: records and sources, then the session, then the bind.
-/

import Mordant.Match.Opening
import Mordant.Match.Registers

namespace Mordant.Match

open Evm Foundation

/-! ## What each contract checked -/

section

variable {crypto : Crypto} {self : Address} {g g' : GovernanceState} {tx : Tx}
  {intent : SessionIntent} {salt : Bytes32} {signatures : InitiationSignatures}
  {session : ResolvedSession}

/-- A recorded authorization that was in force in block `commitBlock` and has not
been hard-revoked since. -/
structure ScopeAuthorization.Eligible (stored : ScopeAuthorization) (commitBlock : ℕ) : Prop where
  isRecorded : stored.isRecorded = true
  validFrom : stored.validFromBlock < commitBlock
  notRetired : stored.retiredAtBlock = 0 ∨ commitBlock < stored.retiredAtBlock
  notHardRevoked : stored.hardRevokedAtBlock = 0

/-- Two authorizations that share no scope, no organisation and no controller. -/
structure ScopeAuthorization.Apart (a b : ScopeAuthorization) : Prop where
  scopeCommitment : a.scopeCommitment ≠ b.scopeCommitment
  organizationId : a.organizationId ≠ b.organizationId
  controller : a.controller ≠ b.controller

theorem Governance.requireRecord_ok {recordDigest : Bytes32} {stored : ScopeAuthorization}
    (h : Governance.requireRecord g recordDigest = .ok stored) :
    stored = g.records recordDigest ∧ stored.isRecorded = true := by
  simp only [Governance.requireRecord, revertIf_bind_ok_iff, pure_ok_iff,
    Bool.not_eq_false] at h
  obtain ⟨hrecorded, rfl⟩ := h
  exact ⟨rfl, hrecorded⟩

/-- Strict on both sides. -/
theorem Governance.isLiveForCommitmentInBlock_iff {stored : ScopeAuthorization}
    {commitBlock : ℕ} :
    Governance.isLiveForCommitmentInBlock stored commitBlock = true ↔
      stored.validFromBlock < commitBlock ∧
        (stored.retiredAtBlock = 0 ∨ commitBlock < stored.retiredAtBlock) := by
  unfold Governance.isLiveForCommitmentInBlock
  split
  case isTrue hlate =>
      simp only [Bool.false_eq_true, false_iff]
      omega
  case isFalse hearly =>
      split
      case isTrue hretired =>
          simp only [Bool.false_eq_true, false_iff]
          omega
      case isFalse hactive =>
          simp only [true_iff]
          omega

/-- Both records of an intent were in force and belong to different parties. -/
theorem Governance.checkedControllers_ok {commitBlock : ℕ} {controllers : Address × Address}
    (h : Governance.checkedControllers g intent commitBlock = .ok controllers) :
    (g.records intent.governanceRecordA).Eligible commitBlock ∧
      (g.records intent.governanceRecordB).Eligible commitBlock ∧
      (g.records intent.governanceRecordA).Apart (g.records intent.governanceRecordB) ∧
      controllers = ((g.records intent.governanceRecordA).controller,
        (g.records intent.governanceRecordB).controller) := by
  simp only [Governance.checkedControllers, bind_ok_iff, revertIf_ok_iff, pure_ok_iff, not_not,
    Bool.not_eq_false] at h
  obtain ⟨a, hrecordA, b, hrecordB, -, hscope, -, horganization, -, hcontroller, -, -, -, -,
    -, hrevokedA, -, hrevokedB, -, hliveA, -, hliveB, hpair⟩ := h
  obtain ⟨rfl, hisRecordedA⟩ := Governance.requireRecord_ok hrecordA
  obtain ⟨rfl, hisRecordedB⟩ := Governance.requireRecord_ok hrecordB
  obtain ⟨hvalidA, hretiredA⟩ := Governance.isLiveForCommitmentInBlock_iff.mp hliveA
  obtain ⟨hvalidB, hretiredB⟩ := Governance.isLiveForCommitmentInBlock_iff.mp hliveB
  exact ⟨⟨hisRecordedA, hvalidA, hretiredA, hrevokedA⟩,
    ⟨hisRecordedB, hvalidB, hretiredB, hrevokedB⟩, ⟨hscope, horganization, hcontroller⟩,
    hpair.symm⟩

/-- What an opened session establishes about its two parties. -/
structure Governance.SessionOpened (crypto : Crypto) (registry : Address) (g : GovernanceState)
    (tx : Tx) (intent : SessionIntent) (signatures : InitiationSignatures)
    (session : ResolvedSession) : Prop where
  committed : (g.commitments session.sessionCommitment).isCommitted = true
  committedInBlock :
    session.committedInBlock = (g.commitments session.sessionCommitment).committedInBlock
  recordA : session.governanceRecordA = intent.governanceRecordA
  recordB : session.governanceRecordB = intent.governanceRecordB
  eligibleA : (g.records intent.governanceRecordA).Eligible session.committedInBlock
  eligibleB : (g.records intent.governanceRecordB).Eligible session.committedInBlock
  apart : (g.records intent.governanceRecordA).Apart (g.records intent.governanceRecordB)
  controllerA : session.controllerA = (g.records intent.governanceRecordA).controller
  controllerB : session.controllerB = (g.records intent.governanceRecordB).controller
  signedA : crypto.recoverStrict (Governance.intentDigest crypto registry tx intent)
    signatures.controllerA = some session.controllerA
  signedB : crypto.recoverStrict (Governance.intentDigest crypto registry tx intent)
    signatures.controllerB = some session.controllerB
  relayerA : (g.commitments session.sessionCommitment).submitter ≠ session.controllerA
  relayerB : (g.commitments session.sessionCommitment).submitter ≠ session.controllerB

theorem Governance.resolveSession_opened
    (h : Governance.resolveSession crypto self g tx intent salt signatures = .ok (session, g')) :
    Governance.SessionOpened crypto self g tx intent signatures session := by
  simp only [Governance.resolveSession, bind_ok_iff, revertIf_ok_iff, pure_ok_iff, Prod.mk.injEq,
    Bool.not_eq_false, not_or] at h
  obtain ⟨-, -, -, -, -, -, -, -, -, hcommitted, -, -, -, -, ⟨controllerA, controllerB⟩,
    hcontrollers, -, ⟨hrelayerA, hrelayerB⟩, issuerSigner, hsigner, rfl, -⟩ := h
  obtain ⟨heligibleA, heligibleB, hapart, hpair⟩ := Governance.checkedControllers_ok hcontrollers
  obtain ⟨rfl, rfl⟩ := Prod.mk.inj hpair
  simp only [Governance.initiationSigner, Governance.recover, bind_ok_iff, require_ok_iff,
    revertIf_ok_iff, not_not] at hsigner
  obtain ⟨_, hsignedA, -, rfl, _, hsignedB, -, rfl, -⟩ := hsigner
  exact ⟨hcommitted, rfl, rfl, rfl, heligibleA, heligibleB, hapart, rfl, rfl, hsignedA, hsignedB,
    hrelayerA, hrelayerB⟩

/-- Acceptance returns the commitment of the envelope. -/
theorem Verifier.acceptMatch_commitment {v : VerifierState} {envelope : MatchEnvelope}
    {attestation : Bytes} {commitment : Bytes32} {v' : VerifierState}
    (h : Verifier.acceptMatch crypto self v g tx envelope attestation = .ok (commitment, v')) :
    envelope.resultCommitment = commitment := by
  simp only [Verifier.acceptMatch, bind_ok_iff, pure_ok_iff, Prod.mk.injEq] at h
  obtain ⟨-, -, -, -, -, -, -, -, hcommitment, -⟩ := h
  exact hcommitment

/-- An accepted result names a session of an earlier block. -/
theorem Verifier.acceptMatch_admitted {v : VerifierState} {envelope : MatchEnvelope}
    {attestation : Bytes} {result : Bytes32 × VerifierState}
    (h : Verifier.acceptMatch crypto self v g tx envelope attestation = .ok result) :
    (g.commitments envelope.core.session.sessionCommitment).committedInBlock < tx.blockNumber := by
  simp only [Verifier.acceptMatch, Verifier.checkResult, bind_ok_iff] at h
  obtain ⟨_, ⟨-, -, -, -, -, -, -, -, -, -, -, -, -, -, hadmitted⟩, -⟩ := h
  simp only [Verifier.assertSessionAdmitted, bind_ok_iff, revertIf_ok_iff, not_le] at hadmitted
  obtain ⟨-, -, -, hblock, -⟩ := hadmitted
  exact hblock

end

namespace Binder

variable {crypto : Crypto} {W : Type} {env : Externals W} {d : Deployment} {s s' : System W}
  {tx : Tx} {r : BindRequest}

/-- The factory admitted this very anchor, under the anchor's own attestation,
and its receivable is outstanding, protected and held by somebody. -/
structure AnchorLive (env : Externals W) (world : W) (anchor : Address) : Prop where
  resolves : ∃ digest, env.sourceAttestationDigest world anchor = some digest ∧ digest ≠ 0 ∧
    env.vaultForAttestation world digest = some anchor
  outstanding : env.receivableState world anchor = some receivableOutstanding
  protectedNow : env.protectionState world anchor = some protectionActive
  supply : ∃ supply, env.totalSupply world anchor = some supply ∧ supply ≠ 0

theorem assertAnchorGenuine_live {world : W} {anchor : Address} {revealed : RevealedSource}
    {u : Unit} (h : assertAnchorGenuine env world anchor revealed = .ok u) :
    AnchorLive env world anchor := by
  simp only [assertAnchorGenuine, bind_ok_iff] at h
  obtain ⟨_, hprovenance, -, -, _, hlive, -⟩ := h
  simp only [assertProvenance, getter, bind_ok_iff, revertIf_ok_iff, require_ok_iff, not_not]
    at hprovenance
  obtain ⟨-, -, digest, hdigest, -, hnonzero, admitted, hadmitted, rfl⟩ := hprovenance
  simp only [assertLive, getter, bind_ok_iff, revertIf_ok_iff, require_ok_iff, not_not] at hlive
  obtain ⟨_, hreceivable, -, rfl, _, hprotection, -, rfl, supply, hsupply, hpositive⟩ := hlive
  exact ⟨⟨digest, hdigest, hnonzero, hadmitted⟩, hreceivable, hprotection,
    ⟨supply, hsupply, hpositive⟩⟩

/-- A consent made under `record` and signed by `controller`. -/
theorem requireConsent_ok {b b' : BinderState} {core : ResultCore}
    {commitment scope record source : Bytes32} {anchor controller : Address}
    {consent : DisclosureConsent}
    (h : requireConsent crypto d b tx core commitment anchor scope record source controller consent
      = .ok b') :
    consent.governanceRecord = record ∧
      crypto.recoverStrict (consentDigest crypto d tx core.session.sessionCommitment
        core.session.sessionNullifier commitment source anchor consent) consent.signature =
        some controller := by
  simp only [requireConsent, bind_ok_iff, revertIf_ok_iff, require_ok_iff, not_not] at h
  obtain ⟨-, -, -, hrecord, -, -, -, -, -, -, _, hrecovered, -, rfl, -⟩ := h
  exact ⟨hrecord, hrecovered⟩

/-- What a committed bind checked, contract by contract. -/
structure Checked (crypto : Crypto) (env : Externals W) (d : Deployment) (s : System W) (tx : Tx)
    (r : BindRequest) (session : ResolvedSession) (anchored counterparty : ℕ) : Prop where
  key : session.sessionCommitment = r.envelope.core.session.sessionCommitment
  admitted : (s.governance.commitments
    r.envelope.core.session.sessionCommitment).committedInBlock < tx.blockNumber
  opened : Governance.SessionOpened crypto d.governance s.governance (calling d tx)
    r.reveal.intent r.reveal.signatures session
  sourceA : (s.sources.commitments r.envelope.core.session.sourceRecordCommitmentA).stamp =
    (true, anchored)
  sourceB : (s.sources.commitments r.envelope.core.session.sourceRecordCommitmentB).stamp =
    (true, counterparty)
  beforeA : anchored < session.committedInBlock
  beforeB : counterparty < session.committedInBlock
  anchor : AnchorLive env s.world r.anchor
  recordA : r.consentA.governanceRecord = session.governanceRecordA
  recordB : r.consentB.governanceRecord = session.governanceRecordB
  consentA : crypto.recoverStrict (consentDigest crypto d tx
    r.envelope.core.session.sessionCommitment r.envelope.core.session.sessionNullifier
    r.envelope.resultCommitment r.envelope.core.session.sourceRecordCommitmentA r.anchor
    r.consentA) r.consentA.signature = some session.controllerA
  consentB : crypto.recoverStrict (consentDigest crypto d tx
    r.envelope.core.session.sessionCommitment r.envelope.core.session.sessionNullifier
    r.envelope.resultCommitment r.envelope.core.session.sourceRecordCommitmentB r.anchor
    r.consentB) r.consentB.signature = some session.controllerB

/-- The order `compare` asks for, and the sources it compares. -/
theorem compare_before {b : BinderState} {core : ResultCore} {context : OpenContext} {u : Unit}
    (h : compare b core context = .ok u) :
    context.anchored.committedInBlock < context.session.committedInBlock ∧
      context.counterparty.committedInBlock < context.session.committedInBlock := by
  simp only [compare, bind_ok_iff, revertIf_ok_iff, not_le] at h
  obtain ⟨-, -, -, -, -, -, -, -, -, -, -, hanchored, hcounterparty⟩ := h
  exact ⟨hanchored, hcounterparty⟩

/-- **Inversion of `bindRecourse`**, for what every contract checked. -/
theorem bindRecourse_checked {result : Bytes32 × System W}
    (h : bindRecourse crypto env d s tx r = .ok result) :
    ∃ session anchored counterparty, Checked crypto env d s tx r session anchored counterparty := by
  simp only [bindRecourse, bind_ok_iff] at h
  obtain ⟨-, -, -, -, -, -, -, -, -, -, ⟨commitment, verifier⟩, haccept, -, -, -, -, -, -, s₂,
    hopen, -⟩ := h
  have hadmitted := Verifier.acceptMatch_admitted haccept
  obtain rfl := Verifier.acceptMatch_commitment haccept
  simp only [openRecourse, bind_ok_iff] at hopen
  obtain ⟨⟨context, s₃⟩, hresolve, _, hcompare, _, hgenuine, b, hconsent, -⟩ := hopen
  simp only [resolve, bind_ok_iff, revertIf_ok_iff, pure_ok_iff, Prod.mk.injEq, not_not]
    at hresolve
  obtain ⟨⟨session, governance⟩, hsession, -, hkey, ⟨anchored, sources⟩, hanchored,
    ⟨counterparty, sources'⟩, hcounterparty, rfl, rfl⟩ := hresolve
  have hopened := Governance.resolveSession_opened hsession
  obtain ⟨hnamedA, hnamedB⟩ := compare_ok hcompare
  obtain ⟨hbeforeA, hbeforeB⟩ := compare_before hcompare
  have hsourceA := (Sources.revealSource_ok hanchored).2.2
  -- the second reveal reads the registry the first one left; stamps survive it
  have hsourceB := ((revealSource_kept hanchored).stamp _).symm.trans
    (Sources.revealSource_ok hcounterparty).2.2
  simp only at hnamedA hnamedB
  rw [hnamedA] at hsourceA
  rw [hnamedB] at hsourceB
  simp only [requireBilateralConsent, bind_ok_iff] at hconsent
  obtain ⟨b', hconsentA, hconsentB⟩ := hconsent
  obtain ⟨hrecordA, hsignedA⟩ := requireConsent_ok hconsentA
  obtain ⟨hrecordB, hsignedB⟩ := requireConsent_ok hconsentB
  exact ⟨session, anchored.committedInBlock, counterparty.committedInBlock, hkey, hadmitted,
    hopened, hsourceA, hsourceB, hbeforeA, hbeforeB, assertAnchorGenuine_live hgenuine, hrecordA,
    hrecordB, hsignedA, hsignedB⟩

end Binder

/-! ## Every open recourse -/

section

variable {W : Type}

/-- One party of a bind. `session` is the call that committed the session, `tx`
the bind: record and source were entered by calls of the run in blocks before the
session's, the record was in force there and is not hard-revoked at the bind, and
its controller, who did not relay the session, signed intent and consent. -/
structure PartyBound (crypto : Crypto) (d : Deployment) (before : List (Event W)) (s : System W)
    (session tx : Tx) (r : Binder.BindRequest) (record source : Bytes32) (initiation : Bytes)
    (consent : DisclosureConsent) : Prop where
  authorized : ∃ authorization request, .call authorization (.authorize request) ∈ before ∧
    record = Governance.recordDigestOf crypto d.governance authorization request
      (toUint64 authorization.blockNumber) ∧
    (s.governance.records record).stamp = (true, request.scopeCommitment, request.controller,
      request.organizationId, toUint64 authorization.blockNumber)
  eligible : (s.governance.records record).Eligible (toUint64 session.blockNumber)
  sourced : ∃ commit, .call commit (.commitSource source) ∈ before ∧
    toUint64 commit.blockNumber < toUint64 session.blockNumber
  signed : crypto.recoverStrict (Governance.intentDigest crypto d.governance tx r.reveal.intent)
    initiation = some (s.governance.records record).controller
  recordNamed : consent.governanceRecord = record
  consented : crypto.recoverStrict (Binder.consentDigest crypto d tx
    r.envelope.core.session.sessionCommitment r.envelope.core.session.sessionNullifier
    r.envelope.resultCommitment source r.anchor consent) consent.signature =
      some (s.governance.records record).controller
  notRelayer : session.sender ≠ (s.governance.records record).controller

/-- Chronology and bilaterality of a bind made in `s`, after the calls `before`. -/
structure Bilateral (crypto : Crypto) (env : Externals W) (d : Deployment)
    (before : List (Event W)) (s : System W) (session tx : Tx) (r : Binder.BindRequest) :
    Prop where
  committed : ∃ nullifier, .call session
    (.commitSession r.envelope.core.session.sessionCommitment nullifier) ∈ before
  sessionFirst : toUint64 session.blockNumber < tx.blockNumber
  partyA : PartyBound crypto d before s session tx r r.reveal.intent.governanceRecordA
    r.envelope.core.session.sourceRecordCommitmentA r.reveal.signatures.controllerA r.consentA
  partyB : PartyBound crypto d before s session tx r r.reveal.intent.governanceRecordB
    r.envelope.core.session.sourceRecordCommitmentB r.reveal.signatures.controllerB r.consentB
  apart : (s.governance.records r.reveal.intent.governanceRecordA).Apart
    (s.governance.records r.reveal.intent.governanceRecordB)
  anchor : Binder.AnchorLive env s.world r.anchor

variable {crypto : Crypto} {env : Externals W} {d : Deployment} {s : System W} {tx : Tx}
  {r : Binder.BindRequest} {before : List (Event W)}

/-- A source in the registry was committed by a call of the run. -/
theorem Recorded.sourced {key : Bytes32} {block : ℕ} (hrecorded : Recorded crypto d before s)
    (hstamp : (s.sources.commitments key).stamp = (true, block)) :
    ∃ commit, .call commit (.commitSource key) ∈ before ∧
      toUint64 commit.blockNumber = block := by
  obtain ⟨commit, hmem, hcommitted⟩ := hrecorded.source key (congrArg Prod.fst hstamp)
  exact ⟨commit, hmem, congrArg Prod.snd (hcommitted.symm.trans hstamp)⟩

/-- What a bind checked, traced back to the calls that entered it. -/
theorem Binder.Checked.bilateral {resolved : ResolvedSession} {anchored counterparty : ℕ}
    (h : Binder.Checked crypto env d s tx r resolved anchored counterparty)
    (hrecorded : Recorded crypto d before s) :
    ∃ session, Bilateral crypto env d before s session tx r := by
  have hopened := h.opened
  obtain ⟨session, nullifier, hcommit, hsession⟩ := hrecorded.session _ hopened.committed
  have hblock : resolved.committedInBlock = toUint64 session.blockNumber :=
    hopened.committedInBlock.trans (congrArg (fun stamp => stamp.2.1) hsession)
  have hsender : (s.governance.commitments resolved.sessionCommitment).submitter =
      session.sender := congrArg (fun stamp => stamp.2.2) hsession
  have hadmitted : toUint64 session.blockNumber < tx.blockNumber := by
    rw [← hblock, hopened.committedInBlock, h.key]
    exact h.admitted
  obtain ⟨sourceA, hsourceA, hsourceBlockA⟩ := hrecorded.sourced h.sourceA
  obtain ⟨sourceB, hsourceB, hsourceBlockB⟩ := hrecorded.sourced h.sourceB
  have hbeforeA := h.beforeA
  have hbeforeB := h.beforeB
  rw [← hsourceBlockA, hblock] at hbeforeA
  rw [← hsourceBlockB, hblock] at hbeforeB
  rw [h.key] at hcommit
  refine ⟨session, ⟨nullifier, hcommit⟩, hadmitted, ?_, ?_, hopened.apart, h.anchor⟩
  · exact
      { authorized := hrecorded.record _ hopened.eligibleA.isRecorded
        eligible := hblock ▸ hopened.eligibleA
        sourced := ⟨sourceA, hsourceA, hbeforeA⟩
        signed := hopened.controllerA ▸ hopened.signedA
        recordNamed := h.recordA.trans hopened.recordA
        consented := hopened.controllerA ▸ h.consentA
        notRelayer := hopened.controllerA ▸ hsender ▸ hopened.relayerA }
  · exact
      { authorized := hrecorded.record _ hopened.eligibleB.isRecorded
        eligible := hblock ▸ hopened.eligibleB
        sourced := ⟨sourceB, hsourceB, hbeforeB⟩
        signed := hopened.controllerB ▸ hopened.signedB
        recordNamed := h.recordB.trans hopened.recordB
        consented := hopened.controllerB ▸ h.consentB
        notRelayer := hopened.controllerB ▸ hsender ▸ hopened.relayerB }

/-- **Chronology and bilaterality.** Every open recourse of a reachable system was
opened by a bind of the run, in a system where everything it rests on had been
entered before, in order, and by both parties. -/
theorem open_recourse_bilateral {events : List (Event W)} {t : System W} {key : Bytes32}
    (hreach : Reaches crypto env d events t) (hopen : (t.binder.recourses key).isOpen = true) :
    ∃ before tx r after s result session,
      events = before ++ .call tx (.bindRecourse r) :: after ∧
      Reaches crypto env d before s ∧
      Binder.bindRecourse crypto env d s tx r = .ok result ∧
      r.envelope.core.session.sessionCommitment = key ∧
      (t.binder.recourses key).anchor = r.anchor ∧
      Bilateral crypto env d before s session tx r := by
  obtain ⟨before, tx, r, after, hsplit, hkey, hanchor⟩ := hreach.recorded.recourse key hopen
  obtain ⟨s, result, hbefore, hbind⟩ := hreach.bind hsplit
  obtain ⟨resolved, anchored, counterparty, hchecked⟩ := Binder.bindRecourse_checked hbind
  obtain ⟨session, hbilateral⟩ := hchecked.bilateral hbefore.recorded
  exact ⟨before, tx, r, after, s, result, session, hsplit, hbefore, hbind, hkey, hanchor,
    hbilateral⟩

/-- So it was opened by both parties. -/
theorem honest_recourse_bilateral : ∃ before tx r s session,
    Reaches Sample.crypto Sample.env Sample.deployment before s ∧
      Bilateral Sample.crypto Sample.env Sample.deployment before s session tx r := by
  obtain ⟨t, hreach, hopen⟩ := Sample.honest_open
  obtain ⟨before, tx, r, -, s, -, session, -, hbefore, -, -, -, hbilateral⟩ :=
    open_recourse_bilateral hreach hopen
  exact ⟨before, tx, r, s, session, hbefore, hbilateral⟩

end

end Mordant.Match
