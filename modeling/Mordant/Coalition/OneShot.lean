/-
# Serving a session once

An operator asks its ledger whether a session was served before, but no operation of a
release writes a ledger, so the answer never changes.  The result object is created
after the shares and the consumed marker after the result; only the marker is looked at
before shares are generated.  A call that is lost between two operations can therefore be
followed by one that has the same operators generate the same shares again.

While one call alone has shares generated, all the promises hold.  What the calls report
agrees in every run, because the result object is created once.
-/

import Mordant.Coalition.Serving

namespace Mordant.Coalition

open Evm Foundation

/-! ## Runs of a case -/

abbrev CasePool (ι : Type) : Type :=
  Pool ι (Shared ι) ReleaseOp ReleaseOp.Answer Thrown CoalitionConflictResult

section

variable {ι : Type} [DecidableEq ι]

/-- A case before its first release, whatever the ledgers hold. -/
def casePool (ledgers : LedgerPath → SessionLedger) : CasePool ι :=
  { state := { ledgers }, thread := fun _ => .idle }

/-- Any number of releases and inspections of a case, their operations in any order. -/
def runCase (library : FheLibrary) (files : CaseFiles) (ledgers : LedgerPath → SessionLedger)
    (moves : List (Move ι CaseRequest)) : Except Unscheduled (CasePool ι) :=
  run (Pool.exec (releaseEffects ι) fun _ => CaseRequest.program library files)
    (casePool ledgers) moves

/-- What identifies the serving of a session: the operator, the session and the bit. -/
def Share.serving (share : Share ι) : Word64 × Digest × BitVec 8 :=
  (share.point, share.session, share.slot)

/-- What the calls of a case promise together. -/
structure ServedOnce (pool : CasePool ι) : Prop where
  once : (pool.state.shares.map Share.serving).Nodup
  beforeResult : ∀ share ∈ pool.state.shares, share.afterResult = false
  agreed : ∀ {i j : ι} {first second : CoalitionConflictResult},
    pool.thread i = .active (.ret (.ok first)) → pool.thread j = .active (.ret (.ok second)) →
      first = second

/-- No other call had a share generated before. -/
def Alone (i : ι) : ReleaseOp → Shared ι → Prop
  | .generateShare _ _ _, s => ∀ share ∈ s.shares, share.call = i
  | _, _ => True

instance (i : ι) (op : ReleaseOp) (s : Shared ι) : Decidable (Alone i op s) :=
  match op with
  | .generateShare _ _ _ => inferInstanceAs (Decidable (∀ share ∈ s.shares, share.call = i))
  | .objectExists _ | .create _ | .readResult | .openLedger _ | .closeLedger _
  | .getSession _ _ => isTrue trivial

/-- Only one call ever has shares generated. -/
def ServedAlone (library : FheLibrary) (files : CaseFiles)
    (ledgers : LedgerPath → SessionLedger) (moves : List (Move ι CaseRequest)) : Prop :=
  Orderly (releaseEffects ι) (fun _ => CaseRequest.program library files) Alone
    (casePool ledgers) moves

instance (library : FheLibrary) (files : CaseFiles) (ledgers : LedgerPath → SessionLedger)
    (moves : List (Move ι CaseRequest)) : Decidable (ServedAlone library files ledgers moves) :=
  inferInstanceAs (Decidable (Orderly ..))

end

/-! ## Every run -/

section

variable {ι : Type} [DecidableEq ι] {library : FheLibrary} {files : CaseFiles}
  {ledgers : LedgerPath → SessionLedger} {moves : List (Move ι CaseRequest)}
  {pool : CasePool ι} {i j : ι} {op : ReleaseOp} {s t : Shared ι}

theorem sound_casePool :
    (casePool ledgers : CasePool ι).Sound (releaseDiscipline files) fun _ => Reports :=
  fun _ => rfl

theorem upholds_program (i : ι) (request : CaseRequest) (s : Shared ι)
    (h : (releaseDiscipline files).ready i s) :
    Upholds (releaseDiscipline files) i Reports (request.program library files) s := by
  cases request with
  | release call => exact upholds_release h
  | inspect => exact upholds_inspectRelease

/-- Two calls that report a result report the same. -/
theorem run_agreed (hrun : runCase library files ledgers moves = .ok pool)
    {first second : CoalitionConflictResult} (hi : pool.thread i = .active (.ret (.ok first)))
    (hj : pool.thread j = .active (.ret (.ok second))) : first = second := by
  have hsound : pool.Sound (releaseDiscipline files) fun _ => Reports :=
    run_sound upholds_program hrun sound_casePool
  have hfirst := hsound.returned hi first rfl
  have hsecond := hsound.returned hj second rfl
  exact Option.some.inj (hfirst.symm.trans hsecond)

end

/-! ## One call at a time -/

section

variable {ι : Type} [DecidableEq ι] {files : CaseFiles} {i : ι} {op : ReleaseOp} {s t : Shared ι}
  {coalition other : Word64 × Word64}

theorem nodup_shareOrder (h : coalition.1 ≠ coalition.2) :
    (shareOrder [coalition.1, coalition.2]).Nodup := by
  simp [shareOrder, h]

/-- What the shares are like while one call alone generates them. -/
structure OneServing (s : Shared ι) : Prop where
  nodup : (s.shares.map fun share => (share.point, share.slot)).Nodup
  beforeResult : ∀ share ∈ s.shares, share.afterResult = false
  complete : s.result.isSome = true → 4 ≤ s.shares.length

omit [DecidableEq ι] in
theorem OneServing.of_shares (h : OneServing s) (hshares : t.shares = s.shares)
    (hresult : t.result.isSome = true → 4 ≤ s.shares.length) : OneServing t where
  nodup := hshares ▸ h.nodup
  beforeResult := hshares ▸ h.beforeResult
  complete := by
    rw [hshares]
    exact hresult

/-- The next share of the only call: it is the next in order, so it is a new one, and the
result, which takes all four, is not there. -/
theorem OneServing.generateShare {point : Word64} {session : Digest} {slot : BitVec 8}
    (hknows : knowsRelease files i (.generateShare point session slot) s)
    (halone : ∀ share ∈ s.shares, share.call = i) (h : OneServing s) :
    OneServing ((ReleaseOp.generateShare point session slot).act i s).2 := by
  obtain ⟨-, coalition, hserving, hprefix⟩ := hknows
  have hserved : served i s = s.shares.map fun share => (share.point, share.slot) := by
    rw [served, List.filter_eq_self.mpr (by simpa using halone)]
  have hshort : s.shares.length < 4 := by
    have hlength := hprefix.length_le
    rw [hserved, List.length_append, List.length_map] at hlength
    exact hlength
  have hnone : s.result.isSome = false := by
    by_contra hresult
    exact absurd (h.complete (Bool.not_eq_false _ ▸ hresult)) (not_le.mpr hshort)
  constructor
  · rw [hserved] at hprefix
    rw [shares_act, List.map_append]
    exact (nodup_shareOrder hserving.distinct).sublist hprefix.sublist
  · rw [shares_act]
    intro share hshare
    rcases List.mem_append.mp hshare with hbefore | hnew
    · exact h.beforeResult share hbefore
    · obtain rfl := List.mem_singleton.mp hnew
      exact hnone
  · intro hresult
    exact absurd (hresult.symm.trans hnone) Bool.noConfusion

/-- What every operation of the only call keeps. -/
theorem OneServing.act (hknows : knowsRelease files i op s) (halone : Alone i op s)
    (h : OneServing s) : OneServing (op.act i s).2 := by
  have hother : (∀ value, op ≠ .create (.result value)) → op.generated i s = [] →
      OneServing (op.act i s).2 := by
    intro hop hgenerated
    refine h.of_shares (by rw [shares_act, hgenerated, List.append_nil]) ?_
    rw [result_act_of_not_result hop]
    exact h.complete
  cases op with
  | generateShare point session slot => exact h.generateShare hknows halone
  | create object =>
      cases object with
      | result value =>
          -- the result is created after the four shares of its call
          refine h.of_shares (shares_create _) fun _ => ?_
          calc 4 = (served i s).length := hknows.symm
            _ = (s.shares.filter (·.call = i)).length := List.length_map _
            _ ≤ s.shares.length := List.length_filter_le _ _
      | admission | consumed => exact hother (fun _ => by simp) rfl
  | objectExists | readResult | openLedger | closeLedger | getSession =>
      exact hother (fun _ => by simp) rfl

end

/-! ## Two calls -/

section

variable {ι : Type} [DecidableEq ι] {files : CaseFiles} {i j : ι} {op : ReleaseOp}
  {s : Shared ι} {coalition other : Word64 × Word64}

/-- Two coalitions of a roster of three have an operator in common. -/
theorem Serving.common (h : Serving files coalition) (hother : Serving files other) :
    ∃ point, point ∈ [coalition.1, coalition.2] ∧ point ∈ [other.1, other.2] := by
  obtain ⟨manifest, hmanifest, hvalid, hpoints⟩ := h.published
  obtain ⟨manifest', hmanifest', -, hpoints'⟩ := hother.published
  obtain rfl := Option.some.inj (hmanifest.symm.trans hmanifest')
  have hthree : manifest.operators.length = 3 := by
    simp only [CoalitionThresholdManifest.validate, bind_ok_iff, revertIf_ok_iff, exists_const,
      not_or, not_not] at hvalid
    exact hvalid.1.2.2.2.2.2.1
  let roster := (manifest.operators.map (·.point)).toFinset
  have hsubset : ∀ {c : Word64 × Word64},
      (∀ point ∈ [c.1, c.2], point ∈ manifest.operators.map (·.point)) → {c.1, c.2} ⊆ roster := by
    intro c hc point hpoint
    apply List.mem_toFinset.mpr
    apply hc
    simpa using hpoint
  have hcard : roster.card < ({coalition.1, coalition.2} : Finset Word64).card +
      ({other.1, other.2} : Finset Word64).card := by
    rw [Finset.card_pair h.distinct, Finset.card_pair hother.distinct]
    calc roster.card ≤ (manifest.operators.map (·.point)).length := List.toFinset_card_le _
      _ = 3 := by rw [List.length_map, hthree]
      _ < 2 + 2 := by decide
  obtain ⟨point, hpoint⟩ := Finset.inter_nonempty_of_card_lt_card_add_card
    (hsubset hpoints) (hsubset hpoints') hcard
  obtain ⟨hfirst, hsecond⟩ := Finset.mem_inter.mp hpoint
  exact ⟨point, by simpa using hfirst, by simpa using hsecond⟩

/-- What is known of the shares in every run. -/
structure Accounted (files : CaseFiles) (s : Shared ι) : Prop where
  session : ∀ share ∈ s.shares, IsSession files share.session
  order : ∀ i, served i s ≠ [] → ∃ coalition, Serving files coalition ∧
    served i s <+: shareOrder [coalition.1, coalition.2]

theorem Accounted.of_shares {t : Shared ι} (h : Accounted files s) (hshares : t.shares = s.shares) :
    Accounted files t := by
  have hserved : ∀ i, served i t = served i s := fun i => by rw [served, hshares, served]
  constructor
  · rw [hshares]
    exact h.session
  · intro i
    rw [hserved]
    exact h.order i

theorem Accounted.act (hknows : knowsRelease files i op s) (h : Accounted files s) :
    Accounted files (op.act i s).2 := by
  by_cases hgenerated : op.generated i s = []
  · exact h.of_shares (by rw [shares_act, hgenerated, List.append_nil])
  · cases op with
    | generateShare point session slot =>
        obtain ⟨hsession, coalition, hserving, hprefix⟩ := hknows
        constructor
        · rw [shares_act]
          intro share hshare
          rcases List.mem_append.mp hshare with hbefore | hnew
          · exact h.session share hbefore
          · obtain rfl := List.mem_singleton.mp hnew
            exact hsession
        · intro j
          by_cases hj : j = i
          · subst hj
            rw [served_generateShare]
            exact fun _ => ⟨coalition, hserving, hprefix⟩
          · rw [served_act_of_ne hj]
            exact h.order j
    | _ => exact absurd rfl hgenerated

/-- A call that had four shares generated went through its coalition. -/
theorem Accounted.complete (h : Accounted files s) (hfour : (served i s).length = 4) :
    ∃ coalition, Serving files coalition ∧
      served i s = shareOrder [coalition.1, coalition.2] := by
  have hsome : served i s ≠ [] := by
    intro hnone
    rw [hnone] at hfour
    exact nomatch hfour
  obtain ⟨coalition, hserving, hprefix⟩ := h.order i hsome
  exact ⟨coalition, hserving, hprefix.eq_of_length hfour⟩

theorem mem_served_iff {point : Word64} {slot : BitVec 8} :
    (point, slot) ∈ served i s ↔
      ∃ share ∈ s.shares, share.call = i ∧ share.point = point ∧ share.slot = slot := by
  simp [served, and_assoc]

/-- Two calls that went through their coalitions had one operator serve both. -/
theorem Accounted.served_twice (h : Accounted files s) (hij : i ≠ j)
    (hi : (served i s).length = 4) (hj : (served j s).length = 4) :
    ¬ (s.shares.map Share.serving).Nodup := by
  obtain ⟨coalition, hserving, hfirst⟩ := h.complete hi
  obtain ⟨other, hother, hsecond⟩ := h.complete hj
  obtain ⟨point, hpoint, hpoint'⟩ := hserving.common hother
  have hmem : ∀ {points : List Word64}, point ∈ points → (point, 0) ∈ shareOrder points :=
    fun hpoint => List.mem_flatMap.mpr ⟨point, hpoint, List.mem_cons_self⟩
  obtain ⟨a, ha, hcallA, hpointA, hslotA⟩ := mem_served_iff.mp (hfirst ▸ hmem hpoint)
  obtain ⟨b, hb, hcallB, hpointB, hslotB⟩ := mem_served_iff.mp (hsecond ▸ hmem hpoint')
  have hsession : a.session = b.session := by
    obtain ⟨binding, hbinding, hdigest⟩ := h.session a ha
    obtain ⟨binding', hbinding', hdigest'⟩ := h.session b hb
    obtain rfl := Except.ok.inj (hbinding.symm.trans hbinding')
    exact Except.ok.inj (hdigest.symm.trans hdigest')
  intro hnodup
  have hsame : a = b := by
    apply List.inj_on_of_nodup_map hnodup ha hb
    rw [Share.serving, Share.serving, hpointA, hpointB, hslotA, hslotB, hsession]
  apply hij
  rw [← hcallA, ← hcallB, hsame]

end

/-! ## When a session is served once -/

section

variable {ι : Type} [DecidableEq ι] {moves : List (Move ι CaseRequest)} {pool : CasePool ι}

/-- **One-shot serving.** A run in which one call alone has shares generated serves the
session once. Where two calls go through their coalitions it is not served once. -/
theorem served_once (library : FheLibrary) (files : CaseFiles)
    (ledgers : LedgerPath → SessionLedger)
    (hrun : runCase library files ledgers moves = .ok pool) :
    (ServedAlone library files ledgers moves → ServedOnce pool) ∧
      ∀ i j, i ≠ j → (served i pool.state).length = 4 → (served j pool.state).length = 4 →
        ¬ ServedOnce pool := by
  constructor
  · intro halone
    have hserving : OneServing pool.state :=
      run_orderly (D := releaseDiscipline files) upholds_program
        (fun _ _ _ hknows halone h => h.act hknows halone)
        (fun _ _ h => h.of_shares rfl h.complete) hrun sound_casePool halone
        ⟨List.nodup_nil, fun _ h => (List.not_mem_nil h).elim, fun h => (nomatch h)⟩
    refine ⟨?_, hserving.beforeResult, run_agreed hrun⟩
    have hpairs :
        ((pool.state.shares.map Share.serving).map fun key => (key.1, key.2.2)).Nodup := by
      rw [List.map_map]
      exact hserving.nodup
    exact hpairs.of_map _
  · intro i j hij hi hj honce
    have haccounted : Accounted files pool.state :=
      run_always_known (D := releaseDiscipline files) upholds_program
        (fun _ _ _ hknows h => h.act hknows) (fun _ _ h => h.of_shares rfl) hrun sound_casePool
        ⟨fun _ h => (List.not_mem_nil h).elim, fun _ h => absurd rfl h⟩
    exact haccounted.served_twice hij hi hj honce.once

/-! ### A case with three operators -/

/-- A digest that tells short texts apart. -/
def sampleDigest (bytes : Bytes) : Digest :=
  BitVec.ofNat 256 (bytes.foldl (fun acc b => 257 * acc + b.toNat + 1) 0)

def sampleSession : Digest := 5

def sampleLibrary : FheLibrary where
  keccak256 := sampleDigest
  ed25519Verify _ message signature := message = signature
  recomputeCircuitV5 _ inputs :=
    .ok ⟨inputs.receivableIDsA ++ inputs.receivableIDsB, inputs.policyBitsA ++ inputs.policyBitsB⟩
  ciphertextCommitment ciphertext := .ok (sampleDigest ciphertext)
  protocolBindingDigest keyID ciphertext := .ok (sampleDigest (wordBytes keyID ++ ciphertext))
  keySwitchShare operator _ ciphertext coins := .ok (operator.share ++ ciphertext ++ coins)
  thresholdResponseStatementDigest _ _ _ shareDigest := shareDigest
  sign _ message := message
  combineReleaseBitV5 _ _ _ responses := .ok (true, sampleDigest (responses.flatMap (·.share)))

/-- What a side claims of its submitter. -/
def sampleClaim : AuthorizationClaim where
  subjectCommitment := 51
  role := 52
  vault := 53
  policyID := 9
  policyVersion := policyVersion
  validUntil := 100
  nonce := 54

/-- The enrollment of the side in a slot, for its ciphertexts. -/
def sampleEnrollment (slot : BitVec 8) (scope counterparty : Digest)
    (policy currency receivable : Ciphertext) : CiphertextEnrollmentV5 where
  version := enrollmentV5Version
  binding :=
    { sessionCommitment := sampleSession
      sessionNullifier := 6
      ownScopeCommitment := scope
      counterpartyScopeCommitment := counterparty
      governanceRecord := 60 + scope
      sourceRecordCommitment := 90 + scope
      authorizationEpoch := 1
      submissionBudgetEpoch := 1
      inputSlot := slot }
  circuitVersion := circuitV5Version
  ciphertextDigest := circuitSideDigestV5 sampleLibrary policy currency receivable
  inputCommitment := 120 + scope
  keyID := 3
  parameterFingerprint := 4
  policyID := 9
  policyVersion := policyVersion
  identityMode := identityFullFHE256
  authorizationClaim := sampleClaim
  authorizationCommitment :=
    (enrollmentAuthorizationCommitment sampleDigest sampleClaim 3).toOption.getD 0
  issuerKeyID := 150 + scope
  issuedAt := 1
  validUntil := 100
  nonce := 180 + scope

def sampleSigned (enrollment : CiphertextEnrollmentV5) : SignedCiphertextEnrollmentV5 :=
  ⟨enrollment, wordBytes (enrollment.signingDigest sampleDigest)⟩

def sampleSignedA : SignedCiphertextEnrollmentV5 :=
  sampleSigned (sampleEnrollment 0 31 32 [1] [2] [3])

def sampleSignedB : SignedCiphertextEnrollmentV5 :=
  sampleSigned (sampleEnrollment 1 32 31 [4] [5] [6])

/-- Both issuers are trusted from the start of the case to its end. -/
def sampleRuntime : Runtime where
  keyID := "key"
  keyIDBytes := 3
  parameterFingerprint := 4
  holdsThresholdParties := false
  trustedIssuers issuer :=
    if issuer = 181 ∨ issuer = 182 then some ⟨wordBytes issuer, 0, 100, false⟩ else none

def sampleBinding : FHECaseBinding where
  caseID := 1
  assetIdentity := 2
  policyID := 9
  parameterFingerprint := 4
  publicKeyDigest := 3
  participantA := 31
  participantB := 32
  releaseMode := releaseModeCoalitionV5
  releaseAuthorityID := 8
  createdAtUnix := 0
  expiresAtUnix := 100

def sampleOperator (point : Word64) : ThresholdOperator where
  keyID := 3
  fingerprint := 4
  share := [UInt8.ofNat point.toNat]
  signingKey := List.replicate 64 1
  identity := ⟨BitVec.setWidth 256 point, point, List.replicate 32 1⟩

def sampleManifest : CoalitionThresholdManifest where
  schemaVersion := coalitionThresholdManifestSchema
  caseID := 1
  keyID := 3
  parameterFingerprint := 4
  threshold := 2
  operators := [1, 2, 3].map fun point =>
    ⟨(sampleOperator point).identity.operatorID, point,
      (sampleOperator point).identity.signingPublicKey⟩
  operatorTopology := "three hosts"

def samplePledges : ValidatedFreshParticipants where
  digestA := 41
  digestB := 42
  pledgeA := ⟨"key", [1], [2], [3]⟩
  pledgeB := ⟨"key", [4], [5], [6]⟩

def sampleFiles : CaseFiles where
  loadCaseManifest := .ok sampleBinding
  thresholdManifest := some sampleManifest
  loadEvaluatedArtifact _ := .ok (⟨(41, 42), [7]⟩, [1, 4], 43)
  loadAndValidateFreshParticipants _ _ := .ok samplePledges
  loadEvaluationRuntime _ := .ok sampleRuntime
  registerCaseEnrollmentIssuers runtime _ := .ok runtime
  reconstructEnrollments _ _ := .ok (sampleSignedA, sampleSignedB)
  coalitionRuntimeIdentity _ := .ok 7
  bindingDigest _ := .ok sampleSession
  manifestDigest _ := .ok 8
  artifactDigest _ := 43
  resultDigest _ := 44
  fixedCircuitDigest := 46

/-- `Release` at a time, by a host that reaches all three operators. -/
def sampleRelease (now : ℤ) : CaseRequest := .release
  { config := ⟨["operator-1", "operator-2", "operator-3"], "ledgers", 1, now⟩
    expected := ⟨(41, 42), [7]⟩
    openBundle := fun root =>
      if root = "operator-1" then .ok (sampleOperator 1)
      else if root = "operator-2" then .ok (sampleOperator 2)
      else .ok (sampleOperator 3)
    coins := fun _ _ => [] }

/-- One call runs to its end, and the case is inspected. -/
def singleMoves : List (Move ℕ CaseRequest) :=
  .start 0 (sampleRelease 10) :: List.replicate 17 (.step 0) ++
    .start 1 .inspect :: List.replicate 2 (.step 1)

/-- The first call is lost after it created the result, and the second has its first share
generated. -/
def retryMoves : List (Move ℕ CaseRequest) :=
  .start 0 (sampleRelease 10) :: List.replicate 13 (.step 0) ++ .crash 0 ::
    .start 1 (sampleRelease 20) :: List.replicate 8 (.step 1)

theorem served_once_single :
    (∃ pool, runCase sampleLibrary sampleFiles (fun _ => {}) singleMoves = .ok pool ∧
      (served 0 pool.state).length = 4 ∧ ServedOnce pool) ∧
    ∃ pool, runCase sampleLibrary sampleFiles (fun _ => {})
        (retryMoves ++ List.replicate 3 (.step 1)) = .ok pool ∧ ¬ ServedOnce pool := by
  constructor
  · have hfour : (runCase sampleLibrary sampleFiles (fun _ => {}) singleMoves).map
        (fun pool => (served 0 pool.state).length) = .ok 4 := by
      decide +kernel
    obtain ⟨pool, hpool, hserved⟩ := map_ok_iff.mp hfour
    exact ⟨pool, hpool, hserved, (served_once _ _ _ hpool).1 (by decide +kernel)⟩
  · have hboth : (runCase sampleLibrary sampleFiles (fun _ => {})
        (retryMoves ++ List.replicate 3 (.step 1))).map
        (fun pool => ((served 0 pool.state).length, (served 1 pool.state).length)) =
          .ok (4, 4) := by
      decide +kernel
    obtain ⟨pool, hpool, hserved⟩ := map_ok_iff.mp hboth
    obtain ⟨hfirst, hsecond⟩ := Prod.mk.inj hserved
    exact ⟨pool, hpool, (served_once _ _ _ hpool).2 0 1 zero_ne_one hfirst hsecond⟩

/-- A retry has an operator generate a share it generated before, after the result. -/
theorem served_again : ¬ ∀ (moves : List (Move ℕ CaseRequest)) (pool : CasePool ℕ),
    runCase sampleLibrary sampleFiles (fun _ => {}) moves = .ok pool → ServedOnce pool := by
  intro honce
  have hretry : (runCase sampleLibrary sampleFiles (fun _ => {}) retryMoves).map
      (fun pool => (pool.state.shares.map Share.serving, pool.state.shares.map (·.afterResult))) =
        .ok ([(1, sampleSession, 0), (1, sampleSession, 1), (2, sampleSession, 0),
          (2, sampleSession, 1), (1, sampleSession, 0)], [false, false, false, false, true]) := by
    decide +kernel
  obtain ⟨pool, hpool, hshares⟩ := map_ok_iff.mp hretry
  have hnodup := (honce retryMoves pool hpool).once
  rw [(Prod.mk.inj hshares).1] at hnodup
  exact absurd hnodup (by decide)

end

end Mordant.Coalition
