/-
# Settlement profiles on disk

A profile is committed to a run directory once, before any artifact of a result is
there, and every plan of that run is derived from the file read back.  The run is
named four times: by the directory, by the profile's case binding, by the result
and by the plan.

A file is kept as the document it parses to, at the types the source reads it at;
directories are keyed by the path the runtime joins from run root and run.
-/

import Mordant.Protection.Bridge
import Mordant.Protection.Profile

namespace Mordant.Protection

open Foundation Script
open Function (update update_self update_of_ne)

/-- `SettlementProfileStoreError`, or what the settlement functions throw. -/
inductive StoreThrown
  | store (code message : String)
  | settlement (thrown : SettlementThrown)
  deriving DecidableEq

def settlementProfileCommitmentSchema : Text := lit "mordant.settlement-profile-commitment/1"

/-- `CommittedSettlementProfile`. Its schema is a constant of the type. -/
structure CommittedSettlementProfile where
  profile : SettlementProfile
  committedDigest : Hex

/-- The content of a commitment file: no JSON, or a document whose members may be
missing. -/
inductive ProfileFile
  | unreadable
  | document (schemaVersion : Option Text) (profile : Option SettlementProfile)
      (committedDigest : Option Hex)

/-- What is looked at in the directory of a run. -/
structure RunDirectory where
  settlementProfile : Option ProfileFile := none
  /-- The other files that exist, by their path in the directory. -/
  files : List String := []

/-- What the functions of this module find outside. -/
structure StoreRuntime extends Runtime where
  /-- `join(runRoot, runId)`. -/
  join : Text → Text → Text
  /-- `keccak256(toHex(text))`. -/
  keccakText : Text → Hex

/-- The run directories on disk. -/
abbrev ProfileStore := Text → RunDirectory

def resultBearingArtifacts : List String :=
  ["public/evaluated-conflict.json", "public/governed-conflict-result.json",
    "public/result-conflict.bin", "public/recourse-record.json",
    "public/product-recourse-attestation.json", "recourse-outcome.json",
    "direct-participant-bridge-evidence.json"]

/-- The file a commitment writes. -/
def CommittedSettlementProfile.file (record : CommittedSettlementProfile) : ProfileFile :=
  .document (some settlementProfileCommitmentSchema) (some record.profile)
    (some record.committedDigest)

section

variable (runtime : StoreRuntime) (store : ProfileStore) (runRoot runId : Text)

/-- `bridgeRunId`: the adapter's own run identity. -/
def bridgeRunId : Hex := runtime.keccakText runId

def existingResultArtifact : Option String :=
  resultBearingArtifacts.find? fun relative =>
    relative ∈ (store (runtime.join runRoot runId)).files

/-- `commitSettlementProfile`. The file is created or the call fails. -/
def commitSettlementProfile (profile : SettlementProfile) :
    Except StoreThrown (CommittedSettlementProfile × ProfileStore) := do
  let directory := runtime.join runRoot runId
  (assertWellFormedSettlementProfile runtime.toRuntime profile).mapError .settlement
  match existingResultArtifact runtime store runRoot runId with
  | some exposed =>
    throw (.store "RESULT_ALREADY_EXPOSED"
      ("A result-bearing artifact already exists for this run (" ++ exposed ++
        "), so no settlement profile can still be committed for it"))
  | none =>
    let record := ⟨profile, settlementProfileDigest runtime.toRuntime profile⟩
    revertIf ((store directory).settlementProfile.isSome = true)
      (.store "ALREADY_COMMITTED" "This run already has a committed settlement profile")
    pure (record, update store directory
      { store directory with settlementProfile := some (CommittedSettlementProfile.file record) })

def readCommittedSettlementProfile : Except StoreThrown CommittedSettlementProfile := do
  let raw ← require (.store "NOT_COMMITTED" "This run has no committed settlement profile")
    (store (runtime.join runRoot runId)).settlementProfile
  match raw with
  | .unreadable =>
    throw (.store "UNREADABLE" "The committed settlement profile is not valid JSON")
  | .document schemaVersion profile committedDigest =>
    let shape := .store "SHAPE" "The settlement profile commitment is missing its profile or digest"
    revertIf (schemaVersion ≠ some settlementProfileCommitmentSchema)
      (.store "SCHEMA" "Unrecognised settlement profile commitment schema")
    let profile ← require shape profile
    let committedDigest ← require shape committedDigest
    (assertWellFormedSettlementProfile runtime.toRuntime profile).mapError .settlement
    revertIf (runtime.toLowerCase (settlementProfileDigest runtime.toRuntime profile).text ≠
        runtime.toLowerCase committedDigest.text)
      (.store "TAMPERED"
        "The retained settlement profile no longer matches the digest committed for it")
    pure ⟨profile, committedDigest⟩

/-- What `settlementAuthorityForRun` returns. -/
structure SettlementAuthorityForRun where
  plan : SettlementPlan
  authorization : SettlementAuthorization
  committedDigest : Hex

/-- `settlementAuthorityForRun`: the runtime path's only source of settlement
authority. -/
def settlementAuthorityForRun (result : GovernedResultFacts) :
    Except StoreThrown SettlementAuthorityForRun := do
  let committed ← readCommittedSettlementProfile runtime store runRoot runId
  let plan ← (deriveSettlementPlan runtime.toRuntime committed.profile committed.committedDigest
    result).mapError .settlement
  pure ⟨plan, deriveSettlementAuthorization runtime.toRuntime plan, committed.committedDigest⟩

/-! ## What happens to the directories -/

/-- What can happen to the run directories: another commitment, whether it is
accepted or not, or some other file written by some part of the product. -/
inductive StoreEvent
  | commit (runRoot runId : Text) (profile : SettlementProfile)
  | write (directory : Text) (relative : String)

/-- One event. A commitment that fails leaves everything as it was. -/
def StoreEvent.step : StoreEvent → ProfileStore
  | .commit runRoot runId profile =>
      match commitSettlementProfile runtime store runRoot runId profile with
      | .ok (_, store') => store'
      | .error _ => store
  | .write directory relative =>
      update store directory
        { store directory with files := relative :: (store directory).files }

/-- A history of the run directories. -/
def afterEvents (events : List StoreEvent) : ProfileStore :=
  events.foldl (fun current event => event.step runtime current) store

end

section

variable {runtime : StoreRuntime} {store store' : ProfileStore} {runRoot runId : Text}
  {profile : SettlementProfile} {record : CommittedSettlementProfile}
  {result : GovernedResultFacts}

/-- A commitment is made for a well-formed profile, before any result and for the
first time; it writes one file. -/
theorem commitSettlementProfile_ok_iff :
    commitSettlementProfile runtime store runRoot runId profile = .ok (record, store') ↔
      assertWellFormedSettlementProfile runtime.toRuntime profile = .ok () ∧
      existingResultArtifact runtime store runRoot runId = none ∧
      (store (runtime.join runRoot runId)).settlementProfile = none ∧
      record = ⟨profile, settlementProfileDigest runtime.toRuntime profile⟩ ∧
      store' = update store (runtime.join runRoot runId)
        { store (runtime.join runRoot runId) with settlementProfile := some record.file } := by
  simp only [commitSettlementProfile, bind_ok_iff, mapError_ok_iff]
  cases existingResultArtifact runtime store runRoot runId with
  | some exposed => simp [throw, throwThe, MonadExceptOf.throw]
  | none =>
      simp only [bind_ok_iff, revertIf_ok_iff, pure_ok_iff, Prod.mk.injEq,
        Bool.not_eq_true, Option.isSome_eq_false_iff, Option.isNone_iff_eq_none, true_and]
      constructor
      · rintro ⟨_, hformed, -, habsent, rfl, rfl⟩
        exact ⟨hformed, habsent, rfl, rfl⟩
      · rintro ⟨hformed, habsent, rfl, rfl⟩
        exact ⟨(), hformed, (), habsent, rfl, rfl⟩

/-- The file a commitment leaves behind. -/
theorem commitSettlementProfile_file
    (hcommit : commitSettlementProfile runtime store runRoot runId profile = .ok (record, store')) :
    (store' (runtime.join runRoot runId)).settlementProfile = some record.file := by
  obtain ⟨-, -, -, -, rfl⟩ := commitSettlementProfile_ok_iff.mp hcommit
  simp only [update_self]

/-- **Step.** A commitment file is never replaced. -/
theorem StoreEvent.step_settlementProfile (event : StoreEvent) {directory : Text}
    {file : ProfileFile} (hfile : (store directory).settlementProfile = some file) :
    (event.step runtime store directory).settlementProfile = some file := by
  cases event with
  | commit runRoot runId profile =>
      cases hcommit : commitSettlementProfile runtime store runRoot runId profile with
      | error thrown => simp only [StoreEvent.step, hcommit, hfile]
      | ok committed =>
          obtain ⟨record, store'⟩ := committed
          obtain ⟨-, -, habsent, -, rfl⟩ := commitSettlementProfile_ok_iff.mp hcommit
          have hother : directory ≠ runtime.join runRoot runId := by
            rintro rfl
            exact nomatch habsent.symm.trans hfile
          simp only [StoreEvent.step, hcommit, update_of_ne hother, hfile]
  | write other relative =>
      by_cases hsame : directory = other
      · subst hsame
        simp only [StoreEvent.step, update_self, hfile]
      · simp only [StoreEvent.step, update_of_ne hsame, hfile]

/-- **Run.** Whatever happens to the run directories, what was committed is read. -/
theorem afterEvents_settlementProfile {directory : Text} {file : ProfileFile}
    (hfile : (store directory).settlementProfile = some file) (events : List StoreEvent) :
    (afterEvents runtime store events directory).settlementProfile = some file := by
  induction events generalizing store with
  | nil => exact hfile
  | cons event rest ih => exact ih (event.step_settlementProfile hfile)

/-- A committed profile is read back as it was committed. -/
theorem readCommittedSettlementProfile_of_file (hfile :
      (store (runtime.join runRoot runId)).settlementProfile = some record.file)
    (hformed : assertWellFormedSettlementProfile runtime.toRuntime record.profile = .ok ())
    (hdigest : record.committedDigest =
      settlementProfileDigest runtime.toRuntime record.profile) :
    readCommittedSettlementProfile runtime store runRoot runId = .ok record := by
  refine bind_ok_iff.mpr ⟨record.file, require_ok_iff.mpr hfile, ?_⟩
  simp only [CommittedSettlementProfile.file, bind_ok_iff, revertIf_ok_iff, require_ok_iff,
    not_not, mapError_ok_iff, pure_ok_iff]
  exact ⟨(), trivial, record.profile, rfl, record.committedDigest, rfl, (), hformed, (),
    by rw [hdigest], rfl⟩

/-- Authority for a committed run is what its profile yields for the result. -/
theorem settlementAuthorityForRun_ok_iff {authority : SettlementAuthorityForRun}
    (hread : readCommittedSettlementProfile runtime store runRoot runId = .ok record) :
    settlementAuthorityForRun runtime store runRoot runId result = .ok authority ↔
      deriveSettlementPlan runtime.toRuntime record.profile record.committedDigest result =
        .ok authority.plan ∧
      authority.authorization = deriveSettlementAuthorization runtime.toRuntime authority.plan ∧
      authority.committedDigest = record.committedDigest := by
  simp only [settlementAuthorityForRun, hread, bind_ok_iff, Except.ok.injEq, exists_eq_left',
    mapError_ok_iff, pure_ok_iff]
  constructor
  · rintro ⟨plan, hplan, rfl⟩
    exact ⟨hplan, rfl, rfl⟩
  · rintro ⟨hplan, hauthorization, hdigest⟩
    exact ⟨authority.plan, hplan, by rw [← hauthorization, ← hdigest]⟩

/-! ## The four names of a run -/

/-- Profile, result and plan name the run whose directory the profile is in. -/
structure OwnRun (runtime : StoreRuntime) (runId : Text) (profile : SettlementProfile)
    (result : GovernedResultFacts) (plan : SettlementPlan) : Prop where
  profile : profile.caseBinding.runId = runId
  result : result.runId = (bridgeRunId runtime runId).text
  plan : plan.runId = bridgeRunId runtime runId

/-- After a commitment, a plan is obtained exactly for the results the profile
settles, and it is derived from both. -/
theorem authority_after_commit
    (hcommit : commitSettlementProfile runtime store runRoot runId profile = .ok (record, store'))
    (events : List StoreEvent) {plan : SettlementPlan} :
    (∃ authority, settlementAuthorityForRun runtime (afterEvents runtime store' events) runRoot
      runId result = .ok authority ∧ authority.plan = plan) ↔
      profile.Settles runtime.toRuntime result ∧
        DerivedFrom profile record.committedDigest result plan := by
  have hfile : (afterEvents runtime store' events
      (runtime.join runRoot runId)).settlementProfile = some record.file :=
    afterEvents_settlementProfile (commitSettlementProfile_file hcommit) events
  obtain ⟨hformed, -, -, rfl, -⟩ := commitSettlementProfile_ok_iff.mp hcommit
  have hread := readCommittedSettlementProfile_of_file hfile hformed rfl
  have hsame : sameDigest runtime.toRuntime (settlementProfileDigest runtime.toRuntime profile).text
      (settlementProfileDigest runtime.toRuntime profile).text = true :=
    (sameDigest_hex _ _).mpr rfl
  simp only [settlementAuthorityForRun_ok_iff hread, deriveSettlementPlan_ok_iff]
  constructor
  · rintro ⟨authority, ⟨⟨-, -, hsettles, hderived⟩, -, -⟩, rfl⟩
    exact ⟨hsettles, hderived⟩
  · rintro ⟨hsettles, hderived⟩
    exact ⟨⟨plan, deriveSettlementAuthorization runtime.toRuntime plan,
      settlementProfileDigest runtime.toRuntime profile⟩,
      ⟨⟨hformed, hsame, hsettles, hderived⟩, rfl, rfl⟩, rfl⟩

/-- A profile that settles a result has a plan for it. -/
theorem SettlementProfile.Settles.derived (h : profile.Settles runtime.toRuntime result)
    (committedDigest : Hex) : ∃ plan, DerivedFrom profile committedDigest result plan := by
  obtain ⟨digest, hdigest⟩ := Option.isSome_iff_exists.mp
    (show (bytes32 result.governedResultDigest).isSome = true by simp [bytes32, h.resultDigest])
  obtain ⟨run, hrun⟩ := Option.isSome_iff_exists.mp
    (show (bytes32 result.runId).isSome = true by simp [bytes32, h.runId])
  exact
    ⟨{ settlementProfileDigest := committedDigest
       governedResultDigest := digest
       runId := run
       releaseAuthorityId := profile.releaseAuthorityId
       adapter := profile.adapter
       chainId := profile.chainId
       holderA := profile.holderA
       holderB := profile.holderB
       payoutA := profile.payoutA
       payoutB := profile.payoutB
       cureWindowSeconds := profile.cureWindowSeconds },
     ⟨rfl, (bytes32_eq_some_iff.mp hdigest).2, (bytes32_eq_some_iff.mp hrun).2, rfl, rfl, rfl,
      ⟨rfl, rfl⟩, ⟨rfl, rfl⟩, rfl⟩⟩

/-- **Whose run a committed profile settles.** Whatever happens to the directories
after the commitment: every plan for a result is for the profile's own run exactly
when profile and result name that run, or the profile does not settle the result;
and two results obtain plans only under one run exactly when they name one, or one
of them is not settled. -/
theorem profile_settles_own_run_iff
    (hcommit : commitSettlementProfile runtime store runRoot runId profile = .ok (record, store'))
    (events events' : List StoreEvent) (result result' : GovernedResultFacts) :
    ((∀ authority, settlementAuthorityForRun runtime (afterEvents runtime store' events) runRoot
        runId result = .ok authority → OwnRun runtime runId profile result authority.plan) ↔
      (profile.Settles runtime.toRuntime result →
        profile.caseBinding.runId = runId ∧ result.runId = (bridgeRunId runtime runId).text)) ∧
    ((∀ authority authority',
        settlementAuthorityForRun runtime (afterEvents runtime store' events) runRoot runId
          result = .ok authority →
        settlementAuthorityForRun runtime (afterEvents runtime store' events') runRoot runId
          result' = .ok authority' → authority.plan.runId = authority'.plan.runId) ↔
      (profile.Settles runtime.toRuntime result → profile.Settles runtime.toRuntime result' →
        result.runId = result'.runId)) := by
  constructor
  · constructor
    · intro hown hsettles
      obtain ⟨plan, hderived⟩ := hsettles.derived record.committedDigest
      obtain ⟨authority, hauthority, -⟩ :=
        (authority_after_commit hcommit events).mpr ⟨hsettles, hderived⟩
      exact ⟨(hown authority hauthority).profile, (hown authority hauthority).result⟩
    · intro hnames authority hauthority
      obtain ⟨hsettles, hderived⟩ :=
        (authority_after_commit hcommit events).mp ⟨authority, hauthority, rfl⟩
      obtain ⟨hprofile, hresult⟩ := hnames hsettles
      exact ⟨hprofile, hresult, Hex.ext (hderived.runId.trans hresult)⟩
  · constructor
    · intro hone hsettles hsettles'
      obtain ⟨plan, hderived⟩ := hsettles.derived record.committedDigest
      obtain ⟨plan', hderived'⟩ := hsettles'.derived record.committedDigest
      obtain ⟨authority, hauthority, rfl⟩ :=
        (authority_after_commit hcommit events).mpr ⟨hsettles, hderived⟩
      obtain ⟨authority', hauthority', rfl⟩ :=
        (authority_after_commit hcommit events').mpr ⟨hsettles', hderived'⟩
      have hrun := congrArg Hex.text (hone authority authority' hauthority hauthority')
      exact hderived.runId.symm.trans (hrun.trans hderived'.runId)
    · intro hone authority authority' hauthority hauthority'
      obtain ⟨hsettles, hderived⟩ :=
        (authority_after_commit hcommit events).mp ⟨authority, hauthority, rfl⟩
      obtain ⟨hsettles', hderived'⟩ :=
        (authority_after_commit hcommit events').mp ⟨authority', hauthority', rfl⟩
      have hrun := hone hsettles hsettles'
      exact Hex.ext (hderived.runId.trans (hrun.trans hderived'.runId.symm))

end

/-! ## A profile of one run in the directory of another -/

namespace Sample

/-- The hash of `run-a`. -/
def runHash : Hex :=
  hex "0xcc03459bf67b3c19f8c9a76ee4ea5470af5a6a536825b0134ba25f831daad514" (by decide)

/-- Lower-casing of ASCII, joining with a slash, and the digests of the texts
hashed below. -/
def storeRuntime : StoreRuntime where
  toRuntime := { runtime with
    sha256 := fun _ => lit "ec6125685378998fd80b0fbabf64c55182e0c2e71b63c5d1ec9061f2b8a6656d" }
  join root run := root ++ lit "/" ++ run
  keccakText text :=
    if text = lit "run-a" then runHash
    else hex "0x67bbbb28523cfc382a36a99b62a151ddab37d1183cee642e833d84bb660a583a" (by decide)

/-- A profile that names run `run-b`. -/
def profile : SettlementProfile where
  schemaVersion := settlementProfileSchema
  profileId := lit "pilot"
  profileVersion := 1
  caseBinding :=
    { runId := lit "run-b"
      caseId := lit "sha256:c1c1c1c1c1c1c1c1c1c1c1c1c1c1c1c1c1c1c1c1c1c1c1c1c1c1c1c1c1c1c1c1"
      caseBindingDigest :=
        lit "sha256:c2c2c2c2c2c2c2c2c2c2c2c2c2c2c2c2c2c2c2c2c2c2c2c2c2c2c2c2c2c2c2c2"
      protectionBindingDigest :=
        lit "sha256:c3c3c3c3c3c3c3c3c3c3c3c3c3c3c3c3c3c3c3c3c3c3c3c3c3c3c3c3c3c3c3c3"
      releaseMode := lit "governed-decryptor-v1" }
  participantConfig :=
    { path := lit "participants.json"
      sha256 := lit "c4c4c4c4c4c4c4c4c4c4c4c4c4c4c4c4c4c4c4c4c4c4c4c4c4c4c4c4c4c4c4c4" }
  committedAtUnix := 1000
  chainId := 10143
  adapter := plan.adapter
  settlementToken := hex "0x1212121212121212121212121212121212121212" (by decide)
  cviVerifier := hex "0x1313131313131313131313131313131313131313" (by decide)
  facility := hex "0x1414141414141414141414141414141414141414" (by decide)
  attestor := hex "0x1515151515151515151515151515151515151515" (by decide)
  holderA := plan.holderA
  holderB := plan.holderB
  payoutA := lit "1"
  payoutB := lit "1"
  cureWindowSeconds := 600
  releaseAuthorityId :=
    lit "sha256:abababababababababababababababababababababababababababababababab"
  settlementAuthorization := settlementAuthorized

/-- A conflict in the profile's case, found in the given run. -/
def resultOf (run : Text) : GovernedResultFacts where
  governedResultDigest :=
    lit "0xcdcdcdcdcdcdcdcdcdcdcdcdcdcdcdcdcdcdcdcdcdcdcdcdcdcdcdcdcdcdcdcd"
  runId := (bridgeRunId storeRuntime run).text
  releaseAuthorityId := profile.releaseAuthorityId
  conflict := true
  caseId := profile.caseBinding.caseId
  caseBindingDigest := profile.caseBinding.caseBindingDigest

/-- A commitment to the directory of run `run-a`, and a plan for a result. -/
def settle (run : Text) : Except StoreThrown SettlementPlan := do
  let (_, store) ← commitSettlementProfile storeRuntime (fun _ => {}) (lit "runs") (lit "run-a")
    profile
  let authority ← settlementAuthorityForRun storeRuntime store (lit "runs") (lit "run-a")
    (resultOf run)
  pure authority.plan

end Sample

/-- The profile of run `run-b` is committed in the directory of run `run-a`, and
results of both runs obtain plans from it. -/
theorem foreign_run_settles :
    ∃ record store authority authority',
      commitSettlementProfile Sample.storeRuntime (fun _ => {}) (lit "runs") (lit "run-a")
        Sample.profile = .ok (record, store) ∧
      settlementAuthorityForRun Sample.storeRuntime store (lit "runs") (lit "run-a")
        (Sample.resultOf (lit "run-b")) = .ok authority ∧
      settlementAuthorityForRun Sample.storeRuntime store (lit "runs") (lit "run-a")
        (Sample.resultOf (lit "run-a")) = .ok authority' ∧
      ¬ OwnRun Sample.storeRuntime (lit "run-a") Sample.profile (Sample.resultOf (lit "run-b"))
        authority.plan ∧
      authority.plan.runId ≠ authority'.plan.runId := by
  obtain ⟨plan, hsettled⟩ := toBool_eq_true_iff.mp
    (show (Sample.settle (lit "run-b")).toBool = true by decide +kernel)
  obtain ⟨plan', hsettled'⟩ := toBool_eq_true_iff.mp
    (show (Sample.settle (lit "run-a")).toBool = true by decide +kernel)
  obtain ⟨⟨record, store⟩, hcommit, hrest⟩ := bind_ok_iff.mp hsettled
  obtain ⟨authority, hauthority, -⟩ := bind_ok_iff.mp hrest
  obtain ⟨⟨record', store'⟩, hcommit', hrest'⟩ := bind_ok_iff.mp hsettled'
  obtain ⟨authority', hauthority', -⟩ := bind_ok_iff.mp hrest'
  obtain ⟨rfl, rfl⟩ := Prod.mk.inj (Except.ok.inj (hcommit.symm.trans hcommit'))
  have hrun := ((authority_after_commit hcommit []).mp ⟨authority, hauthority, rfl⟩).2.runId
  have hrun' := ((authority_after_commit hcommit []).mp ⟨authority', hauthority', rfl⟩).2.runId
  refine ⟨record, store, authority, authority', hcommit, hauthority, hauthority', ?_, ?_⟩
  · intro hown
    exact absurd hown.profile (by decide)
  · intro hsame
    rw [hsame, hrun'] at hrun
    exact absurd hrun (by decide +kernel)

/-- The equivalence for that commitment. -/
theorem profile_settles_own_run_sample : ∃ record store,
    commitSettlementProfile Sample.storeRuntime (fun _ => {}) (lit "runs") (lit "run-a")
      Sample.profile = .ok (record, store) ∧
    ((∀ authority, settlementAuthorityForRun Sample.storeRuntime store (lit "runs") (lit "run-a")
        (Sample.resultOf (lit "run-b")) = .ok authority →
        OwnRun Sample.storeRuntime (lit "run-a") Sample.profile (Sample.resultOf (lit "run-b"))
          authority.plan) ↔
      (Sample.profile.Settles Sample.storeRuntime.toRuntime (Sample.resultOf (lit "run-b")) →
        Sample.profile.caseBinding.runId = lit "run-a" ∧
        (Sample.resultOf (lit "run-b")).runId =
          (bridgeRunId Sample.storeRuntime (lit "run-a")).text)) := by
  obtain ⟨plan, hsettled⟩ := toBool_eq_true_iff.mp
    (show (Sample.settle (lit "run-b")).toBool = true by decide +kernel)
  obtain ⟨⟨record, store⟩, hcommit, -⟩ := bind_ok_iff.mp hsettled
  exact ⟨record, store, hcommit,
    (profile_settles_own_run_iff hcommit [] [] _ (Sample.resultOf (lit "run-a"))).1⟩

end Mordant.Protection
