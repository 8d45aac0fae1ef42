/-
# The clock of a recourse starts once

Whatever results are adapted on a record root, in whatever order the calls go on and wherever
they are cut off: there is one record, its clock was read once, and a later call with the same
result comes to the same record, whenever it is made.

Each party makes one call; a retry is another party with the same arguments and another
reading of the clock.
-/

import Mordant.Foundation.Solo
import Mordant.GovernedFhe.IntakeAgreement
import Mordant.GovernedFhe.Recourse

namespace Mordant.GovernedFhe

open Evm Foundation
open Coalition (Digest)
open Program (alone lift)

/-! ## What justifies what is stored -/

/-- A record root where no clock is bound and no record is stored. -/
structure RecordRoot where
  objects : Objects PublicObject RecourseValue
  unbound : objects .recourseClock = none
  unrecorded : objects .recourseRecord = none

abbrev RecourseDeed (ι : Type) : Type := Deed ι PublicObject RecourseValue Empty

section

variable {ι : Type} (library : Library) (parseTime : String → Option ℤ) (root : RecordRoot)
  (calls : ι → AdapterCall)

/-- A participant signed the binding of a case. -/
def SignedBinding (binding : FHECaseBinding) (signature : ParticipantBindingSignature)
    (identity : ParticipantIdentity) : Prop :=
  signature.bindingDigest = binding.digest library ∧
    library.ed25519Verify identity.signingPublicKey
      (canonicalMessage library "MordantFHECaseBindingSignature/v1" .bindingStatement
        signature.toParticipantBindingStatement) signature.signature = true

/-- A result that says conflict, signed by the authority of a case that both participants
signed, and as the pins name it. -/
structure VerifiedConflict (call : AdapterCall) (binding : FHECaseBinding)
    (result : GovernedConflictResult) : Prop where
  manifest : call.caseManifest.binding = binding
  signedA : SignedBinding library binding call.caseManifest.signatureA binding.participantA
  signedB : SignedBinding library binding call.caseManifest.signatureB binding.participantB
  signed : library.ed25519Verify result.releaseAuthorityPublicKey
    (canonicalMessage library "MordantGovernedConflictResult/v1" .governedResult
      { result with signature := [] }) result.signature = true
  authority : releaseAuthorityIdentity library result.releaseMode
      result.releaseAuthorityPublicKey = result.releaseAuthorityID ∧
    result.releaseAuthorityID = call.expectedPins.releaseAuthorityID ∧
    call.expectedPins.releaseAuthorityID = binding.releaseAuthorityID
  mode : result.releaseMode = call.expectedPins.releaseMode ∧
    call.expectedPins.releaseMode = binding.releaseMode
  conflict : result.conflict = true
  caseID : result.caseID = binding.caseID
  caseBindingDigest : result.caseBindingDigest = binding.digest library
  assetIdentity : result.assetIdentity = binding.assetIdentity
  policyID : result.policyID = binding.policyID
  artifacts : result.participantArtifactDigests =
    [call.expectedPins.participantArtifactDigestA, call.expectedPins.participantArtifactDigestB]
  evaluated : result.evaluatedArtifactDigest = call.expectedPins.evaluatedArtifactDigest
  ciphertext : result.resultCiphertextDigest = call.expectedPins.recomputedResultCiphertextDigest
  commitment : result.resultCiphertextCommitment = call.expectedPins.resultCiphertextCommitment
  provenance : result.sourceProvenance = call.expectedPins.decryptorProvenance

/-- A call whose result is verified, says conflict, and is about the case and the pins; on the
terms that protect the case. -/
structure Adapted (call : AdapterCall) (terms : RecourseTerms) : Prop where
  checked : checkSignedResult library call = .ok (terms.binding, terms.result)
  loaded : loadTerms library parseTime terms.binding terms.result root.objects = .ok terms

/-- A clock binding that a call made. -/
structure BoundBy (call : AdapterCall) (terms : RecourseTerms) (clock : RecourseClockBinding) :
    Prop where
  adapted : Adapted library parseTime root call terms
  released : terms.result.releasedAtUnix ≤ call.clock
  unexpired : call.clock ≤ terms.binding.expiresAtUnix
  bound : ∃ recordDate,
    parseTime terms.authorization.binding.holderRecordDate = some recordDate ∧
      clock = clockBindingOf library terms recordDate call.clock

/-- A record that is on a clock binding and a result. -/
structure RecordedOn (call : AdapterCall) (terms : RecourseTerms) (clock : RecourseClockBinding)
    (record : RecourseRecord) : Prop where
  adapted : Adapted library parseTime root call terms
  clockValid : validateRecourseClockBinding library parseTime clock terms = .ok ()
  recordValid : validateCompleteRecourseRecord library parseTime record terms = .ok ()
  record_eq : record = recourseRecordOf library terms clock

/-- What justifies what a party created. -/
def JustifiedRecourse (history : List (RecourseDeed ι)) (i : ι) (value : RecourseValue) :
    PublicObject → Prop
  | .recourseClock => ∃ terms clock, BoundBy library parseTime root (calls i) terms clock ∧
      value = .clock clock
  | .recourseRecord => ∃ terms clock record,
      (∃ j, .created j .recourseClock (.clock clock) ∈ history) ∧
      RecordedOn library parseTime root (calls i) terms clock record ∧ value = .record record
  | _ => False

/-- What may be done to a record root. -/
def recourseCharter : Charter ι PublicObject RecourseValue Empty Empty where
  initial := root.objects
  kind := id
  backing := nofun
  Justified history deed := match deed with
    | .created i object value =>
      JustifiedRecourse library parseTime root calls history i value object
    | .noted _ note => nomatch note
  mono {history history' deed} hsub h := by
    cases deed with
    | created i object value =>
        cases object with
        | recourseRecord =>
            obtain ⟨terms, clock, record, ⟨j, hmem⟩, hrest⟩ := h
            exact ⟨terms, clock, record, ⟨j, hsub hmem⟩, hrest⟩
        | _ => exact h
    | noted i note => exact nomatch note
  backed {_ _ note} _ := nomatch note

end

/-! ## What the checks establish -/

section

variable {library : Library} {parseTime : String → Option ℤ} {root : RecordRoot}
  {call : AdapterCall} {terms : RecourseTerms} {clock : RecourseClockBinding}
  {record : RecourseRecord} {seen later : Objects PublicObject RecourseValue}
  {binding : FHECaseBinding}

/-- What is loaded of a protection is loaded of any store that holds its documents. -/
theorem loadProtectionAuthorization_mono {seen later : PublicObject → Option Bytes}
    {authorization : ProtectionAuthorization}
    (hlater : ∀ object data, seen object = some data → later object = some data)
    (h : loadProtectionAuthorization library parseTime seen binding = .ok authorization) :
    loadProtectionAuthorization library parseTime later binding = .ok authorization := by
  have hread := mapError_ok_iff.mp h
  simp only [bind_ok_iff, Prod.exists] at hread
  obtain ⟨_, _, hbinding, _, -, _, -, _, _, hsignatureA, _, _, hsignatureB, -⟩ := hread
  have hsame {object : PublicObject} {document : Document} {value : document.Value} {data : Bytes}
      (hobject : readJSON library document (seen object) = .ok (value, data)) :
      later object = seen object :=
    (hlater object data (readJSON_ok hobject)).trans (readJSON_ok hobject).symm
  rw [← h, loadProtectionAuthorization, loadProtectionAuthorization, hsame hbinding,
    hsame hsignatureA, hsame hsignatureB]

theorem documentsOf_eq_some {object : PublicObject} {data : Bytes}
    (h : documentsOf seen object = some data) : seen object = some (.bytes data) := by
  rw [documentsOf] at h
  split at h
  · next found hfound =>
      obtain rfl := Option.some.inj h
      exact hfound
  · exact nomatch h

theorem loadTerms_mono
    (hlater : ∀ object data, seen object = some (.bytes data) → later object = some (.bytes data))
    (h : loadTerms library parseTime terms.binding terms.result seen = .ok terms) :
    loadTerms library parseTime terms.binding terms.result later = .ok terms := by
  have hdocuments (object : PublicObject) (data : Bytes)
      (hseen : documentsOf seen object = some data) : documentsOf later object = some data := by
    rw [documentsOf, hlater object data (documentsOf_eq_some hseen)]
  simp only [loadTerms, bind_ok_iff, mapError_ok_iff] at h ⊢
  obtain ⟨authorization, hload, hrest⟩ := h
  exact ⟨authorization, loadProtectionAuthorization_mono hdocuments hload, hrest⟩

theorem signedBinding_of_passes {signature : ParticipantBindingSignature}
    {identity : ParticipantIdentity}
    (h : passes (verifyBindingSignature library binding signature identity) = true) :
    SignedBinding library binding signature identity := by
  obtain ⟨_, hok⟩ := Option.isSome_iff_exists.mp h
  have hok := toOption_eq_some_iff.mp hok
  simp only [verifyBindingSignature, verifyCanonical, bind_ok_iff, exists_const, revertIf_ok_iff,
    not_or, not_not, Bool.not_eq_false] at hok
  obtain ⟨⟨-, -, hdigest⟩, -, -, -, hverified⟩ := hok
  exact ⟨hdigest, hverified⟩

/-- What the checks of a result establish. -/
theorem checkSignedResult_ok {result : GovernedConflictResult}
    (h : checkSignedResult library call = .ok (binding, result)) :
    VerifiedConflict library call binding result := by
  simp only [checkSignedResult, verifyRecourseCaseManifest, TrustedRecoursePins.validate,
    verifyRecourseResultEnvelope, verifyCanonical, matchPinned, bind_ok_iff, exists_const,
    revertIf_ok_iff, mapError_ok_iff, pure_ok_iff, Prod.mk.injEq, not_or, not_not,
    Bool.not_eq_false] at h
  obtain ⟨_, ⟨⟨-, -, -, hsignedA, hsignedB⟩, rfl⟩, ⟨-, -, -, -, -, -, -, -, hmode, hauthority⟩, _,
    -, ⟨_, -, ⟨-, -, -, -, -, -, -, -, -, -, -, -, -, -, -, -, -, -, -, -, -, -, -, -, hidentity⟩,
    -, -, -, hsigned⟩, ⟨hcase, hbinding, hasset, hpolicy, hartifacts, hevaluated, hciphertext,
    hcommitment, hprovenance, hresultMode, hresultAuthority⟩, hconflict, rfl, rfl⟩ := h
  exact ⟨rfl, signedBinding_of_passes hsignedA, signedBinding_of_passes hsignedB, hsigned,
    ⟨hidentity, hresultAuthority, hauthority⟩, ⟨hresultMode, hmode⟩, hconflict, hcase, hbinding,
    hasset, hpolicy, hartifacts, hevaluated, hciphertext, hcommitment, hprovenance⟩

theorem loadTerms_ok {result : GovernedConflictResult}
    (h : loadTerms library parseTime binding result seen = .ok terms) :
    terms.binding = binding ∧ terms.result = result ∧
      terms.authorization.binding.holderAllocationDigest ≠ 0 ∧ ∃ recordDate,
      parseTime terms.authorization.binding.holderRecordDate = some recordDate ∧
        0 < recordDate ∧ recordDate ≤ binding.createdAtUnix := by
  simp only [loadTerms, bind_ok_iff, exists_const, revertIf_ok_iff, mapError_ok_iff, pure_ok_iff,
    require_ok_iff, not_or, not_le, not_lt] at h
  obtain ⟨authorization, hload, recordDate, hdate, ⟨hpositive, hcreated, -⟩, rfl⟩ := h
  have hread := mapError_ok_iff.mp hload
  simp only [MordantProtectionBinding.validate, bind_ok_iff, exists_const, revertIf_ok_iff,
    Prod.exists, pure_ok_iff, not_or] at hread
  obtain ⟨found, _, -, ⟨-, ⟨-, -, -, -, -, -, -, -, -, -, -, -, -, -, hallocation, -⟩, -⟩, -, _,
    _, -, _, _, -, _, -, _, -, rfl⟩ := hread
  exact ⟨rfl, rfl, hallocation, recordDate, hdate, hpositive, hcreated⟩

theorem validateRecourseClockBinding_ok
    (h : validateRecourseClockBinding library parseTime clock terms = .ok ()) :
    terms.result.releasedAtUnix ≤ clock.boundAtUnix ∧
      clock.boundAtUnix ≤ terms.binding.expiresAtUnix ∧
      clock.cureDeadlineUnix = clock.boundAtUnix + curePeriod := by
  simp only [validateRecourseClockBinding, bind_ok_iff, revertIf_ok_iff, not_or, not_not,
    not_lt] at h
  obtain ⟨_, -, -, -, -, -, -, -, -, hreleased, hunexpired, hdeadline⟩ := h
  exact ⟨hreleased, hunexpired, hdeadline⟩

/-- A clock that a call bound is valid on its terms. -/
theorem BoundBy.valid (h : BoundBy library parseTime root call terms clock) :
    validateRecourseClockBinding library parseTime clock terms = .ok () := by
  obtain ⟨recordDate, hdate, rfl⟩ := h.bound
  simp only [validateRecourseClockBinding, bind_ok_iff, revertIf_ok_iff, require_ok_iff]
  refine ⟨recordDate, hdate, ?_⟩
  simp only [clockBindingOf, ne_eq, not_true_eq_false, false_or, or_false, not_or, not_lt]
  exact ⟨h.released, h.unexpired⟩

/-- The record that a valid clock and a verified result come to is complete. -/
theorem Adapted.complete (h : Adapted library parseTime root call terms)
    (hclock : validateRecourseClockBinding library parseTime clock terms = .ok ()) :
    validateCompleteRecourseRecord library parseTime (recourseRecordOf library terms clock) terms =
      .ok () := by
  have hverified := checkSignedResult_ok h.checked
  obtain ⟨-, -, hallocation, recordDate, hdate, hpositive, hcreated⟩ := loadTerms_ok h.loaded
  simp only [validateRecourseClockBinding, bind_ok_iff, require_ok_iff, revertIf_ok_iff, not_or,
    not_not, not_lt] at hclock
  obtain ⟨found, hfound, -, -, -, -, -, hrecord, hholders, hreleased, hunexpired, hdeadline⟩ :=
    hclock
  obtain rfl := Option.some.inj (hdate.symm.trans hfound)
  simp only [validateCompleteRecourseRecord, bind_ok_iff, require_ok_iff, revertIf_ok_iff]
  refine ⟨recordDate, hdate, ?_⟩
  simp only [recourseRecordOf, hverified.conflict, hverified.caseID, hverified.caseBindingDigest,
    hverified.assetIdentity, hverified.policyID, hrecord, hholders, hdeadline, ne_eq,
    not_true_eq_false, false_or, or_false, Bool.true_eq_false, not_or, not_lt,
    not_le]
  exact ⟨hpositive, hcreated, hreleased, hunexpired, hallocation⟩

/-- What passes as complete, on a clock that it agrees with, is the record that the clock and
the result come to. -/
theorem Adapted.record_eq (h : Adapted library parseTime root call terms)
    (hrecord : validateCompleteRecourseRecord library parseTime record terms = .ok ())
    (hdate : clock.recordDateUnix = record.recordDateUnix)
    (hbound : clock.boundAtUnix = record.boundAtUnix)
    (hdeadline : clock.cureDeadlineUnix = record.cureDeadlineUnix)
    (hholders : clock.holderAllocationDigest = record.holderAllocationDigest) :
    record = recourseRecordOf library terms clock := by
  have hverified := checkSignedResult_ok h.checked
  simp only [validateCompleteRecourseRecord, bind_ok_iff, revertIf_ok_iff, not_or, not_not,
    Bool.not_eq_false] at hrecord
  obtain ⟨_, -, -, hschema, hcase, hbinding, hasset, hpolicy, hversion, hresult, hmode,
    hauthority, -, -, -, -, -, -, hreserve, -, -, hintact, hopen⟩ := hrecord
  cases record
  simp only [recourseRecordOf, RecourseRecord.mk.injEq]
  exact ⟨hschema, hcase.trans hverified.caseID.symm,
    hbinding.trans hverified.caseBindingDigest.symm, hasset.trans hverified.assetIdentity.symm,
    hpolicy.trans hverified.policyID.symm, hversion, hresult, hmode, hauthority, hdate.symm,
    hbound.symm,
    hdeadline.symm, hreserve, hholders.symm, hintact, hopen⟩

end

/-! ## What a call knows -/

section

variable {ι : Type} [DecidableEq ι] {library : Library} {parseTime : String → Option ℤ}
  {root : RecordRoot} {calls : ι → AdapterCall} {i : ι} {mine : List (RecourseDeed ι)}
  {w : Archive ι PublicObject RecourseValue Empty}

/-- The clock that is bound, on the record of what was done. -/
def ClockBound (history : List (RecourseDeed ι)) (clock : RecourseClockBinding) : Prop :=
  ∃ j, .created j .recourseClock (.clock clock) ∈ history

/-- The record that is returned is stored, on the clock that is bound. -/
def Recorded (library : Library) (parseTime : String → Option ℤ) (root : RecordRoot)
    (call : AdapterCall) (record : RecourseRecord)
    (w : Archive ι PublicObject RecourseValue Empty) : Prop :=
  w.objects .recourseRecord = some (.record record) ∧ ∃ terms clock,
    w.objects .recourseClock = some (.clock clock) ∧
      RecordedOn library parseTime root call terms clock record

omit [DecidableEq ι] in
/-- What is there beside clock and record was there at the start. -/
theorem root_of_bytes (hsound : w.Sound (recourseCharter library parseTime root calls))
    {object : PublicObject} {data : Bytes} (h : w.objects object = some (.bytes data)) :
    root.objects object = some (.bytes data) := by
  rcases hsound.stored.mp h with hstart | ⟨i, hcreated⟩
  · exact hstart
  · have hjustified : JustifiedRecourse library parseTime root calls w.history i (.bytes data)
        object := hsound.justified hcreated
    cases object with
    | recourseClock =>
        obtain ⟨_, _, -, hvalue⟩ := hjustified
        exact nomatch hvalue
    | recourseRecord =>
        obtain ⟨_, _, _, -, -, hvalue⟩ := hjustified
        exact nomatch hvalue
    | _ => exact hjustified.elim

omit [DecidableEq ι] in
theorem clock_of_created (hsound : w.Sound (recourseCharter library parseTime root calls))
    {clock : RecourseClockBinding} (h : ClockBound w.history clock) :
    w.objects .recourseClock = some (.clock clock) := by
  obtain ⟨j, hcreated⟩ := h
  exact hsound.there hcreated

/-- The clock is bound, by this call or an earlier one. -/
theorem upholds_bindRecourseClock {terms : RecourseTerms}
    (hadapted : Adapted library parseTime root (calls i) terms)
    (hat : (recourseCharter library parseTime root calls).At i mine w) :
    Upholds (recourseCharter library parseTime root calls).discipline i
      (onOk fun clock t => (∃ mine, (recourseCharter library parseTime root calls).At i mine t) ∧
        ClockBound t.history clock)
      (bindRecourseClock library parseTime terms (calls i).clock) w := by
  apply upholds_look_bind hat
  intro t seen _ hat hseen
  split
  · refine upholds_lift hat fun u clock hlater hat hclock => ?_
    rw [readClock] at hclock
    split at hclock
    · next found hfound =>
        obtain rfl := Except.ok.inj hclock
        refine ⟨⟨_, hat⟩, hat.sound.created (hlater.objects _ _ (hseen _ _ hfound)) root.unbound⟩
    · cases hclock
  · refine upholds_throwIf_bind fun hwindow => ?_
    obtain ⟨hreleased, hunexpired⟩ := not_or.mp hwindow
    refine upholds_lift_bind fun recordDate hdate => ?_
    apply upholds_create_bind hat
    · intro u _ _
      exact ⟨terms, _, ⟨hadapted, not_lt.mp hreleased, not_lt.mp hunexpired, recordDate,
        require_ok_iff.mp hdate, rfl⟩, rfl⟩
    · intro u _ hat
      refine upholds_throwIf_bind fun _ => ?_
      refine upholds_pure hat fun v hlater hat => ⟨⟨_, hat⟩, i, ?_⟩
      exact hat.mem List.mem_cons_self
    · intro u _ _
      exact upholds_throwIf_bind fun hfalse => (hfalse rfl).elim

/-- The record is stored, by this call or an earlier one. -/
theorem upholds_storeRecourseRecord {terms : RecourseTerms} {clock : RecourseClockBinding}
    {record : RecourseRecord} (hclock : ClockBound w.history clock)
    (hrecorded : RecordedOn library parseTime root (calls i) terms clock record)
    (hat : (recourseCharter library parseTime root calls).At i mine w) :
    Upholds (recourseCharter library parseTime root calls).discipline i
      (onOk (Recorded library parseTime root (calls i))) (storeRecourseRecord record) w := by
  have hthere := clock_of_created hat.sound hclock
  apply upholds_look_bind hat
  intro t seen hlater hat hseen
  split
  · refine upholds_lift_bind fun prior hprior => ?_
    refine upholds_throwIf_bind fun hsame => ?_
    obtain rfl := not_not.mp hsame
    rw [readRecord] at hprior
    split at hprior
    · next found hfound =>
        obtain rfl := Except.ok.inj hprior
        refine upholds_pure hat fun u hlater' hat => ?_
        exact ⟨hlater'.objects _ _ (hseen _ _ hfound), terms, clock,
          (hlater.trans hlater').objects _ _ hthere, hrecorded⟩
    · cases hprior
  · apply upholds_create_bind hat
    · intro u hlater' _
      obtain ⟨j, hcreated⟩ := hclock
      exact ⟨terms, clock, record, ⟨j, (hlater.trans hlater').subset hcreated⟩, hrecorded, rfl⟩
    · intro u hlater' hat
      refine upholds_throwIf_bind fun _ => ?_
      refine upholds_pure hat fun v hlater'' hat => ?_
      exact ⟨hat.sound.there (hat.mem List.mem_cons_self), terms, clock,
        ((hlater.trans hlater').trans hlater'').objects _ _ hthere, hrecorded⟩
    · intro u _ _
      exact upholds_throwIf_bind fun hfalse => (hfalse rfl).elim

/-- **Step.** A call keeps to the charter, and returns what is stored. -/
theorem upholds_adapt (hat : (recourseCharter library parseTime root calls).At i [] w) :
    Upholds (recourseCharter library parseTime root calls).discipline i
      (onOk (Recorded library parseTime root (calls i)))
      (adaptSignedResultToRecourse library parseTime (calls i)) w := by
  refine upholds_lift_bind fun ⟨binding, result⟩ hchecked => ?_
  apply upholds_look_bind hat
  intro t seen _ hat hseen
  refine upholds_lift_bind fun terms hloaded => ?_
  obtain ⟨rfl, rfl, -⟩ := loadTerms_ok hloaded
  have hroot := loadTerms_mono (fun object data hfound =>
    root_of_bytes hat.sound (hseen _ _ hfound)) hloaded
  have hadapted : Adapted library parseTime root (calls i) terms := ⟨hchecked, hroot⟩
  refine (upholds_bindRecourseClock hadapted hat).andThen fun clock u ⟨⟨mine, hat⟩, hclock⟩ => ?_
  refine upholds_lift_bind fun _ hclockValid => ?_
  refine upholds_lift_bind fun _ hrecordValid => ?_
  exact upholds_storeRecourseRecord hclock ⟨hadapted, hclockValid, hrecordValid, rfl⟩ hat

end

/-! ## A call that is made later -/

section

variable (library : Library) (parseTime : String → Option ℤ)

/-- What a call comes to where it is alone, and what it leaves. -/
def adaptAlone (room : Room PublicObject RecourseValue) (call : AdapterCall)
    (objects : Objects PublicObject RecourseValue) :
    Except Thrown RecourseRecord × Objects PublicObject RecourseValue :=
  (adaptSignedResultToRecourse library parseTime call).alone (storeEffects room) () objects

variable {library parseTime} {room : Room PublicObject RecourseValue} {root : RecordRoot}
  {objects : Objects PublicObject RecourseValue} {call : AdapterCall} {terms : RecourseTerms}
  {clock : RecourseClockBinding} {record : RecourseRecord}

/-- A call that returns a record passed its checks. -/
theorem checked_of_adaptAlone {left : Objects PublicObject RecourseValue}
    (h : adaptAlone library parseTime room call objects = (.ok record, left)) :
    ∃ terms, checkSignedResult library call = .ok (terms.binding, terms.result) ∧
      loadTerms library parseTime terms.binding terms.result objects = .ok terms := by
  cases hchecked : checkSignedResult library call with
  | error refusal =>
      rw [adaptAlone, adaptSignedResultToRecourse, hchecked] at h
      cases (Prod.mk.inj h).1
  | ok pair =>
      obtain ⟨binding, result⟩ := pair
      rw [adaptAlone, adaptSignedResultToRecourse, alone_lift_bind hchecked] at h
      change alone _ _ (lift (loadTerms library parseTime binding result objects) >>=
        _) objects = _ at h
      cases hloaded : loadTerms library parseTime binding result objects with
      | error refusal =>
          rw [hloaded] at h
          cases (Prod.mk.inj h).1
      | ok terms =>
          obtain ⟨rfl, rfl, -⟩ := loadTerms_ok hloaded
          exact ⟨terms, rfl, hloaded⟩

/-- Where the clock is bound, a call does not look at its own. -/
theorem adaptAlone_of_clock (hchecked : checkSignedResult library call =
      .ok (terms.binding, terms.result))
    (hloaded : loadTerms library parseTime terms.binding terms.result objects = .ok terms)
    (hclock : objects .recourseClock = some (.clock clock)) :
    adaptAlone library parseTime room call objects =
      (lift (validateRecourseClockBinding library parseTime clock terms) >>= fun _ =>
        lift (validateCompleteRecourseRecord library parseTime
          (recourseRecordOf library terms clock) terms) >>= fun _ =>
        (storeRecourseRecord (recourseRecordOf library terms clock) :
          RecourseTask RecourseRecord)).alone (storeEffects room) () objects := by
  have hread : readClock objects = .ok clock := by rw [readClock, hclock]
  have hsome : (objects .recourseClock).isSome = true := by rw [hclock]; rfl
  have hbind : bindRecourseClock library parseTime terms call.clock =
      look >>= fun seen => if (seen .recourseClock).isSome then lift (readClock seen)
        else _ := rfl
  rw [adaptAlone, adaptSignedResultToRecourse, alone_lift_bind hchecked]
  show alone _ _ (lift (loadTerms library parseTime terms.binding terms.result
    objects) >>= _) objects = _
  rw [alone_lift_bind hloaded, hbind, Program.bind_assoc]
  show alone _ _ ((if (objects .recourseClock).isSome = true then
    lift (readClock objects) else _) >>= _) objects = _
  rw [if_pos hsome, alone_lift_bind hread]

variable (hadapted : Adapted library parseTime root call terms)
  (hloaded : loadTerms library parseTime terms.binding terms.result objects = .ok terms)
  (hclock : objects .recourseClock = some (.clock clock))
include hadapted hloaded hclock

/-- A stored record is returned where it is the one that clock and result come to. -/
theorem adaptAlone_eq_iff (hrecord : objects .recourseRecord = some (.record record)) :
    adaptAlone library parseTime room call objects = (.ok record, objects) ↔
      validateRecourseClockBinding library parseTime clock terms = .ok () ∧
        record = recourseRecordOf library terms clock := by
  rw [adaptAlone_of_clock hadapted.checked hloaded hclock]
  cases hvalid : validateRecourseClockBinding library parseTime clock terms with
  | error refusal =>
      constructor
      · intro heq
        cases (Prod.mk.inj heq).1
      · rintro ⟨hok, -⟩
        cases hok
  | ok valid =>
      have hread : readRecord objects = .ok record := by rw [readRecord, hrecord]
      have hsome : (objects .recourseRecord).isSome = true := by rw [hrecord]; rfl
      rw [alone_lift_bind rfl, alone_lift_bind (hadapted.complete hvalid)]
      show alone _ _ (if (objects .recourseRecord).isSome = true then
        lift (readRecord objects) >>= _ else _) objects = _ ↔ _
      rw [if_pos hsome, alone_lift_bind hread]
      by_cases hsame : record = recourseRecordOf library terms clock
      · rw [alone_throwIf_bind (not_not.mpr hsame)]
        exact ⟨fun _ => ⟨rfl, hsame⟩, fun _ => rfl⟩
      · constructor
        · intro heq
          rw [Program.throwIf, revertIf, if_pos hsame] at heq
          cases (Prod.mk.inj heq).1
        · rintro ⟨-, hequal⟩
          exact (hsame hequal).elim

/-- Where the clock is bound and no record is stored, a call stores it. -/
theorem adaptAlone_resumed
    (hvalid : validateRecourseClockBinding library parseTime clock terms = .ok ())
    (hrecord : objects .recourseRecord = none)
    (hroom : room objects .recourseRecord (.record (recourseRecordOf library terms clock)) = true) :
    adaptAlone library parseTime room call objects =
      (.ok (recourseRecordOf library terms clock), Function.update objects .recourseRecord
        (some (.record (recourseRecordOf library terms clock)))) := by
  have hnone : ¬ (objects .recourseRecord).isSome = true := by
    rw [hrecord]
    exact nofun
  rw [adaptAlone_of_clock hadapted.checked hloaded hclock, alone_lift_bind hvalid,
    alone_lift_bind (hadapted.complete hvalid)]
  show alone _ _ (if (objects .recourseRecord).isSome = true then _ else _) objects = _
  rw [if_neg hnone]
  exact alone_create_bind ⟨hrecord, hroom⟩

/-- **Lemma (validators).** The loader accepts a stored record exactly where the adapter
returns it. -/
theorem loadValidatedRecourseRecord_iff
    (hrecord : objects .recourseRecord = some (.record record)) :
    loadValidatedRecourseRecord library parseTime terms objects = .ok (some record) ↔
      adaptAlone library parseTime room call objects = (.ok record, objects) := by
  rw [adaptAlone_eq_iff hadapted hloaded hclock hrecord]
  have hsome : (objects .recourseRecord).isSome = true := by rw [hrecord]; rfl
  have hread : readRecord objects = .ok record := by rw [readRecord, hrecord]
  have hreadClock : readClock objects = .ok clock := by rw [readClock, hclock]
  rw [loadValidatedRecourseRecord, if_pos hsome, hread, hreadClock]
  simp only [bind_ok_iff, Except.ok.injEq, exists_eq_left', revertIf_ok_iff, exists_const,
    pure_ok_iff, and_true, not_or, not_not]
  constructor
  · rintro ⟨_, hcomplete, _, hvalid, hdate, hbound, hdeadline, hholders⟩
    exact ⟨hvalid, hadapted.record_eq hcomplete hdate hbound hdeadline hholders⟩
  · rintro ⟨hvalid, rfl⟩
    exact ⟨(), hadapted.complete hvalid, (), hvalid, rfl, rfl, rfl, rfl⟩

end

/-! ## Whole runs -/

section

variable {ι : Type} [DecidableEq ι] {library : Library} {parseTime : String → Option ℤ}
  {root : RecordRoot} {calls : ι → AdapterCall}

/-- A record root and the calls. -/
abbrev RecoursePool (ι : Type) : Type :=
  Pool ι (Archive ι PublicObject RecourseValue Empty) (ArchiveOp PublicObject RecourseValue Empty)
    ArchiveOp.Answer Thrown RecourseRecord

/-- Before any call. -/
def RecordRoot.start (root : RecordRoot) (trouble : ℕ → Trouble PublicObject) : RecoursePool ι :=
  ⟨{ objects := root.objects, trouble }, fun _ => .idle⟩

/-- Calls start, go on and are cut off in any order. -/
def recourseRun (library : Library) (parseTime : String → Option ℤ) (calls : ι → AdapterCall)
    (pool : RecoursePool ι) (moves : List (Move ι Unit)) :
    Except Unscheduled (RecoursePool ι) :=
  run (Pool.exec (archiveEffects ι PublicObject RecourseValue Empty)
    fun i _ => adaptSignedResultToRecourse library parseTime (calls i)) pool moves

/-- What a call has returned. -/
def RecoursePool.returned (pool : RecoursePool ι) (i : ι) : Option RecourseRecord :=
  match pool.thread i with
  | .active (.ret (.ok record)) => some record
  | _ => none

/-- What holds of the recourse of a case at any time, and between two times. -/
structure RecourseOnce (library : Library) (parseTime : String → Option ℤ) (root : RecordRoot)
    (calls : ι → AdapterCall) (before after : RecoursePool ι) : Prop where
  /-- What is stored stays. -/
  kept : before.state.objects.Extends after.state.objects
  /-- What a call returned is the record that is stored. -/
  returned : ∀ {i record}, after.returned i = some record →
    after.state.objects .recourseRecord = some (.record record)
  /-- A record is about a verified result that says conflict and matches case and pins; its
  clock was read once, between the release and the end of the case. -/
  recorded : ∀ {value}, after.state.objects .recourseRecord = some value →
    ∃ i terms clock j record, value = .record record ∧
      Adapted library parseTime root (calls i) terms ∧
      VerifiedConflict library (calls i) terms.binding terms.result ∧
      record = recourseRecordOf library terms clock ∧
      after.state.objects .recourseClock = some (.clock clock) ∧
      record.boundAtUnix = (calls j).clock ∧
      terms.result.releasedAtUnix ≤ record.boundAtUnix ∧
      record.boundAtUnix ≤ terms.binding.expiresAtUnix ∧
      record.cureDeadlineUnix = record.boundAtUnix + 86400
  /-- A call that returned the record or stored it comes to the same when it is made again,
  whatever its clock reads. -/
  retried : ∀ {i record}, after.returned i = some record ∨
      .created i .recourseRecord (.record record) ∈ after.state.history → ∀ now room,
    adaptAlone library parseTime room { calls i with clock := now } after.state.objects =
      (.ok record, after.state.objects)
  /-- A call that was cut off behind the clock is made again on that clock. -/
  resumed : ∀ {i clock}, .created i .recourseClock (.clock clock) ∈ after.state.history →
    after.state.objects .recourseRecord = none → ∀ now room,
      (∀ record, room after.state.objects .recourseRecord (.record record) = true) →
      ∃ record, adaptAlone library parseTime room { calls i with clock := now }
          after.state.objects =
        (.ok record, Function.update after.state.objects .recourseRecord
          (some (.record record))) ∧
        record.boundAtUnix = (calls i).clock ∧
        record.cureDeadlineUnix = (calls i).clock + 86400
  /-- A call to which the adapter returns a record passes its checks. -/
  checked : ∀ {call record room left},
    adaptAlone library parseTime room call after.state.objects = (.ok record, left) →
    ∃ terms, checkSignedResult library call = .ok (terms.binding, terms.result) ∧
      loadTerms library parseTime terms.binding terms.result after.state.objects = .ok terms
  /-- The loader accepts what is stored exactly where the adapter returns it. -/
  accepted : ∀ {record}, after.state.objects .recourseRecord = some (.record record) →
    ∀ call terms room, checkSignedResult library call = .ok (terms.binding, terms.result) →
      loadTerms library parseTime terms.binding terms.result after.state.objects = .ok terms →
      (loadValidatedRecourseRecord library parseTime terms after.state.objects =
          .ok (some record) ↔
        adaptAlone library parseTime room call after.state.objects =
          (.ok record, after.state.objects))

variable {trouble : ℕ → Trouble PublicObject} {earlier later : List (Move ι Unit)}
  {before after : RecoursePool ι}

/-- **Theorem (recourse).** Whatever results are adapted, in whatever order the calls go on
and wherever they are cut off. -/
theorem recourse_clock_once
    (hbefore : recourseRun library parseTime calls (root.start trouble) earlier = .ok before)
    (hafter : recourseRun library parseTime calls before later = .ok after) :
    RecourseOnce library parseTime root calls before after := by
  have hprogram : ∀ i (_ : Unit) w, (recourseCharter library parseTime root calls).At i [] w →
      Upholds (recourseCharter library parseTime root calls).discipline i
        (onOk (Recorded library parseTime root (calls i)))
        (adaptSignedResultToRecourse library parseTime (calls i)) w :=
    fun _ _ _ hat => upholds_adapt hat
  obtain ⟨-, hpool⟩ := Charter.run_sound hprogram hbefore
  have hwhole : recourseRun library parseTime calls (root.start trouble) (earlier ++ later) =
      .ok after := run_append_ok_iff.mpr ⟨before, hbefore, hafter⟩
  obtain ⟨hsound, hpool'⟩ := Charter.run_sound hprogram hwhole
  have hreturned {i : ι} {record : RecourseRecord} (h : after.returned i = some record) :
      Recorded library parseTime root (calls i) record after.state := by
    rw [RecoursePool.returned] at h
    split at h
    · next found hactive =>
        obtain rfl := Option.some.inj h
        exact hpool'.returned hactive _ rfl
    · exact nomatch h
  -- a record lies on the clock
  have hstored {value : RecourseValue}
      (h : after.state.objects .recourseRecord = some value) :
      ∃ i terms clock record, ClockBound after.state.history clock ∧
        RecordedOn library parseTime root (calls i) terms clock record ∧
          value = .record record := by
    obtain ⟨i, hcreated⟩ := hsound.created h root.unrecorded
    obtain ⟨terms, clock, record, hrest⟩ := hsound.justified hcreated
    exact ⟨i, terms, clock, record, hrest⟩
  -- the documents are those of the start
  have hdocuments {call : AdapterCall} {terms : RecourseTerms}
      (h : Adapted library parseTime root call terms) :
      loadTerms library parseTime terms.binding terms.result after.state.objects = .ok terms :=
    loadTerms_mono (fun _ _ hstart => hsound.stored.mpr (.inl hstart)) h.loaded
  refine ⟨(Charter.run_later hprogram hafter hpool).objects, fun h => (hreturned h).1, ?_, ?_, ?_,
    checked_of_adaptAlone, ?_⟩
  · intro value hvalue
    obtain ⟨i, terms, clock, record, hclock, hrecorded, rfl⟩ := hstored hvalue
    obtain ⟨j, hcreated⟩ := hclock
    obtain ⟨terms', clock', hbound, hsame⟩ := hsound.justified hcreated
    obtain rfl := RecourseValue.clock.inj hsame
    obtain ⟨recordDate, -, hclock'⟩ := hbound.bound
    obtain ⟨hreleased, hunexpired, hdeadline⟩ :=
      validateRecourseClockBinding_ok hrecorded.clockValid
    have hverified := checkSignedResult_ok hrecorded.adapted.checked
    have hrecord := hrecorded.record_eq
    have hread : clock.boundAtUnix = (calls j).clock := by rw [hclock']; rfl
    refine ⟨i, terms, clock, j, record, rfl, hrecorded.adapted, hverified, hrecord,
      hsound.there hcreated, ?_, ?_, ?_, ?_⟩ <;> rw [hrecord]
    · exact hread
    · exact hreleased
    · exact hunexpired
    · exact hdeadline
  · intro i record hrecord now room
    have hrecord : Recorded library parseTime root (calls i) record after.state := by
      rcases hrecord with hrecord | hcreated
      · exact hreturned hrecord
      · obtain ⟨terms, clock, found, hclock, hrecorded, hsame⟩ := hsound.justified hcreated
        obtain rfl := RecourseValue.record.inj hsame
        exact ⟨hsound.there hcreated, terms, clock, clock_of_created hsound hclock, hrecorded⟩
    obtain ⟨hthere, terms, clock, hclock, hrecorded⟩ := hrecord
    have hadapted : Adapted library parseTime root { calls i with clock := now } terms :=
      ⟨hrecorded.adapted.checked, hrecorded.adapted.loaded⟩
    exact (adaptAlone_eq_iff hadapted (hdocuments hadapted) hclock hthere).mpr
      ⟨hrecorded.clockValid, hrecorded.record_eq⟩
  · intro i clock hcreated hnone now room hroom
    obtain ⟨terms, clock', hbound, hsame⟩ := hsound.justified hcreated
    obtain rfl := RecourseValue.clock.inj hsame
    have hadapted : Adapted library parseTime root { calls i with clock := now } terms :=
      ⟨hbound.adapted.checked, hbound.adapted.loaded⟩
    obtain ⟨recordDate, -, hclock⟩ := hbound.bound
    refine ⟨recourseRecordOf library terms clock, adaptAlone_resumed hadapted
      (hdocuments hadapted) (hsound.there hcreated) hbound.valid hnone (hroom _), ?_, ?_⟩
    · rw [hclock]
      rfl
    · rw [hclock]
      rfl
  · intro record hrecord call terms room hchecked hloaded
    obtain ⟨i, terms', clock, found, hclock, -, -⟩ := hstored hrecord
    have hroot : loadTerms library parseTime terms.binding terms.result root.objects =
        .ok terms :=
      loadTerms_mono (fun _ _ hfound => root_of_bytes hsound hfound) hloaded
    have hadapted : Adapted library parseTime root call terms := ⟨hchecked, hroot⟩
    exact loadValidatedRecourseRecord_iff hadapted hloaded (clock_of_created hsound hclock) hrecord

end

/-! ## A run -/

def sampleResult : GovernedConflictResult where
  schemaVersion := governedResultSchema
  caseID := importBinding.caseID
  caseBindingDigest := sampleHash [0]
  assetIdentity := importBinding.assetIdentity
  serviceID := serviceID
  serviceVersion := serviceVersion
  policyID := importBinding.policyID
  policyVersion := Coalition.policyVersion
  circuitID := circuitID
  circuitVersion := Coalition.circuitV5Version
  circuitDigest := 33
  parameterProfile := parameterProfile
  parameterFingerprint := 34
  participantArtifactDigests := [61, 62]
  evaluatedArtifactDigest := 63
  resultCiphertextDigest := 64
  resultCiphertextCommitment := 65
  conflict := true
  releaseOrdinal := releaseOrdinal
  releaseMode := releaseModeGovernedDecryptor
  releaseAuthorityID := sampleAuthority
  releaseAuthorityPublicKey := sampleAuthorityKey
  releasedAtUnix := 47
  sourceProvenance := 66
  signature := List.replicate 64 4

def recourseUnmarshal : (document : Document) → Bytes → Option document.Value
  | .governedResult, [17, 10] => some sampleResult
  | document, data => importUnmarshal document data

def recourseLibrary : Library :=
  { importLibrary with
    codec := fun document => ⟨importMarshal document, recourseUnmarshal document⟩ }

def sampleRoot : RecordRoot where
  objects
    | .protectionBinding => some (.bytes [10])
    | .protectionSignature role => some (.bytes [18, role.number, 10])
    | _ => none
  unbound := rfl
  unrecorded := rfl

def samplePins : TrustedRecoursePins := ⟨61, 62, 63, 64, 65, 66, releaseModeGovernedDecryptor,
  sampleAuthority⟩

/-- The first call is made in time, the second when the case is over. -/
def sampleCalls (i : Fin 2) : AdapterCall where
  caseManifest := { sampleManifest with binding := importBinding }
  expectedPins := samplePins
  signedResult := [17, 10]
  clock := if i = 0 then 50 else 1000

/-- A call that is lost when the clock is bound. -/
def lostAdapter : List (Move (Fin 2) Unit) :=
  .start 0 () :: List.replicate 3 (.step 0) ++ [.crash 0]

def nextAdapter : List (Move (Fin 2) Unit) := .start 1 () :: List.replicate 4 (.step 1)

theorem nextAdapter_ok :
    (((recourseRun recourseLibrary sampleTime sampleCalls (sampleRoot.start fun _ => {})
        lostAdapter).toOption.bind fun before =>
      (recourseRun recourseLibrary sampleTime sampleCalls before nextAdapter).toOption).any
        fun after => (after.returned 1).map (fun record =>
          (record.boundAtUnix, record.cureDeadlineUnix)) = some (50, 86450)) = true := by
  decide +kernel

theorem recourse_clock_once_sample :
    ∃ before after : RecoursePool (Fin 2),
      recourseRun recourseLibrary sampleTime sampleCalls (sampleRoot.start fun _ => {})
          lostAdapter = .ok before ∧
        recourseRun recourseLibrary sampleTime sampleCalls before nextAdapter = .ok after ∧
        RecourseOnce recourseLibrary sampleTime sampleRoot sampleCalls before after := by
  obtain ⟨after, hruns, -⟩ := (Option.any_eq_true _ _).mp nextAdapter_ok
  obtain ⟨before, hbefore, hafter⟩ := Option.bind_eq_some_iff.mp hruns
  have hbefore := toOption_eq_some_iff.mp hbefore
  have hafter := toOption_eq_some_iff.mp hafter
  exact ⟨before, after, hbefore, hafter, recourse_clock_once hbefore hafter⟩

end Mordant.GovernedFhe
