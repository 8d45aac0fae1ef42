/-
# What the evidence binds

A field of the evidence is bound when a document that passes cannot be made into
another that passes by changing it, the seal aside.  Everything the signature
covers is bound through the result's own digest or by comparison with a signed
field, with one exception: the policy of the case binding is read and not compared.
-/

import Mathlib.Data.Rat.Encodable
import Mordant.Protection.Evidence

namespace Mordant.Protection

open Foundation Script

/-- The governed result of an evidence document. -/
def governedResultOf (value : Json) : Json := (value.get "governedResult").getD .null

/-- The case binding of an evidence document. -/
def caseBindingOf (value : Json) : Json := (value.get "caseBinding").getD .null

/-- What a document that passed was found to be, step by step. -/
structure AcceptedEvidence (runtime : EvidenceRuntime) (value : Json)
    (expectations : DirectParticipantBridgeExpectations)
    (verified : VerifiedDirectParticipantBridgeEvidence) (digests : EvidenceDigests)
    (binding : DirectParticipantCaseBinding) : Prop where
  object : value.isObject = true
  keys : value.hasExactKeys evidenceFields = true
  schema : textOf value "schemaVersion" = some directParticipantBridgeEvidenceSchema
  variant : textOf value "executionVariant" = some customSupervisedExecutionVariant
  sealed : checkSeal runtime value = .ok ()
  provenance : checkProvenance (value.get "sourceCommit") (value.get "runId") expectations = .ok ()
  digested : readDigests value = .ok digests
  declared : readCaseBinding (value.get "caseBinding") = .ok binding
  result : checkResult runtime (governedResultOf value) digests.governedResultDigest = .ok ()
  bound : checkBinding runtime (governedResultOf value) digests binding
    expectations.assetIdentity = .ok ()
  artifacts : checkArtifacts runtime (governedResultOf value) digests = .ok ()
  admissions : checkAdmissions runtime (value.get "participants") expectations =
    .ok (verified.holderA, verified.holderB)
  leak : checkLeak runtime value = .ok ()
  conflict : (governedResultOf value).get "conflict" = some (.bool verified.conflict)
  evidence : verified.evidence = value
  governedResult : verified.governedResult = governedResultOf value

section

variable {runtime : EvidenceRuntime} {value : Json}
  {expectations : DirectParticipantBridgeExpectations}
  {verified : VerifiedDirectParticipantBridgeEvidence}

theorem rejects_ok_iff {condition : Prop} [Decidable condition] {code message : String} {u : Unit} :
    rejects condition code message = .ok u ↔ ¬ condition :=
  revertIf_ok_iff

theorem exactKeys_ok_iff {expected : List String} {code label : String} {u : Unit} :
    exactKeys value expected code label = .ok u ↔
      value.isObject = true ∧ value.hasExactKeys expected = true := by
  simp only [exactKeys, bind_ok_iff, rejects_ok_iff, Bool.not_eq_false]
  constructor
  · rintro ⟨_, hobject, hkeys⟩
    exact ⟨hobject, hkeys⟩
  · rintro ⟨hobject, hkeys⟩
    exact ⟨(), hobject, hkeys⟩

/-- The verification passes exactly what passes every step. -/
theorem assertEvidence_ok_iff :
    assertDirectParticipantBridgeEvidence runtime value expectations = .ok verified ↔
      ∃ digests binding,
        AcceptedEvidence runtime value expectations verified digests binding := by
  simp only [assertDirectParticipantBridgeEvidence, bind_ok_iff, exactKeys_ok_iff, rejects_ok_iff,
    not_not]
  constructor
  · rintro ⟨_, ⟨hobject, hkeys⟩, _, hschema, _, hvariant, _, hseal, _, hprovenance, digests,
      hdigests, binding, hbinding, _, hresult, _, hbound, _, hartifacts, ⟨holderA, holderB⟩,
      hadmissions, _, hleak, hlast⟩
    split at hlast
    · next conflict hconflict =>
        obtain rfl := Except.ok.inj hlast
        exact ⟨digests, binding, hobject, hkeys, hschema, hvariant, hseal, hprovenance, hdigests,
          hbinding, hresult, hbound, hartifacts, hadmissions, hleak, hconflict, rfl, rfl⟩
    · exact nomatch hlast
  · rintro ⟨digests, binding, h⟩
    refine ⟨(), ⟨h.object, h.keys⟩, (), h.schema, (), h.variant, (), h.sealed, (), h.provenance,
      digests, h.digested, binding, h.declared, (), h.result, (), h.bound, (), h.artifacts,
      (verified.holderA, verified.holderB), h.admissions, (), h.leak, ?_⟩
    have hconflict := h.conflict
    rw [governedResultOf] at hconflict
    rw [hconflict]
    show Except.ok (VerifiedDirectParticipantBridgeEvidence.mk value verified.conflict
      (governedResultOf value) verified.holderA verified.holderB) = .ok verified
    rw [← h.governedResult, ← h.evidence]

end

/-! ## What the steps compare -/

section

variable {runtime : EvidenceRuntime} {value result : Json} {digests : EvidenceDigests}
  {binding : DirectParticipantCaseBinding} {text : Text} {name : String} {u : Unit}
  {member : Option Json}

theorem requireText_ok_iff {test : Text → Bool} {code message : String} :
    requireText test member code message = .ok text ↔
      member = some (.text text) ∧ test text = true := by
  rw [requireText.eq_def]
  split
  · next found =>
      by_cases htest : test found = true
      · rw [if_pos htest]
        constructor
        · intro h
          obtain rfl := Except.ok.inj h
          exact ⟨rfl, htest⟩
        · rintro ⟨hfound, -⟩
          obtain rfl := Json.text.inj (Option.some.inj hfound)
          rfl
      · rw [if_neg htest]
        constructor
        · intro h
          exact nomatch h
        · rintro ⟨hfound, hpasses⟩
          obtain rfl := Json.text.inj (Option.some.inj hfound)
          exact absurd hpasses htest
  · next hother =>
      constructor
      · intro h
        exact nomatch h
      · rintro ⟨rfl, -⟩
        exact absurd rfl (hother text)

theorem digest_ok_iff {code label : String} :
    digest member code label = .ok text ↔
      member = some (.text text) ∧ isLowerSha256Digest text = true :=
  requireText_ok_iff

theorem textOf_eq_some_iff :
    textOf value name = some text ↔ value.get name = some (.text text) := by
  rw [textOf, Option.bind_eq_some_iff]
  constructor
  · rintro ⟨found, hfound, htext⟩
    cases found with
    | text units =>
        obtain rfl := Option.some.inj htext
        exact hfound
    | null | bool _ | number _ | array _ | object _ => exact nomatch htext
  · intro h
    exact ⟨_, h, rfl⟩

/-- The digests of the evidence that are compared with the signed result. -/
structure DigestsRead (value : Json) (digests : EvidenceDigests) : Prop where
  fheCaseId : value.get "fheCaseId" = some (.text digests.fheCaseId)
  caseBindingDigest : value.get "caseBindingDigest" = some (.text digests.caseBindingDigest)
  artifactA : value.get "participantArtifactDigestA" =
    some (.text digests.participantArtifactDigestA)
  artifactB : value.get "participantArtifactDigestB" =
    some (.text digests.participantArtifactDigestB)
  evaluated : value.get "evaluatedArtifactDigest" = some (.text digests.evaluatedArtifactDigest)
  declared : value.get "governedResultDigest" = some (.text digests.governedResultDigest)
  shapeA : isLowerSha256Digest digests.participantArtifactDigestA = true

theorem readDigests_ok (h : readDigests value = .ok digests) : DigestsRead value digests := by
  simp only [readDigests, bind_ok_iff, digest_ok_iff, pure_ok_iff] at h
  obtain ⟨_, ⟨hcase, -⟩, _, -, _, ⟨hbinding, -⟩, _, ⟨hartifactA, hshape⟩, _, ⟨hartifactB, -⟩, _,
    ⟨hevaluated, -⟩, _, ⟨hdeclared, -⟩, _, -, _, -, _, -, rfl⟩ := h
  exact ⟨hcase, hbinding, hartifactA, hartifactB, hevaluated, hdeclared, hshape⟩

/-- A case binding as it is read. -/
structure BindingRead (value : Json) (binding : DirectParticipantCaseBinding) : Prop where
  object : value.isObject = true
  keys : value.hasExactKeys caseBindingFields = true
  caseId : value.get "caseId" = some (.text binding.caseId) ∧
    isLowerSha256Digest binding.caseId = true
  assetIdentity : value.get "assetIdentity" = some (.text binding.assetIdentity) ∧
    isLowerSha256Digest binding.assetIdentity = true
  circuitDigest : value.get "circuitDigest" = some (.text binding.circuitDigest) ∧
    isLowerSha256Digest binding.circuitDigest = true
  parameterFingerprint :
    value.get "parameterFingerprint" = some (.text binding.parameterFingerprint) ∧
      isLowerSha256Digest binding.parameterFingerprint = true
  releaseAuthorityId : value.get "releaseAuthorityId" = some (.text binding.releaseAuthorityId) ∧
    isLowerSha256Digest binding.releaseAuthorityId = true
  policyId : value.get "policyId" = some (.text binding.policyId) ∧
    isLowerSha256Digest binding.policyId = true
  releaseMode : value.get "releaseMode" = some (.text governedDecryptorMode)
  releaseAuthorityPublicKey :
    value.get "releaseAuthorityPublicKey" = some (.text binding.releaseAuthorityPublicKey) ∧
      decide (binding.releaseAuthorityPublicKey ≠ []) = true

theorem readCaseBinding_ok_iff {raw : Option Json} :
    readCaseBinding raw = .ok binding ↔ BindingRead (raw.getD .null) binding := by
  simp only [readCaseBinding, bind_ok_iff, exactKeys_ok_iff, digest_ok_iff, rejects_ok_iff,
    requireText_ok_iff, pure_ok_iff, not_not, textOf_eq_some_iff]
  constructor
  · rintro ⟨_, ⟨hobject, hkeys⟩, _, hcase, _, hasset, _, hcircuit, _, hparameters, _, hauthority, _,
      hpolicy, _, hmode, _, hkey, rfl⟩
    exact ⟨hobject, hkeys, hcase, hasset, hcircuit, hparameters, hauthority, hpolicy, hmode, hkey⟩
  · intro h
    exact ⟨(), ⟨h.object, h.keys⟩, _, h.caseId, _, h.assetIdentity, _, h.circuitDigest, _,
      h.parameterFingerprint, _, h.releaseAuthorityId, _, h.policyId, (), h.releaseMode, _,
      h.releaseAuthorityPublicKey, rfl⟩

/-- The signed fields that are held against the evidence. -/
structure BindingChecked (result : Json) (digests : EvidenceDigests)
    (binding : DirectParticipantCaseBinding) : Prop where
  fheCaseId : result.get "caseId" = some (.text digests.fheCaseId)
  caseId : result.get "caseId" = some (.text binding.caseId)
  caseBindingDigest : result.get "caseBindingDigest" = some (.text digests.caseBindingDigest)
  assetIdentity : result.get "assetIdentity" = some (.text binding.assetIdentity)
  releaseMode : result.get "releaseMode" = some (.text governedDecryptorMode)
  releaseAuthorityId : result.get "releaseAuthorityId" = some (.text binding.releaseAuthorityId)
  releaseAuthorityPublicKey :
    result.get "releaseAuthorityPublicKey" = some (.text binding.releaseAuthorityPublicKey)
  circuitDigest : result.get "circuitDigest" = some (.text binding.circuitDigest)
  parameterFingerprint :
    result.get "parameterFingerprint" = some (.text binding.parameterFingerprint)

theorem checkBinding_ok {expectedAsset : Text}
    (h : checkBinding runtime result digests binding expectedAsset = .ok u) :
    BindingChecked result digests binding := by
  simp only [checkBinding, bind_ok_iff, rejects_ok_iff, not_not, textOf_eq_some_iff] at h
  obtain ⟨_, hfheCase, _, hcase, _, hbinding, _, hasset, _, -, _, -, _, hmode, _, hauthority, _,
    hkey, _, -, _, hcircuit, hparameters⟩ := h
  exact ⟨hfheCase, hcase, hbinding, hasset, hmode, hauthority, hkey, hcircuit, hparameters⟩

/-- The signed artifacts are an array that begins with those of the evidence. -/
structure ArtifactsChecked (result : Json) (digests : EvidenceDigests) (elements : List Json) :
    Prop where
  array : result.get "participantArtifactDigests" = some (.array elements)
  first : elements[0]? = some (.text digests.participantArtifactDigestA)
  second : elements[1]? = some (.text digests.participantArtifactDigestB)
  evaluated : result.get "evaluatedArtifactDigest" = some (.text digests.evaluatedArtifactDigest)

theorem asText_eq_some_iff :
    member.bind Json.asText = some text ↔ member = some (.text text) := by
  cases member with
  | none => simp
  | some found => cases found <;> simp [Json.asText]

theorem length_of_isLowerSha256Digest (h : isLowerSha256Digest text = true) : text.length = 71 := by
  simp only [isLowerSha256Digest, matchesDigits, Bool.and_eq_true, decide_eq_true_eq] at h
  obtain ⟨⟨-, hlength⟩, -⟩ := h
  rw [List.length_drop] at hlength
  have hprefix : (lit "sha256:").length = 7 := by decide
  omega

theorem checkArtifacts_ok (hshape : isLowerSha256Digest digests.participantArtifactDigestA = true)
    (h : checkArtifacts runtime result digests = .ok u) :
    ∃ elements, ArtifactsChecked result digests elements := by
  simp only [checkArtifacts, bind_ok_iff, rejects_ok_iff, not_or, not_not, asText_eq_some_iff,
    textOf_eq_some_iff] at h
  obtain ⟨_, ⟨hartifactA, hartifactB⟩, _, hevaluated, -⟩ := h
  obtain ⟨found, hfound, hfirst⟩ := Option.bind_eq_some_iff.mp hartifactA
  obtain ⟨found', hfound', hsecond⟩ := Option.bind_eq_some_iff.mp hartifactB
  obtain rfl := Option.some.inj (hfound.symm.trans hfound')
  cases found with
  | array elements => exact ⟨elements, hfound, hfirst, hsecond, hevaluated⟩
  | text units =>
      -- an element of a string is a single unit, and no digest
      obtain ⟨unit, -, hunit⟩ := Option.map_eq_some_iff.mp hfirst
      rw [← Json.text.inj hunit] at hshape
      exact nomatch length_of_isLowerSha256Digest hshape
  | null | bool _ | number _ | object _ => exact nomatch hfirst

end

/-! ## What is signed -/

/-- What the results of these documents are written as. -/
def resultTexts (runtime : EvidenceRuntime) (values : List Json) : Set Text :=
  {text | ∃ value ∈ values, governedResultText runtime (governedResultOf value) false = some text}

section

variable {runtime : EvidenceRuntime} {value result other : Json} {name : String}
  {members : List (Text × Json)} {elements elements' : List Json}

theorem isFinite_of_get {found : Json} (hfinite : value.isFinite = true)
    (h : value.get name = some found) : found.isFinite = true := by
  cases value with
  | object members => exact eachFinite_iff.mp hfinite _ (Json.mem_of_get h)
  | null | bool _ | number _ | text _ | array _ => exact nomatch h

theorem filterMap_members_injective {names : List String} (hnodup : (names.map lit).Nodup)
    {f g : String → Option Json}
    (h : (names.filterMap fun name => (f name).map fun member => (lit name, member)) =
      names.filterMap fun name => (g name).map fun member => (lit name, member)) :
    ∀ name ∈ names, f name = g name := by
  have hcarry : ∀ {f g : String → Option Json},
      (names.filterMap fun name => (f name).map fun member => (lit name, member)) =
        (names.filterMap fun name => (g name).map fun member => (lit name, member)) →
      ∀ name ∈ names, ∀ member, f name = some member → g name = some member := by
    intro f g h name hname member hmember
    have hthere : (lit name, member) ∈
        names.filterMap fun name => (f name).map fun member => (lit name, member) :=
      List.mem_filterMap.mpr ⟨name, hname, by rw [hmember, Option.map_some]⟩
    rw [h] at hthere
    obtain ⟨name', hname', hpair⟩ := List.mem_filterMap.mp hthere
    obtain ⟨member', hmember', heq⟩ := Option.map_eq_some_iff.mp hpair
    obtain ⟨hlit, rfl⟩ := Prod.mk.inj heq
    obtain rfl := List.inj_on_of_nodup_map hnodup hname' hname hlit
    exact hmember'
  intro name hname
  apply Option.ext
  intro member
  exact ⟨hcarry h name hname member, hcarry h.symm name hname member⟩

theorem governedResultValue_eq
    (harray : result.get "participantArtifactDigests" = some (.array elements)) :
    governedResultValue result false = some (.object (governedResultFields.filterMap fun name =>
      (result.get name).map fun member => (lit name, member))) := by
  rw [governedResultValue, harray]
  show some (Json.object _) = some (Json.object _)
  congr 2
  apply List.filterMap_congr
  intro name _
  rw [resultMember]
  by_cases hname : name = "participantArtifactDigests"
  · subst hname
    rw [if_pos rfl, harray]
  · rw [if_neg hname, if_neg]
    rintro ⟨-, hsigning⟩
    exact nomatch hsigning

theorem isFinite_governedResultValue (hfinite : result.isFinite = true) :
    (Json.object (governedResultFields.filterMap fun name =>
      (result.get name).map fun member => (lit name, member))).isFinite = true := by
  apply eachFinite_iff.mpr
  intro member hmember
  obtain ⟨name, -, hpair⟩ := List.mem_filterMap.mp hmember
  obtain ⟨found, hfound, rfl⟩ := Option.map_eq_some_iff.mp hpair
  exact isFinite_of_get hfinite hfound

theorem governedResultDigest_ok {digest : Text}
    (h : governedResultDigest runtime result = .ok digest) :
    ∃ text, governedResultText runtime result false = some text ∧
      digest = lit "sha256:" ++ runtime.sha256 text := by
  simp only [governedResultDigest, bind_ok_iff, require_ok_iff, pure_ok_iff] at h
  obtain ⟨text, htext, rfl⟩ := h
  exact ⟨text, htext, rfl⟩

/-- Results of one digest have the same signed members. -/
theorem signed_eq_of_digest (hnumbers : NumberTexts runtime.numberText) {changed : Json}
    (hcollision : Set.InjOn runtime.sha256 (resultTexts runtime [value, changed])) {digest : Text}
    (hfinite : (governedResultOf value).isFinite = true)
    (hfinite' : (governedResultOf changed).isFinite = true)
    (harray : (governedResultOf value).get "participantArtifactDigests" = some (.array elements))
    (harray' : (governedResultOf changed).get "participantArtifactDigests" =
      some (.array elements'))
    (h : governedResultDigest runtime (governedResultOf value) = .ok digest)
    (h' : governedResultDigest runtime (governedResultOf changed) = .ok digest) :
    ∀ name ∈ governedResultFields,
      (governedResultOf changed).get name = (governedResultOf value).get name := by
  obtain ⟨text, htext, hdigest⟩ := governedResultDigest_ok h
  obtain ⟨text', htext', hdigest'⟩ := governedResultDigest_ok h'
  have hsame : text' = text := by
    apply hcollision
    · exact ⟨changed, List.mem_cons_of_mem _ List.mem_cons_self, htext'⟩
    · exact ⟨value, List.mem_cons_self, htext⟩
    · exact List.append_cancel_left (hdigest'.symm.trans hdigest)
  rw [governedResultText, governedResultValue_eq harray] at htext
  rw [governedResultText, governedResultValue_eq harray', hsame] at htext'
  have hwritten := Json.stringify_injective hnumbers (isFinite_governedResultValue hfinite')
    (isFinite_governedResultValue hfinite)
    ((Option.some.inj htext').trans (Option.some.inj htext).symm)
  exact filterMap_members_injective (by decide) (Json.object.inj hwritten)

end

/-! ## Changing one field -/

/-- Another value for one field of the evidence, the seal aside. -/
structure EvidenceChange where
  name : String
  new : Json
  field : name ∈ evidenceFields
  unsealed : name ≠ "evidenceDigest"

namespace EvidenceChange

/-- The document with the field changed, under a seal. -/
def apply (change : EvidenceChange) (value stamp : Json) : Json :=
  (value.set change.name change.new).set "evidenceDigest" stamp

/-- The fields the signature covers: those of the signed result, and those that stand for
some of them. -/
def coveredFields : List String :=
  ["fheCaseId", "caseBindingDigest", "caseBinding", "participantArtifactDigestA",
    "participantArtifactDigestB", "evaluatedArtifactDigest", "governedResultDigest",
    "governedResult"]

/-- The new value is another one, in what the signature covers of it. -/
def Differs (change : EvidenceChange) (value : Json) : Prop :=
  if change.name = "caseBinding" then
    ∃ name ∈ caseBindingFields, change.new.get name ≠ (caseBindingOf value).get name
  else if change.name = "governedResult" then
    ∃ name ∈ governedResultFields, change.new.get name ≠ (governedResultOf value).get name
  else value.get change.name ≠ some change.new

/-- The change puts another digest in the place of the case binding's policy and leaves the
rest of the binding as it is. -/
structure PolicyOnly (change : EvidenceChange) (value : Json) : Prop where
  name : change.name = "caseBinding"
  object : change.new.isObject = true
  keys : change.new.hasExactKeys caseBindingFields = true
  policy : ∃ digest, change.new.get "policyId" = some (.text digest) ∧
    isLowerSha256Digest digest = true
  other : change.new.get "policyId" ≠ (caseBindingOf value).get "policyId"
  rest : ∀ name ∈ caseBindingFields, name ≠ "policyId" →
    change.new.get name = (caseBindingOf value).get name

end EvidenceChange

/-- The evidence binds its case, as far as one change shows: the binding is the one of the
signed result, the Boolean is the signed one, and no seal makes the changed document pass. -/
structure BindsCase (runtime : EvidenceRuntime)
    (expectations : DirectParticipantBridgeExpectations) (value : Json)
    (verified : VerifiedDirectParticipantBridgeEvidence) (change : EvidenceChange) : Prop where
  binding : ∀ name ∈ caseBindingFields,
    (caseBindingOf value).get name = (governedResultOf value).get name
  conflict : (governedResultOf value).get "conflict" = some (.bool verified.conflict)
  signature : verifyGovernedResultSignature runtime (governedResultOf value) = .ok ()
  rejected : change.name ∈ EvidenceChange.coveredFields → change.Differs value →
    ∀ stamp verified', assertDirectParticipantBridgeEvidence runtime (change.apply value stamp)
      expectations ≠ .ok verified'

section

variable {runtime : EvidenceRuntime} {value stamp : Json}
  {expectations : DirectParticipantBridgeExpectations}
  {verified verified' : VerifiedDirectParticipantBridgeEvidence}
  {digests digests' : EvidenceDigests} {binding binding' : DirectParticipantCaseBinding}
  {change : EvidenceChange} {name : String}

theorem BindingRead.eq_signed {bindingValue result : Json} (h : BindingRead bindingValue binding)
    (hchecked : BindingChecked result digests binding) (hname : name ∈ caseBindingFields)
    (hpolicy : name ≠ "policyId") : bindingValue.get name = result.get name := by
  simp only [caseBindingFields, List.mem_cons, List.not_mem_nil, or_false] at hname
  rcases hname with rfl | rfl | rfl | rfl | rfl | rfl | rfl | rfl
  · exact h.caseId.1.trans hchecked.caseId.symm
  · exact h.assetIdentity.1.trans hchecked.assetIdentity.symm
  · exact absurd rfl hpolicy
  · exact h.circuitDigest.1.trans hchecked.circuitDigest.symm
  · exact h.parameterFingerprint.1.trans hchecked.parameterFingerprint.symm
  · exact h.releaseMode.trans hchecked.releaseMode.symm
  · exact h.releaseAuthorityId.1.trans hchecked.releaseAuthorityId.symm
  · exact h.releaseAuthorityPublicKey.1.trans hchecked.releaseAuthorityPublicKey.symm

namespace AcceptedEvidence

variable (h : AcceptedEvidence runtime value expectations verified digests binding)
include h

theorem bindingRead : BindingRead (caseBindingOf value) binding :=
  readCaseBinding_ok_iff.mp h.declared

theorem eq_signed (hname : name ∈ caseBindingFields) (hpolicy : name ≠ "policyId") :
    (caseBindingOf value).get name = (governedResultOf value).get name :=
  h.bindingRead.eq_signed (checkBinding_ok h.bound) hname hpolicy

theorem checkedArtifacts : ∃ elements, ArtifactsChecked (governedResultOf value) digests elements :=
  checkArtifacts_ok (readDigests_ok h.digested).shapeA h.artifacts

theorem resultDigest : governedResultDigest runtime (governedResultOf value) =
    .ok digests.governedResultDigest := by
  have hresult := h.result
  simp only [checkResult, bind_ok_iff, rejects_ok_iff, not_not] at hresult
  obtain ⟨_, -, digest, hdigest, rfl⟩ := hresult
  exact hdigest

theorem signed : verifyGovernedResultSignature runtime (governedResultOf value) = .ok () := by
  have hresult := h.result
  simp only [checkResult, bind_ok_iff, mapError_ok_iff] at hresult
  obtain ⟨_, hsigned, -⟩ := hresult
  exact hsigned

theorem canonical : ∃ encoded, canonicalJson runtime.numberText value = .ok encoded ∧
    checkForbidden encoded forbiddenKeys = .ok () := by
  have hleak := h.leak
  simp only [checkLeak, bind_ok_iff, mapError_ok_iff] at hleak
  exact hleak

theorem isFinite : value.isFinite = true := by
  obtain ⟨encoded, hencoded, -⟩ := h.canonical
  exact isFinite_of_canonical value hencoded

theorem isFinite_result : (governedResultOf value).isFinite = true := by
  rw [governedResultOf]
  cases hresult : value.get "governedResult" with
  | none => rfl
  | some result => exact isFinite_of_get h.isFinite hresult

end AcceptedEvidence

theorem get_apply (hname : lit name ≠ lit change.name) (hseal : lit name ≠ lit "evidenceDigest") :
    (change.apply value stamp).get name = value.get name := by
  rw [EvidenceChange.apply, Json.get_set_of_ne hseal, Json.get_set_of_ne hname]

variable (change stamp) in
/-- The changed field is the new value. -/
theorem get_apply_self (h : AcceptedEvidence runtime value expectations verified digests binding) :
    (change.apply value stamp).get change.name = some change.new := by
  obtain ⟨found, hfound⟩ := Json.get_of_hasExactKeys h.keys change.field
  have hseal : lit change.name ≠ lit "evidenceDigest" := by
    intro hlit
    apply change.unsealed
    exact List.inj_on_of_nodup_map (by decide : (evidenceFields.map lit).Nodup) change.field
      (by decide) hlit
  rw [EvidenceChange.apply, Json.get_set_of_ne hseal, Json.get_set_self hfound]

section

variable (h : AcceptedEvidence runtime value expectations verified digests binding)
  (h' : AcceptedEvidence runtime (change.apply value stamp) expectations verified' digests'
    binding')
include h h'

/-- With the same result, the digests are the same. -/
theorem digests_eq
    (hresult : governedResultOf (change.apply value stamp) = governedResultOf value) :
    digests' = digests := by
  have hchecked := checkBinding_ok h.bound
  have hchecked' := checkBinding_ok h'.bound
  obtain ⟨elements, hartifacts⟩ := h.checkedArtifacts
  obtain ⟨elements', hartifacts'⟩ := h'.checkedArtifacts
  have hdigest' := h'.resultDigest
  rw [hresult] at hchecked' hartifacts' hdigest'
  have htext : ∀ {t t' : Text} {found : Option Json}, found = some (.text t) →
      found = some (.text t') → t' = t := by
    intro t t' found ht ht'
    exact Json.text.inj (Option.some.inj (ht'.symm.trans ht))
  obtain rfl : elements' = elements :=
    Json.array.inj (Option.some.inj (hartifacts'.array.symm.trans hartifacts.array))
  obtain ⟨caseId, caseBinding, artifactA, artifactB, evaluated, declared⟩ := digests
  obtain ⟨caseId', caseBinding', artifactA', artifactB', evaluated', declared'⟩ := digests'
  obtain rfl := htext hchecked.fheCaseId hchecked'.fheCaseId
  obtain rfl := htext hchecked.caseBindingDigest hchecked'.caseBindingDigest
  obtain rfl := htext hartifacts.first hartifacts'.first
  obtain rfl := htext hartifacts.second hartifacts'.second
  obtain rfl := htext hartifacts.evaluated hartifacts'.evaluated
  obtain rfl : declared' = declared := Except.ok.inj (hdigest'.symm.trans h.resultDigest)
  rfl

/-- No digest of the evidence can change alone. -/
theorem not_differs_of_digest (hbinding : change.name ≠ "caseBinding")
    (hresult : change.name ≠ "governedResult")
    (hname : change.name ∈ EvidenceChange.coveredFields) :
    ¬ change.Differs value := by
  have hlit : lit "governedResult" ≠ lit change.name := by
    intro hlit
    exact hresult (List.inj_on_of_nodup_map (by decide : (evidenceFields.map lit).Nodup)
      change.field (by decide) hlit.symm)
  obtain rfl := digests_eq h h' (by
    rw [governedResultOf, get_apply hlit (by decide), governedResultOf])
  have hread := readDigests_ok h.digested
  have hread' := readDigests_ok h'.digested
  have hself := get_apply_self stamp change h
  have hsame : value.get change.name = (change.apply value stamp).get change.name := by
    simp only [EvidenceChange.coveredFields, List.mem_cons, List.not_mem_nil, or_false] at hname
    rcases hname with hn | hn | hn | hn | hn | hn | hn | hn
    · rw [hn, hread.fheCaseId, hread'.fheCaseId]
    · rw [hn, hread.caseBindingDigest, hread'.caseBindingDigest]
    · exact absurd hn hbinding
    · rw [hn, hread.artifactA, hread'.artifactA]
    · rw [hn, hread.artifactB, hread'.artifactB]
    · rw [hn, hread.evaluated, hread'.evaluated]
    · rw [hn, hread.declared, hread'.declared]
    · exact absurd hn hresult
  rw [EvidenceChange.Differs, if_neg hbinding, if_neg hresult, not_not, hsame, hself]

/-- Of the case binding only the policy can change alone. -/
theorem policyOnly_of_differs (hname : change.name = "caseBinding")
    (hdiffers : change.Differs value) :
    change.PolicyOnly value := by
  have hself := get_apply_self stamp change h
  rw [hname] at hself
  have hnew : caseBindingOf (change.apply value stamp) = change.new := by
    rw [caseBindingOf, hself, Option.getD_some]
  have hread' := h'.bindingRead
  rw [hnew] at hread'
  have hresult : governedResultOf (change.apply value stamp) = governedResultOf value := by
    rw [governedResultOf, get_apply (by rw [hname]; decide) (by decide), governedResultOf]
  have hrest : ∀ name ∈ caseBindingFields, name ≠ "policyId" →
      change.new.get name = (caseBindingOf value).get name := by
    intro name hfield hpolicy
    have hsigned := h'.eq_signed hfield hpolicy
    rw [hnew, hresult] at hsigned
    exact hsigned.trans (h.eq_signed hfield hpolicy).symm
  refine ⟨hname, hread'.object, hread'.keys, ⟨_, hread'.policyId⟩, ?_, hrest⟩
  intro hsame
  rw [EvidenceChange.Differs, if_pos hname] at hdiffers
  obtain ⟨name, hfield, hother⟩ := hdiffers
  by_cases hpolicy : name = "policyId"
  · subst hpolicy
    exact hother hsame
  · exact hother (hrest name hfield hpolicy)

/-- The signed result cannot change. -/
theorem not_differs_of_result (hnumbers : NumberTexts runtime.numberText)
    (hcollision : Set.InjOn runtime.sha256
      (resultTexts runtime [value, change.apply value stamp]))
    (hname : change.name = "governedResult") : ¬ change.Differs value := by
  have hself := get_apply_self stamp change h
  rw [hname] at hself
  have hnew : governedResultOf (change.apply value stamp) = change.new := by
    rw [governedResultOf, hself, Option.getD_some]
  obtain ⟨elements, hartifacts⟩ := h.checkedArtifacts
  obtain ⟨elements', hartifacts'⟩ := h'.checkedArtifacts
  have hdeclared : digests'.governedResultDigest = digests.governedResultDigest := by
    have hread' := (readDigests_ok h'.digested).declared
    rw [get_apply (by rw [hname]; decide) (by decide), (readDigests_ok h.digested).declared]
      at hread'
    exact (Json.text.inj (Option.some.inj hread')).symm
  have hdigest' := h'.resultDigest
  rw [hdeclared] at hdigest'
  have hsigned := signed_eq_of_digest hnumbers hcollision h.isFinite_result h'.isFinite_result
    hartifacts.array hartifacts'.array h.resultDigest hdigest'
  rw [hnew] at hsigned
  rw [EvidenceChange.Differs, if_neg (by rw [hname]; decide), if_pos hname]
  rintro ⟨name, hfield, hother⟩
  exact hother (hsigned name hfield)

end

/-! ### A change of the policy passes -/

section

/-- Units that are written as themselves. -/
def isPlainUnit (unit : UInt16) : Bool :=
  unit ≠ 34 && unit ≠ 92 && !(unit < 32) && !isHighSurrogate unit && !isLowSurrogate unit

theorem quoteUnit_plain {unit : UInt16} (h : isPlainUnit unit = true) :
    quoteUnit unit = [unit] := by
  simp only [isPlainUnit, Bool.and_eq_true, decide_eq_true_eq, Bool.not_eq_true',
    decide_eq_false_iff_not, UInt16.lt_iff_toNat_lt, UInt16.reduceToNat] at h
  obtain ⟨⟨⟨⟨hquote, hescape⟩, hcontrol⟩, hhigh⟩, hlow⟩ := h
  have hother : ∀ other : UInt16, other.toNat < 32 → unit ≠ other := by
    rintro other hsmall rfl
    exact hcontrol hsmall
  rw [quoteUnit, if_neg hquote, if_neg hescape, if_neg (hother 8 (by decide)),
    if_neg (hother 9 (by decide)), if_neg (hother 10 (by decide)), if_neg (hother 12 (by decide)),
    if_neg (hother 13 (by decide)), if_neg]
  rw [hhigh, hlow, UInt16.lt_iff_toNat_lt]
  simpa using hcontrol

variable {text : Text}

theorem quoteUnits_plain (h : ∀ unit ∈ text, isPlainUnit unit = true) :
    quoteUnits text = text := by
  induction text using quoteUnits.induct with
  | case1 => rfl
  | case2 unit => exact quoteUnit_plain (h unit List.mem_cons_self)
  | case3 high low rest hpair ih =>
      rw [Bool.and_eq_true] at hpair
      have hplain := h high List.mem_cons_self
      simp [isPlainUnit, hpair.1] at hplain
  | case4 high low rest hpair ih =>
      rw [quoteUnits, if_neg hpair, quoteUnit_plain (h high List.mem_cons_self),
        ih fun unit hunit => h unit (List.mem_cons_of_mem _ hunit)]
      rfl

theorem isPlainUnit_of_digest (h : isLowerSha256Digest text = true) :
    ∀ unit ∈ text, isPlainUnit unit = true := by
  simp only [isLowerSha256Digest, matchesDigits, Bool.and_eq_true, decide_eq_true_eq,
    List.all_eq_true] at h
  obtain ⟨⟨⟨digits, rfl⟩, -⟩, hdigits⟩ := h
  rw [List.drop_left] at hdigits
  intro unit hunit
  rcases List.mem_append.mp hunit with hhead | htail
  · exact forall_of_all (p := (isPlainUnit · = true)) (by decide) unit hhead
  · have hdigit := hdigits unit htail
    simp only [isLowerHexDigit, Bool.or_eq_true, Bool.and_eq_true, decide_eq_true_eq,
      UInt16.le_iff_toNat_le, UInt16.reduceToNat] at hdigit
    simp only [isPlainUnit, isHighSurrogate, isLowSurrogate, Bool.and_eq_true, decide_eq_true_eq,
      Bool.not_eq_true', decide_eq_false_iff_not, Bool.and_eq_false_iff, ne_eq,
      UInt16.le_iff_toNat_le, UInt16.lt_iff_toNat_lt, ← UInt16.toNat_inj, UInt16.reduceToNat]
    omega

theorem stringifyText_digest (h : isLowerSha256Digest text = true) :
    stringifyText text = quoted text := by
  rw [stringifyText, quoteUnits_plain (isPlainUnit_of_digest h)]
  rfl

theorem notMem_quote_of_digest (h : isLowerSha256Digest text = true) : 34 ∉ text := by
  intro hquote
  exact absurd (isPlainUnit_of_digest h 34 hquote) (by decide)

/-- No digest is a forbidden name. -/
theorem ne_forbidden_of_digest (h : isLowerSha256Digest text = true) {forbidden : String}
    (hforbidden : forbidden ∈ forbiddenKeys) : lit forbidden ≠ text := by
  rintro rfl
  have hlength := length_of_isLowerSha256Digest h
  exact absurd hlength ((by decide : ∀ name ∈ forbiddenKeys, (lit name).length ≠ 71)
    forbidden hforbidden)

theorem checkForbidden_ok_iff {encoded : Text} {names : List String} {u : Unit} :
    checkForbidden encoded names = .ok u ↔
      ∀ name ∈ names, includes (quoted (lit name)) encoded = false := by
  induction names with
  | nil => exact ⟨fun _ _ hname => (nomatch hname), fun _ => rfl⟩
  | cons name rest ih =>
      simp only [checkForbidden, bind_ok_iff, rejects_ok_iff, Bool.not_eq_true, ih,
        List.forall_mem_cons]
      constructor
      · rintro ⟨_, hname, hrest⟩
        exact ⟨hname, hrest⟩
      · rintro ⟨hname, hrest⟩
        exact ⟨(), hname, hrest⟩

/-- What follows each quote of a text. -/
def behindQuotes : Text → List Text
  | [] => []
  | unit :: rest => if unit = 34 then rest :: behindQuotes rest else behindQuotes rest

/-- What stands in quotes follows one of them. -/
theorem includes_quoted (name text : Text) : includes (quoted name) text =
    (behindQuotes text).any fun rest => (name ++ [34]).isPrefixOf rest := by
  induction text with
  | nil => rfl
  | cons unit rest ih =>
      rw [includes, ih, behindQuotes, quoted, List.isPrefixOf]
      by_cases hquote : unit = 34
      · rw [if_pos hquote, List.any_cons, hquote, BEq.rfl, Bool.true_and]
      · rw [if_neg hquote, beq_eq_false_iff_ne.mpr (Ne.symm hquote), Bool.false_and,
          Bool.false_or]

/-- No forbidden name follows a quote. -/
def namesNothingForbidden (encoded : Text) : Bool :=
  forbiddenKeys.all fun name =>
    !(behindQuotes encoded).any fun rest => (lit name ++ [34]).isPrefixOf rest

theorem checkLeak_of_namesNothingForbidden
    (h : (canonicalJson runtime.numberText value).toOption.any namesNothingForbidden = true) :
    checkLeak runtime value = .ok () := by
  obtain ⟨encoded, hencoded, hnames⟩ := (Option.any_eq_true _ _).mp h
  have hforbidden : checkForbidden encoded forbiddenKeys = .ok () := by
    rw [checkForbidden_ok_iff]
    intro name hname
    rw [includes_quoted]
    exact (Bool.not_eq_true' _).mp (List.all_eq_true.mp hnames name hname)
  rw [checkLeak, toOption_eq_some_iff.mp hencoded]
  exact hforbidden

/-- Another digest in the text lets nothing forbidden in. -/
theorem checkForbidden_framed {old new text' : Text} (hold : isLowerSha256Digest old = true)
    (hnew : isLowerSha256Digest new = true) (hframed : Framed (quoted old) (quoted new) text text')
    (h : checkForbidden text forbiddenKeys = .ok ()) :
    checkForbidden text' forbiddenKeys = .ok () := by
  rw [checkForbidden_ok_iff] at h ⊢
  intro name hname
  have hquote : 34 ∉ lit name :=
    (by decide : ∀ name ∈ forbiddenKeys, 34 ∉ lit name) name hname
  rw [← hframed.includes_eq hquote (notMem_quote_of_digest hold) (notMem_quote_of_digest hnew)
    (ne_forbidden_of_digest hold hname) (ne_forbidden_of_digest hnew hname)]
  exact h name hname

/-- A digest in the place of another is all that changes in the text. -/
theorem framed_digest {numberText : ℚ → Text} {old new : Text}
    (hold : isLowerSha256Digest old = true) (hnew : isLowerSha256Digest new = true)
    (path written : Text) (h : canonicalizeStrict numberText path (.text old) = .ok written) :
    ∃ written', canonicalizeStrict numberText path (.text new) = .ok written' ∧
      Framed (quoted old) (quoted new) written written' := by
  obtain rfl := Except.ok.inj h
  rw [stringifyText_digest hold]
  refine ⟨quoted new, congrArg Except.ok (stringifyText_digest hnew), [], [], ?_, ?_⟩
  · rw [List.nil_append, List.append_nil]
  · rw [List.nil_append, List.append_nil]

/-- So it is for the binding with another policy. -/
theorem framed_binding {numberText : ℚ → Text} {old new : Json} {policy policy' : Text}
    (hobject : old.isObject = true) (hobject' : new.isObject = true)
    (hkeys : old.hasExactKeys caseBindingFields = true)
    (hkeys' : new.hasExactKeys caseBindingFields = true)
    (hold : old.get "policyId" = some (.text policy) ∧ isLowerSha256Digest policy = true)
    (hnew : new.get "policyId" = some (.text policy') ∧ isLowerSha256Digest policy' = true)
    (hrest : ∀ name ∈ caseBindingFields, name ≠ "policyId" → new.get name = old.get name)
    (path written : Text) (h : canonicalizeStrict numberText path old = .ok written) :
    ∃ written', canonicalizeStrict numberText path new = .ok written' ∧
      Framed (quoted policy) (quoted policy') written written' := by
  have hchange := ChangesAt.of_get hkeys hkeys' (by decide) hold.1 hnew.1 hrest
  obtain ⟨members, rfl⟩ := Json.isObject_iff.mp hobject
  obtain ⟨members', rfl⟩ := Json.isObject_iff.mp hobject'
  have hwritten : ∀ {text : Text}, isLowerSha256Digest text = true →
      canonicalizeStrict numberText (path ++ lit "." ++ lit "policyId") (.text text) =
        .ok (quoted text) :=
    fun htext => congrArg Except.ok (stringifyText_digest htext)
  exact framed_object hchange (hwritten hold.2) (hwritten hnew.2) h

/-- The seal of a document that passed. -/
structure Sealed (runtime : EvidenceRuntime) (value : Json) (stamp body : Text) : Prop where
  stamped : value.get "evidenceDigest" = some (.text stamp) ∧ isLowerSha256Digest stamp = true
  written : canonicalJson runtime.numberText (value.without "evidenceDigest") = .ok body
  digest : stamp = lit "sha256:" ++
    runtime.sha256 (lit "MordantDirectParticipantBridgeEvidence/v1" ++ [0] ++ body)

theorem checkSeal_ok_iff : checkSeal runtime value = .ok () ↔
    ∃ stamp body, Sealed runtime value stamp body := by
  simp only [checkSeal, directParticipantBridgeEvidenceDigest, bind_ok_iff, digest_ok_iff,
    mapError_ok_iff, pure_ok_iff, rejects_ok_iff, not_not]
  constructor
  · rintro ⟨stamp, hstamp, _, ⟨body, hbody, rfl⟩, hdigest⟩
    exact ⟨stamp, body, hstamp, hbody, hdigest⟩
  · rintro ⟨stamp, body, h⟩
    exact ⟨stamp, h.stamped, _, ⟨body, h.written, rfl⟩, h.digest⟩

/-- **A change of the policy passes**, under the seal computed for it. -/
theorem policyOnly_accepted
    (hdigits : ∀ text, isLowerSha256Digest (lit "sha256:" ++ runtime.sha256 text) = true)
    (h : AcceptedEvidence runtime value expectations verified digests binding)
    (hchange : change.PolicyOnly value) :
    ∃ stamp verified', assertDirectParticipantBridgeEvidence runtime (change.apply value stamp)
      expectations = .ok verified' := by
  obtain ⟨policy', hpolicy'⟩ := hchange.policy
  have hread := h.bindingRead
  have hpiece := @framed_binding runtime.numberText _ _ _ _ hread.object hchange.object
    hread.keys hchange.keys hread.policyId hpolicy' hchange.rest
  have hnodup := Json.nodup_of_hasExactKeys h.keys (by decide)
  have hbinding : value.get "caseBinding" = some (caseBindingOf value) := by
    obtain ⟨found, hfound⟩ := Json.get_of_hasExactKeys h.keys
      (by decide : "caseBinding" ∈ evidenceFields)
    rw [caseBindingOf, hfound, Option.getD_some]
  obtain ⟨encoded, hencoded, hforbidden⟩ := h.canonical
  obtain ⟨stamp, body, hsealed⟩ := checkSeal_ok_iff.mp h.sealed
  -- the body under the seal, and the whole under the old seal
  obtain ⟨body', hbody', -⟩ := framed_set rfl (Json.nodup_without hnodup)
    ((Json.get_without (by decide)).trans hbinding) hpiece hsealed.written
  obtain ⟨encoded₁, hencoded₁, hframed₁⟩ := framed_set h.object hnodup hbinding hpiece hencoded
  let stamp' : Text := lit "sha256:" ++
    runtime.sha256 (lit "MordantDirectParticipantBridgeEvidence/v1" ++ [0] ++ body')
  have hstamp' : isLowerSha256Digest stamp' = true := hdigits _
  -- the whole under the new one
  have hnodup₁ : ((value.set "caseBinding" change.new).members.map Prod.fst).Nodup := by
    rwa [Json.keys_set]
  have hstamp₁ : (value.set "caseBinding" change.new).get "evidenceDigest" = some (.text stamp) :=
    (Json.get_set_of_ne (by decide)).trans hsealed.stamped.1
  obtain ⟨encoded₂, hencoded₂, hframed₂⟩ := framed_set rfl hnodup₁ hstamp₁
    (framed_digest hsealed.stamped.2 hstamp') hencoded₁
  refine ⟨.text stamp', ⟨change.apply value (.text stamp'), verified.conflict,
    governedResultOf value, verified.holderA, verified.holderB⟩,
    assertEvidence_ok_iff.mpr ⟨digests, { binding with policyId := policy' }, ?_⟩⟩
  have hname := hchange.name
  have happly : change.apply value (.text stamp') =
      (value.set "caseBinding" change.new).set "evidenceDigest" (.text stamp') := by
    rw [EvidenceChange.apply, hname]
  have hget : ∀ {name : String}, lit name ≠ lit "caseBinding" → lit name ≠ lit "evidenceDigest" →
      (change.apply value (.text stamp')).get name = value.get name := by
    intro name hcase hseal
    exact get_apply (by rwa [hname]) hseal
  have hnew : (change.apply value (.text stamp')).get "caseBinding" = some change.new := by
    rw [happly, Json.get_set_of_ne (by decide), Json.get_set_self hbinding]
  have hresult : governedResultOf (change.apply value (.text stamp')) = governedResultOf value := by
    rw [governedResultOf, hget (by decide) (by decide), governedResultOf]
  constructor
  case object => rfl
  case keys => rw [happly, Json.hasExactKeys_set, Json.hasExactKeys_set, h.keys]
  case schema => rw [textOf, hget (by decide) (by decide)]; exact h.schema
  case variant => rw [textOf, hget (by decide) (by decide)]; exact h.variant
  case sealed =>
    apply checkSeal_ok_iff.mpr
    refine ⟨stamp', body', ?_, ?_, rfl⟩
    · rw [happly]
      exact ⟨Json.get_set_self hstamp₁, hstamp'⟩
    · rw [happly, Json.without_set_self, Json.without_set]
      exact hbody'
  case provenance =>
    rw [hget (by decide) (by decide), hget (by decide) (by decide)]
    exact h.provenance
  case digested =>
    rw [readDigests]
    repeat rw [hget (by decide) (by decide)]
    exact h.digested
  case declared =>
    rw [hnew, readCaseBinding_ok_iff, Option.getD_some]
    have hrest : ∀ {name : String} {found : Option Json}, name ∈ caseBindingFields →
        name ≠ "policyId" → (caseBindingOf value).get name = found → change.new.get name = found :=
      fun hfield hpolicy hfound => (hchange.rest _ hfield hpolicy).trans hfound
    exact
      { object := hchange.object
        keys := hchange.keys
        caseId := ⟨hrest (by decide) (by decide) hread.caseId.1, hread.caseId.2⟩
        assetIdentity :=
          ⟨hrest (by decide) (by decide) hread.assetIdentity.1, hread.assetIdentity.2⟩
        circuitDigest :=
          ⟨hrest (by decide) (by decide) hread.circuitDigest.1, hread.circuitDigest.2⟩
        parameterFingerprint :=
          ⟨hrest (by decide) (by decide) hread.parameterFingerprint.1,
            hread.parameterFingerprint.2⟩
        releaseAuthorityId :=
          ⟨hrest (by decide) (by decide) hread.releaseAuthorityId.1, hread.releaseAuthorityId.2⟩
        policyId := hpolicy'
        releaseMode := hrest (by decide) (by decide) hread.releaseMode
        releaseAuthorityPublicKey :=
          ⟨hrest (by decide) (by decide) hread.releaseAuthorityPublicKey.1,
            hread.releaseAuthorityPublicKey.2⟩ }
  case result => rw [hresult]; exact h.result
  case bound => rw [hresult]; exact h.bound
  case artifacts => rw [hresult]; exact h.artifacts
  case admissions => rw [hget (by decide) (by decide)]; exact h.admissions
  case leak =>
    simp only [checkLeak, bind_ok_iff, mapError_ok_iff]
    refine ⟨encoded₂, ?_, ?_⟩
    · rw [happly]
      exact hencoded₂
    · exact checkForbidden_framed hsealed.stamped.2 hstamp' hframed₂
        (checkForbidden_framed hread.policyId.2 hpolicy'.2 hframed₁ hforbidden)
  case conflict => rw [hresult]; exact h.conflict
  case evidence => rfl
  case governedResult => exact hresult.symm

end

/-- **Evidence of a case.** For every document that passes and every change of one of its
fields: the binding, the Boolean and the signature are those of the signed result, and no
seal lets a change of what the signature covers pass, exactly when the policy of the
binding is the signed one and the change does not put another in its place. -/
theorem evidence_binds_iff (hnumbers : NumberTexts runtime.numberText)
    (hdigits : ∀ text, isLowerSha256Digest (lit "sha256:" ++ runtime.sha256 text) = true)
    (haccepted : assertDirectParticipantBridgeEvidence runtime value expectations = .ok verified)
    (hcollision : ∀ stamp, Set.InjOn runtime.sha256
      (resultTexts runtime [value, change.apply value stamp])) :
    BindsCase runtime expectations value verified change ↔
      (caseBindingOf value).get "policyId" = (governedResultOf value).get "policyId" ∧
        ¬ change.PolicyOnly value := by
  obtain ⟨digests, binding, h⟩ := assertEvidence_ok_iff.mp haccepted
  constructor
  · intro hbinds
    refine ⟨hbinds.binding "policyId" (by decide), ?_⟩
    intro hchange
    obtain ⟨stamp, verified', haccepted'⟩ := policyOnly_accepted hdigits h hchange
    have hcovered : change.name ∈ EvidenceChange.coveredFields := by
      rw [hchange.name]
      decide
    have hdiffers : change.Differs value := by
      rw [EvidenceChange.Differs, if_pos hchange.name]
      exact ⟨"policyId", by decide, hchange.other⟩
    exact hbinds.rejected hcovered hdiffers stamp verified' haccepted'
  · rintro ⟨hpolicy, hchange⟩
    constructor
    case binding =>
      intro name hfield
      by_cases hname : name = "policyId"
      · subst hname
        exact hpolicy
      · exact h.eq_signed hfield hname
    case conflict => exact h.conflict
    case signature => exact h.signed
    case rejected =>
      intro hcovered hdiffers stamp verified' haccepted'
      obtain ⟨digests', binding', h'⟩ := assertEvidence_ok_iff.mp haccepted'
      by_cases hbinding : change.name = "caseBinding"
      · exact hchange (policyOnly_of_differs h h' hbinding hdiffers)
      · by_cases hresult : change.name = "governedResult"
        · exact not_differs_of_result h h' hnumbers (hcollision stamp) hresult hdiffers
        · exact not_differs_of_digest h h' hbinding hresult hcovered hdiffers

end

/-! ## A policy the authority did not sign -/

namespace Sample

def digestText (pair : String) : Text := lit "sha256:" ++ (List.replicate 32 (lit pair)).flatten

def bytes32Text (pair : String) : Text := lit "0x" ++ (List.replicate 32 (lit pair)).flatten

def authorityId : Text :=
  lit "sha256:604748c209fdfc64d40ea91e9c336e5b23b59cc1756a4f205cfd898414b460e4"

def resultSignature : Text :=
  lit ("pZlUEl7WWy3xBO40b8yR+ijumj1FKijSSYDfAa//PyGswQjq0wUJLBEbeg+rX2ifQxGa" ++
    "WU3YM7Uj/AJvQ7jpDQ==")

def rawSignature : List UInt8 :=
  hexBytes (lit ("a59954125ed65b2df104ee346fcc91fa28ee9a3d452a28d24980df01afff3f21" ++
    "acc108ead305092c111b7a0fab5f689f43119a594dd833b523fc026f43b8e90d"))

/-- A result, as the holder of the key signed it. -/
def governedResult : Json :=
  .object
    [(lit "schemaVersion", .text (lit "mordant.governed-conflict-result/1")),
      (lit "caseId", .text (digestText "c1")),
      (lit "caseBindingDigest", .text (digestText "c2")),
      (lit "assetIdentity", .text (digestText "a1")),
      (lit "serviceId", .text (lit "mordant.private-pledge-matching")),
      (lit "serviceVersion", .number (.ofInt 1)),
      (lit "policyId", .text (digestText "d0")),
      (lit "policyVersion", .number (.ofInt 1)),
      (lit "circuitId", .text (lit "mordant.identity-full-fhe-256")),
      (lit "circuitVersion", .number (.ofInt 1)),
      (lit "circuitDigest", .text (digestText "a3")),
      (lit "parameterProfile", .text (lit "mordant.bgv.identity-full-fhe-256.n15/v1")),
      (lit "parameterFingerprint", .text (digestText "a4")),
      (lit "participantArtifactDigests",
        .array [.text (digestText "b1"), .text (digestText "b2")]),
      (lit "evaluatedArtifactDigest", .text (digestText "b3")),
      (lit "resultCiphertextDigest", .text (digestText "c5")),
      (lit "resultCiphertextCommitment", .text (digestText "c6")),
      (lit "conflict", .bool true),
      (lit "releaseOrdinal", .number (.ofInt 1)),
      (lit "releaseMode", .text governedDecryptorMode),
      (lit "releaseAuthorityId", .text authorityId),
      (lit "releaseAuthorityPublicKey", .text signingKey),
      (lit "releasedAtUnix", .number (.ofInt 1784160000)),
      (lit "sourceProvenance", .text (digestText "c7")),
      (lit "signature", .text resultSignature)]

def admissionFact (role wallet digest commitment nonce : String) : Json :=
  .object
    [(lit "role", .text (lit role)),
      (lit "participantWallet", .text (lit "0x" ++ (List.replicate 20 (lit wallet)).flatten)),
      (lit "authorizationDigest", .text (bytes32Text digest)),
      (lit "claimCommitment", .text (bytes32Text commitment)),
      (lit "authorizationNonce", .text (bytes32Text nonce)),
      (lit "chainId", .number (.ofInt 10143)),
      (lit "eligibilityBlock", .number (.ofInt 1))]

def caseBinding (policy : Text) : Json :=
  .object
    [(lit "caseId", .text (digestText "c1")),
      (lit "assetIdentity", .text (digestText "a1")),
      (lit "policyId", .text policy),
      (lit "circuitDigest", .text (digestText "a3")),
      (lit "parameterFingerprint", .text (digestText "a4")),
      (lit "releaseMode", .text governedDecryptorMode),
      (lit "releaseAuthorityId", .text authorityId),
      (lit "releaseAuthorityPublicKey", .text signingKey)]

/-- Evidence whose binding names a policy, under a seal. -/
def evidence (policy stamp : Text) : Json :=
  .object
    [(lit "schemaVersion", .text directParticipantBridgeEvidenceSchema),
      (lit "sourceCommit", .text (List.replicate 20 (lit "ab")).flatten),
      (lit "runId", .text (lit "aaaaaaaa-bbbb-4ccc-8ddd-eeeeeeeeeeee")),
      (lit "executionVariant", .text customSupervisedExecutionVariant),
      (lit "fheCaseId", .text (digestText "c1")),
      (lit "protectionBindingDigest", .text (digestText "c3")),
      (lit "caseBindingDigest", .text (digestText "c2")),
      (lit "caseBinding", caseBinding policy),
      (lit "participants",
        .array [admissionFact "PARTICIPANT_A" "44" "e1" "e2" "e3",
          admissionFact "PARTICIPANT_B" "55" "e4" "e5" "e6"]),
      (lit "participantArtifactDigestA", .text (digestText "b1")),
      (lit "participantArtifactDigestB", .text (digestText "b2")),
      (lit "evaluatedArtifactDigest", .text (digestText "b3")),
      (lit "governedResultDigest", .text
        (lit "sha256:9574290280052915768eae4d824dfeb8868e7579a1c2635c77822620c5a53503")),
      (lit "governedResult", governedResult),
      (lit "customReceiptDigest", .text (digestText "c8")),
      (lit "evidenceDigest", .text stamp)]

def honestStamp : Text := lit "9abf007885f3c9db8e8a4ee2ceba5833f247d1c8c207702bf3994d14b68aab6c"

def forgedStamp : Text := lit "1656bdf5fdc8f3ff953519f7518978961b9e51edbfabdab8235ad58cd36d3627"

def honestEvidence : Json := evidence (digestText "d0") (lit "sha256:" ++ honestStamp)

def forgedEvidence : Json := evidence (digestText "d9") (lit "sha256:" ++ forgedStamp)

/-- The numbers that occur, and something else for each other. -/
def numberText (value : ℚ) : Text :=
  if value = 1 then lit "1"
  else if value = 10143 then lit "10143"
  else if value = 1784160000 then lit "1784160000"
  else List.replicate (Encodable.encode value + 1) 46

/-- The base64 spellings that occur. -/
def resultSpellings : List (Text × List UInt8) :=
  [(signingKey, rawKey), (resultSignature, rawSignature)]

/-- The digests of what is hashed for the two documents. -/
def evidenceRuntime : EvidenceRuntime where
  toRuntime := { runtime with
    sha256 := fun text =>
      if lit "MordantDirectParticipantBridgeEvidence/v1" <+: text then
        if includes (quoted (digestText "d9")) text then forgedStamp else honestStamp
      else lit "9574290280052915768eae4d824dfeb8868e7579a1c2635c77822620c5a53503" }
  utf8 text := text.map UInt16.toUInt8
  decodeBase64 text := (resultSpellings.lookup text).getD []
  encodeBase64 bytes := ((resultSpellings.map Prod.swap).lookup bytes).getD []
  verifyEd25519 key _ signature := key = rawKey && signature = rawSignature
  sha256Bytes _ := lit "604748c209fdfc64d40ea91e9c336e5b23b59cc1756a4f205cfd898414b460e4"
  numberText := numberText

def evidenceExpectations : DirectParticipantBridgeExpectations where
  sourceCommit := (List.replicate 20 (lit "ab")).flatten
  assetIdentity := digestText "a1"
  holderA := lit "0x" ++ (List.replicate 20 (lit "44")).flatten
  holderB := lit "0x" ++ (List.replicate 20 (lit "55")).flatten
  excludedWallets := []
  runId := none

theorem numberTexts : NumberTexts numberText where
  injective := by
    have hother : ∀ (text : Text) (n : ℕ), text.head? ≠ some 46 →
        text ≠ List.replicate (n + 1) 46 := by
      rintro text n hhead rfl
      exact hhead rfl
    intro value value' h
    unfold numberText at h
    split_ifs at h
    all_goals first
      | exact absurd h (hother _ _ (by decide))
      | exact absurd h.symm (hother _ _ (by decide))
      | exact absurd h (by decide)
      | (subst_vars; rfl)
      | skip
    have hlength := congrArg List.length h
    rw [List.length_replicate, List.length_replicate] at hlength
    exact Encodable.encode_injective (Nat.succ.inj hlength)
  nonempty := by
    intro value
    unfold numberText
    split_ifs
    · decide
    · decide
    · decide
    · exact List.cons_ne_nil _ _
  units := by
    intro value
    unfold numberText
    split_ifs
    · exact forall_of_all (by decide)
    · exact forall_of_all (by decide)
    · exact forall_of_all (by decide)
    · intro unit hunit
      obtain rfl := List.eq_of_mem_replicate hunit
      decide

theorem evidence_digits (text : Text) :
    isLowerSha256Digest (lit "sha256:" ++ evidenceRuntime.sha256 text) = true := by
  show isLowerSha256Digest (lit "sha256:" ++ (if _ then (if _ then _ else _) else _)) = true
  split
  · split <;> decide
  · decide

theorem honest_accepted : ∃ verified, assertDirectParticipantBridgeEvidence evidenceRuntime
    honestEvidence evidenceExpectations = .ok verified := by
  have hleak : checkLeak evidenceRuntime honestEvidence = .ok () :=
    checkLeak_of_namesNothingForbidden (by decide +kernel)
  rw [← toBool_eq_true_iff]
  simp only [assertDirectParticipantBridgeEvidence, hleak]
  decide +kernel

theorem forged_accepted : ∃ verified, assertDirectParticipantBridgeEvidence evidenceRuntime
    forgedEvidence evidenceExpectations = .ok verified := by
  have hleak : checkLeak evidenceRuntime forgedEvidence = .ok () :=
    checkLeak_of_namesNothingForbidden (by decide +kernel)
  rw [← toBool_eq_true_iff]
  simp only [assertDirectParticipantBridgeEvidence, hleak]
  decide +kernel

/-- Another case. -/
def otherCase : EvidenceChange where
  name := "fheCaseId"
  new := .text (digestText "c9")
  field := by decide
  unsealed := by decide

end Sample

/-- A document passes whose binding names a policy the authority did not sign, and it
differs in the policy and the seal alone from one that names the signed one. -/
theorem foreign_policy_accepted :
    (∃ verified, assertDirectParticipantBridgeEvidence Sample.evidenceRuntime
        Sample.honestEvidence Sample.evidenceExpectations = .ok verified) ∧
      (∃ verified, assertDirectParticipantBridgeEvidence Sample.evidenceRuntime
        Sample.forgedEvidence Sample.evidenceExpectations = .ok verified) ∧
      (∃ stamp policy, Sample.forgedEvidence = (Sample.honestEvidence.set "caseBinding"
        ((caseBindingOf Sample.honestEvidence).set "policyId" policy)).set "evidenceDigest"
          stamp) ∧
      (caseBindingOf Sample.forgedEvidence).get "policyId" ≠
        (governedResultOf Sample.forgedEvidence).get "policyId" := by
  refine ⟨?_, ?_, ?_, ?_⟩
  · exact Sample.honest_accepted
  · exact Sample.forged_accepted
  · exact ⟨.text (lit "sha256:" ++ Sample.forgedStamp), .text (Sample.digestText "d9"), by rfl⟩
  · intro h
    have htext : textOf (caseBindingOf Sample.forgedEvidence) "policyId" =
        textOf (governedResultOf Sample.forgedEvidence) "policyId" :=
      congrArg (Option.bind · Json.asText) h
    exact absurd htext (by decide +kernel)

/-- The equivalence for the document with the signed policy and another case. -/
theorem evidence_binds_sample :
    ∃ verified, assertDirectParticipantBridgeEvidence Sample.evidenceRuntime
        Sample.honestEvidence Sample.evidenceExpectations = .ok verified ∧
      BindsCase Sample.evidenceRuntime Sample.evidenceExpectations Sample.honestEvidence verified
        Sample.otherCase := by
  obtain ⟨verified, haccepted⟩ := Sample.honest_accepted
  refine ⟨verified, haccepted, (evidence_binds_iff Sample.numberTexts Sample.evidence_digits
    haccepted ?_).mpr ⟨rfl, fun hchange => absurd hchange.name (by decide)⟩⟩
  -- both documents have the same result, so one text is hashed
  rintro stamp text ⟨value, hvalue, htext⟩ text' ⟨value', hvalue', htext'⟩ -
  have hresult : ∀ value ∈ [Sample.honestEvidence,
      Sample.otherCase.apply Sample.honestEvidence stamp],
      governedResultOf value = Sample.governedResult := by
    intro value hvalue
    rcases List.mem_pair.mp hvalue with rfl | rfl
    · rfl
    · rw [governedResultOf, get_apply (by decide) (by decide)]
      rfl
  rw [hresult value hvalue] at htext
  rw [hresult value' hvalue'] at htext'
  exact Option.some.inj (htext.symm.trans htext')

end Mordant.Protection
