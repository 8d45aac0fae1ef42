/-
# Combining the answers of a quorum

A coordinator releases a bit from the answers of two operators.  Answers are looked up, checked
and added up one by one; the sum decrypts the ciphertext, and what it decrypts to is checked
before its first slot is read.  Two copies of the function differ in that last check.

The answers may come from anyone and in any order.  What is counted is what an operator of the
manifest signed for this very release, at most once for a point.
-/

import Mordant.Circuit.Policy
import Mordant.Coalition.OneShot
import Mordant.Coalition.ReleaseStatement
import Mordant.Foundation.Quorum

namespace Mordant.Coalition

open Evm Foundation

/-- What the combiner calls and does not implement. -/
structure SwitchLibrary where
  keccak256 : Bytes → Digest
  ed25519Verify : Bytes → Bytes → Bytes → Bool
  ciphertextCommitment : Ciphertext → Except String Digest
  protocolBindingDigest : Digest → Ciphertext → Except String Digest
  newKeySwitchProtocol : Except String Unit
  level : Ciphertext → ℕ
  Share : Type
  allocateShare : ℕ → Share
  unmarshalShare : Bytes → Option Share
  shareLevel : Share → ℕ
  aggregateShares : Share → Share → Option Share
  /-- The first slot and the others of the ciphertext switched by the sum of the shares,
  decrypted under the zero key and decoded. -/
  decodeSwitched : Ciphertext → Share → Option (ℕ × List ℕ)

def invalidReleaseShare : String := "invalid threshold release share"
def insufficientShare : String := "insufficient threshold shares"

/-- The operator that `publicByID` holds: the last one of its id. -/
def ThresholdManifest.publicByID (manifest : ThresholdManifest) (operatorID : Digest) :
    Option ThresholdOperatorPublic :=
  manifest.operators.reverse.find? (·.operatorID = operatorID)

/-- What the loop over the responses has gathered. -/
structure Tally (library : SwitchLibrary) where
  combined : library.Share
  seenPoints : List Word64 := []
  statementDigests : List Digest := []

section

variable (library : SwitchLibrary) (descriptor : ReleaseDescriptor) (manifest : ThresholdManifest)
  (ciphertext : Ciphertext)

/-- The statement that is expected of a response. -/
def expectedStatement (response : ThresholdReleaseResponse) : Digest :=
  thresholdResponseStatementDigest library.keccak256 descriptor response.operatorID response.point
    response.shareDigest

/-- One round of the loop over the responses. -/
def countResponse (tally : Tally library) (response : ThresholdReleaseResponse) :
    Except String (Tally library) := do
  let operator ← require invalidReleaseShare (manifest.publicByID response.operatorID)
  revertIf (operator.point ≠ response.point ∨
    ¬ coalitionContains descriptor.coalition response.point) invalidReleaseShare
  revertIf (response.point ∈ tally.seenPoints) invalidReleaseShare
  revertIf (response.sessionID ≠ descriptor.sessionID ∨
    response.protocolBinding ≠ descriptor.protocolBinding ∨
    response.shareDigest ≠ library.keccak256 response.share) invalidReleaseShare
  let expected := expectedStatement library descriptor response
  revertIf (expected ≠ response.statementDigest ∨
    library.ed25519Verify operator.signingPublicKey (wordBytes expected) response.signature = false)
    "invalid enrollment signature"
  revertIf (response.share.length = 0 ∨ maxReleaseShareSize < response.share.length)
    invalidReleaseShare
  let share ← require invalidReleaseShare (library.unmarshalShare response.share)
  revertIf (library.shareLevel share ≠ library.level ciphertext) invalidReleaseShare
  let combined ← require invalidReleaseShare (library.aggregateShares share tally.combined)
  pure
    { combined
      seenPoints := tally.seenPoints ++ [response.point]
      statementDigests := tally.statementDigests ++ [expected] }

/-- The loop over the responses. -/
def countResponses (tally : Tally library) : List ThresholdReleaseResponse →
    Except String (Tally library)
  | [] => .ok tally
  | response :: rest => do
    let tally ← countResponse library descriptor manifest ciphertext tally response
    countResponses tally rest

/-- Everything before the sum is put to use. -/
def tallyResponses (responses : List ThresholdReleaseResponse) :
    Except String (Tally library) := do
  (validateReleaseDescriptor descriptor).mapError fun _ => insufficientShare
  revertIf (responses.length ≠ manifest.threshold.toNat ∨ manifest.threshold ≠ 2) insufficientShare
  revertIf (descriptor.keyID ≠ manifest.keyID ∨
    descriptor.parameterFingerprint ≠ manifest.parameterFingerprint) "wrong key id"
  revertIf ((library.ciphertextCommitment ciphertext).toOption ≠
    some descriptor.resultCiphertextCommitment) "malformed encrypted pledge"
  revertIf ((library.protocolBindingDigest manifest.keyID ciphertext).toOption ≠
    some descriptor.protocolBinding) "invalid threshold protocol binding"
  library.newKeySwitchProtocol
  let tally ← countResponses library descriptor manifest ciphertext
    { combined := library.allocateShare (library.level ciphertext) } responses
  revertIf (tally.seenPoints.length ≠ manifest.threshold.toNat) insufficientShare
  pure tally

/-- The body that the two combiners share, with the check of what is decoded. -/
def combineShares (check : ℕ → List ℕ → Except String Unit)
    (responses : List ThresholdReleaseResponse) : Except String (Bool × Digest) := do
  let tally ← tallyResponses library descriptor manifest ciphertext responses
  let (first, others) ← require invalidReleaseShare
    (library.decodeSwitched ciphertext tally.combined)
  check first others
  let confirmed : Bool := first = 1
  pure (confirmed, thresholdTranscriptCommitment library.keccak256 descriptor
    tally.statementDigests confirmed)

/-- `ErrReleaseSlotsNotCanonical`, with the slot it names. -/
def notCanonicalText : Circuit.CircuitError → String
  | .releaseSlotsNotCanonical (some (0, value)) =>
    "released plaintext is not canonical: slot 0 is " ++ toString value ++ ", not a Boolean"
  | .releaseSlotsNotCanonical (some (slot, value)) =>
    "released plaintext is not canonical: slot " ++ toString slot ++ " is " ++ toString value ++
      ", expected 0"
  | _ => "released plaintext is not canonical"

/-- `CombineReleaseBitV5`: the whole slot vector has to be canonical. -/
def combineReleaseBitV5 : List ThresholdReleaseResponse → Except String (Bool × Digest) :=
  combineShares library descriptor manifest ciphertext fun first others =>
    (Circuit.requireCanonicalReleaseVector (first :: others)).mapError notCanonicalText

/-- `CombineZeroKeySwitchShares`: only the first slot is looked at. -/
def combineZeroKeySwitchShares : List ThresholdReleaseResponse → Except String (Bool × Digest) :=
  combineShares library descriptor manifest ciphertext fun first _ =>
    revertIf (1 < first) invalidReleaseShare

end

/-! ## What is counted -/

/-- What one round asks of a response by itself. -/
structure Counts (library : SwitchLibrary) (descriptor : ReleaseDescriptor)
    (manifest : ThresholdManifest) (ciphertext : Ciphertext)
    (response : ThresholdReleaseResponse) : Prop where
  operator : ∃ operator, manifest.publicByID response.operatorID = some operator ∧
    operator.point = response.point ∧ library.ed25519Verify operator.signingPublicKey
      (wordBytes (expectedStatement library descriptor response)) response.signature = true
  coalition : coalitionContains descriptor.coalition response.point
  sessionID : response.sessionID = descriptor.sessionID
  protocolBinding : response.protocolBinding = descriptor.protocolBinding
  shareDigest : response.shareDigest = library.keccak256 response.share
  statementDigest : expectedStatement library descriptor response = response.statementDigest
  shareLength : response.share.length ≠ 0 ∧ response.share.length ≤ maxReleaseShareSize
  shareLevel : ∃ share, library.unmarshalShare response.share = some share ∧
    library.shareLevel share = library.level ciphertext

section

variable {library : SwitchLibrary} {descriptor : ReleaseDescriptor} {manifest : ThresholdManifest}
  {ciphertext : Ciphertext} {response : ThresholdReleaseResponse} {tally next : Tally library}
  {responses others : List ThresholdReleaseResponse} {result : Bool × Digest}
  {check : ℕ → List ℕ → Except String Unit}

/-- The sum of the shares after some. -/
def shareSum (library : SwitchLibrary) (total : Option library.Share)
    (responses : List ThresholdReleaseResponse) : Option library.Share :=
  (responses.map fun response => library.unmarshalShare response.share).foldl
    (contribute library.aggregateShares) total

/-- One round counts a response that passes its own checks, at a point that was not seen, if
its share can be added. -/
theorem countResponse_ok_iff :
    countResponse library descriptor manifest ciphertext tally response = .ok next ↔
      Counts library descriptor manifest ciphertext response ∧
        response.point ∉ tally.seenPoints ∧
        contribute library.aggregateShares (some tally.combined)
          (library.unmarshalShare response.share) = some next.combined ∧
        next.seenPoints = tally.seenPoints ++ [response.point] ∧
        next.statementDigests =
          tally.statementDigests ++ [expectedStatement library descriptor response] := by
  simp only [countResponse, bind_ok_iff, require_ok_iff, revertIf_ok_iff, exists_unit, pure_ok_iff,
    not_or, not_not, not_lt, Bool.not_eq_false]
  constructor
  · rintro ⟨operator, hfound, ⟨hpoint, hcoalition⟩, hseen, ⟨hsession, hbinding, hdigest⟩,
      ⟨hstatement, hverify⟩, hlength, share, hshare, hlevel, combined, hcombined, rfl⟩
    refine ⟨⟨⟨operator, hfound, hpoint, hverify⟩, hcoalition, hsession, hbinding, hdigest,
      hstatement, hlength, share, hshare, hlevel⟩, hseen, ?_, rfl, rfl⟩
    rw [hshare]
    exact hcombined
  · rintro ⟨h, hseen, hcombined, hpoints, hdigests⟩
    obtain ⟨operator, hfound, hpoint, hverify⟩ := h.operator
    obtain ⟨share, hshare, hlevel⟩ := h.shareLevel
    rw [hshare] at hcombined
    refine ⟨operator, hfound, ⟨hpoint, h.coalition⟩, hseen,
      ⟨h.sessionID, h.protocolBinding, h.shareDigest⟩, ⟨h.statementDigest, hverify⟩,
      h.shareLength, share, hshare, hlevel, next.combined, hcombined, ?_⟩
    cases next
    simp_all only

/-- The loop counts responses that each pass their own checks, at points that were not seen and
differ, if their shares add up. -/
theorem countResponses_ok_iff :
    countResponses library descriptor manifest ciphertext tally responses = .ok next ↔
      (∀ response ∈ responses, Counts library descriptor manifest ciphertext response) ∧
        (∀ response ∈ responses, response.point ∉ tally.seenPoints) ∧
        (responses.map ThresholdReleaseResponse.point).Nodup ∧
        shareSum library (some tally.combined) responses = some next.combined ∧
        next.seenPoints = tally.seenPoints ++ responses.map ThresholdReleaseResponse.point ∧
        next.statementDigests =
          tally.statementDigests ++ responses.map (expectedStatement library descriptor) := by
  induction responses generalizing tally with
  | nil =>
      rw [countResponses, Except.ok.injEq]
      constructor
      · rintro rfl
        simp [shareSum]
      · rintro ⟨-, -, -, hcombined, hpoints, hdigests⟩
        rw [List.map_nil, List.append_nil] at hpoints hdigests
        cases tally
        cases next
        simp_all [shareSum]
  | cons response rest ih =>
      rw [countResponses, bind_ok_iff]
      simp only [countResponse_ok_iff, ih, List.forall_mem_cons, List.map_cons, List.nodup_cons]
      rw [shareSum, List.map_cons, List.foldl_cons]
      constructor
      · rintro ⟨middle, ⟨hcounts, hseen, hadd, hpoints, hdigests⟩, hrest, hunseen, hnodup, hsum,
          hnext, hnextDigests⟩
        rw [hpoints] at hunseen hnext
        rw [hdigests] at hnextDigests
        refine ⟨⟨hcounts, hrest⟩, ⟨hseen, ?_⟩, ⟨?_, hnodup⟩, ?_, ?_, ?_⟩
        · exact fun other hother hmem => hunseen other hother (List.mem_append_left _ hmem)
        · intro hmem
          obtain ⟨other, hother, hsame⟩ := List.mem_map.mp hmem
          exact hunseen other hother (List.mem_append_right _ (hsame ▸ List.mem_singleton_self _))
        · rw [hadd]
          exact hsum
        · rw [hnext, List.append_assoc, List.singleton_append]
        · rw [hnextDigests, List.append_assoc, List.singleton_append]
      · rintro ⟨⟨hcounts, hrest⟩, ⟨hseen, hunseen⟩, ⟨hnew, hnodup⟩, hsum, hnext, hnextDigests⟩
        obtain ⟨combined, hcombined⟩ : ∃ combined, contribute library.aggregateShares
            (some tally.combined) (library.unmarshalShare response.share) = some combined := by
          apply Option.ne_none_iff_exists'.mp
          intro hnone
          rw [hnone, foldl_contribute_none] at hsum
          exact nomatch hsum
        refine ⟨⟨combined, tally.seenPoints ++ [response.point],
          tally.statementDigests ++ [expectedStatement library descriptor response]⟩,
          ⟨hcounts, hseen, hcombined, rfl, rfl⟩, hrest, ?_, hnodup, ?_, ?_, ?_⟩
        · intro other hother hmem
          rcases List.mem_append.mp hmem with hmem | hmem
          · exact hunseen other hother hmem
          · exact hnew (List.mem_singleton.mp hmem ▸ List.mem_map_of_mem hother)
        · rw [← hcombined]
          exact hsum
        · rw [hnext, List.append_assoc, List.singleton_append]
        · rw [hnextDigests, List.append_assoc, List.singleton_append]

/-- What is asked before any response is looked at. -/
structure Releasable (library : SwitchLibrary) (descriptor : ReleaseDescriptor)
    (manifest : ThresholdManifest) (ciphertext : Ciphertext) : Prop where
  shape : validateReleaseDescriptor descriptor = .ok ()
  threshold : manifest.threshold = 2
  keyID : descriptor.keyID = manifest.keyID
  parameterFingerprint : descriptor.parameterFingerprint = manifest.parameterFingerprint
  commitment : (library.ciphertextCommitment ciphertext).toOption =
    some descriptor.resultCiphertextCommitment
  binding : (library.protocolBindingDigest manifest.keyID ciphertext).toOption =
    some descriptor.protocolBinding
  protocol : library.newKeySwitchProtocol = .ok ()

theorem tallyResponses_ok_iff :
    tallyResponses library descriptor manifest ciphertext responses = .ok tally ↔
      Releasable library descriptor manifest ciphertext ∧ responses.length = 2 ∧
        (∀ response ∈ responses, Counts library descriptor manifest ciphertext response) ∧
        (responses.map ThresholdReleaseResponse.point).Nodup ∧
        shareSum library (some (library.allocateShare (library.level ciphertext))) responses =
          some tally.combined ∧
        tally.seenPoints = responses.map ThresholdReleaseResponse.point ∧
        tally.statementDigests = responses.map (expectedStatement library descriptor) := by
  simp only [tallyResponses, bind_ok_iff, revertIf_ok_iff, exists_unit, mapError_ok_iff,
    pure_ok_iff, countResponses_ok_iff, not_or, not_not, List.nil_append, List.not_mem_nil,
    not_false_eq_true, implies_true, true_and]
  constructor
  · rintro ⟨hshape, ⟨hlength, hthreshold⟩, ⟨hkey, hparameter⟩, hcommitment, hbinding, hprotocol,
      tally', ⟨hcounts, hnodup, hsum, hpoints, hdigests⟩, -, rfl⟩
    refine ⟨⟨hshape, hthreshold, hkey, hparameter, hcommitment, hbinding, hprotocol⟩, ?_, hcounts,
      hnodup, hsum, hpoints, hdigests⟩
    rw [hlength, hthreshold]
    rfl
  · rintro ⟨h, hlength, hcounts, hnodup, hsum, hpoints, hdigests⟩
    have hquorum : responses.length = manifest.threshold.toNat := by
      rw [hlength, h.threshold]
      rfl
    refine ⟨h.shape, ⟨hquorum, h.threshold⟩, ⟨h.keyID, h.parameterFingerprint⟩, h.commitment,
      h.binding, h.protocol, tally, ⟨hcounts, hnodup, hsum, hpoints, hdigests⟩, ?_, rfl⟩
    rw [hpoints, List.length_map, hquorum]

/-! ## The law of the quorum -/

/-- Signatures that verify under the key of an operator are over digests it signed, of whatever
kind. -/
def Unforged (library : SwitchLibrary) (manifest : ThresholdManifest)
    (signed : Set (Bytes × Digest)) : Prop :=
  ∀ operator ∈ manifest.operators, ∀ digest signature,
    library.ed25519Verify operator.signingPublicKey (wordBytes digest) signature = true →
      (operator.signingPublicKey, digest) ∈ signed

/-- What a response states of a release. -/
def ThresholdReleaseResponse.statement (response : ThresholdReleaseResponse)
    (descriptor : ReleaseDescriptor) : ReleaseStatement :=
  ⟨descriptor, response.operatorID, response.point, response.share⟩

/-- A response of an operator of the manifest, at its own point and in the coalition.  The
operator signed what it states of this release, and that states nothing else unless the hash
collides. -/
structure Genuine (library : SwitchLibrary) (signed : Set (Bytes × Digest))
    (descriptor : ReleaseDescriptor) (manifest : ThresholdManifest)
    (response : ThresholdReleaseResponse) : Prop where
  operator : ∃ operator ∈ manifest.operators, operator.operatorID = response.operatorID ∧
    operator.point = response.point ∧
    (operator.signingPublicKey, (response.statement descriptor).digest library.keccak256) ∈ signed
  exact : ∀ statement : ReleaseStatement,
    (statement.texts library.keccak256 ∪
        (response.statement descriptor).texts library.keccak256).InjOn library.keccak256 →
      statement.digest library.keccak256 =
        (response.statement descriptor).digest library.keccak256 →
      statement = response.statement descriptor
  coalition : coalitionContains descriptor.coalition response.point

/-- Two genuine responses, at different points. -/
def GenuineQuorum (library : SwitchLibrary) (signed : Set (Bytes × Digest))
    (descriptor : ReleaseDescriptor) (manifest : ThresholdManifest)
    (responses : List ThresholdReleaseResponse) : Prop :=
  ∃ first second, responses = [first, second] ∧ first.point ≠ second.point ∧
    Genuine library signed descriptor manifest first ∧
    Genuine library signed descriptor manifest second

theorem genuine_of_counts {signed : Set (Bytes × Digest)}
    (hsigned : Unforged library manifest signed)
    (h : Counts library descriptor manifest ciphertext response) :
    Genuine library signed descriptor manifest response := by
  obtain ⟨operator, hfound, hpoint, hverify⟩ := h.operator
  have hoperator := List.mem_reverse.mp (List.mem_of_find?_eq_some hfound)
  have hid : operator.operatorID = response.operatorID :=
    of_decide_eq_true (List.find?_some hfound :)
  have hdigest := hsigned operator hoperator _ _ hverify
  rw [expectedStatement, h.shareDigest] at hdigest
  refine ⟨⟨operator, hoperator, hid, hpoint, hdigest⟩, ?_, h.coalition⟩
  intro statement hinj heq
  exact ReleaseStatement.digest_inj hinj Set.subset_union_left Set.subset_union_right heq

theorem combineShares_ok_iff :
    combineShares library descriptor manifest ciphertext check responses = .ok result ↔
      ∃ tally first others, tallyResponses library descriptor manifest ciphertext responses =
          .ok tally ∧
        library.decodeSwitched ciphertext tally.combined = some (first, others) ∧
        check first others = .ok () ∧
        result = (decide (first = 1), thresholdTranscriptCommitment library.keccak256 descriptor
          tally.statementDigests (decide (first = 1))) := by
  simp only [combineShares, bind_ok_iff, require_ok_iff, exists_unit, pure_ok_iff, Prod.exists]
  constructor
  · rintro ⟨tally, htally, first, others, hdecode, hcheck, rfl⟩
    exact ⟨tally, first, others, htally, hdecode, hcheck, rfl⟩
  · rintro ⟨tally, first, others, htally, hdecode, hcheck, rfl⟩
    exact ⟨tally, htally, first, others, hdecode, hcheck, rfl⟩

/-- Whatever is released was signed for by two operators. -/
theorem genuineQuorum_of_combine {signed : Set (Bytes × Digest)}
    (hsigned : Unforged library manifest signed)
    (h : combineShares library descriptor manifest ciphertext check responses = .ok result) :
    GenuineQuorum library signed descriptor manifest responses := by
  obtain ⟨tally, first, others, htally, -⟩ := combineShares_ok_iff.mp h
  obtain ⟨-, hlength, hcounts, hnodup, -⟩ := tallyResponses_ok_iff.mp htally
  obtain ⟨one, two, rfl⟩ := List.length_eq_two.mp hlength
  have hgenuine (response) (hmem : response ∈ [one, two]) :=
    genuine_of_counts hsigned (hcounts response hmem)
  refine ⟨one, two, rfl, ?_, hgenuine one List.mem_cons_self,
    hgenuine two (List.mem_cons_of_mem _ List.mem_cons_self)⟩
  intro hsame
  exact (List.nodup_cons.mp hnodup).1 (List.mem_singleton.mpr hsame)

/-- What responses release, they release in any order. -/
theorem combineShares_perm (hshares : Additive library.aggregateShares)
    (hperm : responses.Perm others)
    (h : combineShares library descriptor manifest ciphertext check responses = .ok result) :
    combineShares library descriptor manifest ciphertext check others = .ok result := by
  obtain ⟨tally, first, rest, htally, hdecode, hcheck, rfl⟩ := combineShares_ok_iff.mp h
  obtain ⟨hready, hlength, hcounts, hnodup, hsum, hpoints, hdigests⟩ :=
    tallyResponses_ok_iff.mp htally
  have hreordered : tallyResponses library descriptor manifest ciphertext others =
      .ok ⟨tally.combined, others.map ThresholdReleaseResponse.point,
        others.map (expectedStatement library descriptor)⟩ := by
    refine tallyResponses_ok_iff.mpr ⟨hready, hperm.length_eq ▸ hlength, ?_,
      (hperm.map _).nodup_iff.mp hnodup, ?_, rfl, rfl⟩
    · exact fun response hmem => hcounts response (hperm.mem_iff.mpr hmem)
    · rw [shareSum, ← hshares.foldl_perm (hperm.map _)]
      exact hsum
  refine combineShares_ok_iff.mpr ⟨_, first, rest, hreordered, hdecode, hcheck, ?_⟩
  rw [hdigests, thresholdTranscriptCommitment_perm (hperm.map _)]

theorem combineShares_toOption_perm (hshares : Additive library.aggregateShares)
    (hperm : responses.Perm others) :
    (combineShares library descriptor manifest ciphertext check others).toOption =
      (combineShares library descriptor manifest ciphertext check responses).toOption := by
  ext result
  rw [toOption_eq_some_iff, toOption_eq_some_iff]
  exact ⟨combineShares_perm hshares hperm.symm, combineShares_perm hshares hperm⟩

/-- Where the decoded vector is canonical the two combiners are one. -/
theorem combineReleaseBitV5_eq
    (hcanonical : ∀ tally first rest,
      tallyResponses library descriptor manifest ciphertext responses = .ok tally →
        library.decodeSwitched ciphertext tally.combined = some (first, rest) →
        Circuit.requireCanonicalReleaseVector (first :: rest) = .ok ()) :
    combineReleaseBitV5 library descriptor manifest ciphertext responses =
      combineZeroKeySwitchShares library descriptor manifest ciphertext responses := by
  rw [combineReleaseBitV5, combineZeroKeySwitchShares, combineShares, combineShares]
  cases htally : tallyResponses library descriptor manifest ciphertext responses with
  | error text => rfl
  | ok tally =>
      show (require _ (library.decodeSwitched ciphertext tally.combined) >>= _) =
        (require _ (library.decodeSwitched ciphertext tally.combined) >>= _)
      cases hdecode : library.decodeSwitched ciphertext tally.combined with
      | none => rfl
      | some decoded =>
          obtain ⟨first, rest⟩ := decoded
          have hvector := hcanonical tally first rest htally hdecode
          have hfirst : ¬ 1 < first := by
            rw [Circuit.requireCanonicalReleaseVector, revertIf_bind_ok_iff] at hvector
            exact hvector.1
          show ((Circuit.requireCanonicalReleaseVector (first :: rest)).mapError _ >>= _) =
            (revertIf (1 < first) _ >>= _)
          rw [hvector, revertIf, if_neg hfirst]
          rfl

end

/-- **The quorum.** Where signatures are not forged and shares add up in any order, what is
released was signed for by two operators of the manifest, and the answers release the same in
every order.  The two combiners obey one law, and agree on canonical vectors. -/
theorem combineReleaseBitV5_quorum (library : SwitchLibrary) (descriptor : ReleaseDescriptor)
    (manifest : ThresholdManifest) (ciphertext : Ciphertext)
    (responses : List ThresholdReleaseResponse) (signed : Set (Bytes × Digest))
    (hshares : Additive library.aggregateShares)
    (hsigned : Unforged library manifest signed) :
    ((∀ result, combineReleaseBitV5 library descriptor manifest ciphertext responses = .ok result →
          GenuineQuorum library signed descriptor manifest responses) ∧
        ∀ permuted, responses.Perm permuted →
          (combineReleaseBitV5 library descriptor manifest ciphertext permuted).toOption =
            (combineReleaseBitV5 library descriptor manifest ciphertext responses).toOption) ∧
      ((∀ result, combineZeroKeySwitchShares library descriptor manifest ciphertext responses =
            .ok result → GenuineQuorum library signed descriptor manifest responses) ∧
        ∀ permuted, responses.Perm permuted →
          (combineZeroKeySwitchShares library descriptor manifest ciphertext permuted).toOption =
            (combineZeroKeySwitchShares library descriptor manifest ciphertext
              responses).toOption) ∧
      ((∀ tally first rest,
          tallyResponses library descriptor manifest ciphertext responses = .ok tally →
            library.decodeSwitched ciphertext tally.combined = some (first, rest) →
            Circuit.requireCanonicalReleaseVector (first :: rest) = .ok ()) →
        combineReleaseBitV5 library descriptor manifest ciphertext responses =
          combineZeroKeySwitchShares library descriptor manifest ciphertext responses) := by
  refine ⟨⟨?_, ?_⟩, ⟨?_, ?_⟩, combineReleaseBitV5_eq⟩
  · exact fun _ hrelease => genuineQuorum_of_combine hsigned hrelease
  · exact fun _ hperm => combineShares_toOption_perm hshares hperm
  · exact fun _ hrelease => genuineQuorum_of_combine hsigned hrelease
  · exact fun _ hperm => combineShares_toOption_perm hshares hperm

/-! ### Two operators -/

def sampleReleaseDescriptor : ReleaseDescriptor where
  sessionID := 11
  keyID := 12
  parameterFingerprint := 13
  policyID := 14
  policyVersion := policyVersion
  inputCommitmentA := 15
  inputCommitmentB := 16
  resultNonce := 17
  validUntil := 18
  resultCiphertextCommitment := 19
  protocolBinding := 20
  coalition := (1, 2)

/-- The share of an operator is the number of its point. -/
def sampleShareStatement (point : UInt8) : ReleaseStatement :=
  ⟨sampleReleaseDescriptor, BitVec.ofNat 256 (30 + point.toNat), BitVec.ofNat 64 point.toNat,
    [point]⟩

/-- Signatures that verify for what the two operators signed; shares are numbers, and the bit is
set where they sum to three. -/
def sampleSwitchLibrary : SwitchLibrary where
  keccak256 := sampleDigest
  ed25519Verify key message _ := (key, message) ∈
    [([1], wordBytes ((sampleShareStatement 1).digest sampleDigest)),
      ([2], wordBytes ((sampleShareStatement 2).digest sampleDigest)), ([1], wordBytes 40)]
  ciphertextCommitment _ := .ok 19
  protocolBindingDigest _ _ := .ok 20
  newKeySwitchProtocol := .ok ()
  level _ := 0
  Share := ℕ
  allocateShare _ := 0
  unmarshalShare bytes := bytes.head?.map UInt8.toNat
  shareLevel _ := 0
  aggregateShares share total := some (share + total)
  decodeSwitched _ total := some (if total = 3 then 1 else 0, [0, 0])

def sampleThresholdManifest : ThresholdManifest where
  keyID := 12
  parameterFingerprint := 13
  threshold := 2
  operators := [⟨31, 1, [1]⟩, ⟨32, 2, [2]⟩]

def sampleResponse (point : UInt8) : ThresholdReleaseResponse where
  operatorID := (sampleShareStatement point).operatorID
  point := (sampleShareStatement point).point
  sessionID := 11
  protocolBinding := 20
  shareDigest := sampleDigest [point]
  share := [point]
  statementDigest := (sampleShareStatement point).digest sampleDigest
  signature := []

/-- What the two operators signed: the statements, and one of them a digest of its ceremony. -/
def sampleSignedDigests : Set (Bytes × Digest) :=
  {([1], (sampleShareStatement 1).digest sampleDigest),
    ([2], (sampleShareStatement 2).digest sampleDigest), ([1], 40)}

theorem additive_sample : Additive sampleSwitchLibrary.aggregateShares where
  comm a b := congrArg some (Nat.add_comm a b)
  assoc a b c := congrArg some (Nat.add_assoc a b c)

theorem unforged_sample :
    Unforged sampleSwitchLibrary sampleThresholdManifest sampleSignedDigests := by
  intro operator _ digest signature hverify
  have hsigned := of_decide_eq_true hverify
  simp only [List.mem_cons, List.not_mem_nil, or_false, Prod.mk.injEq] at hsigned
  rcases hsigned with ⟨hkey, hdigest⟩ | ⟨hkey, hdigest⟩ | ⟨hkey, hdigest⟩
  all_goals
    rw [hkey, wordBytes_injective hdigest]
    simp [sampleSignedDigests]

def sampleCombine : List ThresholdReleaseResponse → Except String (Bool × Digest) :=
  combineReleaseBitV5 sampleSwitchLibrary sampleReleaseDescriptor sampleThresholdManifest []

/-- Two operators release a bit, in either order. -/
theorem combineReleaseBitV5_quorum_sample :
    (∃ transcript, sampleCombine [sampleResponse 1, sampleResponse 2] = .ok (true, transcript) ∧
      sampleCombine [sampleResponse 2, sampleResponse 1] = .ok (true, transcript)) ∧
      GenuineQuorum sampleSwitchLibrary sampleSignedDigests sampleReleaseDescriptor
        sampleThresholdManifest [sampleResponse 1, sampleResponse 2] := by
  have hlaw := combineReleaseBitV5_quorum sampleSwitchLibrary sampleReleaseDescriptor
    sampleThresholdManifest [] [sampleResponse 1, sampleResponse 2] sampleSignedDigests
    additive_sample unforged_sample
  obtain ⟨⟨bit, transcript⟩, hrelease⟩ : ∃ result,
      sampleCombine [sampleResponse 1, sampleResponse 2] = .ok result :=
    toBool_eq_true_iff.mp
      (show (sampleCombine [sampleResponse 1, sampleResponse 2]).toBool = true by decide +kernel)
  have hbit : (sampleCombine [sampleResponse 1, sampleResponse 2]).toOption.map Prod.fst =
      some true := by
    decide +kernel
  rw [hrelease] at hbit
  obtain rfl : bit = true := Option.some.inj hbit
  have hswapped := hlaw.1.2 [sampleResponse 2, sampleResponse 1] (List.Perm.swap _ _ _)
  change (sampleCombine [sampleResponse 2, sampleResponse 1]).toOption =
    (sampleCombine [sampleResponse 1, sampleResponse 2]).toOption at hswapped
  rw [hrelease] at hswapped
  exact ⟨⟨transcript, hrelease, toOption_eq_some_iff.mp hswapped⟩, hlaw.1.1 _ hrelease⟩

end Mordant.Coalition
