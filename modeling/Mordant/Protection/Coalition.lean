/-
# Coalition evidence

A coalition release carries no authority signature.  What authenticates it is a
quorum of operators, each under the key a threshold manifest publishes for its
point.  The verifier turns that evidence into the facts a settlement plan reads.

Operators are counted by their point in three loops: the serving coalition, the
statements about the two released bits, and the settlement attestations.
-/

import Mathlib.Data.List.Nodup
import Mathlib.Data.List.Perm.Subperm
import Mordant.Protection.ProfileStore

namespace Mordant.Protection

open Foundation Script

/-- `CoalitionEvidenceError`. -/
structure CoalitionThrown where
  code : String
  message : String
  deriving DecidableEq

def coalitionResultSchema : Text := lit "mordant.coalition-conflict-result/1"
def coalitionManifestSchema : Text := lit "mordant.fhe-coalition-threshold-manifest/1"
def settlementStatementSchema : Text := lit "mordant.coalition-settlement-statement/1"
def minimumQuorum : ℤ := 2

structure ThresholdOperatorRecord where
  operatorId : Text
  point : ℤ
  signingPublicKey : Text

structure CoalitionThresholdManifest where
  schemaVersion : Text
  caseId : Text
  keyId : Text
  parameterFingerprint : Text
  threshold : ℤ
  operators : List ThresholdOperatorRecord
  operatorTopology : Text

structure CoalitionSettlementAttestation where
  point : ℤ
  signature : Text

structure CoalitionOperatorStatement where
  point : ℤ
  slot : ℤ
  statementDigest : Text
  signature : Text

/-- `CoalitionConflictResult`, as far as the verifier reads it. -/
structure CoalitionConflictResult where
  schemaVersion : Text
  caseId : Text
  caseBindingDigest : Text
  assetIdentity : Text
  sameEconomicAsset : Bool
  policyConflict : Bool
  releaseMode : Text
  releaseAuthorityId : Text
  threshold : ℤ
  coalition : List ℤ
  operatorTopology : Text
  operatorStatements : List CoalitionOperatorStatement
  releaseTranscript : Text
  settlementAttestations : Option (List CoalitionSettlementAttestation)

structure VerifiedCoalitionEvidence where
  facts : GovernedResultFacts
  coalitionAuthorityId : Text
  servingQuorum : ℤ
  operatorTopology : Text
  sameEconomicAsset : Bool
  policyConflict : Bool

/-- `/^sha256:[0-9a-f]{64}$/u`. -/
def isLowerSha256Digest (text : Text) : Bool := matchesDigits isLowerHexDigit "sha256:" 64 text

/-- `BYTES32_HEX`. -/
def isBytes32Hex (text : Text) : Bool := matchesDigits isLowerHexDigit "0x" 64 text

/-- `SIGNATURE_HEX`. -/
def isSignatureHex (text : Text) : Bool := matchesDigits isLowerHexDigit "0x" 128 text

section

variable (runtime : NodeRuntime)

/-- `settlementStatementMessage`: the statement one operator signs, every field read
from the result. -/
def settlementStatementMessage (result : CoalitionConflictResult) (point : ℤ) : List UInt8 :=
  runtime.utf8 (lit "MordantCoalitionSettlementStatement/v1") ++ [0] ++ runtime.utf8
    (stringifyObject
      [("schemaVersion", stringifyText settlementStatementSchema),
        ("caseId", stringifyText result.caseId),
        ("caseBindingDigest", stringifyText result.caseBindingDigest),
        ("assetIdentity", stringifyText result.assetIdentity),
        ("releaseAuthorityId", stringifyText result.releaseAuthorityId),
        ("releaseMode", stringifyText result.releaseMode),
        ("releaseTranscript", stringifyText result.releaseTranscript),
        ("coalition", stringifyArray (result.coalition.map stringifyInt)),
        ("threshold", stringifyInt result.threshold),
        ("sameEconomicAsset", stringifyBool result.sameEconomicAsset),
        ("policyConflict", stringifyBool result.policyConflict),
        ("point", stringifyInt point)])

/-- `thresholdManifestDigest`: the fields in declaration order. -/
def thresholdManifestDigest (manifest : CoalitionThresholdManifest) : Text :=
  lit "sha256:" ++ runtime.sha256 (stringifyObject
    [("schemaVersion", stringifyText manifest.schemaVersion),
      ("caseId", stringifyText manifest.caseId),
      ("keyId", stringifyText manifest.keyId),
      ("parameterFingerprint", stringifyText manifest.parameterFingerprint),
      ("threshold", stringifyInt manifest.threshold),
      ("operators", stringifyArray (manifest.operators.map fun operator => stringifyObject
        [("operatorId", stringifyText operator.operatorId),
          ("point", stringifyInt operator.point),
          ("signingPublicKey", stringifyText operator.signingPublicKey)])),
      ("operatorTopology", stringifyText manifest.operatorTopology)])

/-- `ed25519PublicKey`: the raw key of a canonical spelling. -/
def ed25519PublicKey (base64 : Text) : Except CoalitionThrown (List UInt8) := do
  let raw := runtime.decodeBase64 base64
  revertIf (raw.length ≠ 32 ∨ runtime.encodeBase64 raw ≠ base64)
    ⟨"OPERATOR_KEY", "an operator signing key is not a canonical Ed25519 public key"⟩
  pure raw

/-- The loop of `assertManifest`; `points` are those seen. -/
def assertOperators (points : List ℤ) :
    List ThresholdOperatorRecord → Except CoalitionThrown Unit
  | [] => pure ()
  | operator :: rest => do
    revertIf (operator.point ≤ 0)
      ⟨"MANIFEST_OPERATORS", "an operator record carries a malformed point"⟩
    revertIf (operator.point ∈ points)
      ⟨"MANIFEST_OPERATORS", "two operator records share a point"⟩
    let _ ← ed25519PublicKey runtime operator.signingPublicKey
    assertOperators (operator.point :: points) rest

def assertManifest (manifest : CoalitionThresholdManifest) : Except CoalitionThrown Unit := do
  revertIf (manifest.schemaVersion ≠ coalitionManifestSchema)
    ⟨"MANIFEST_SCHEMA", "unsupported threshold manifest schema"⟩
  revertIf (isLowerSha256Digest manifest.caseId = false ∨
      isLowerSha256Digest manifest.keyId = false)
    ⟨"MANIFEST_FIELDS", "the threshold manifest carries a malformed case or key digest"⟩
  revertIf (manifest.threshold < minimumQuorum)
    ⟨"MANIFEST_THRESHOLD", "a coalition whose quorum is below two is not a coalition"⟩
  revertIf (manifest.operators.length < manifest.threshold)
    ⟨"MANIFEST_OPERATORS", "the manifest publishes fewer operators than its own quorum"⟩
  assertOperators runtime [] manifest.operators

/-- `keyByPoint`: the last record of a point counts. -/
def keyByPoint (manifest : CoalitionThresholdManifest) (point : ℤ) : Option Text :=
  (manifest.operators.reverse.find? fun operator => operator.point = point).map
    (·.signingPublicKey)

/-- The loop over the serving coalition; returns the set of its points. -/
def collectServing (manifest : CoalitionThresholdManifest) (serving : List ℤ) :
    List ℤ → Except CoalitionThrown (List ℤ)
  | [] => pure serving
  | point :: rest => do
    revertIf ((keyByPoint manifest point).isNone = true)
      ⟨"QUORUM_MEMBERSHIP", "an operator served that the manifest does not publish"⟩
    revertIf (point ∈ serving)
      ⟨"QUORUM_MEMBERSHIP", "one operator was counted twice toward the quorum"⟩
    collectServing manifest (point :: serving) rest

/-- The loop over the operator statements; `attested` are the points and slots
seen. -/
def checkStatements (manifest : CoalitionThresholdManifest) (serving : List ℤ)
    (attested : List (ℤ × ℤ)) :
    List CoalitionOperatorStatement → Except CoalitionThrown (List (ℤ × ℤ))
  | [] => pure attested
  | statement :: rest => do
    revertIf (isBytes32Hex statement.statementDigest = false ∨
        isSignatureHex statement.signature = false)
      ⟨"STATEMENT_ENCODING", "an operator statement is malformed"⟩
    revertIf (statement.point ∉ serving)
      ⟨"STATEMENT_ATTRIBUTION",
        "a statement is attributed to an operator outside the serving coalition"⟩
    let publicKey ← require
      ⟨"STATEMENT_ATTRIBUTION", "a statement names an unpublished operator"⟩
      (keyByPoint manifest statement.point)
    let digest := hexBytes (statement.statementDigest.drop 2)
    let signature := hexBytes (statement.signature.drop 2)
    let key ← ed25519PublicKey runtime publicKey
    revertIf (runtime.verifyEd25519 key digest signature = false)
      ⟨"STATEMENT_SIGNATURE", "operator " ++ toString statement.point ++
        " did not sign the statement attributed to it"⟩
    revertIf ((statement.point, statement.slot) ∈ attested)
      ⟨"STATEMENT_REPLAY", "one operator attested the same released bit twice"⟩
    checkStatements manifest serving ((statement.point, statement.slot) :: attested) rest

/-- The loop that looks for both slots of every serving operator. -/
def checkCoverage (attested : List (ℤ × ℤ)) : List ℤ → Except CoalitionThrown Unit
  | [] => pure ()
  | point :: rest => do
    revertIf ((point, 0) ∉ attested ∨ (point, 1) ∉ attested)
      ⟨"STATEMENT_COVERAGE", "operator " ++ toString point ++
        " did not attest both released bits"⟩
    checkCoverage attested rest

/-- The loop over the settlement attestations; `confirmed` are the points seen. -/
def checkAttestations (manifest : CoalitionThresholdManifest) (result : CoalitionConflictResult)
    (serving confirmed : List ℤ) :
    List CoalitionSettlementAttestation → Except CoalitionThrown (List ℤ)
  | [] => pure confirmed
  | attestation :: rest => do
    revertIf (attestation.point ∉ serving)
      ⟨"SETTLEMENT_ATTRIBUTION",
        "a settlement attestation names an operator outside the serving coalition"⟩
    revertIf (attestation.point ∈ confirmed)
      ⟨"SETTLEMENT_REPLAY", "one operator confirmed the release twice"⟩
    let publicKey ← require
      ⟨"SETTLEMENT_ATTRIBUTION", "a settlement attestation names an unpublished operator"⟩
      (keyByPoint manifest attestation.point)
    let signature := runtime.decodeBase64 attestation.signature
    revertIf (signature.length ≠ 64 ∨ runtime.encodeBase64 signature ≠ attestation.signature)
      ⟨"SETTLEMENT_ENCODING", "a settlement attestation signature is not canonical"⟩
    let key ← ed25519PublicKey runtime publicKey
    revertIf (runtime.verifyEd25519 key
        (settlementStatementMessage runtime result attestation.point) signature = false)
      ⟨"SETTLEMENT_SIGNATURE", "operator " ++ toString attestation.point ++
        " did not confirm this case, this release and these released bits"⟩
    checkAttestations manifest result serving (attestation.point :: confirmed) rest

def verifyCoalitionEvidence (result : CoalitionConflictResult)
    (manifest : CoalitionThresholdManifest) (resultDigest runId : Text) :
    Except CoalitionThrown VerifiedCoalitionEvidence := do
  revertIf (result.schemaVersion ≠ coalitionResultSchema)
    ⟨"RESULT_SCHEMA", "unsupported coalition result schema"⟩
  assertManifest runtime manifest
  let authority := thresholdManifestDigest runtime manifest
  revertIf (authority ≠ result.releaseAuthorityId)
    ⟨"AUTHORITY_NOT_DERIVED", "the coalition result names a release authority that is not " ++
      "this threshold manifest's digest"⟩
  revertIf (manifest.caseId ≠ result.caseId)
    ⟨"MANIFEST_CASE", "the threshold manifest describes a different case than the result"⟩
  revertIf (result.threshold ≠ manifest.threshold)
    ⟨"QUORUM_MISMATCH", "the result claims a quorum the manifest does not require"⟩
  revertIf (result.coalition.length ≠ result.threshold)
    ⟨"QUORUM_SIZE", "the serving coalition is not the size the quorum requires"⟩
  let serving ← collectServing manifest [] result.coalition
  let attested ← checkStatements runtime manifest serving [] result.operatorStatements
  checkCoverage attested serving.reverse
  let confirmed ← checkAttestations runtime manifest result serving []
    (result.settlementAttestations.getD [])
  revertIf (confirmed.length < result.threshold)
    ⟨"SETTLEMENT_QUORUM", "only " ++ toString confirmed.length ++ " of the required " ++
      toString result.threshold ++ " operators confirmed the released bits"⟩
  revertIf (result.policyConflict = true ∧ result.sameEconomicAsset = false)
    ⟨"NON_CANONICAL_DECISION",
      "a policy conflict without an asset match cannot have come from the circuit"⟩
  pure
    { facts :=
        { governedResultDigest := resultDigest
          runId := runId
          releaseAuthorityId := authority
          conflict := result.policyConflict
          caseId := result.caseId
          caseBindingDigest := result.caseBindingDigest }
      coalitionAuthorityId := authority
      servingQuorum := result.threshold
      operatorTopology := result.operatorTopology
      sameEconomicAsset := result.sameEconomicAsset
      policyConflict := result.policyConflict }

/-! ## Who confirmed a release -/

/-- The key the manifest publishes for a point. -/
def publishedKey (manifest : CoalitionThresholdManifest) (point : ℤ) : Option (List UInt8) :=
  (keyByPoint manifest point).map runtime.decodeBase64

/-- The attestation is a signature over the settlement statement, under the key
published for its point. -/
def CoalitionSettlementAttestation.Confirms (manifest : CoalitionThresholdManifest)
    (result : CoalitionConflictResult) (attestation : CoalitionSettlementAttestation)
    (key : List UInt8) : Prop :=
  publishedKey runtime manifest attestation.point = some key ∧
    runtime.verifyEd25519 key (settlementStatementMessage runtime result attestation.point)
      (runtime.decodeBase64 attestation.signature) = true

/-- Some attestation of the result is by this key. -/
def Confirmed (manifest : CoalitionThresholdManifest) (result : CoalitionConflictResult)
    (key : List UInt8) : Prop :=
  ∃ attestation ∈ result.settlementAttestations.getD [],
    attestation.Confirms runtime manifest result key

/-- As many different published keys as the manifest's quorum confirmed the
release, so that no single one did. -/
structure IndependentKeys (manifest : CoalitionThresholdManifest)
    (result : CoalitionConflictResult) : Prop where
  quorum : minimumQuorum ≤ manifest.threshold
  keys : ∃ keys : List (List UInt8), keys.Nodup ∧ manifest.threshold ≤ keys.length ∧
    ∀ key ∈ keys, (∃ operator ∈ manifest.operators,
      runtime.decodeBase64 operator.signingPublicKey = key) ∧
      Confirmed runtime manifest result key
  noSingle : ∀ holder, ∃ key, key ≠ holder ∧ Confirmed runtime manifest result key

end

section

variable {runtime : NodeRuntime} {manifest : CoalitionThresholdManifest}
  {result : CoalitionConflictResult} {serving confirmed : List ℤ}

theorem publishedKey_operator {point : ℤ} {key : List UInt8}
    (h : publishedKey runtime manifest point = some key) :
    ∃ operator ∈ manifest.operators, runtime.decodeBase64 operator.signingPublicKey = key := by
  obtain ⟨base64, hbase64, hkey⟩ := Option.map_eq_some_iff.mp h
  obtain ⟨operator, hfound, hsigning⟩ := Option.map_eq_some_iff.mp hbase64
  refine ⟨operator, List.mem_reverse.mp (List.mem_of_find?_eq_some hfound), ?_⟩
  rw [hsigning, hkey]

theorem ed25519PublicKey_ok {base64 : Text} {key : List UInt8}
    (h : ed25519PublicKey runtime base64 = .ok key) : key = runtime.decodeBase64 base64 := by
  simp only [ed25519PublicKey, revertIf_bind_ok_iff, pure_ok_iff] at h
  exact h.2.symm

variable (runtime) in
/-- Every serving operator is published and counted once. -/
theorem collectServing_ok {points served : List ℤ}
    (h : collectServing manifest serving points = .ok served) (hserving : serving.Nodup) :
    served = points.reverse ++ serving ∧ served.Nodup ∧
      ∀ point ∈ points, ∃ key, publishedKey runtime manifest point = some key := by
  induction points generalizing serving with
  | nil =>
      obtain rfl := pure_ok_iff.mp h
      exact ⟨rfl, hserving, fun _ hmem => nomatch hmem⟩
  | cons point rest ih =>
      simp only [collectServing, revertIf_bind_ok_iff, Bool.not_eq_true,
        Option.isNone_eq_false_iff] at h
      obtain ⟨hpublished, hnew, hrest⟩ := h
      obtain ⟨rfl, hnodup, hkeys⟩ := ih hrest (hserving.cons hnew)
      refine ⟨by simp, hnodup, fun other hmem => ?_⟩
      rcases List.mem_cons.mp hmem with rfl | hmem
      · obtain ⟨base64, hbase64⟩ := Option.isSome_iff_exists.mp hpublished
        exact ⟨_, Option.map_eq_some_iff.mpr ⟨base64, hbase64, rfl⟩⟩
      · exact hkeys other hmem

/-- Every attestation is by a serving operator, counted once, and confirms the
release. -/
theorem checkAttestations_ok {attestations : List CoalitionSettlementAttestation}
    {final : List ℤ} (h : checkAttestations runtime manifest result serving confirmed attestations =
      .ok final) (hconfirmed : confirmed.Nodup) :
    final = (attestations.map (·.point)).reverse ++ confirmed ∧ final.Nodup ∧
      ∀ attestation ∈ attestations, attestation.point ∈ serving ∧
        ∃ key, attestation.Confirms runtime manifest result key := by
  induction attestations generalizing confirmed with
  | nil =>
      obtain rfl := pure_ok_iff.mp h
      exact ⟨rfl, hconfirmed, fun _ hmem => nomatch hmem⟩
  | cons attestation rest ih =>
      simp only [checkAttestations, bind_ok_iff, revertIf_ok_iff, require_ok_iff, not_not,
        Bool.not_eq_false] at h
      obtain ⟨-, hserves, -, hnew, base64, hbase64, -, -, key, hkey, -, hverified, hrest⟩ := h
      obtain ⟨rfl, hnodup, hconfirms⟩ := ih hrest (hconfirmed.cons hnew)
      refine ⟨by simp, hnodup, fun other hmem => ?_⟩
      rcases List.mem_cons.mp hmem with rfl | hmem
      · refine ⟨hserves, key, Option.map_eq_some_iff.mpr ⟨base64, hbase64, ?_⟩, hverified⟩
        exact (ed25519PublicKey_ok hkey).symm
      · exact hconfirms other hmem

/-- What acceptance establishes, the digest and the run handed over included. -/
structure Accepted (runtime : NodeRuntime) (result : CoalitionConflictResult)
    (manifest : CoalitionThresholdManifest) (resultDigest runId : Text)
    (evidence : VerifiedCoalitionEvidence) : Prop where
  quorum : minimumQuorum ≤ manifest.threshold
  size : result.coalition.length = manifest.threshold
  once : result.coalition.Nodup
  published : ∀ point ∈ result.coalition, ∃ key,
    publishedKey runtime manifest point = some key
  /-- Every serving operator attested once, and nobody else did. -/
  attested : ((result.settlementAttestations.getD []).map (·.point)).Perm result.coalition
  confirms : ∀ attestation ∈ result.settlementAttestations.getD [],
    ∃ key, attestation.Confirms runtime manifest result key
  facts : evidence.facts =
    { governedResultDigest := resultDigest
      runId := runId
      releaseAuthorityId := thresholdManifestDigest runtime manifest
      conflict := result.policyConflict
      caseId := result.caseId
      caseBindingDigest := result.caseBindingDigest }

theorem verifyCoalitionEvidence_ok {resultDigest runId : Text}
    {evidence : VerifiedCoalitionEvidence}
    (h : verifyCoalitionEvidence runtime result manifest resultDigest runId = .ok evidence) :
    Accepted runtime result manifest resultDigest runId evidence := by
  simp only [verifyCoalitionEvidence, assertManifest, bind_ok_iff, revertIf_ok_iff, pure_ok_iff,
    not_not, Int.not_lt] at h
  obtain ⟨-, -, -, ⟨-, -, -, -, -, hquorum, -⟩, -, -, -, -, -, hthreshold, -, hsize, served,
    hserved, attested, -, -, -, final, hfinal, -, henough, -, -, rfl⟩ := h
  obtain ⟨rfl, honce, hpublished⟩ := collectServing_ok runtime hserved List.nodup_nil
  obtain ⟨rfl, hcounted, hconfirms⟩ := checkAttestations_ok hfinal List.nodup_nil
  simp only [List.append_nil, List.nodup_reverse, List.mem_reverse, List.length_reverse]
    at honce hcounted hconfirms henough
  have hsubset : (result.settlementAttestations.getD []).map (·.point) ⊆ result.coalition := by
    intro point hmem
    obtain ⟨attestation, hattestation, rfl⟩ := List.mem_map.mp hmem
    exact (hconfirms attestation hattestation).1
  have hlength : result.coalition.length ≤
      ((result.settlementAttestations.getD []).map (·.point)).length := by omega
  exact
    { quorum := hquorum
      size := hsize.trans hthreshold
      once := honce
      published := hpublished
      attested := (hcounted.subperm hsubset).perm_of_length_le hlength
      confirms := fun attestation hmem => (hconfirms attestation hmem).2
      facts := rfl }

/-! ## Independent keys -/

section

variable {resultDigest runId : Text} {evidence : VerifiedCoalitionEvidence}

/-- The keys that confirmed an accepted release are those of the coalition. -/
theorem Accepted.confirmed_iff (h : Accepted runtime result manifest resultDigest runId evidence)
    {key : List UInt8} : Confirmed runtime manifest result key ↔
      some key ∈ result.coalition.map (publishedKey runtime manifest) := by
  rw [List.mem_map]
  constructor
  · rintro ⟨attestation, hmem, hpublished, -⟩
    exact ⟨attestation.point, h.attested.subset (List.mem_map_of_mem hmem), hpublished⟩
  · rintro ⟨point, hmem, hpublished⟩
    obtain ⟨attestation, hattestation, rfl⟩ := List.mem_map.mp (h.attested.symm.subset hmem)
    obtain ⟨key', hconfirms⟩ := h.confirms attestation hattestation
    obtain rfl := Option.some.inj (hpublished.symm.trans hconfirms.1)
    exact ⟨attestation, hattestation, hconfirms⟩

/-- Points with a key each have a list of keys. -/
theorem publishedKeys {points : List ℤ}
    (hpublished : ∀ point ∈ points, ∃ key, publishedKey runtime manifest point = some key) :
    ∃ keys : List (List UInt8), keys.map some = points.map (publishedKey runtime manifest) := by
  induction points with
  | nil => exact ⟨[], rfl⟩
  | cons point rest ih =>
      obtain ⟨key, hkey⟩ := hpublished point List.mem_cons_self
      obtain ⟨keys, hkeys⟩ := ih fun other hmem => hpublished other (List.mem_cons_of_mem _ hmem)
      exact ⟨key :: keys, by simp only [List.map_cons, hkey, hkeys]⟩

/-- Of two different entries one is not the given one. -/
theorem exists_mem_ne {α : Type} {entries : List α} (hnodup : entries.Nodup)
    (htwo : 2 ≤ entries.length) (a : α) : ∃ b ∈ entries, b ≠ a := by
  match entries, htwo with
  | first :: second :: rest, _ =>
      by_cases hfirst : first = a
      · subst hfirst
        have hnew := (List.nodup_cons.mp hnodup).1
        exact ⟨second, by simp, fun hsame => hnew (by simp [hsame])⟩
      · exact ⟨first, by simp, hfirst⟩

/-- **Two keys or more.** An accepted release was confirmed by a quorum of different
published keys, and by no single one, exactly when the manifest publishes different
keys for the points of the serving coalition. -/
theorem coalition_independent_keys_iff
    (haccepted : verifyCoalitionEvidence runtime result manifest resultDigest runId =
      .ok evidence) :
    IndependentKeys runtime manifest result ↔
      (result.coalition.map (publishedKey runtime manifest)).Nodup := by
  have h := verifyCoalitionEvidence_ok haccepted
  constructor
  · rintro ⟨-, ⟨keys, hnodup, henough, hkeys⟩, -⟩
    have hsubset : keys.map some ⊆ result.coalition.map (publishedKey runtime manifest) := by
      intro entry hmem
      obtain ⟨key, hkey, rfl⟩ := List.mem_map.mp hmem
      exact h.confirmed_iff.mp (hkeys key hkey).2
    have hsome : (keys.map some).Nodup := hnodup.map fun _ _ hsame => Option.some.inj hsame
    have hlength : (result.coalition.map (publishedKey runtime manifest)).length ≤
        (keys.map some).length := by
      have hsize := h.size
      simp only [List.length_map]
      omega
    -- a quorum of keys among as many points leaves no point without its own
    exact ((hsome.subperm hsubset).perm_of_length_le hlength).nodup_iff.mp hsome
  · intro hdistinct
    obtain ⟨keys, hkeys⟩ := publishedKeys h.published
    have hconfirmed : ∀ key ∈ keys, Confirmed runtime manifest result key := by
      intro key hmem
      rw [h.confirmed_iff, ← hkeys]
      exact List.mem_map_of_mem hmem
    have hnodup : keys.Nodup := List.Nodup.of_map some (hkeys ▸ hdistinct)
    have hlength : (keys.length : ℤ) = manifest.threshold := by
      have hsame := congrArg List.length hkeys
      simp only [List.length_map] at hsame
      rw [hsame, h.size]
    refine ⟨h.quorum, ⟨keys, hnodup, by omega, fun key hmem => ⟨?_, hconfirmed key hmem⟩⟩, ?_⟩
    · obtain ⟨attestation, -, hpublished, -⟩ := hconfirmed key hmem
      exact publishedKey_operator hpublished
    · intro holder
      have hquorum := h.quorum
      have htwo : 2 ≤ keys.length := by
        simp only [minimumQuorum] at hquorum
        omega
      obtain ⟨key, hmem, hother⟩ := exists_mem_ne hnodup htwo holder
      exact ⟨key, hother, hconfirmed key hmem⟩

end

/-! ## The facts of a release -/

section

variable {resultDigest resultDigest' runId runId' : Text}
  {evidence evidence' : VerifiedCoalitionEvidence}

/-- A plan for verified facts carries the digest and the run they were given. -/
theorem Accepted.planned {profile : SettlementProfile} {committedDigest : Hex}
    {plan : SettlementPlan}
    (h : Accepted runtime result manifest resultDigest runId evidence)
    (hplan : deriveSettlementPlan runtime.toRuntime profile committedDigest evidence.facts =
      .ok plan) :
    plan.governedResultDigest.text = resultDigest ∧ plan.runId.text = runId := by
  obtain ⟨-, -, -, hderived⟩ := deriveSettlementPlan_ok_iff.mp hplan
  have hdigest := hderived.resultDigest
  have hrun := hderived.runId
  rw [h.facts] at hdigest hrun
  exact ⟨hdigest, hrun⟩

/-- Acceptance never looks at the digest and the run. -/
theorem verifyCoalitionEvidence_any
    (haccepted : verifyCoalitionEvidence runtime result manifest resultDigest runId =
      .ok evidence) (otherDigest otherRun : Text) :
    ∃ other, verifyCoalitionEvidence runtime result manifest otherDigest otherRun = .ok other := by
  simp only [verifyCoalitionEvidence, bind_ok_iff] at haccepted ⊢
  obtain ⟨_, hschema, _, hmanifest, _, hauthority, _, hcase, _, hthreshold, _, hsize, served,
    hserved, attested, hattested, _, hcovered, confirmed, hconfirmed, _, hquorum, _, hcanonical,
    -⟩ := haccepted
  exact ⟨_, _, hschema, _, hmanifest, _, hauthority, _, hcase, _, hthreshold, _, hsize, served,
    hserved, attested, hattested, _, hcovered, confirmed, hconfirmed, _, hquorum, _, hcanonical,
    rfl⟩

/-- **One release, one result.** Of two accepted calls on the same evidence the
facts agree exactly when both were given the same result digest and the same run;
so do the replay keys of any plans derived from them. -/
theorem coalition_facts_iff
    (haccepted : verifyCoalitionEvidence runtime result manifest resultDigest runId =
      .ok evidence)
    (haccepted' : verifyCoalitionEvidence runtime result manifest resultDigest' runId' =
      .ok evidence') :
    (evidence.facts = evidence'.facts ↔ resultDigest = resultDigest' ∧ runId = runId') ∧
    ∀ profile committedDigest plan plan',
      deriveSettlementPlan runtime.toRuntime profile committedDigest evidence.facts = .ok plan →
      deriveSettlementPlan runtime.toRuntime profile committedDigest evidence'.facts = .ok plan' →
      (plan.governedResultDigest = plan'.governedResultDigest ∧ plan.runId = plan'.runId ↔
        resultDigest = resultDigest' ∧ runId = runId') := by
  have h := verifyCoalitionEvidence_ok haccepted
  have h' := verifyCoalitionEvidence_ok haccepted'
  constructor
  · rw [h.facts, h'.facts]
    simp only [GovernedResultFacts.mk.injEq, and_true]
  · intro profile committedDigest plan plan' hplan hplan'
    obtain ⟨hdigest, hrun⟩ := h.planned hplan
    obtain ⟨hdigest', hrun'⟩ := h'.planned hplan'
    rw [Hex.ext_iff, Hex.ext_iff, hdigest, hdigest', hrun, hrun']

end

end

/-! ## One key behind two points

A manifest publishes one key for two operators, and its holder signs everything.
The signatures are Ed25519's for that key. -/

namespace Sample

def signingKey : Text := lit "6kpsY+KcUgq+9VB7Ey7F+ZVHdq6+vnuSQh7qaRRG0iw="

def rawKey : List UInt8 :=
  hexBytes (lit "ea4a6c63e29c520abef5507b132ec5f9954776aebebe7b92421eea691446d22c")

def statementDigests : List Text :=
  [lit "a0a0a0a0a0a0a0a0a0a0a0a0a0a0a0a0a0a0a0a0a0a0a0a0a0a0a0a0a0a0a0a0",
    lit "a1a1a1a1a1a1a1a1a1a1a1a1a1a1a1a1a1a1a1a1a1a1a1a1a1a1a1a1a1a1a1a1"]

def statementSignatures : List Text :=
  [lit ("796f0ad8af21d712e69fa33725463c5c1e26abef161feafc9f6b2eec195d89ae" ++
      "535b26478ed790220779f3d470e609f89d9f03af98c0b3b3a5dd34ea4ca0e30f"),
    lit ("6df48b2cb859c64890fb0bc58138934a28a5e1162f3b718045e97e70831adf2f" ++
      "a76e379352fc5c031bf2ff58d20b96b93ff1e6e4530dd10a8f982f76549a5909")]

def attestations : List CoalitionSettlementAttestation :=
  [⟨1, lit ("T+/hSrwvj15kHxYZyHAuq3GYUTl1obw3UnnI8bUMEDdA" ++
      "k6ZTJCwYoROF/VOokz3mXyjDsPj3xT4McGoZiCByBg==")⟩,
    ⟨2, lit ("ebt417qEbHS/nvUKYbzOtrwPQljX9h0xPivkOKC6R0X2" ++
      "01q+F27q0Bm7MFdMJ1JP/Dxsn/kkSosaSTCfPnl6CA==")⟩]

def rawAttestations : List (List UInt8) :=
  [hexBytes (lit ("4fefe14abc2f8f5e641f1619c8702eab7198513975a1bc375279c8f1b50c1037" ++
      "4093a653242c18a11385fd53a8933de65f28c3b0f8f7c53e0c706a1988207206")),
    hexBytes (lit ("79bb78d7ba846c74bf9ef50a61bcceb6bc0f4258d7f61d313e2be438a0ba4745" ++
      "f6d35abe176eead019bb30574c27524ffc3c6c9ff9244a8b1a49309f3e797a08"))]

def manifest : CoalitionThresholdManifest where
  schemaVersion := coalitionManifestSchema
  caseId := profile.caseBinding.caseId
  keyId := lit "sha256:d1d1d1d1d1d1d1d1d1d1d1d1d1d1d1d1d1d1d1d1d1d1d1d1d1d1d1d1d1d1d1d1"
  parameterFingerprint :=
    lit "sha256:d2d2d2d2d2d2d2d2d2d2d2d2d2d2d2d2d2d2d2d2d2d2d2d2d2d2d2d2d2d2d2d2"
  threshold := 2
  operators :=
    [⟨lit "sha256:e1e1e1e1e1e1e1e1e1e1e1e1e1e1e1e1e1e1e1e1e1e1e1e1e1e1e1e1e1e1e1e1", 1,
        signingKey⟩,
      ⟨lit "sha256:e2e2e2e2e2e2e2e2e2e2e2e2e2e2e2e2e2e2e2e2e2e2e2e2e2e2e2e2e2e2e2e2", 2,
        signingKey⟩]
  operatorTopology := lit "colocated-single-process"

/-- Both points attest both released bits and confirm the release. -/
def coalitionResult : CoalitionConflictResult where
  schemaVersion := coalitionResultSchema
  caseId := profile.caseBinding.caseId
  caseBindingDigest := profile.caseBinding.caseBindingDigest
  assetIdentity := profile.caseBinding.protectionBindingDigest
  sameEconomicAsset := true
  policyConflict := true
  releaseMode := lit "coalition-v5"
  releaseAuthorityId :=
    lit "sha256:7cb7b2a01c52f544619f69dfeb772e409a260fdf6cc2d1642cb4adefd06737b2"
  threshold := 2
  coalition := [1, 2]
  operatorTopology := lit "colocated-single-process"
  operatorStatements := [1, 2].flatMap fun point =>
    (List.zip statementDigests statementSignatures).mapIdx fun slot (digest, signature) =>
      ⟨point, slot, lit "0x" ++ digest, lit "0x" ++ signature⟩
  releaseTranscript :=
    lit "sha256:c4c4c4c4c4c4c4c4c4c4c4c4c4c4c4c4c4c4c4c4c4c4c4c4c4c4c4c4c4c4c4c4"
  settlementAttestations := some attestations

/-- The base64 spellings that occur. -/
def spellings : List (Text × List UInt8) :=
  (signingKey, rawKey) :: List.zip (attestations.map (·.signature)) rawAttestations

/-- Everything but the signatures. -/
def node : NodeRuntime where
  toRuntime := { runtime with
    sha256 := fun _ => lit "7cb7b2a01c52f544619f69dfeb772e409a260fdf6cc2d1642cb4adefd06737b2" }
  utf8 text := text.map UInt16.toUInt8
  decodeBase64 text := (spellings.lookup text).getD []
  encodeBase64 bytes := ((spellings.map Prod.swap).lookup bytes).getD []
  verifyEd25519 _ _ _ := false

/-- What the holder of the key signed. -/
def signed : List (List UInt8 × List UInt8) :=
  List.zip (statementDigests.map hexBytes) (statementSignatures.map hexBytes) ++
    List.zip ([1, 2].map (settlementStatementMessage node coalitionResult)) rawAttestations

def coalitionRuntime : NodeRuntime :=
  { node with
    verifyEd25519 := fun key message signature =>
      key = rawKey && (message, signature) ∈ signed }

end Sample

/-- The evidence is accepted, under any digest and run. -/
theorem Sample.coalition_accepted (resultDigest runId : Text) :
    ∃ evidence, verifyCoalitionEvidence Sample.coalitionRuntime Sample.coalitionResult
      Sample.manifest resultDigest runId = .ok evidence := by
  obtain ⟨evidence, haccepted⟩ := toBool_eq_true_iff.mp
    (show (verifyCoalitionEvidence Sample.coalitionRuntime Sample.coalitionResult Sample.manifest
      [] []).toBool = true by decide +kernel)
  exact verifyCoalitionEvidence_any haccepted resultDigest runId

/-- Evidence made with one private key is accepted. -/
theorem single_key_accepted :
    ∃ evidence, verifyCoalitionEvidence Sample.coalitionRuntime Sample.coalitionResult
        Sample.manifest (Sample.resultOf (lit "run-a")).governedResultDigest
        (Sample.resultOf (lit "run-a")).runId = .ok evidence ∧
      (∀ key, Confirmed Sample.coalitionRuntime Sample.manifest Sample.coalitionResult key →
        key = Sample.rawKey) ∧
      ¬ IndependentKeys Sample.coalitionRuntime Sample.manifest Sample.coalitionResult := by
  obtain ⟨evidence, haccepted⟩ := Sample.coalition_accepted
    (Sample.resultOf (lit "run-a")).governedResultDigest (Sample.resultOf (lit "run-a")).runId
  have hsingle : ∀ key,
      Confirmed Sample.coalitionRuntime Sample.manifest Sample.coalitionResult key →
        key = Sample.rawKey := by
    intro key hconfirmed
    have hkeys : Sample.coalitionResult.coalition.map
        (publishedKey Sample.coalitionRuntime Sample.manifest) =
          [some Sample.rawKey, some Sample.rawKey] := by decide +kernel
    have hmem := (verifyCoalitionEvidence_ok haccepted).confirmed_iff.mp hconfirmed
    rw [hkeys] at hmem
    simpa using hmem
  refine ⟨evidence, haccepted, hsingle, fun hindependent => ?_⟩
  obtain ⟨key, hother, hconfirmed⟩ := hindependent.noSingle Sample.rawKey
  exact hother (hsingle key hconfirmed)

/-- The equivalence for that evidence. -/
theorem coalition_independent_keys_sample :
    IndependentKeys Sample.coalitionRuntime Sample.manifest Sample.coalitionResult ↔
      (Sample.coalitionResult.coalition.map
        (publishedKey Sample.coalitionRuntime Sample.manifest)).Nodup := by
  obtain ⟨evidence, haccepted⟩ := Sample.coalition_accepted [] []
  exact coalition_independent_keys_iff haccepted

/-- One release, presented as a result of either of two runs. -/
theorem one_release_two_results :
    ∃ evidence evidence',
      verifyCoalitionEvidence Sample.coalitionRuntime Sample.coalitionResult Sample.manifest
        (Sample.resultOf (lit "run-a")).governedResultDigest
        (Sample.resultOf (lit "run-a")).runId = .ok evidence ∧
      verifyCoalitionEvidence Sample.coalitionRuntime Sample.coalitionResult Sample.manifest
        (Sample.resultOf (lit "run-b")).governedResultDigest
        (Sample.resultOf (lit "run-b")).runId = .ok evidence' ∧
      evidence.facts ≠ evidence'.facts := by
  obtain ⟨evidence, haccepted⟩ := Sample.coalition_accepted
    (Sample.resultOf (lit "run-a")).governedResultDigest (Sample.resultOf (lit "run-a")).runId
  obtain ⟨evidence', haccepted'⟩ := Sample.coalition_accepted
    (Sample.resultOf (lit "run-b")).governedResultDigest (Sample.resultOf (lit "run-b")).runId
  refine ⟨evidence, evidence', haccepted, haccepted', fun hsame => ?_⟩
  rw [(verifyCoalitionEvidence_ok haccepted).facts,
    (verifyCoalitionEvidence_ok haccepted').facts] at hsame
  exact absurd (congrArg GovernedResultFacts.runId hsame) (by decide +kernel)

/-- The facts of two calls agree exactly when their arguments do. -/
theorem coalition_facts_sample :
    ∃ evidence evidence',
      verifyCoalitionEvidence Sample.coalitionRuntime Sample.coalitionResult Sample.manifest
        (lit "0x01") (lit "0x02") = .ok evidence ∧
      verifyCoalitionEvidence Sample.coalitionRuntime Sample.coalitionResult Sample.manifest
        (lit "0x01") (lit "0x03") = .ok evidence' ∧
      (evidence.facts = evidence'.facts ↔
        lit "0x01" = lit "0x01" ∧ lit "0x02" = lit "0x03") := by
  obtain ⟨evidence, haccepted⟩ := Sample.coalition_accepted (lit "0x01") (lit "0x02")
  obtain ⟨evidence', haccepted'⟩ := Sample.coalition_accepted (lit "0x01") (lit "0x03")
  exact ⟨evidence, evidence', haccepted, haccepted',
    (coalition_facts_iff haccepted haccepted').1⟩

end Mordant.Protection
