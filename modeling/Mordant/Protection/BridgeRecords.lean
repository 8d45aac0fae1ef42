/-
# Durable bridge records

What an executor signs is published once for a result, in a file that is complete
before it appears.  An executor that finds the file already there reads it as input
it does not trust, and reuses the authorization only when it is its own.
-/

import Mordant.Protection.Compatibility

namespace Mordant.Protection

open Foundation Script

def bridgeExecutionSchema : Text := lit "mordant.bridge-execution/2"

def bridgeSimulationMaxAgeSeconds : ℤ := 30

/-- `BridgeOperationRecord`. Its schema, and that it was not submitted, are constants of
the type. -/
@[ext]
structure BridgeOperationRecord where
  governedResultDigest : Hex
  adapterAddress : Hex
  chainId : ℤ
  signerAddress : Hex
  typedDataDigest : Hex
  structHash : Hex
  intentDigest : Hex
  signature : Hex
  preparedAtUnix : ℤ

structure SignedBridge where
  prepared : PreparedBridge
  signature : Hex
  record : BridgeOperationRecord
  /-- False when the same intent has a record already. -/
  newlySigned : Bool

/-- What reading a record back needs besides. -/
structure RecordRuntime extends BridgeRuntime where
  /-- `getAddress`, which throws for what is no address. -/
  getAddress : Text → Option Text
  /-- `recoverAddress`, which throws for what is no signature. -/
  recoverAddress : Hex → Hex → Option Hex

/-- The document a record is written as. -/
def BridgeOperationRecord.json (record : BridgeOperationRecord) : Json :=
  .object
    [(lit "schemaVersion", .text bridgeExecutionSchema),
      (lit "governedResultDigest", .text record.governedResultDigest.text),
      (lit "adapterAddress", .text record.adapterAddress.text),
      (lit "chainId", .number (.ofInt record.chainId)),
      (lit "signerAddress", .text record.signerAddress.text),
      (lit "typedDataDigest", .text record.typedDataDigest.text),
      (lit "structHash", .text record.structHash.text),
      (lit "intentDigest", .text record.intentDigest.text),
      (lit "signature", .text record.signature.text),
      (lit "preparedAtUnix", .number (.ofInt record.preparedAtUnix)),
      (lit "submitted", .bool false),
      (lit "transactionHash", .null)]

def bridgeRecordFields : List String :=
  ["schemaVersion", "governedResultDigest", "adapterAddress", "chainId", "signerAddress",
    "typedDataDigest", "structHash", "intentDigest", "signature", "preparedAtUnix", "submitted",
    "transactionHash"]

def recordFailure (message : String) : BridgeThrown := .execution "RECORD_INVALID" message

/-- The pattern of `canonicalRecordHex`. -/
def isCanonicalHex (bytes : ℕ) (text : Text) : Bool :=
  matchesDigits isLowerHexDigit "0x" (2 * bytes) text

def canonicalRecordHex (value : Option Json) (bytes : ℕ) (label : String) :
    Except BridgeThrown Hex :=
  let thrown := recordFailure ("The durable bridge record has an invalid " ++ label)
  match value with
  | some (.text text) =>
    if h : isCanonicalHex bytes text = true then .ok ⟨text, matchesDigits_prefix h⟩
    else .error thrown
  | _ => .error thrown

def canonicalRecordInteger (value : Option Json) (label : String) (minimum : ℤ) :
    Except BridgeThrown ℤ :=
  let thrown := recordFailure ("The durable bridge record has an invalid " ++ label)
  match value with
  | some (.number n) =>
    if n.isSafeInteger = true ∧ n.lt (.ofInt minimum) = false then .ok (bigIntOf n)
    else .error thrown
  | _ => .error thrown

section

variable (runtime : RecordRuntime)

def canonicalRecordAddress (value : Option Json) (label : String) : Except BridgeThrown Hex :=
  let thrown := recordFailure ("The durable bridge record has an invalid " ++ label)
  match value with
  | some (.text text) =>
    if h : matchesDigits isHexDigit "0x" 40 text = true then
      match runtime.getAddress text with
      | some parsed =>
        if parsed = text then .ok ⟨text, matchesDigits_prefix h⟩ else .error thrown
      | none => .error thrown
    else .error thrown
  | _ => .error thrown

def parseBridgeOperationRecord (raw : Json) (expectedDigest : Hex) :
    Except BridgeThrown BridgeOperationRecord := do
  revertIf (raw.isObject = false) (recordFailure "The durable bridge record must be a JSON object")
  revertIf (raw.hasExactKeys bridgeRecordFields = false)
    (recordFailure "The durable bridge record does not have the exact bridge schema")
  revertIf ((raw.get "schemaVersion").bind Json.asText ≠ some bridgeExecutionSchema)
    (recordFailure "The durable bridge record has an unsupported schema version")
  let governedResultDigest ←
    canonicalRecordHex (raw.get "governedResultDigest") 32 "governed result digest"
  let requestedDigest ←
    canonicalRecordHex (some (.text expectedDigest.text)) 32 "requested governed result digest"
  revertIf (governedResultDigest ≠ requestedDigest)
    (recordFailure "The durable bridge record does not match its governed-result path")
  let signature ← canonicalRecordHex (raw.get "signature") 65 "signature"
  match raw.get "submitted", raw.get "transactionHash" with
  | some (.bool false), some .null => pure ()
  | _, _ =>
    throw (recordFailure "The durable bridge record must remain an unsubmitted authorization")
  let chainId ← canonicalRecordInteger (raw.get "chainId") "chain ID" 1
  revertIf (chainId ≠ monadTestnetChainId)
    (recordFailure "The durable bridge record is not for Monad testnet")
  let adapterAddress ←
    canonicalRecordAddress runtime (raw.get "adapterAddress") "adapter address"
  let signerAddress ← canonicalRecordAddress runtime (raw.get "signerAddress") "signer address"
  let typedDataDigest ← canonicalRecordHex (raw.get "typedDataDigest") 32 "typed-data digest"
  let structHash ← canonicalRecordHex (raw.get "structHash") 32 "struct hash"
  let intentDigest ← canonicalRecordHex (raw.get "intentDigest") 32 "intent digest"
  let preparedAtUnix ← canonicalRecordInteger (raw.get "preparedAtUnix") "prepared timestamp" 0
  pure
    { governedResultDigest := governedResultDigest
      adapterAddress := adapterAddress
      chainId := chainId
      signerAddress := signerAddress
      typedDataDigest := typedDataDigest
      structHash := structHash
      intentDigest := intentDigest
      signature := signature
      preparedAtUnix := preparedAtUnix }

/-- The record files of the bridge directory, by the digest in their path. -/
abbrev BridgeRecords := Hex → Option Json

/-- `bridgeRecordPath`: the digest a file is kept under. -/
def bridgeRecordPath (governedResultDigest : Hex) : Except BridgeThrown Hex :=
  canonicalRecordHex (some (.text governedResultDigest.text)) 32 "governed result digest"

def readBridgeRecord (records : BridgeRecords) (governedResultDigest : Hex) :
    Except BridgeThrown (Option BridgeOperationRecord) := do
  let path ← bridgeRecordPath governedResultDigest
  match records path with
  | none => pure none
  | some raw => do
    let record ← parseBridgeOperationRecord runtime raw governedResultDigest
    pure (some record)

/-- A comparison of `assertReusableBridgeRecord`. -/
def requireReusable (actual wanted : Hex) (name : String) : Except BridgeThrown Unit :=
  revertIf (sameHex runtime.toBridgeRuntime actual wanted = false) (.execution "CHANGED_PAYLOAD"
    ("A different " ++ name ++ " was already authorized for this governed result"))

def assertReusableBridgeRecord (existing : BridgeOperationRecord) (prepared : PreparedBridge) :
    Except BridgeThrown Unit := do
  requireReusable runtime existing.governedResultDigest
    prepared.payload.message.governedResultDigest "governedResultDigest"
  requireReusable runtime existing.adapterAddress prepared.adapterAddress "adapterAddress"
  revertIf (existing.chainId ≠ prepared.adapterChainId) (.execution "CHANGED_PAYLOAD"
    "A different chainId was already authorized for this governed result")
  requireReusable runtime existing.signerAddress prepared.signerAddress "signerAddress"
  requireReusable runtime existing.typedDataDigest prepared.typedDataDigest "typedDataDigest"
  requireReusable runtime existing.structHash prepared.structHash "structHash"
  requireReusable runtime existing.intentDigest prepared.intentDigest "intentDigest"
  let recovered ← require (.execution "RECORD_SIGNATURE"
    "The existing bridge authorization has an invalid signature")
    (runtime.recoverAddress prepared.typedDataDigest existing.signature)
  revertIf (sameHex runtime.toBridgeRuntime recovered prepared.signerAddress = false)
    (.execution "RECORD_SIGNATURE"
      "The existing bridge authorization was not signed by the committed attestor")

/-- The record `persistSigned` tries to publish. -/
def signedRecord (prepared : PreparedBridge) (signature : Hex) (now : ℤ) :
    BridgeOperationRecord where
  governedResultDigest := prepared.payload.message.governedResultDigest
  adapterAddress := prepared.adapterAddress
  chainId := prepared.adapterChainId
  signerAddress := prepared.signerAddress
  typedDataDigest := prepared.typedDataDigest
  structHash := prepared.structHash
  intentDigest := prepared.intentDigest
  signature := signature
  preparedAtUnix := now

/-- `persistSigned` after another record was found in the way. -/
def reuseSigned (records : BridgeRecords) (prepared : PreparedBridge) :
    Except BridgeThrown SignedBridge := do
  let found ← readBridgeRecord runtime records prepared.payload.message.governedResultDigest
  let existing ← require (.execution "RECORD_RACE"
    "The concurrent bridge authorization record could not be read") found
  assertReusableBridgeRecord runtime existing prepared
  pure ⟨prepared, existing.signature, existing, false⟩

end

/-! ## Reading back what was written -/

section

variable {runtime : RecordRuntime} {record existing : BridgeOperationRecord} {digest : Hex}

theorem canonicalRecordHex_ok {text : Text} {bytes : ℕ} {label : String} {value : Hex}
    (h : canonicalRecordHex (some (.text text)) bytes label = .ok value) :
    isCanonicalHex bytes text = true ∧ value.text = text := by
  simp only [canonicalRecordHex] at h
  split at h
  · next hcanonical =>
      obtain rfl := Except.ok.inj h
      exact ⟨hcanonical, rfl⟩
  · cases h

theorem canonicalRecordInteger_ok {n minimum : ℤ} {label : String} {value : ℤ}
    (h : canonicalRecordInteger (some (.number (.ofInt n))) label minimum = .ok value) :
    value = n := by
  simp only [canonicalRecordInteger] at h
  split at h
  · exact (Except.ok.inj h).symm
  · exact nomatch h

theorem canonicalRecordAddress_ok {text : Text} {label : String} {value : Hex}
    (h : canonicalRecordAddress runtime (some (.text text)) label = .ok value) :
    value.text = text := by
  simp only [canonicalRecordAddress] at h
  split at h
  · split at h
    · split at h
      · obtain rfl := Except.ok.inj h
        rfl
      · cases h
    · cases h
  · cases h

/-- The digests of a record that passed are canonical. -/
structure CanonicalRecord (record : BridgeOperationRecord) : Prop where
  typedDataDigest : isCanonicalHex 32 record.typedDataDigest.text = true
  intentDigest : isCanonicalHex 32 record.intentDigest.text = true

/-- A record that was written is read as itself. -/
theorem parseBridgeOperationRecord_json
    (h : parseBridgeOperationRecord runtime record.json digest = .ok existing) :
    existing = record ∧ CanonicalRecord record := by
  have hresult : record.json.get "governedResultDigest" =
      some (.text record.governedResultDigest.text) := rfl
  have hadapter : record.json.get "adapterAddress" = some (.text record.adapterAddress.text) := rfl
  have hchain : record.json.get "chainId" = some (.number (.ofInt record.chainId)) := rfl
  have hsigner : record.json.get "signerAddress" = some (.text record.signerAddress.text) := rfl
  have htyped : record.json.get "typedDataDigest" = some (.text record.typedDataDigest.text) := rfl
  have hstruct : record.json.get "structHash" = some (.text record.structHash.text) := rfl
  have hintent : record.json.get "intentDigest" = some (.text record.intentDigest.text) := rfl
  have hsignature : record.json.get "signature" = some (.text record.signature.text) := rfl
  have hprepared : record.json.get "preparedAtUnix" =
      some (.number (.ofInt record.preparedAtUnix)) := rfl
  have hsubmitted : record.json.get "submitted" = some (.bool false) := rfl
  have htransaction : record.json.get "transactionHash" = some .null := rfl
  simp only [parseBridgeOperationRecord, hresult, hadapter, hchain, hsigner, htyped, hstruct,
    hintent, hsignature, hprepared, hsubmitted, htransaction, bind_ok_iff, pure_ok_iff] at h
  obtain ⟨_, -, _, -, _, -, result, hresult, _, -, _, -, signature, hsignature, chainId, hchain,
    _, -, adapter, hadapter, signer, hsigner, typed, htyped, struct, hstruct, intent, hintent,
    prepared, hprepared, rfl⟩ := h
  obtain ⟨htypedCanonical, htyped⟩ := canonicalRecordHex_ok htyped
  obtain ⟨hintentCanonical, hintent⟩ := canonicalRecordHex_ok hintent
  constructor
  · apply BridgeOperationRecord.ext
    · exact Hex.ext (canonicalRecordHex_ok hresult).2
    · exact Hex.ext (canonicalRecordAddress_ok hadapter)
    · exact canonicalRecordInteger_ok hchain
    · exact Hex.ext (canonicalRecordAddress_ok hsigner)
    · exact Hex.ext htyped
    · exact Hex.ext (canonicalRecordHex_ok hstruct).2
    · exact Hex.ext hintent
    · exact Hex.ext (canonicalRecordHex_ok hsignature).2
    · exact canonicalRecordInteger_ok hprepared
  · exact ⟨htypedCanonical, hintentCanonical⟩

end

/-! ## Digests in their one spelling -/

/-- What the libraries document of the hashes they return, and of lower-casing one. -/
structure LowerCaseHashes (runtime : BridgeRuntime) : Prop where
  hashTypedData : ∀ payload digest, runtime.hashTypedData payload = some digest →
    isCanonicalHex 32 digest.text = true
  sha256 : ∀ text, isDigestDigits (runtime.sha256 text) = true
  lower : ∀ text, isCanonicalHex 32 text = true → runtime.toLowerCase text = text

/-- The digests of a preparation are canonical. -/
structure CanonicalPrepared (prepared : PreparedBridge) : Prop where
  typedDataDigest : isCanonicalHex 32 prepared.typedDataDigest.text = true
  intentDigest : isCanonicalHex 32 prepared.intentDigest.text = true

/-- What `prepare` and `prepareDirect` are called with, and what loading and verifying
come to. -/
inductive Preparation
  | retained (reader : AdapterReader) (configured : Hex)
      (loadCanonical : Except LoadFailure CanonicalArtifacts)
      (verifyEvidence : CanonicalArtifacts → Except LoadFailure VerifiedGovernedRelease)
      (window : BridgeWindow) (settlement : Option SettlementAuthorityInput)
  | direct (reader : AdapterReader) (configured : Hex)
      (loadConfiguration : Except LoadFailure CanonicalRecourseConfiguration)
      (verify : CanonicalRecourseConfiguration →
        Except BridgeThrown (VerifiedHolders × VerifiedGovernedRelease))
      (loadProof : Except LoadFailure CaseAdapterDeploymentProof)
      (window : BridgeWindow) (settlement : Option SettlementAuthorityInput)

/-- The state a preparation leaves with the executor. -/
def Preparation.result (runtime : BridgeRuntime) :
    Preparation → Except BridgeThrown PreparedState
  | .retained reader configured loadCanonical verifyEvidence window settlement =>
      buildPrepared runtime reader configured loadCanonical verifyEvidence window settlement
  | .direct reader configured loadConfiguration verify loadProof window settlement =>
      buildPreparedDirect runtime reader configured loadConfiguration verify loadProof window
        settlement

section

variable {runtime : RecordRuntime} {records : BridgeRecords} {prepared : PreparedBridge}
  {signed : SignedBridge} {left right : Hex} {base : BridgeRuntime}

theorem isCanonicalHex_of_digits {digits : Text} (h : isDigestDigits digits = true) :
    isCanonicalHex 32 (lit "0x" ++ digits) = true := by
  simp only [isDigestDigits, matchesDigits, Bool.and_eq_true, decide_eq_true_eq] at h
  obtain ⟨⟨-, hlength⟩, hdigits⟩ := h
  have hempty : (lit "").length = 0 := by decide
  have hprefix : (lit "0x").length = 2 := by decide
  rw [hempty, List.drop_zero] at hlength hdigits
  simp only [isCanonicalHex, matchesDigits, Bool.and_eq_true, decide_eq_true_eq,
    List.drop_left, hlength, hdigits, and_true]
  exact List.prefix_append _ _

/-- Canonical digests that agree in lower case are one digest. -/
theorem eq_of_sameHex (hlower : LowerCaseHashes runtime.toBridgeRuntime)
    (hleft : isCanonicalHex 32 left.text = true) (hright : isCanonicalHex 32 right.text = true)
    (h : sameHex runtime.toBridgeRuntime left right = true) : left = right := by
  simp only [sameHex, sameAddress, decide_eq_true_eq] at h
  rw [hlower.lower _ hleft, hlower.lower _ hright] at h
  exact Hex.ext h

theorem checkPayload_digest {reader : AdapterReader} {state : AdapterState}
    {payload : GovernedBridgePayload} {thrown thrown' : PrepareThrown} {checked : CheckedAdapter}
    (h : checkPayload base reader state payload thrown thrown' = .ok checked) :
    base.hashTypedData checked.payload = some checked.typedDataDigest := by
  simp only [checkPayload, bind_ok_iff, pure_ok_iff] at h
  obtain ⟨_, htyped, _, -, _, -, _, -, _, -, _, -, rfl⟩ := h
  exact require_ok_iff.mp htyped

/-- A checked payload is prepared with canonical digests, whoever signs. -/
theorem CheckedAdapter.canonical {checked : CheckedAdapter} {signer : Hex}
    (hlower : LowerCaseHashes base)
    (hdigest : base.hashTypedData checked.payload = some checked.typedDataDigest) :
    CanonicalPrepared (checked.prepared base signer) where
  typedDataDigest := hlower.hashTypedData _ _ hdigest
  intentDigest := isCanonicalHex_of_digits (hlower.sha256 _)

/-- Whatever is prepared has canonical digests. -/
theorem Preparation.canonical (hlower : LowerCaseHashes base) {preparation : Preparation}
    {state : PreparedState}
    (h : preparation.result base = .ok state) : CanonicalPrepared state.prepared := by
  cases preparation with
  | retained reader configured loadCanonical verifyEvidence window settlement =>
      simp only [Preparation.result, buildPrepared, checkAdapterV2Compatibility, bind_ok_iff,
        reported_ok_iff, mapError_ok_iff, pure_ok_iff] at h
      obtain ⟨_, -, _, -, _, -, _, -, checked, ⟨_, -, _, -, hchecked⟩, rfl⟩ := h
      exact checked.canonical hlower (checkPayload_digest hchecked)
  | direct reader configured loadConfiguration verify loadProof window settlement =>
      simp only [Preparation.result, buildPreparedDirect, checkDirectParticipantAdapter,
        bind_ok_iff, reported_ok_iff, mapError_ok_iff, pure_ok_iff] at h
      obtain ⟨_, -, _, -, checked, ⟨_, -, _, -, _, -, hchecked⟩, _, -, rfl⟩ := h
      exact checked.canonical hlower (checkPayload_digest hchecked)

/-- A returned authorization carries the one record of its result. -/
def CarriesRecord (records : BridgeRecords) (signed : SignedBridge) : Prop :=
  ∃ record, records signed.prepared.payload.message.governedResultDigest = some record.json ∧
    signed.record = record ∧ signed.signature = record.signature ∧
    signed.prepared.typedDataDigest = record.typedDataDigest ∧
    signed.prepared.intentDigest = record.intentDigest

/-- What is reused is the record that is there. -/
theorem reuseSigned_ok (hlower : LowerCaseHashes runtime.toBridgeRuntime)
    (hcanonical : CanonicalPrepared prepared)
    (hrecords : ∀ digest raw, records digest = some raw →
      ∃ record : BridgeOperationRecord, raw = record.json)
    (h : reuseSigned runtime records prepared = .ok signed) :
    signed.prepared = prepared ∧ CarriesRecord records signed := by
  simp only [reuseSigned, readBridgeRecord, bind_ok_iff, require_ok_iff, pure_ok_iff] at h
  obtain ⟨_, ⟨path, hpath, hread⟩, existing, rfl, _, hreusable, rfl⟩ := h
  obtain rfl : path = prepared.payload.message.governedResultDigest :=
    Hex.ext (canonicalRecordHex_ok hpath).2
  cases hraw : records prepared.payload.message.governedResultDigest with
  | none =>
      simp only [hraw, pure_ok_iff, reduceCtorEq] at hread
  | some raw =>
      obtain ⟨record, rfl⟩ := hrecords _ raw hraw
      simp only [hraw, bind_ok_iff, pure_ok_iff, Option.some.injEq] at hread
      obtain ⟨parsed, hparsed, rfl⟩ := hread
      obtain ⟨hparsed, hrecord⟩ := parseBridgeOperationRecord_json hparsed
      rw [hparsed] at hreusable ⊢
      simp only [assertReusableBridgeRecord, requireReusable, bind_ok_iff, revertIf_ok_iff,
        Bool.not_eq_false] at hreusable
      obtain ⟨_, -, _, -, _, -, _, -, _, htyped, _, -, _, hintent, -⟩ := hreusable
      refine ⟨rfl, record, hraw, rfl, rfl, ?_, ?_⟩
      · exact (eq_of_sameHex hlower hrecord.typedDataDigest hcanonical.typedDataDigest
          htyped).symm
      · exact (eq_of_sameHex hlower hrecord.intentDigest hcanonical.intentDigest hintent).symm

end

end Mordant.Protection
