/-
# The context of a one-shot ceremony

Three operators make one key for one bilateral session.  What they agree on beforehand is the
context; its digests name the ceremony, the roster, the session and the scope, and enter
everything that is signed or stored.

Hashing, signatures, transport encryption and the lattice operations are the ceremony's
libraries; they are parameters, collected in `Library`.
-/

import Mordant.Foundation.Delimited
import Mordant.ThresholdNet.Wire

namespace Mordant.OneShotCeremony

open Evm Foundation
open BitVec (ofNat)
open Coalition (Digest Word64 uint64Bytes)
open ThresholdNet (uint32Bytes Signature reads_digest reads_uint64 reads_uint32)

/-- The errors of the package. -/
inductive CeremonyError
  | binding
  | state
  | replay
  | signature
  | material
  | terminal
  | persistence
  | secretAccess
  | canonical
  deriving DecidableEq, Repr

/-! ## Canonical encodings -/

def uint16Bytes (word : BitVec 16) : Bytes :=
  [UInt8.ofNat (word.toNat / 256), UInt8.ofNat word.toNat]

/-- `encoder.field`. -/
def fieldBytes (value : Bytes) : Bytes := uint32Bytes (ofNat 32 value.length) ++ value

/-- `encoder.text`. -/
def textBytes (text : String) : Bytes := fieldBytes (stringBytes text)

theorem delimited_wordBytes : Delimited Set.univ wordBytes :=
  .of_read _ fun word _ => reads_digest word

theorem delimited_uint64Bytes : Delimited Set.univ uint64Bytes :=
  .of_read _ fun word _ => reads_uint64 word

theorem delimited_uint32Bytes : Delimited Set.univ uint32Bytes :=
  .of_read _ fun word _ => reads_uint32 word

/-- What stands behind its length is what it is. -/
theorem fieldBytes_injective : Function.Injective fieldBytes := by
  intro value other heq
  exact (delimited_uint32Bytes (Set.mem_univ _) (Set.mem_univ _) heq).2

/-- `isZero32`, of any number of values. -/
def anyZero (values : List Digest) : Prop := 0 ∈ values

instance (values : List Digest) : Decidable (anyZero values) :=
  inferInstanceAs (Decidable (0 ∈ values))

/-- Points ascend after one that may not be there. -/
theorem isChain_toList_cons {previous : Option Word64} {point : Word64} {rest : List Word64} :
    (previous.toList ++ point :: rest).IsChain (· < ·) ↔
      ¬ previous.any (point ≤ ·) = true ∧ (point :: rest).IsChain (· < ·) := by
  cases previous with
  | none => simp
  | some first => simp [BitVec.not_le]

/-! ## Libraries -/

/-- What the ceremony calls and does not implement. A share or a key is what it is written as;
`none` is an error. -/
structure Library where
  sha256 : Bytes → Digest
  /-- `ed25519.PrivateKey`. -/
  SigningKey : Type
  publicKey : SigningKey → Bytes32
  sign : SigningKey → Bytes → Signature
  verify : Bytes32 → Bytes → Signature → Bool
  /-- `ecdh.PrivateKey`. -/
  DecryptionKey : Type
  encryptionKey : DecryptionKey → Bytes32
  /-- What is random. -/
  Coins : Type
  /-- A fresh transport key, a nonce and the ciphertext, for a key, additional data that depends
  on the fresh key, and a plaintext. -/
  sealWire : Coins → Bytes32 → (Bytes32 → Bytes) → Bytes →
    Option (Bytes32 × Vector UInt8 12 × Bytes)
  openWire : DecryptionKey → Bytes32 → Vector UInt8 12 → Bytes → Bytes → Option Bytes
  SecretKey : Type
  ShamirPolynomial : Type
  ThresholdShare : Type
  RelinEphemeral : Type
  RelinShare : Type
  secretKey : Coins → SecretKey
  shamirPolynomial : Coins → SecretKey → Option ShamirPolynomial
  shamirShare : ShamirPolynomial → Word64 → Option Bytes
  readShamirShare : Bytes → Option ThresholdShare
  noShare : ThresholdShare
  addShares : ThresholdShare → ThresholdShare → Option ThresholdShare
  publicKeyShare : Coins → SecretKey → Digest → Option Bytes
  aggregatePublicKey : Digest → List Bytes → Option Bytes
  relinShareOne : Coins → SecretKey → Digest → RelinEphemeral × Option Bytes
  relinShareTwo : Coins → RelinEphemeral → SecretKey → RelinShare → Option Bytes
  aggregateRelinOne : List Bytes → Option RelinShare
  aggregateRelinTwo : List Bytes → Option RelinShare
  marshalRelinShare : RelinShare → Option Bytes
  readRelinOne : Bytes → Option RelinShare
  relinearizationKey : RelinShare → RelinShare → Option Bytes
  galoisShare : Coins → SecretKey → Word64 → Digest → Option Bytes
  aggregateGaloisKey : Word64 → Digest → List Bytes → Option Bytes

def Library.hashDomain (library : Library) (domain : String) (chunks : List Bytes) : Digest :=
  library.sha256 (textBytes domain ++ chunks.flatMap fieldBytes)

/-! ## Phases -/

/-- The phases are numbered; a record can name any number. -/
abbrev Phase : Type := BitVec 16

def Phase.aborted : Phase := 13

/-! ## Contexts -/

def protocolVersion : String := "mordant.fhe-ceremony/oneshot-v2"
def contextSchema : String := "mordant.fhe-ceremony-context/oneshot-v2"
def serializationVersion : BitVec 32 := 1
def lattigoVersion : String := "github.com/tuneinsight/lattigo/v6 v6.2.0"
def lattigoModuleChecksum : String := "h1:HZrksD5u87bOr/4hWHI1Jhps14Tafdvb84Fxmi3dou0="
def keyScope : String := "BILATERAL_SESSION"
def partyCount : ℕ := 3
def threshold : ℕ := 2
def maximumSessions : BitVec 32 := 1
def ephemeralKeyEpoch : Word64 := 0
def mvpAttemptOrdinal : Word64 := 1

structure OperatorIdentity where
  point : Word64
  administratorID : String
  signingPublicKey : Bytes32
  encryptionPublicKey : Bytes32
  transportCertFingerprint : Digest
  storageBindingDigest : Digest
  runtimeBinaryDigest : Digest
  goVersion : String
  operatingSystem : String
  architecture : String
  deriving DecidableEq

structure Context where
  schemaVersion : String
  protocolVersion : String
  serialization : BitVec 32
  lattigoVersion : String
  keyScope : String
  privacyDomain : Digest
  serviceID : Digest
  serviceVersion : BitVec 32
  sessionIdentity : Digest
  sessionCommitment : Digest
  nonce : Digest
  attemptOrdinal : Word64
  chainID : Word64
  policyID : Digest
  policyVersion : BitVec 32
  circuitVersion : BitVec 32
  circuitDigest : Digest
  releaseLayout : BitVec 32
  maximumReleaseQueries : BitVec 32
  parameterFingerprint : Digest
  galoisElements : List Word64
  activatesAtUnix : BitVec 64
  expiresAtUnix : BitVec 64
  sourceCommit : String
  lattigoModuleChecksum : String
  operators : List OperatorIdentity
  deriving DecidableEq

/-- `validCommit`: forty lower-case hexadecimal digits. -/
def validCommit (commit : String) : Bool :=
  commit.length = 40 && commit.toList.all fun c => c.isDigit || ('a' ≤ c && c ≤ 'f')

def canonicalShamirPoint (index : ℕ) : Word64 := ofNat 64 (index + 1)

namespace OperatorIdentity

/-- What `Validate` refuses in one operator. -/
def malformed (index : ℕ) (operator : OperatorIdentity) : Prop :=
  operator.point ≠ canonicalShamirPoint index ∨ operator.administratorID = "" ∨
    anyZero [operator.encryptionPublicKey, operator.transportCertFingerprint,
      operator.storageBindingDigest, operator.runtimeBinaryDigest, operator.signingPublicKey] ∨
    operator.goVersion = "" ∨ operator.operatingSystem = "" ∨ operator.architecture = ""

instance (index : ℕ) (operator : OperatorIdentity) : Decidable (operator.malformed index) :=
  inferInstanceAs (Decidable (_ ∨ _))

def encoding (operator : OperatorIdentity) : Bytes :=
  uint64Bytes operator.point ++ textBytes operator.administratorID ++
    wordBytes operator.signingPublicKey ++ wordBytes operator.encryptionPublicKey ++
    wordBytes operator.transportCertFingerprint ++ wordBytes operator.storageBindingDigest ++
    wordBytes operator.runtimeBinaryDigest ++ textBytes operator.goVersion ++
    textBytes operator.operatingSystem ++ textBytes operator.architecture

end OperatorIdentity

namespace Context

def validate (c : Context) : Except CeremonyError Unit := do
  revertIf (c.schemaVersion ≠ contextSchema ∨
    c.protocolVersion ≠ OneShotCeremony.protocolVersion ∨
    c.serialization ≠ serializationVersion ∨
    c.lattigoVersion ≠ OneShotCeremony.lattigoVersion ∨
    c.lattigoModuleChecksum ≠ OneShotCeremony.lattigoModuleChecksum ∨
    c.keyScope ≠ OneShotCeremony.keyScope) .binding
  revertIf (anyZero [c.privacyDomain, c.serviceID, c.sessionIdentity, c.sessionCommitment,
      c.nonce, c.policyID, c.circuitDigest, c.parameterFingerprint] ∨
    c.serviceVersion = 0 ∨ c.chainID = 0 ∨ c.attemptOrdinal ≠ mvpAttemptOrdinal ∨
    c.policyVersion = 0 ∨ c.circuitVersion = 0 ∨ c.releaseLayout = 0 ∨
    c.maximumReleaseQueries = 0 ∨ c.activatesAtUnix.toInt ≤ 0 ∨
    c.expiresAtUnix.toInt ≤ c.activatesAtUnix.toInt) .binding
  revertIf (validCommit c.sourceCommit = false) .binding
  revertIf (c.operators.length ≠ partyCount) .binding
  revertIf (∃ entry ∈ c.operators.zipIdx, entry.1.malformed entry.2) .binding
  revertIf (¬ (c.operators.map OperatorIdentity.administratorID).Nodup ∨
    ¬ (c.operators.map OperatorIdentity.signingPublicKey).Nodup ∨
    ¬ (c.operators.map OperatorIdentity.encryptionPublicKey).Nodup ∨
    ¬ (c.operators.map OperatorIdentity.transportCertFingerprint).Nodup) .binding
  revertIf (c.galoisElements.length = 0 ∨ 64 < c.galoisElements.length) .binding
  revertIf (0 ∈ c.galoisElements ∨ ¬ c.galoisElements.Pairwise (· < ·)) .binding

def operator (c : Context) (point : Word64) : Option OperatorIdentity :=
  c.operators.find? (·.point = point)

/-- `MarshalBinary`, of a context that is valid. -/
def encoding (c : Context) : Bytes :=
  textBytes contextSchema ++ textBytes c.schemaVersion ++ textBytes c.protocolVersion ++
    uint32Bytes c.serialization ++ textBytes c.lattigoVersion ++ textBytes c.keyScope ++
    uint64Bytes ephemeralKeyEpoch ++ uint32Bytes maximumSessions ++
    wordBytes c.privacyDomain ++ wordBytes c.serviceID ++ uint32Bytes c.serviceVersion ++
    wordBytes c.sessionIdentity ++ wordBytes c.sessionCommitment ++ wordBytes c.nonce ++
    uint64Bytes c.attemptOrdinal ++ uint64Bytes c.chainID ++ wordBytes c.policyID ++
    uint32Bytes c.policyVersion ++ uint32Bytes c.circuitVersion ++
    wordBytes c.circuitDigest ++ uint32Bytes c.releaseLayout ++
    uint32Bytes c.maximumReleaseQueries ++ wordBytes c.parameterFingerprint ++
    uint32Bytes (ofNat 32 c.galoisElements.length) ++
    c.galoisElements.flatMap uint64Bytes ++ uint64Bytes c.activatesAtUnix ++
    uint64Bytes c.expiresAtUnix ++ textBytes c.sourceCommit ++
    textBytes c.lattigoModuleChecksum ++ uint32Bytes (ofNat 32 c.operators.length) ++
    c.operators.flatMap OperatorIdentity.encoding

section

variable (library : Library) (c : Context)

def contextDigest : Digest :=
  if c.validate = .ok () then library.hashDomain "MordantOneShotContext/v1" [c.encoding] else 0

def ceremonyID : Digest :=
  library.hashDomain "MordantOneShotCeremonyId/v1" [wordBytes (c.contextDigest library)]

def rosterDigest : Digest :=
  library.sha256 (textBytes "MordantOneShotRoster/v1" ++ wordBytes (c.ceremonyID library) ++
    wordBytes c.parameterFingerprint ++ uint16Bytes (ofNat 16 threshold) ++
    uint16Bytes (ofNat 16 partyCount) ++
    uint32Bytes (ofNat 32 c.operators.length) ++
    c.operators.flatMap OperatorIdentity.encoding)

end

/-- A roster of a valid context has three operators, at the points of the protocol. -/
theorem operators_of_validate {c : Context} (h : c.validate = .ok ()) :
    ∃ first second third, c.operators = [first, second, third] ∧
      first.point = canonicalShamirPoint 0 ∧ second.point = canonicalShamirPoint 1 ∧
      third.point = canonicalShamirPoint 2 := by
  simp only [validate, bind_ok_iff, exists_const, revertIf_ok_iff, not_or, not_not] at h
  obtain ⟨-, -, -, hcount, hwell, -⟩ := h
  obtain ⟨first, second, third, heq⟩ := List.length_eq_three.mp hcount
  rw [heq] at hwell
  have hpoint (operator : OperatorIdentity) (index : ℕ)
      (hmem : (operator, index) ∈ [first, second, third].zipIdx) :
      operator.point = canonicalShamirPoint index := by
    by_contra hne
    exact hwell ⟨_, hmem, .inl hne⟩
  exact ⟨first, second, third, heq, hpoint _ _ (by simp), hpoint _ _ (by simp),
    hpoint _ _ (by simp)⟩

/-- Whoever is found at a point is one of the three. -/
theorem index_of_operator {c : Context} (h : c.validate = .ok ()) {point : Word64}
    {operator : OperatorIdentity} (hfind : c.operator point = some operator) :
    ∃ i : Fin 3, canonicalShamirPoint i = point := by
  obtain ⟨first, second, third, heq, hfirst, hsecond, hthird⟩ := operators_of_validate h
  have hmem := List.mem_of_find?_eq_some hfind
  have hpoint : operator.point = point := of_decide_eq_true (List.find?_some hfind :)
  rw [heq, List.mem_cons, List.mem_cons, List.mem_singleton] at hmem
  rcases hmem with rfl | rfl | rfl
  · exact ⟨0, hfirst.symm.trans hpoint⟩
  · exact ⟨1, hsecond.symm.trans hpoint⟩
  · exact ⟨2, hthird.symm.trans hpoint⟩

end Context

/-! ## A small ceremony

Libraries that compute, and a context that is valid. -/

section

/-- A hash that keeps short texts apart. -/
def sampleHash (bytes : Bytes) : Digest :=
  ofNat 256 (bytes.foldl (fun acc b => (acc * 257 + b.toNat + 1) % (2 ^ 256 - 189)) 0)

def sampleSign (key : Bytes32) (message : Bytes) : Signature :=
  ⟨wordBytes key ++ wordBytes (sampleHash message), by
    rw [List.length_append, length_wordBytes, length_wordBytes]⟩

def sampleNumber (bytes : Bytes) : Option ℕ :=
  if bytes.length = 32 then some (wordOfBytes bytes).toNat else none

def sampleBytes (n : ℕ) : Bytes := wordBytes (ofNat 256 n)

def sampleSum (parts : List Bytes) : Option ℕ := (parts.mapM sampleNumber).map List.sum

/-- A signature names its key, nothing is hidden, and shares are numbers. -/
def sampleLibrary : Library where
  sha256 := sampleHash
  SigningKey := Bytes32
  publicKey := id
  sign := sampleSign
  verify key message signature := signature = sampleSign key message
  DecryptionKey := Bytes32
  encryptionKey := id
  Coins := Bytes32
  sealWire coins _ _ plaintext := some (coins, .replicate 12 0, plaintext)
  openWire _ _ _ _ ciphertext := some ciphertext
  SecretKey := ℕ
  ShamirPolynomial := ℕ × ℕ
  ThresholdShare := ℕ
  RelinEphemeral := ℕ
  RelinShare := ℕ
  secretKey coins := coins.toNat
  shamirPolynomial coins secret := some (secret, coins.toNat)
  shamirShare polynomial point := some (sampleBytes (polynomial.1 + polynomial.2 * point.toNat))
  readShamirShare := sampleNumber
  noShare := 0
  addShares a b := some (a + b)
  publicKeyShare coins secret _ := some (sampleBytes (coins.toNat + secret))
  aggregatePublicKey _ payloads := (sampleSum payloads).map sampleBytes
  relinShareOne coins secret _ := (coins.toNat, some (sampleBytes secret))
  relinShareTwo _ ephemeral secret one := some (sampleBytes (ephemeral + secret + one))
  aggregateRelinOne := sampleSum
  aggregateRelinTwo := sampleSum
  marshalRelinShare share := some (sampleBytes share)
  readRelinOne := sampleNumber
  relinearizationKey one two := some (sampleBytes (one + two))
  galoisShare _ secret element _ := some (sampleBytes (secret * element.toNat))
  aggregateGaloisKey _ _ payloads := (sampleSum payloads).map sampleBytes

def sampleOperator (n : ℕ) : OperatorIdentity where
  point := canonicalShamirPoint n
  administratorID := toString n
  signingPublicKey := ofNat 256 (n + 10)
  encryptionPublicKey := ofNat 256 (n + 20)
  transportCertFingerprint := ofNat 256 (n + 30)
  storageBindingDigest := ofNat 256 (n + 40)
  runtimeBinaryDigest := ofNat 256 (n + 50)
  goVersion := "go"
  operatingSystem := "os"
  architecture := "arch"

def sampleContext : Context where
  schemaVersion := contextSchema
  protocolVersion := protocolVersion
  serialization := serializationVersion
  lattigoVersion := lattigoVersion
  keyScope := keyScope
  privacyDomain := 1
  serviceID := 2
  serviceVersion := 1
  sessionIdentity := 3
  sessionCommitment := 4
  nonce := 5
  attemptOrdinal := mvpAttemptOrdinal
  chainID := 1
  policyID := 6
  policyVersion := 1
  circuitVersion := 1
  circuitDigest := 7
  releaseLayout := 1
  maximumReleaseQueries := 1
  parameterFingerprint := 8
  galoisElements := [3]
  activatesAtUnix := 1
  expiresAtUnix := 100
  sourceCommit := "0123456789012345678901234567890123456789"
  lattigoModuleChecksum := lattigoModuleChecksum
  operators := (List.range partyCount).map sampleOperator

theorem sampleContext_valid : sampleContext.validate = .ok () := by decide +kernel

/-- Who holds which key. -/
def sampleKey (i : Fin 3) : Bytes32 := ofNat 256 (i + 10)

theorem sampleKey_holds (i : Fin 3) (operator : OperatorIdentity)
    (h : sampleContext.operator (canonicalShamirPoint i) = some operator) :
    operator.signingPublicKey = sampleLibrary.publicKey (sampleKey i) := by
  have hkeys : ∀ i : Fin 3, (sampleContext.operator (canonicalShamirPoint i)).map
      OperatorIdentity.signingPublicKey = some (sampleKey i) := by decide +kernel
  have hkey := hkeys i
  rw [h] at hkey
  exact Option.some.inj hkey

end

end Mordant.OneShotCeremony
