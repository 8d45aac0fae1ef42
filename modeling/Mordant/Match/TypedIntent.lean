/-
# The session intent as typed data

The registry declares the type of the intent it has signed, with its twenty-five members,
and hashes the intent in nested groups: three of its eight words are themselves hashes.
So the digest it verifies is not the one a wallet shows and signs for that type, for any
intent whatever.
-/

import Mordant.Evm.TypedData
import Mordant.Match.System

namespace Mordant.Match

open Evm Foundation

/-- The type the registry declares, with the words of its members. -/
def sessionIntentType : StructType SessionIntent where
  name := "BilateralSessionIntentV5"
  members :=
    [(⟨"uint256", "chainId"⟩, (·.chainId)),
      (⟨"address", "governanceRegistry"⟩, fun intent => addressWord intent.governanceRegistry),
      (⟨"bytes32", "policyId"⟩, (·.policyId)),
      (⟨"uint32", "policyVersion"⟩, fun intent => uintWord intent.policyVersion.toNat),
      (⟨"bytes32", "governanceRecordA"⟩, (·.governanceRecordA)),
      (⟨"bytes32", "governanceRecordB"⟩, (·.governanceRecordB)),
      (⟨"bytes32", "controllerKeyIdA"⟩, (·.controllerKeyIdA)),
      (⟨"bytes32", "controllerKeyIdB"⟩, (·.controllerKeyIdB)),
      (⟨"uint32", "controllerEpochA"⟩, fun intent => uintWord intent.controllerEpochA.toNat),
      (⟨"uint32", "controllerEpochB"⟩, fun intent => uintWord intent.controllerEpochB.toNat),
      (⟨"uint32", "scopeAuthorizationVersionA"⟩,
        fun intent => uintWord intent.scopeAuthorizationVersionA.toNat),
      (⟨"uint32", "scopeAuthorizationVersionB"⟩,
        fun intent => uintWord intent.scopeAuthorizationVersionB.toNat),
      (⟨"bytes32", "sourceRecordCommitmentA"⟩, (·.sourceRecordCommitmentA)),
      (⟨"bytes32", "sourceRecordCommitmentB"⟩, (·.sourceRecordCommitmentB)),
      (⟨"bytes32", "scopeCommitmentA"⟩, (·.scopeCommitmentA)),
      (⟨"bytes32", "scopeCommitmentB"⟩, (·.scopeCommitmentB)),
      (⟨"bytes32", "issuerKeyId"⟩, (·.issuerKeyId)),
      (⟨"uint32", "identityEpoch"⟩, fun intent => uintWord intent.identityEpoch.toNat),
      (⟨"bytes32", "strictAssetCommitmentA"⟩, (·.strictAssetCommitmentA)),
      (⟨"bool", "candidateAuthorized"⟩, fun intent => boolWord intent.candidateAuthorized),
      (⟨"uint32", "exactBudget"⟩, fun intent => uintWord intent.exactBudget.toNat),
      (⟨"uint32", "candidateBudget"⟩, fun intent => uintWord intent.candidateBudget.toNat),
      (⟨"uint256", "sessionNonce"⟩, (·.sessionNonce)),
      (⟨"uint64", "expiry"⟩, fun intent => uintWord intent.expiry.toNat),
      (⟨"uint32", "disclosureVersion"⟩, fun intent => uintWord intent.disclosureVersion.toNat)]

namespace Governance

section

variable (crypto : Crypto) (self : Address)

/-- The registry hashes the text of that type. -/
theorem intentTypeHash_typed :
    intentTypeHash crypto = crypto.keccakText sessionIntentType.typeText :=
  congrArg crypto.keccakText (by decide +kernel)

/-- A wallet hashes the type hash and the words of the members. -/
theorem hashStruct_eq (intent : SessionIntent) :
    sessionIntentType.hashStruct crypto intent =
      crypto.hashWords (intentTypeHash crypto :: sessionIntentType.words intent) := by
  rw [intentTypeHash_typed]
  rfl

/-- What a wallet signs for the registry. -/
def walletDigest (tx : Tx) (intent : SessionIntent) : Bytes32 :=
  sessionIntentType.signingDigest crypto intent (domainSeparator crypto self tx)

/-- A controller has signed this intent in a wallet, with a signature that tells what the
wallet shows from what the registry hashes. -/
structure WalletSigned (tx : Tx) (intent : SessionIntent) (controller : Address)
    (signature : Bytes) : Prop where
  recovers : crypto.recoverStrict (walletDigest crypto self tx intent) signature = some controller
  tells : crypto.TellsApart signature (intentDigest crypto self tx intent)
    (walletDigest crypto self tx intent)

/-- The texts of the two digests and of the two hashes in them. -/
def digestTexts (tx : Tx) (intent : SessionIntent) : Set Bytes :=
  {intentText crypto intent, sessionIntentType.encoding crypto intent,
    typedDataText (domainSeparator crypto self tx) (intentHash crypto intent),
    typedDataText (domainSeparator crypto self tx) (sessionIntentType.hashStruct crypto intent)}

end

section

variable {crypto : Crypto} {self : Address} {tx : Tx} {intent : SessionIntent}

/-- The registry and the wallet hash different bytes. -/
theorem intentText_ne : intentText crypto intent ≠ sessionIntentType.encoding crypto intent :=
  (StructType.encoding_ne (by simp [sessionIntentType])).symm

theorem intentHash_ne (hinj : (digestTexts crypto self tx intent).InjOn crypto.keccak256) :
    intentHash crypto intent ≠ sessionIntentType.hashStruct crypto intent := by
  intro heq
  exact intentText_ne (hinj (by simp [digestTexts]) (by simp [digestTexts]) heq)

theorem intentDigest_ne (hinj : (digestTexts crypto self tx intent).InjOn crypto.keccak256) :
    intentDigest crypto self tx intent ≠ walletDigest crypto self tx intent :=
  typedDataHash_ne hinj (by simp [digestTexts]) (by simp [digestTexts]) (intentHash_ne hinj)

/-- **No intent is signed as the type it declares.** The hash the registry verifies is not
that of the type hash and the words of the members, and no signature a controller makes
with a wallet is accepted. -/
theorem intent_never_typed (hinj : (digestTexts crypto self tx intent).InjOn crypto.keccak256) :
    intentHash crypto intent ≠
      crypto.hashWords (intentTypeHash crypto :: sessionIntentType.words intent) ∧
    intentDigest crypto self tx intent ≠ walletDigest crypto self tx intent ∧
    ∀ controllerA controllerB signatures,
      WalletSigned crypto self tx intent controllerA signatures.controllerA ∨
        WalletSigned crypto self tx intent controllerB signatures.controllerB →
      ∀ issuer, initiationSigner crypto self tx intent controllerA controllerB signatures ≠
        .ok issuer := by
  refine ⟨hashStruct_eq crypto intent ▸ intentHash_ne hinj, intentDigest_ne hinj, ?_⟩
  intro controllerA controllerB signatures hwallet issuer haccepted
  simp only [initiationSigner, recover, bind_ok_iff, require_ok_iff, revertIf_ok_iff,
    exists_const, ne_eq, not_not] at haccepted
  obtain ⟨_, hA, rfl, _, hB, rfl, -⟩ := haccepted
  rcases hwallet with ⟨hrecovers, htells⟩ | ⟨hrecovers, htells⟩
  · exact intentDigest_ne hinj (htells _ hA hrecovers)
  · exact intentDigest_ne hinj (htells _ hB hrecovers)

end

/-! ## A wallet signature -/

namespace Sample

/-- A hash that depends on every byte, and signatures that name the digest and the signer. -/
def walletCrypto : Crypto where
  keccak256 text := BitVec.ofNat 256
    (text.foldl (fun acc b => (acc * 0x100000001b3 + b.toNat + 1) % 2 ^ 256) 1)
  ecrecover digest _ r s := if r = digest then s.setWidth 160 else 0

/-- What a wallet gives its holder. -/
def walletSign (signer : Address) (digest : Bytes32) : Bytes :=
  wordBytes digest ++ wordBytes (addressWord signer) ++ [27]

def walletTx : Tx := ⟨⟨0x205, 7, 7⟩, 1⟩

def walletIntent : SessionIntent := Match.Sample.intent Match.Sample.honest

/-- All three sign what their wallets show. -/
def walletSignatures : InitiationSignatures :=
  let digest := walletDigest walletCrypto 0x102 walletTx walletIntent
  ⟨walletSign 0x207 digest, walletSign 0x208 digest, walletSign 0x209 digest⟩

/-- A wallet's signature is recovered to its holder. -/
theorem recoverStrict_walletSign {signer : Address} (digest : Bytes32) (hne : signer ≠ 0) :
    walletCrypto.recoverStrict digest (walletSign signer digest) = some signer := by
  have hparts : Crypto.signatureParts (walletSign signer digest) =
      (digest, addressWord signer, 27) := Crypto.signatureParts_append _ _ _
  have hlength : (walletSign signer digest).length = 65 := by
    simp only [walletSign, List.length_append, length_wordBytes, List.length_singleton]
  have hlow : ¬ Crypto.halfOrder < (addressWord signer).toNat := by
    rw [toNat_addressWord, Nat.not_lt]
    exact signer.isLt.le.trans (by norm_num [Crypto.halfOrder])
  have hsigner : walletCrypto.ecrecover digest 27 digest (addressWord signer) = signer :=
    (if_pos rfl).trans (setWidth_addressWord signer)
  simp only [Crypto.recoverStrict, hparts, hlength, hlow, hsigner, hne, ne_eq, not_true_eq_false,
    false_and, or_self, if_false]

theorem walletCrypto_tellsApart (signature : Bytes) (digest digest' : Bytes32) :
    walletCrypto.TellsApart signature digest digest' := by
  have hnamed (digest signer) (h : walletCrypto.recoverStrict digest signature = some signer) :
      (Crypto.signatureParts signature).1 = digest := by
    by_contra hne
    have hnobody : walletCrypto.ecrecover digest (Crypto.signatureParts signature).2.2
        (Crypto.signatureParts signature).1 (Crypto.signatureParts signature).2.1 = 0 :=
      if_neg hne
    simp only [Crypto.recoverStrict, hnobody, if_true, ite_self] at h
    cases h
  intro signer h h'
  exact (hnamed digest signer h).symm.trans (hnamed digest' signer h')

end Sample

open Governance.Sample in
/-- An intent whose hash is not that of its type, and wallet signatures that are refused. -/
theorem wallet_signatures_refused :
    intentHash walletCrypto walletIntent ≠ walletCrypto.hashWords
      (intentTypeHash walletCrypto :: sessionIntentType.words walletIntent) ∧
    ∀ issuer, initiationSigner walletCrypto 0x102 walletTx walletIntent 0x207 0x208
      walletSignatures ≠ .ok issuer := by
  have hhash : intentHash walletCrypto walletIntent ≠ walletCrypto.hashWords
      (intentTypeHash walletCrypto :: sessionIntentType.words walletIntent) := by
    decide +kernel
  have hrefused : initiationSigner walletCrypto 0x102 walletTx walletIntent 0x207 0x208
      walletSignatures = .error .malformedSignature := by
    decide +kernel
  refine ⟨hhash, fun issuer => ?_⟩
  rw [hrefused]
  exact nofun

open Governance.Sample in
theorem intent_never_typed_sample :
    ¬ ∃ issuer, initiationSigner walletCrypto 0x102 walletTx walletIntent 0x207 0x208
      walletSignatures = .ok issuer := by
  have hinj : (digestTexts walletCrypto 0x102 walletTx walletIntent).InjOn
      walletCrypto.keccak256 := by
    have hpairs : ∀ text ∈ [intentText walletCrypto walletIntent,
          sessionIntentType.encoding walletCrypto walletIntent,
          typedDataText (domainSeparator walletCrypto 0x102 walletTx)
            (intentHash walletCrypto walletIntent),
          typedDataText (domainSeparator walletCrypto 0x102 walletTx)
            (sessionIntentType.hashStruct walletCrypto walletIntent)],
        ∀ other ∈ [intentText walletCrypto walletIntent,
          sessionIntentType.encoding walletCrypto walletIntent,
          typedDataText (domainSeparator walletCrypto 0x102 walletTx)
            (intentHash walletCrypto walletIntent),
          typedDataText (domainSeparator walletCrypto 0x102 walletTx)
            (sessionIntentType.hashStruct walletCrypto walletIntent)],
        walletCrypto.keccak256 text = walletCrypto.keccak256 other → text = other := by
      decide +kernel
    intro text htext other hother
    exact hpairs text (by simpa [digestTexts] using htext) other
      (by simpa [digestTexts] using hother)
  have hsigned : walletCrypto.recoverStrict
      (walletDigest walletCrypto 0x102 walletTx walletIntent)
      walletSignatures.controllerA = some 0x207 := by
    decide +kernel
  rintro ⟨issuer, hissuer⟩
  exact (intent_never_typed hinj).2.2 0x207 0x208 walletSignatures
    (Or.inl ⟨hsigned, walletCrypto_tellsApart _ _ _⟩) issuer hissuer

end Governance

end Mordant.Match
