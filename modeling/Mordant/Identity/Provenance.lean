/-
# Where the digests of an identity come from

An identity carries the digest of each identifier and, beside it, the number of a
profile.  The profile is inside the digest, so a digest can have been produced under one
profile only; but what accepts an identity reads the number and not the digest.  An
identity is strict in earnest exactly when the two were not mixed up by whoever put
them together.
-/

import Mordant.Identity.CommitmentParity
import Mordant.Identity.Kernel

namespace Mordant.Identity

open Evm Foundation Script

/-- The arguments of a call of `normalize`. -/
structure NormalizationCall where
  profile : UInt8
  value : Bytes
  fixedLength : ℕ
  deriving DecidableEq

/-- What was ever normalized, by anybody. -/
structure Normalizations where
  namespaces : Set Bytes
  identifiers : Set NormalizationCall

/-- What the assembler of a part passes: the namespace, and the call that gives the
identifier. -/
structure PartSource where
  namespaceText : Bytes
  call : NormalizationCall

/-- A namespace and an identifier as an identity carries them. -/
structure IdentityPart where
  namespaceDigest : Bytes32
  identifier : Bytes32
  profile : UInt8

/-- Seller, debtor and invoice. -/
def StableAssetIdentity.parts (identity : StableAssetIdentity) : List IdentityPart :=
  [⟨identity.sellerNamespace, identity.sellerId, identity.sellerProfile⟩,
    ⟨identity.debtorNamespace, identity.debtorId, identity.debtorProfile⟩,
    ⟨identity.invoiceNamespace, identity.invoiceId, identity.invoiceProfile⟩]

/-- The same, of an identity on the client. -/
def Client.StableIdentity.parts (identity : Client.StableIdentity) : List IdentityPart :=
  [⟨identity.sellerNamespace.value, identity.sellerId.value, identity.sellerProfile⟩,
    ⟨identity.debtorNamespace.value, identity.debtorId.value, identity.debtorProfile⟩,
    ⟨identity.invoiceNamespace.value, identity.invoiceId.value, identity.invoiceProfile⟩]

section

variable (crypto : Crypto)

/-- The text `normalize` hashes. -/
def normalizedText (profile : UInt8) (out : Bytes) : Bytes :=
  abiEncodeBytes [crypto.keccakText "mordant.normalized-field/2", uintWord profile.toNat] out

/-- The call gives the digest. -/
def NormalizationCall.Produces (call : NormalizationCall) (digest : Bytes32) : Prop :=
  Normalization.normalize crypto call.profile call.value call.fixedLength = .ok digest

instance (call : NormalizationCall) (digest : Bytes32) : Decidable (call.Produces crypto digest) :=
  inferInstanceAs (Decidable (_ = _))

/-- The texts hashed by the normalizations of identifiers. -/
def Normalizations.hashed (done : Normalizations) : Set Bytes :=
  {text | ∃ call ∈ done.identifiers, ∃ out,
    Normalization.canonicalBytes call.profile call.value call.fixedLength = .ok out ∧
      text = normalizedText crypto call.profile out}

/-- The namespace is the digest of one that was normalized. -/
def IdentityPart.IsNamed (done : Normalizations) (part : IdentityPart) : Prop :=
  ∃ value ∈ done.namespaces,
    Normalization.namespaceDigest crypto value = .ok part.namespaceDigest

/-- Namespace and identifier were normalized, the identifier under the strict profile
whose number stands beside it. -/
def IdentityPart.IsGenuine (done : Normalizations) (part : IdentityPart) : Prop :=
  part.IsNamed crypto done ∧ Normalization.isLossless part.profile = true ∧
    ∃ call ∈ done.identifiers,
      call.profile = part.profile ∧ call.Produces crypto part.identifier

/-- The part is what this gives. -/
structure IdentityPart.From (done : Normalizations) (part : IdentityPart) (source : PartSource) :
    Prop where
  namespaces : source.namespaceText ∈ done.namespaces
  named : Normalization.namespaceDigest crypto source.namespaceText = .ok part.namespaceDigest
  identifiers : source.call ∈ done.identifiers
  produces : source.call.Produces crypto part.identifier

/-- The part was assembled from something, and the number that was recorded beside the
identifier is the profile that was passed for it. -/
def IdentityPart.IsUnmixed (done : Normalizations) (part : IdentityPart) : Prop :=
  (∃ source, part.From crypto done source) ∧
    ∀ source, part.From crypto done source → part.profile = source.call.profile

end

section

variable {crypto : Crypto} {done : Normalizations} {part : IdentityPart}

theorem uintWord_uint8_injective : Function.Injective fun n : UInt8 => uintWord n.toNat := by
  intro n m heq
  have hnat := congrArg BitVec.toNat heq
  have hn := n.toNat_lt
  have hm := m.toNat_lt
  simp only [uintWord, BitVec.toNat_ofNat] at hnat
  rw [Nat.mod_eq_of_lt (by omega), Nat.mod_eq_of_lt (by omega)] at hnat
  exact UInt8.toNat_inj.mp hnat

/-- The text says which profile it is hashed under. -/
theorem profile_of_normalizedText {profile profile' : UInt8} {out out' : Bytes}
    (h : normalizedText crypto profile out = normalizedText crypto profile' out') :
    profile = profile' := by
  simp only [normalizedText, abiEncodeBytes, List.cons_append, abiEncode_cons,
    List.append_assoc] at h
  obtain ⟨-, hrest⟩ := wordBytes_append_inj h
  exact uintWord_uint8_injective (wordBytes_append_inj hrest).1

theorem normalize_ok_iff {call : NormalizationCall} {digest : Bytes32} :
    call.Produces crypto digest ↔ ∃ out,
      Normalization.canonicalBytes call.profile call.value call.fixedLength = .ok out ∧
        crypto.keccak256 (normalizedText crypto call.profile out) = digest := by
  simp only [NormalizationCall.Produces, Normalization.normalize, bind_ok_iff, pure_ok_iff,
    normalizedText]

/-- A digest was produced under one profile. -/
theorem profile_of_produces (hinj : (done.hashed crypto).InjOn crypto.keccak256)
    {call call' : NormalizationCall} (hcall : call ∈ done.identifiers)
    (hcall' : call' ∈ done.identifiers) {digest : Bytes32} (h : call.Produces crypto digest)
    (h' : call'.Produces crypto digest) : call.profile = call'.profile := by
  obtain ⟨out, hout, rfl⟩ := normalize_ok_iff.mp h
  obtain ⟨out', hout', hsame⟩ := normalize_ok_iff.mp h'
  exact profile_of_normalizedText
    (hinj ⟨call, hcall, out, hout, rfl⟩ ⟨call', hcall', out', hout', rfl⟩ hsame.symm)

theorem isGenuine_iff (hinj : (done.hashed crypto).InjOn crypto.keccak256)
    (hlossless : Normalization.isLossless part.profile = true) :
    part.IsGenuine crypto done ↔ part.IsUnmixed crypto done := by
  constructor
  · intro ⟨⟨value, hvalue, hnamed⟩, _, call, hcall, hprofile, hproduces⟩
    refine ⟨⟨⟨value, call⟩, hvalue, hnamed, hcall, hproduces⟩, fun source hsource => ?_⟩
    rw [← hprofile]
    exact profile_of_produces hinj hcall hsource.identifiers hproduces hsource.produces
  · intro ⟨⟨source, hsource⟩, honly⟩
    exact ⟨⟨_, hsource.namespaces, hsource.named⟩, hlossless, source.call, hsource.identifiers,
      (honly source hsource).symm, hsource.produces⟩

/-- The contract looks at the tier, at the numbers of the profiles, and whether all is
there. -/
theorem strictStableAssetId_accepts_iff {identity : StableAssetIdentity} :
    (∃ id, AssetIdentity.strictStableAssetId crypto identity = .ok id) ↔
      (identity.tier = .registryDocument ∨ identity.tier = .strictSellerIssued) ∧
      (∀ part ∈ identity.parts, Normalization.isLossless part.profile = true ∧
        part.namespaceDigest ≠ 0 ∧ part.identifier ≠ 0) ∧ identity.issueDateDays ≠ 0 := by
  have htier : ¬ (identity.tier ≠ .registryDocument ∧ identity.tier ≠ .strictSellerIssued) ↔
      identity.tier = .registryDocument ∨ identity.tier = .strictSellerIssued := by
    rw [not_and_or, not_not, not_not]
  simp only [AssetIdentity.strictStableAssetId, AssetIdentity.requireLossless,
    AssetIdentity.encode, bind_ok_iff, revertIf_ok_iff, exists_const, pure_ok_iff, htier, not_or,
    Bool.not_eq_false, StableAssetIdentity.parts, List.forall_mem_cons, List.not_mem_nil,
    IsEmpty.forall_iff, implies_true, and_true]
  constructor
  · rintro ⟨_, hstrict, hseller, hdebtor, hinvoice, ⟨h₁, h₂, h₃, h₄, h₅, h₆, hdate⟩, -⟩
    exact ⟨hstrict, ⟨⟨hseller, h₁, h₂⟩, ⟨hdebtor, h₃, h₄⟩, hinvoice, h₅, h₆⟩, hdate⟩
  · rintro ⟨hstrict, ⟨⟨hseller, h₁, h₂⟩, ⟨hdebtor, h₃, h₄⟩, hinvoice, h₅, h₆⟩, hdate⟩
    exact ⟨_, hstrict, hseller, hdebtor, hinvoice, ⟨h₁, h₂, h₃, h₄, h₅, h₆, hdate⟩, rfl⟩

/-- The client looks at the numbers of the profiles too. -/
theorem client_lossless_of_strictStableAssetId {identity : Client.StableIdentity}
    {id : Bytes32} (h : Client.strictStableAssetId crypto identity = .ok id) :
    ∀ part ∈ identity.parts, Normalization.isLossless part.profile = true := by
  obtain ⟨⟨-, hseller, hdebtor, hinvoice, -⟩, -⟩ := client_strictStableAssetId_ok_iff.mp h
  simpa only [Client.StableIdentity.parts, List.forall_mem_cons, List.not_mem_nil,
    IsEmpty.forall_iff, implies_true, and_true, isLossless_eq] using ⟨hseller, hdebtor, hinvoice⟩

/-- **An accepted identity is strict in earnest exactly when its profiles were not mixed
up**, in the contract and on the client. -/
theorem strict_identity_genuine_iff (hinj : (done.hashed crypto).InjOn crypto.keccak256) :
    (∀ identity id, AssetIdentity.strictStableAssetId crypto identity = .ok id →
      ((∀ part ∈ identity.parts, part.IsGenuine crypto done) ↔
        ∀ part ∈ identity.parts, part.IsUnmixed crypto done)) ∧
    ∀ identity id, Client.strictStableAssetId crypto identity = .ok id →
      ((∀ part ∈ identity.parts, part.IsGenuine crypto done) ↔
        ∀ part ∈ identity.parts, part.IsUnmixed crypto done) := by
  constructor
  · intro identity id h
    exact forall₂_congr fun part hpart =>
      isGenuine_iff hinj ((strictStableAssetId_accepts_iff.mp ⟨id, h⟩).2.1 part hpart).1
  · intro identity id h
    exact forall₂_congr fun part hpart =>
      isGenuine_iff hinj (client_lossless_of_strictStableAssetId h part hpart)

end

/-! ## A mislabelled invoice -/

namespace Sample

/-- A hash that shows the second word of what it hashes. -/
def tellingCrypto : Crypto where
  keccak256 text :=
    BitVec.ofNat 256 ((wordOfBytes ((text.drop 32).take 32)).toNat % 2 ^ 64 * 2 ^ 128 +
      text.foldl (fun acc b => (acc * 65599 + b.toNat + 1) % 2 ^ 128) 1)
  ecrecover _ _ _ _ := 0

/-- What `normalize` gives, or zero. -/
def digestOf (profile : UInt8) (text : String) : Bytes32 :=
  ((Normalization.normalize tellingCrypto profile (stringBytes text) 0).toOption).getD 0

def namespaceOf (text : String) : Bytes32 :=
  ((Normalization.namespaceDigest tellingCrypto (stringBytes text)).toOption).getD 0

/-- An identity whose invoice has the digest and the number of a profile. -/
def identityWith (invoiceId : Bytes32) (invoiceProfile : UInt8) : StableAssetIdentity where
  sellerNamespace := namespaceOf "lei"
  sellerId := digestOf 1 "213800wavvops85n2205"
  sellerProfile := 1
  debtorNamespace := namespaceOf "duns"
  debtorId := digestOf 2 "000000001"
  debtorProfile := 2
  invoiceNamespace := namespaceOf "seller"
  invoiceId := invoiceId
  invoiceProfile := invoiceProfile
  tier := .strictSellerIssued
  issueDateDays := 20500

/-- The identifiers that were normalized for it. -/
def calls : List NormalizationCall :=
  [⟨1, stringBytes "213800wavvops85n2205", 0⟩, ⟨2, stringBytes "000000001", 0⟩,
    ⟨5, stringBytes "INV-001", 0⟩, ⟨6, stringBytes "INV-001", 0⟩]

/-- The texts they hash. -/
def sampleTexts : List Bytes :=
  [normalizedText tellingCrypto 1 (stringBytes "213800WAVVOPS85N2205"),
    normalizedText tellingCrypto 2 (stringBytes "000000001"),
    normalizedText tellingCrypto 5 (stringBytes "INV-001"),
    normalizedText tellingCrypto 6 (stringBytes "INV001")]

/-- What was normalized for it. -/
def normalizations : Normalizations where
  namespaces := {value | value ∈ ["lei", "duns", "seller"].map stringBytes}
  identifiers := {call | call ∈ calls}

/-- Everything. -/
def allNormalizations : Normalizations := ⟨Set.univ, Set.univ⟩

theorem profile_of_tellingCrypto (profile : UInt8) (out : Bytes) :
    (tellingCrypto.keccak256 (normalizedText tellingCrypto profile out)).toNat / 2 ^ 128 =
      profile.toNat := by
  have hsecond : ((normalizedText tellingCrypto profile out).drop 32).take 32 =
      wordBytes (uintWord profile.toNat) := by
    simp only [normalizedText, abiEncodeBytes, List.cons_append, abiEncode_cons,
      List.append_assoc]
    rw [List.drop_left' (length_wordBytes _), List.take_left' (length_wordBytes _)]
  have hword : (uintWord profile.toNat).toNat = profile.toNat := by
    have hbound := profile.toNat_lt
    rw [uintWord, BitVec.toNat_ofNat, Nat.mod_eq_of_lt (by omega)]
  have hchecksum : ∀ text : Bytes,
      text.foldl (fun acc b => (acc * 65599 + b.toNat + 1) % 2 ^ 128) 1 < 2 ^ 128 := by
    intro text
    rcases List.eq_nil_or_concat text with rfl | ⟨rest, b, rfl⟩
    · decide
    · rw [List.concat_eq_append, List.foldl_append, List.foldl_cons, List.foldl_nil]
      exact Nat.mod_lt _ (by decide)
  have hprofile := profile.toNat_lt
  generalize normalizedText tellingCrypto profile out = text at hsecond
  have hlow := hchecksum text
  have hhash : tellingCrypto.keccak256 text = BitVec.ofNat 256
      ((wordOfBytes ((text.drop 32).take 32)).toNat % 2 ^ 64 * 2 ^ 128 +
        text.foldl (fun acc b => (acc * 65599 + b.toNat + 1) % 2 ^ 128) 1) := rfl
  rw [hhash, hsecond, wordOfBytes_wordBytes, hword, BitVec.toNat_ofNat]
  omega

/-- The identity is accepted whatever its invoice. -/
theorem identityWith_accepted {digest : Bytes32} (hne : digest ≠ 0) :
    ∃ id, AssetIdentity.strictStableAssetId tellingCrypto (identityWith digest 5) = .ok id := by
  have hpresent : namespaceOf "lei" ≠ 0 ∧ digestOf 1 "213800wavvops85n2205" ≠ 0 ∧
      namespaceOf "duns" ≠ 0 ∧ digestOf 2 "000000001" ≠ 0 ∧ namespaceOf "seller" ≠ 0 := by
    decide +kernel
  obtain ⟨h₁, h₂, h₃, h₄, h₅⟩ := hpresent
  rw [strictStableAssetId_accepts_iff]
  refine ⟨Or.inr rfl, ?_, (show (20500 : BitVec 32) ≠ 0 by decide)⟩
  simp only [StableAssetIdentity.parts, List.forall_mem_cons, List.not_mem_nil,
    IsEmpty.forall_iff, implies_true, and_true]
  exact ⟨⟨rfl, h₁, h₂⟩, ⟨rfl, h₃, h₄⟩, rfl, h₅, hne⟩

/-- No value has, under a profile, a digest that was produced under another. -/
theorem not_produces_of_ne {call : NormalizationCall} {profile : UInt8} {out : Bytes}
    (hne : call.profile ≠ profile) :
    ¬ call.Produces tellingCrypto
      (tellingCrypto.keccak256 (normalizedText tellingCrypto profile out)) := by
  intro h
  obtain ⟨out', -, hsame⟩ := normalize_ok_iff.mp h
  have hprofile := congrArg (fun digest : Bytes32 => digest.toNat / 2 ^ 128) hsame
  simp only [profile_of_tellingCrypto] at hprofile
  exact hne (UInt8.toNat_inj.mp hprofile)

end Sample

open Sample in
/-- The digest of an invoice under the tolerant profile is taken for one under a strict
profile, under which no value has it. -/
theorem tolerant_digest_accepted :
    (∃ id, AssetIdentity.strictStableAssetId tellingCrypto
      (identityWith (digestOf 6 "INV-001") 5) = .ok id) ∧
    Normalization.normalize tellingCrypto 6 (stringBytes "INV-001") 0 =
      .ok (digestOf 6 "INV-001") ∧
    ¬ ∀ part ∈ (identityWith (digestOf 6 "INV-001") 5).parts,
      part.IsGenuine tellingCrypto allNormalizations := by
  have hdigest : Normalization.normalize tellingCrypto 6 (stringBytes "INV-001") 0 =
      .ok (tellingCrypto.keccak256 (normalizedText tellingCrypto 6 (stringBytes "INV001"))) := by
    decide +kernel
  have hvalue : digestOf 6 "INV-001" =
      tellingCrypto.keccak256 (normalizedText tellingCrypto 6 (stringBytes "INV001")) := by
    rw [digestOf, hdigest]
    rfl
  refine ⟨?_, ?_, ?_⟩
  · exact identityWith_accepted (by decide +kernel)
  · rw [hvalue, hdigest]
  · intro hgenuine
    obtain ⟨-, -, call, -, hprofile, hproduces⟩ :=
      hgenuine ⟨namespaceOf "seller", digestOf 6 "INV-001", 5⟩
        (List.mem_cons_of_mem _ (List.mem_cons_of_mem _ (List.mem_singleton.mpr rfl)))
    rw [hvalue] at hproduces
    refine not_produces_of_ne ?_ hproduces
    rw [hprofile]
    decide

open Sample in
/-- With the same normalizations behind them, the invoice that records its profile is
strict and the one that records another is not. -/
theorem strict_identity_genuine_sample :
    (∀ part ∈ (identityWith (digestOf 5 "INV-001") 5).parts,
      part.IsGenuine tellingCrypto normalizations) ∧
    ¬ ∀ part ∈ (identityWith (digestOf 6 "INV-001") 5).parts,
      part.IsGenuine tellingCrypto normalizations := by
  have hinj : (normalizations.hashed tellingCrypto).InjOn tellingCrypto.keccak256 := by
    have hmem : ∀ call ∈ calls,
        (Normalization.canonicalBytes call.profile call.value call.fixedLength).toOption.map
          (normalizedText tellingCrypto call.profile) ∈ sampleTexts.map some := by
      decide +kernel
    have htexts : normalizations.hashed tellingCrypto ⊆ {text | text ∈ sampleTexts} := by
      rintro text ⟨call, hcall, out, hout, rfl⟩
      have htext := hmem call hcall
      rw [toOption_eq_some_iff.mpr hout] at htext
      exact (List.mem_map_of_injective (Option.some_injective _)).mp htext
    have hpairs : ∀ text ∈ sampleTexts, ∀ other ∈ sampleTexts,
        tellingCrypto.keccak256 text = tellingCrypto.keccak256 other → text = other := by
      decide +kernel
    exact Set.InjOn.mono htexts fun text htext other hother => hpairs text htext other hother
  have hgenuine : ∀ digest : Bytes32, digest ≠ 0 →
      ((∀ part ∈ (identityWith digest 5).parts, part.IsGenuine tellingCrypto normalizations) ↔
        ∀ part ∈ (identityWith digest 5).parts, part.IsUnmixed tellingCrypto normalizations) := by
    intro digest hne
    obtain ⟨id, hid⟩ := identityWith_accepted hne
    exact (strict_identity_genuine_iff hinj).1 _ id hid
  have hhonest : ∀ part ∈ (identityWith (digestOf 5 "INV-001") 5).parts,
      (∃ value ∈ ["lei", "duns", "seller"].map stringBytes,
        Normalization.namespaceDigest tellingCrypto value = .ok part.namespaceDigest) ∧
      (∃ call ∈ calls, call.Produces tellingCrypto part.identifier) ∧
      ∀ call ∈ calls, call.Produces tellingCrypto part.identifier →
        call.profile = part.profile := by
    decide +kernel
  have hcalled : (⟨6, stringBytes "INV-001", 0⟩ : NormalizationCall) ∈ calls := by decide +kernel
  have hmixed : (⟨6, stringBytes "INV-001", 0⟩ : NormalizationCall).Produces tellingCrypto
      (digestOf 6 "INV-001") := by
    decide +kernel
  constructor
  · refine (hgenuine _ (by decide +kernel)).mpr fun part hpart => ?_
    obtain ⟨⟨value, hvalue, hnamed⟩, ⟨call, hcall, hproduces⟩, honly⟩ := hhonest part hpart
    exact ⟨⟨⟨value, call⟩, hvalue, hnamed, hcall, hproduces⟩, fun source hsource =>
      (honly _ hsource.identifiers hsource.produces).symm⟩
  · rw [hgenuine _ (by decide +kernel)]
    intro hunmixed
    have hinvoice := hunmixed ⟨namespaceOf "seller", digestOf 6 "INV-001", 5⟩
      (List.mem_cons_of_mem _ (List.mem_cons_of_mem _ (List.mem_singleton.mpr rfl)))
    obtain ⟨source, hsource⟩ := hinvoice.1
    have hprofile : (5 : UInt8) = 6 := hinvoice.2
      ⟨source.namespaceText, ⟨6, stringBytes "INV-001", 0⟩⟩
      ⟨hsource.namespaces, hsource.named, hcalled, hmixed⟩
    exact absurd hprofile (by decide)

end Mordant.Identity

