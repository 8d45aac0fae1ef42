/-
# Parity of the commitments

Client and contract hash the same words in the same order, so they differ only in what
they accept.  The contract asks for every value to be there.  The client asks with `!`,
which a hexadecimal string always passes, and it takes every relation it does not know
for one that names another asset.  Each theorem gives the inputs on which the two
nevertheless agree.
-/

import Mordant.Identity.AssetIdentity
import Mordant.Identity.ClientIdentity

namespace Mordant.Identity

open Evm Foundation Script Client

/-! ## The same values -/

/-- The argument of the contract's function that has the client's values; its decoder
refuses a tier out of range. -/
def sameIdentity (identity : Client.StableIdentity) : Option StableAssetIdentity :=
  (IdentityTier.decode identity.tier).map fun tier =>
    { sellerNamespace := identity.sellerNamespace.value
      sellerId := identity.sellerId.value
      sellerProfile := identity.sellerProfile
      debtorNamespace := identity.debtorNamespace.value
      debtorId := identity.debtorId.value
      debtorProfile := identity.debtorProfile
      invoiceNamespace := identity.invoiceNamespace.value
      invoiceId := identity.invoiceId.value
      invoiceProfile := identity.invoiceProfile
      tier := tier
      issueDateDays := identity.issueDateDays }

/-- What stands for a word that was left out. -/
def wordOrZero (word : Option HexWord) : Bytes32 := (word.getD FixedHex.zero).value

/-- The relation, or the one that stands for it. -/
def relationOf (terms : Client.TermsVersion) : UInt8 := terms.relation.getD Client.relationOriginal

/-- The same for terms, with a relation that may be out of range. -/
def sameTerms (terms : Client.TermsVersion) : Option AssetTermsVersion :=
  (Relation.decode (relationOf terms)).map fun relation =>
    { currencyCode := terms.currencyCode.value
      faceValueMinor := terms.faceValueMinor
      amountExponent := terms.amountExponent
      dueDateDays := terms.dueDateDays.getD 0
      paymentScheduleDigest := wordOrZero terms.paymentScheduleDigest
      termsVersion := terms.termsVersion
      amendmentId := wordOrZero terms.amendmentId
      supersedesTermsCommitment := wordOrZero terms.supersedesTermsCommitment
      relation := relation
      relatedStableAssetId := wordOrZero terms.relatedStableAssetId
      effectiveFrom := terms.effectiveFrom }

section

variable (cases : CaseMapping) (crypto : Crypto)

/-- One fails where the other does, and otherwise they give the same word. -/
def IdentitiesAgree (identity : Client.StableIdentity) : Prop :=
  (Client.strictStableAssetId crypto identity).toOption =
    (sameIdentity identity).bind fun same =>
      (AssetIdentity.strictStableAssetId crypto same).toOption

def AssetsAgree (stableId : HexWord) (schemeVersion : Option (BitVec 16))
    (identityEpoch : BitVec 32) (salt : HexWord) : Prop :=
  (Client.assetCommitment crypto stableId schemeVersion identityEpoch salt).toOption =
    (AssetIdentity.assetCommitment crypto stableId.value
      (schemeVersion.getD Client.identitySchemeVersion) identityEpoch salt.value).toOption

def TermsAgree (stableId : HexWord) (terms : Client.TermsVersion)
    (schemeVersion : Option (BitVec 16)) : Prop :=
  (Client.termsCommitment cases crypto stableId terms schemeVersion).toOption =
    (sameTerms terms).bind fun same =>
      (AssetIdentity.termsCommitment crypto stableId.value
        (schemeVersion.getD Client.termsSchemeVersion) same).toOption

end

/-- Two computations of one word agree exactly where what only the second asks for
follows from what both ask for. -/
theorem agree_iff {ε : Type} {first : Except ε Bytes32} {second : Option Bytes32}
    {Shared Further : Prop} {word : Bytes32}
    (hfirst : ∀ result, first = .ok result ↔ Shared ∧ word = result)
    (hsecond : ∀ result, second = some result ↔ Shared ∧ Further ∧ word = result) :
    first.toOption = second ↔ (Shared → Further) := by
  constructor
  · intro hagree hshared
    rw [toOption_eq_some_iff.mpr ((hfirst word).mpr ⟨hshared, rfl⟩)] at hagree
    exact ((hsecond word).mp hagree.symm).2.1
  · intro hfurther
    apply Option.ext
    intro result
    rw [toOption_eq_some_iff, hfirst, hsecond]
    exact ⟨fun ⟨hshared, hword⟩ => ⟨hshared, hfurther hshared, hword⟩,
      fun ⟨hshared, _, hword⟩ => ⟨hshared, hword⟩⟩

/-! ## Identities -/

/-- What both ask of an identity that binds. -/
def Bindable (identity : Client.StableIdentity) : Prop :=
  (identity.tier = 1 ∨ identity.tier = 2) ∧ Client.isLossless identity.sellerProfile = true ∧
    Client.isLossless identity.debtorProfile = true ∧
    Client.isLossless identity.invoiceProfile = true ∧ identity.issueDateDays ≠ 0

/-- What only the contract asks of it. -/
def PartiesPresent (identity : Client.StableIdentity) : Prop :=
  identity.sellerNamespace.value ≠ 0 ∧ identity.sellerId.value ≠ 0 ∧
    identity.debtorNamespace.value ≠ 0 ∧ identity.debtorId.value ≠ 0 ∧
    identity.invoiceNamespace.value ≠ 0 ∧ identity.invoiceId.value ≠ 0

section

variable {crypto : Crypto} {identity : Client.StableIdentity}

/-- The word both compute. -/
def strictId (crypto : Crypto) (identity : Client.StableIdentity) : Bytes32 :=
  crypto.hashWords
    [crypto.keccakText "mordant.strict-stable-asset-identity/3", uintWord 3,
      crypto.hashWords
        [identity.sellerNamespace.value, identity.sellerId.value,
          uintWord identity.sellerProfile.toNat, identity.debtorNamespace.value,
          identity.debtorId.value, uintWord identity.debtorProfile.toNat],
      crypto.hashWords
        [identity.invoiceNamespace.value, identity.invoiceId.value,
          uintWord identity.invoiceProfile.toNat, uintWord identity.tier.toNat,
          uintWord identity.issueDateDays.toNat]]

theorem client_strictStableAssetId_ok_iff {word : Bytes32} :
    Client.strictStableAssetId crypto identity = .ok word ↔
      Bindable identity ∧ strictId crypto identity = word := by
  simp only [Client.strictStableAssetId, Client.encodeIdentity, Client.requireLossless,
    bind_ok_iff, revertIf_ok_iff, exists_const, pure_ok_iff, and_true, Bool.not_eq_false]
  have htier : ¬ (identity.tier ≠ Client.tierRegistryDocument ∧
      identity.tier ≠ Client.tierStrictSellerIssued) ↔ identity.tier = 1 ∨ identity.tier = 2 := by
    rw [not_and_or, not_not, not_not]
    rfl
  rw [htier, Bindable, and_assoc, and_assoc, and_assoc, and_assoc, and_assoc, and_assoc]
  exact Iff.rfl

theorem isLossless_eq (profile : UInt8) :
    Normalization.isLossless profile = Client.isLossless profile := by
  rw [Bool.eq_iff_iff]
  simp only [Client.isLossless, Client.losslessProfiles, Normalization.isLossless,
    Bool.or_eq_true, decide_eq_true_eq, List.mem_cons, List.not_mem_nil, or_false, or_assoc]
  exact Iff.rfl

theorem decode_tier_eq_some_iff {n : UInt8} {tier : IdentityTier} :
    IdentityTier.decode n = some tier ↔ tier.toUint8 = n := by
  unfold IdentityTier.decode
  cases tier <;> split_ifs <;> simp_all [IdentityTier.toUint8, eq_comm]

theorem decode_relation_eq_some_iff {n : UInt8} {relation : Relation} :
    Relation.decode n = some relation ↔ relation.toUint8 = n := by
  unfold Relation.decode
  cases relation <;> split_ifs <;> simp_all [Relation.toUint8, eq_comm]

theorem contract_strictStableAssetId_ok_iff {same : StableAssetIdentity} {word : Bytes32}
    (hsame : sameIdentity identity = some same) :
    AssetIdentity.strictStableAssetId crypto same = .ok word ↔
      Bindable identity ∧ PartiesPresent identity ∧ strictId crypto identity = word := by
  obtain ⟨tier, htier, rfl⟩ := Option.map_eq_some_iff.mp hsame
  rw [decode_tier_eq_some_iff] at htier
  simp only [AssetIdentity.strictStableAssetId, AssetIdentity.encode,
    AssetIdentity.requireLossless, isLossless_eq, bind_ok_iff, revertIf_ok_iff, exists_const,
    pure_ok_iff, htier, not_or, Bool.not_eq_false]
  have hbinds : ¬ (tier ≠ .registryDocument ∧ tier ≠ .strictSellerIssued) ↔
      identity.tier = 1 ∨ identity.tier = 2 := by
    rw [← htier]
    cases tier <;> decide
  rw [hbinds]
  constructor
  · rintro ⟨htier, hseller, hdebtor, hinvoice, ⟨h₁, h₂, h₃, h₄, h₅, h₆, hdate⟩, hword⟩
    exact ⟨⟨htier, hseller, hdebtor, hinvoice, hdate⟩, ⟨h₁, h₂, h₃, h₄, h₅, h₆⟩, hword⟩
  · rintro ⟨⟨htier, hseller, hdebtor, hinvoice, hdate⟩, ⟨h₁, h₂, h₃, h₄, h₅, h₆⟩, hword⟩
    exact ⟨htier, hseller, hdebtor, hinvoice, ⟨h₁, h₂, h₃, h₄, h₅, h₆, hdate⟩, hword⟩

theorem exists_sameIdentity (hbinds : Bindable identity) :
    ∃ same, sameIdentity identity = some same := by
  obtain ⟨tier, htier⟩ : ∃ tier, IdentityTier.decode identity.tier = some tier := by
    rcases hbinds.1 with htier | htier <;> rw [htier]
    · exact ⟨.registryDocument, rfl⟩
    · exact ⟨.strictSellerIssued, rfl⟩
  exact ⟨_, Option.map_eq_some_iff.mpr ⟨tier, htier, rfl⟩⟩

/-- The two disagree exactly on a bindable identity with a zero word. -/
theorem identitiesAgree_iff :
    IdentitiesAgree crypto identity ↔ (Bindable identity → PartiesPresent identity) := by
  refine agree_iff (fun word => client_strictStableAssetId_ok_iff) fun word => ?_
  rw [Option.bind_eq_some_iff]
  constructor
  · rintro ⟨same, hsame, hok⟩
    exact (contract_strictStableAssetId_ok_iff hsame).mp (toOption_eq_some_iff.mp hok)
  · rintro ⟨hbinds, hrest⟩
    obtain ⟨same, hsame⟩ := exists_sameIdentity hbinds
    exact ⟨same, hsame, toOption_eq_some_iff.mpr
      ((contract_strictStableAssetId_ok_iff hsame).mpr ⟨hbinds, hrest⟩)⟩

end

/-! ## Commitments to an identity -/

section

variable {crypto : Crypto} {stableId salt : HexWord} {schemeVersion : Option (BitVec 16)}
  {identityEpoch : BitVec 32}

/-- They disagree exactly where the client is asked with the right version and an epoch,
and the identity or the salt is zero. -/
theorem assetsAgree_iff :
    AssetsAgree crypto stableId schemeVersion identityEpoch salt ↔
      (schemeVersion.getD 3 = 3 ∧ identityEpoch ≠ 0 →
        stableId.value ≠ 0 ∧ salt.value ≠ 0) := by
  have hclient : ∀ word,
      Client.assetCommitment crypto stableId schemeVersion identityEpoch salt = .ok word ↔
        (schemeVersion.getD 3 = 3 ∧ identityEpoch ≠ 0) ∧
          crypto.hashWords [crypto.keccakText "mordant.asset-commitment/3",
            uintWord (schemeVersion.getD 3).toNat, uintWord identityEpoch.toNat, stableId.value,
            salt.value] = word := by
    intro word
    simp only [Client.assetCommitment, bind_ok_iff, revertIf_ok_iff, exists_const, pure_ok_iff,
      ne_eq, not_not, and_assoc]
    exact Iff.rfl
  refine agree_iff hclient fun word => ?_
  simp only [toOption_eq_some_iff, AssetIdentity.assetCommitment, bind_ok_iff, revertIf_ok_iff,
    exists_const, pure_ok_iff, ne_eq, not_not, not_or]
  constructor
  · rintro ⟨hscheme, ⟨hid, hsalt, hepoch⟩, hword⟩
    exact ⟨⟨hscheme, hepoch⟩, ⟨hid, hsalt⟩, hword⟩
  · rintro ⟨⟨hscheme, hepoch⟩, ⟨hid, hsalt⟩, hword⟩
    exact ⟨hscheme, ⟨hid, hsalt, hepoch⟩, hword⟩

end

/-! ## Terms -/

/-- How terms of some relation refer to others: the first ones to nothing, a correction
to what it supersedes, and everything else to another asset. -/
def RelationRule (stableId : HexWord) (terms : Client.TermsVersion) : Prop :=
  if relationOf terms = 0 then
    terms.termsVersion = 1 ∧ wordOrZero terms.supersedesTermsCommitment = 0 ∧
      wordOrZero terms.amendmentId = 0 ∧ wordOrZero terms.relatedStableAssetId = 0
  else if relationOf terms = 1 ∨ relationOf terms = 2 then
    2 ≤ terms.termsVersion.toNat ∧ wordOrZero terms.supersedesTermsCommitment ≠ 0 ∧
      wordOrZero terms.relatedStableAssetId = 0 ∧
      (relationOf terms = 1 → wordOrZero terms.amendmentId ≠ 0)
  else
    wordOrZero terms.relatedStableAssetId ≠ 0 ∧
      wordOrZero terms.relatedStableAssetId ≠ stableId.value

/-- What both ask of terms. -/
def TermsWellFormed (stableId : HexWord) (terms : Client.TermsVersion)
    (schemeVersion : Option (BitVec 16)) : Prop :=
  schemeVersion.getD 1 = 1 ∧ terms.faceValueMinor ≠ 0 ∧ terms.termsVersion ≠ 0 ∧
    terms.effectiveFrom ≠ 0 ∧ RelationRule stableId terms

/-- What only the contract asks of them. -/
def TermsPresent (stableId : HexWord) (terms : Client.TermsVersion) : Prop :=
  stableId.value ≠ 0 ∧ terms.currencyCode.value ≠ 0 ∧ (relationOf terms).toNat ≤ 5

section

variable {cases : CaseMapping} {crypto : Crypto} {stableId : HexWord}
  {terms : Client.TermsVersion} {schemeVersion : Option (BitVec 16)}

/-- The word both compute. -/
def termsWord (crypto : Crypto) (stableId : HexWord) (terms : Client.TermsVersion) : Bytes32 :=
  crypto.hashWords
    [crypto.keccakText "mordant.asset-terms/1", uintWord 1, stableId.value,
      uintWord terms.termsVersion.toNat,
      crypto.hashWords
        [bytes3Word terms.currencyCode.value, terms.faceValueMinor,
          uintWord terms.amountExponent.toNat, uintWord (terms.dueDateDays.getD 0).toNat,
          wordOrZero terms.paymentScheduleDigest],
      crypto.hashWords
        [uintWord terms.termsVersion.toNat, wordOrZero terms.amendmentId,
          wordOrZero terms.supersedesTermsCommitment, uintWord (relationOf terms).toNat,
          wordOrZero terms.relatedStableAssetId, uintWord terms.effectiveFrom.toNat]]

theorem isMissing_text {size : ℕ} (word : FixedHex size) : Client.isMissing word.text = false := by
  rw [Client.isMissing, FixedHex.text_eq, List.isEmpty_eq_false_iff]
  exact List.append_ne_nil_of_left_ne_nil (by decide) _

theorem client_validateTerms_ok_iff {u : Unit} :
    Client.validateTerms cases stableId terms = .ok u ↔
      terms.faceValueMinor ≠ 0 ∧ terms.termsVersion ≠ 0 ∧ terms.effectiveFrom ≠ 0 ∧
        RelationRule stableId terms := by
  simp only [Client.validateTerms, bind_ok_iff, revertIf_ok_iff, exists_const, isMissing_text,
    Bool.false_eq_true, not_false_eq_true, true_and, false_or, not_or, and_assoc]
  refine and_congr_right fun _ => and_congr_right fun _ => and_congr_right fun _ => ?_
  have hzero : ∀ word : Option HexWord,
      (word.getD FixedHex.zero).text = (FixedHex.zero : HexWord).text ↔ wordOrZero word = 0 :=
    fun word => FixedHex.text_eq_zero_iff
  have hrelated : cases.toLowerCase (terms.relatedStableAssetId.getD FixedHex.zero).text =
        cases.toLowerCase stableId.text ↔
      wordOrZero terms.relatedStableAssetId = stableId.value :=
    FixedHex.toLowerCase_eq_iff cases
  have hone : terms.termsVersion.toNat = 1 ↔ terms.termsVersion = 1 := by
    rw [← BitVec.toNat_inj]
    rfl
  rw [show terms.relation.getD Client.relationOriginal = relationOf terms from rfl]
  unfold RelationRule
  by_cases hzeroth : relationOf terms = 0
  · rw [if_pos (show relationOf terms = Client.relationOriginal from hzeroth), if_pos hzeroth]
    simp only [revertIf_ok_iff, not_or, ne_eq, not_not, hzero, hone]
  · rw [if_neg (show ¬ relationOf terms = Client.relationOriginal from hzeroth), if_neg hzeroth]
    by_cases hsame : relationOf terms = 1 ∨ relationOf terms = 2
    · rw [if_pos (show relationOf terms = Client.relationAmendment ∨
        relationOf terms = Client.relationCancellation from hsame), if_pos hsame]
      simp only [bind_ok_iff, revertIf_ok_iff, exists_const, not_or, ne_eq, not_not, hzero,
        Nat.not_lt, not_and, and_assoc]
      exact Iff.rfl
    · rw [if_neg (show ¬ (relationOf terms = Client.relationAmendment ∨
        relationOf terms = Client.relationCancellation) from hsame), if_neg hsame]
      simp only [revertIf_ok_iff, not_or, ne_eq, hzero, hrelated]

theorem client_termsCommitment_ok_iff {word : Bytes32} :
    Client.termsCommitment cases crypto stableId terms schemeVersion = .ok word ↔
      TermsWellFormed stableId terms schemeVersion ∧ termsWord crypto stableId terms = word := by
  simp only [Client.termsCommitment, bind_ok_iff, revertIf_ok_iff, exists_const,
    client_validateTerms_ok_iff, pure_ok_iff, ne_eq, not_not]
  constructor
  · rintro ⟨hscheme, hvalid, hword⟩
    rw [hscheme] at hword
    exact ⟨⟨hscheme, hvalid⟩, hword⟩
  · rintro ⟨⟨hscheme, hvalid⟩, hword⟩
    refine ⟨hscheme, hvalid, ?_⟩
    rw [show schemeVersion.getD Client.termsSchemeVersion = 1 from hscheme]
    exact hword

theorem exists_sameTerms_iff :
    (∃ same, sameTerms terms = some same) ↔ (relationOf terms).toNat ≤ 5 := by
  have hdecode : ∀ n : UInt8, (∃ relation, Relation.decode n = some relation) ↔ n.toNat ≤ 5 := by
    intro n
    simp only [decode_relation_eq_some_iff]
    constructor
    · rintro ⟨relation, rfl⟩
      cases relation <;> decide
    · intro hle
      have hcases : n = 0 ∨ n = 1 ∨ n = 2 ∨ n = 3 ∨ n = 4 ∨ n = 5 := by
        simp only [← UInt8.toNat_inj, UInt8.reduceToNat]
        omega
      rcases hcases with rfl | rfl | rfl | rfl | rfl | rfl
      exacts [⟨.original, rfl⟩, ⟨.amendment, rfl⟩, ⟨.cancellation, rfl⟩, ⟨.creditNote, rfl⟩,
        ⟨.replacement, rfl⟩, ⟨.novation, rfl⟩]
  rw [← hdecode]
  constructor
  · rintro ⟨same, hsame⟩
    obtain ⟨relation, hrelation, -⟩ := Option.map_eq_some_iff.mp hsame
    exact ⟨relation, hrelation⟩
  · rintro ⟨relation, hrelation⟩
    exact ⟨_, Option.map_eq_some_iff.mpr ⟨relation, hrelation, rfl⟩⟩

theorem contract_validateTerms_ok_iff {same : AssetTermsVersion} {u : Unit}
    (hsame : sameTerms terms = some same) :
    AssetIdentity.validateTerms stableId.value same = .ok u ↔
      stableId.value ≠ 0 ∧ terms.currencyCode.value ≠ 0 ∧ terms.faceValueMinor ≠ 0 ∧
        terms.termsVersion ≠ 0 ∧ terms.effectiveFrom ≠ 0 ∧ RelationRule stableId terms := by
  obtain ⟨relation, hrelation, rfl⟩ := Option.map_eq_some_iff.mp hsame
  rw [decode_relation_eq_some_iff] at hrelation
  have hdue : ¬ (terms.dueDateDays.getD 0 ≠ 0 ∧ (terms.dueDateDays.getD 0).toNat < 1) := by
    rintro ⟨hne, hlt⟩
    exact hne (BitVec.eq_of_toNat_eq (by simpa using hlt))
  simp only [AssetIdentity.validateTerms, bind_ok_iff, revertIf_ok_iff, exists_const, hdue,
    not_false_eq_true, true_and, not_or, and_assoc]
  refine and_congr_right fun _ => and_congr_right fun _ => and_congr_right fun _ =>
    and_congr_right fun _ => and_congr_right fun _ => ?_
  rw [RelationRule, ← hrelation]
  cases relation <;>
    simp [Relation.toUint8, bind_ok_iff, revertIf_ok_iff, exists_const, not_or, and_assoc,
      Nat.lt_iff_add_one_le]

theorem contract_termsCommitment_ok_iff {same : AssetTermsVersion} {word : Bytes32}
    (hsame : sameTerms terms = some same) :
    AssetIdentity.termsCommitment crypto stableId.value
        (schemeVersion.getD Client.termsSchemeVersion) same = .ok word ↔
      TermsWellFormed stableId terms schemeVersion ∧ TermsPresent stableId terms ∧
        termsWord crypto stableId terms = word := by
  have hrange := exists_sameTerms_iff.mp ⟨same, hsame⟩
  simp only [AssetIdentity.termsCommitment, bind_ok_iff, revertIf_ok_iff, exists_const,
    contract_validateTerms_ok_iff hsame, pure_ok_iff, ne_eq, not_not]
  obtain ⟨relation, hrelation, rfl⟩ := Option.map_eq_some_iff.mp hsame
  rw [decode_relation_eq_some_iff] at hrelation
  rw [hrelation]
  constructor
  · rintro ⟨hscheme, ⟨hid, hcurrency, hvalid⟩, hword⟩
    rw [hscheme] at hword
    exact ⟨⟨hscheme, hvalid⟩, ⟨hid, hcurrency, hrange⟩, hword⟩
  · rintro ⟨⟨hscheme, hvalid⟩, ⟨hid, hcurrency, -⟩, hword⟩
    refine ⟨hscheme, ⟨hid, hcurrency, hvalid⟩, ?_⟩
    rw [show schemeVersion.getD Client.termsSchemeVersion = 1 from hscheme]
    exact hword

/-- The two disagree exactly on well-formed terms of a zero identity, in a zero currency
or with a relation out of range. -/
theorem termsAgree_iff :
    TermsAgree cases crypto stableId terms schemeVersion ↔
      (TermsWellFormed stableId terms schemeVersion → TermsPresent stableId terms) := by
  refine agree_iff (fun word => client_termsCommitment_ok_iff) fun word => ?_
  rw [Option.bind_eq_some_iff]
  constructor
  · rintro ⟨same, hsame, hok⟩
    exact (contract_termsCommitment_ok_iff hsame).mp (toOption_eq_some_iff.mp hok)
  · rintro ⟨hvalid, hpresent, hword⟩
    obtain ⟨same, hsame⟩ := exists_sameTerms_iff.mpr hpresent.2.2
    exact ⟨same, hsame, toOption_eq_some_iff.mpr
      ((contract_termsCommitment_ok_iff hsame).mpr ⟨hvalid, hpresent, hword⟩)⟩

end

/-! ## All three -/

/-- The three functions agree on every input exactly as far as the client is not given
a zero word or a relation out of range that it lets through. -/
theorem commitments_agree_iff (cases : CaseMapping) (crypto : Crypto) :
    (∀ identity, IdentitiesAgree crypto identity ↔
      (Bindable identity → PartiesPresent identity)) ∧
    (∀ stableId schemeVersion identityEpoch salt,
      AssetsAgree crypto stableId schemeVersion identityEpoch salt ↔
        (schemeVersion.getD 3 = 3 ∧ identityEpoch ≠ 0 →
          stableId.value ≠ 0 ∧ salt.value ≠ 0)) ∧
    ∀ stableId terms schemeVersion,
      TermsAgree cases crypto stableId terms schemeVersion ↔
        (TermsWellFormed stableId terms schemeVersion → TermsPresent stableId terms) :=
  ⟨fun _ => identitiesAgree_iff, fun _ _ _ _ => assetsAgree_iff, fun _ _ _ => termsAgree_iff⟩

/-! ## Where they differ -/

namespace Sample

/-- The word one. -/
def one : HexWord := ⟨lit "0x" ++ List.replicate 63 0x30 ++ [0x31], by decide⟩

/-- The word two. -/
def two : HexWord := ⟨lit "0x" ++ List.replicate 63 0x30 ++ [0x32], by decide⟩

/-- Recovery and hashing play no part in where the two differ. -/
def constantCrypto : Crypto where
  keccak256 _ := 0
  ecrecover _ _ _ _ := 0

/-- A bindable identity whose debtor is the zero word. -/
def identityWithoutDebtor : Client.StableIdentity where
  sellerNamespace := one
  sellerId := one
  sellerProfile := 1
  debtorNamespace := one
  debtorId := FixedHex.zero
  debtorProfile := 2
  invoiceNamespace := one
  invoiceId := one
  invoiceProfile := 5
  tier := 2
  issueDateDays := 20500

/-- Original terms in some currency. -/
def termsIn (currencyCode : FixedHex 3) : Client.TermsVersion where
  currencyCode := currencyCode
  faceValueMinor := 110000000
  amountExponent := 2
  dueDateDays := some 20590
  paymentScheduleDigest := none
  termsVersion := 1
  amendmentId := none
  supersedesTermsCommitment := none
  relation := none
  relatedStableAssetId := none
  effectiveFrom := 1760000000

/-- The three letters of a currency. -/
def dollars : FixedHex 3 := ⟨lit "0x555344", by decide⟩

/-- Terms of the relation six, which no relation has. -/
def termsOutOfRange : Client.TermsVersion :=
  { termsIn dollars with relation := some 6, relatedStableAssetId := some two }

end Sample

/-- The client commits to an identity without a debtor, to terms in no currency, to
terms of no relation and under no salt, all of which the contract refuses. -/
theorem commitments_not_always :
    ¬ IdentitiesAgree Sample.constantCrypto Sample.identityWithoutDebtor ∧
    ¬ AssetsAgree Sample.constantCrypto Sample.one none 1 FixedHex.zero ∧
    ¬ TermsAgree CaseMapping.ascii Sample.constantCrypto Sample.one (Sample.termsIn FixedHex.zero)
      none ∧
    ¬ TermsAgree CaseMapping.ascii Sample.constantCrypto Sample.one Sample.termsOutOfRange
      none := by
  rw [identitiesAgree_iff, assetsAgree_iff, termsAgree_iff, termsAgree_iff]
  refine ⟨fun h => ?_, fun h => ?_, fun h => ?_, fun h => ?_⟩
  · have hpresent := h ⟨.inr rfl, by decide, by decide, by decide, by decide⟩
    exact hpresent.2.2.2.1 FixedHex.value_zero
  · exact (h ⟨rfl, by decide⟩).2 FixedHex.value_zero
  · have hpresent := h ⟨rfl, by decide, by decide, by decide, rfl, FixedHex.value_zero,
      FixedHex.value_zero, FixedHex.value_zero⟩
    exact hpresent.2.1 FixedHex.value_zero
  · have hpresent := h ⟨rfl, by decide, by decide, by decide, by decide, by decide⟩
    exact absurd hpresent.2.2 (by decide)

end Mordant.Identity
