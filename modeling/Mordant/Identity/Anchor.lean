/-
# Identity anchors

`MordantInvoiceVaultV2` is the first version's vault with an identity fixed at
construction: a salted commitment to the receivable, a commitment to its terms,
and the issuer and attestation both come from.  The errors of the factory and of
the identity registries are declared here as well.
-/

import Mordant.Match.Sources
import Mordant.Vault.State

namespace Mordant.Identity

open Evm Foundation Match

/-- The errors of the factory, the anchors and the identity registries. -/
inductive IdentityError
  -- bubbled up from the issuer registry or the attestation library, and from the vault
  | issuer (error : MatchError)
  | vault (error : Vault.VaultError)
  -- shared
  | schemeMismatch (supplied expected : ℕ) | malformedSignature | ecdsaInvalidSignature
  -- anchor
  | invalidIdentity
  -- factory
  | invalidConfiguration | unauthorized | alreadyBound | notApproved | roleOverlap
  | attestationReplayed (issuerKeyId : Bytes32) (nonce : ℕ)
  | creationDigestMismatch (observed attested : Bytes32)
  | ownableUnauthorizedAccount (account : Address) | ownableInvalidOwner (owner : Address)
  | creationFailed
  -- terms registry
  | unknownAnchor (anchorId : Bytes32) | notMonotonic (supplied current : ℕ)
  | supersedesMismatch (supplied expected : Bytes32) | alreadyRecorded (key : Bytes32)
  | invalidTermsRecord | wrongIssuer | anchorNotAdmitted (anchor : Address)
  -- session precommitments
  | invalidPrecommitment | sessionAlreadyPrecommitted (sessionId : Bytes32)
  | nonceConsumed (issuerKeyId : Bytes32) (nonce : ℕ)
  | candidateSessionCannotBePrecommitted (sessionId : Bytes32)
  | externalCallFailed | panic
  deriving DecidableEq

instance : ArithmeticFault IdentityError := ⟨.panic⟩

/-- `IdentityInit`, and what the getters of an anchor answer. -/
structure IdentityInit where
  assetCommitment : Bytes32
  initialTermsCommitment : Bytes32
  identitySchemeVersion : BitVec 16
  termsSchemeVersion : BitVec 16
  identityEpoch : BitVec 32
  issuerKeyId : Bytes32
  sourceAttestationDigest : Bytes32
  deriving DecidableEq

/-- The disjunction the constructor rejects first. -/
@[reducible]
def IdentityInit.Incomplete (identity : IdentityInit) : Prop :=
  identity.assetCommitment = 0 ∨ identity.identitySchemeVersion = 0 ∨
    identity.initialTermsCommitment = 0 ∨ identity.termsSchemeVersion = 0 ∨
    identity.identityEpoch = 0 ∨ identity.issuerKeyId = 0 ∨ identity.sourceAttestationDigest = 0

/-- What a created vault keeps for good: the immutables of both versions, and the
storage its life starts from. -/
structure AnchorVault where
  terms : Vault.Terms
  storage : Vault.VaultState
  identity : IdentityInit
  complete : ¬ identity.Incomplete
  asset_ne_terms : identity.assetCommitment ≠ identity.initialTermsCommitment

namespace AnchorVault

variable {W : Type}

/-- The constructor's body, after that of the first version. -/
def withIdentity (terms : Vault.Terms) (storage : Vault.VaultState) (init : Vault.Init)
    (identity : IdentityInit) : Except IdentityError AnchorVault :=
  if hincomplete : identity.Incomplete then .error .invalidIdentity
  else if hterms : identity.assetCommitment = identity.initialTermsCommitment then
    .error .invalidIdentity
  else if identity.assetCommitment = init.invoiceRoot then .error .invalidIdentity
  else .ok
    { terms := terms
      storage := storage
      identity := identity
      complete := hincomplete
      asset_ne_terms := hterms }

/-- The constructor. -/
def construct (view : Vault.Externals W) (world : W) (self : Address) (tx : Tx)
    (init : Vault.Init) (identity : IdentityInit) : Except IdentityError AnchorVault := do
  let (terms, storage) ←
    (Vault.construct view world self tx.chainId tx.timestamp init).mapError .vault
  withIdentity terms storage init identity

variable {view : Vault.Externals W} {world : W} {self : Address} {tx : Tx} {init : Vault.Init}
  {identity : IdentityInit} {vault : AnchorVault}

/-- The vault a committed construction leaves. -/
theorem construct_ok (h : construct view world self tx init identity = .ok vault) :
    Vault.construct view world self tx.chainId tx.timestamp init =
      .ok (vault.terms, vault.storage) ∧ vault.identity = identity := by
  obtain ⟨⟨terms, storage⟩, hbase, hrest⟩ := bind_ok_iff.mp h
  rw [mapError_ok_iff] at hbase
  simp only [withIdentity] at hrest
  split at hrest
  · exact nomatch hrest
  · split at hrest
    · exact nomatch hrest
    · split at hrest
      · exact nomatch hrest
      · obtain rfl := Except.ok.inj hrest
        exact ⟨hbase, rfl⟩

end AnchorVault

/-- The immutables of a vault are the fields of its constructor argument. -/
structure Carries (vault : AnchorVault) (init : Vault.Init) : Prop where
  factory : vault.terms.factory = init.factory
  cviVerifier : vault.terms.cviVerifier = init.cviVerifier
  cvaAdapter : vault.terms.cvaAdapter = init.cvaAdapter
  settlementToken : vault.terms.settlementToken = init.settlementToken
  invoiceRoot : vault.terms.invoiceRoot = init.invoiceRoot
  currency : vault.terms.currency = init.currency
  buyer : vault.terms.buyer = init.buyer
  originatorTreasury : vault.terms.originatorTreasury = init.originatorTreasury
  originatorSigner : ∀ account, vault.storage.authorizedOriginator account = true ↔
    account = init.initialOriginatorSigner
  initialUnits : vault.terms.initialUnits = init.initialUnits.toNat
  advanceAmount : vault.terms.advanceAmount = init.advanceAmount.toNat
  faceValue : vault.terms.faceValue = init.faceValue.toNat
  bondBps : vault.terms.bondBps = init.bondBps.toNat
  protectionEnd : vault.terms.protectionEnd = init.protectionEnd.toNat
  revealPeriod : vault.terms.revealPeriod = init.revealPeriod.toNat
  curePeriod : vault.terms.curePeriod = init.curePeriod.toNat

/-- **Construction.** A created vault carries its argument, and the address and
the custody token it was created with. -/
theorem AnchorVault.construct_carries {W : Type} {view : Vault.Externals W} {world : W}
    {self : Address} {tx : Tx} {init : Vault.Init} {identity : IdentityInit} {vault : AnchorVault}
    (h : AnchorVault.construct view world self tx init identity = .ok vault) :
    Carries vault init ∧ vault.terms.vault = self ∧ vault.terms.cvaToken = view.asset world := by
  obtain ⟨hbase, -⟩ := AnchorVault.construct_ok h
  unfold Vault.construct at hbase
  split at hbase
  · cases hbase
  · split at hbase
    · cases hbase
    · split at hbase
      · cases hbase
      · split at hbase
        · cases hbase
        · obtain ⟨hterms, hstorage⟩ := Prod.mk.inj (Except.ok.inj hbase)
          rw [← hterms]
          refine ⟨?_, rfl, rfl⟩
          constructor
          case originatorSigner =>
            intro account
            rw [← hstorage]
            by_cases hsame : account = init.initialOriginatorSigner
            · simp [Vault.VaultState.initial, hsame]
            · simp [Vault.VaultState.initial, hsame]
          all_goals rw [← hterms]

end Mordant.Identity
