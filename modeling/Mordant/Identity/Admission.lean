/-
# One vault each

A vault is created under a root, a custody token and an attestation that had none.
The three tables of the factory are then indexes of the created vaults, so they
correspond one to one, and every vault goes back to the call that created it: a
configuration and an attestation an issuer authorized at that time signed.
-/

import Mordant.Foundation.Index
import Mordant.Identity.System
import Mordant.Match.Issuer

namespace Mordant.Identity

open Evm Foundation Match
open Function (update update_self update_of_ne)

/-- Recovery answers with the digest it recovered from. -/
theorem recover_ok {crypto : Crypto} {tx : Tx} {attestation : SourceAttestation}
    {signature : Bytes} {contract signer : Address} {digest : Bytes32}
    (h : attestation.recover crypto tx signature contract = .ok (signer, digest)) :
    digest = attestation.digest crypto tx contract ∧
      crypto.recoverStrict digest signature = some signer := by
  simp only [SourceAttestation.recover, bind_ok_iff, require_ok_iff, pure_ok_iff,
    Prod.mk.injEq] at h
  obtain ⟨-, -, -, -, -, -, -, -, -, -, _, hrecover, rfl, rfl⟩ := h
  exact ⟨rfl, hrecover⟩

/-! ## What a committed creation did -/

section

variable {W : Type} (crypto : Crypto) (env : Externals W) (d : Deployment)

/-- A committed call that created a vault: who called, what was signed, what was
still unused, and what the tables say afterwards. -/
structure Created (s : System W) (tx : Tx) (config : InvoiceConfig)
    (attestation : SourceAttestation) (signature : Bytes) (address : Address)
    (vault : AnchorVault) (factory : FactoryState) : Prop where
  caller : tx.sender = config.buyer
  controller : attestation.controller = config.originatorTreasury
  issuer : ∃ signer,
    crypto.recoverStrict (attestation.digest crypto tx d.factory) signature = some signer ∧
      IssuerRegistry.requireAuthorized s.issuers attestation.issuerKeyId signer
        attestation.identityEpoch = .ok ()
  attested : attestation.creationDigest = Factory.creationDigest crypto d tx config
  root : attestation.invoiceRoot = config.invoiceRoot
  carries : Carries vault (Factory.initOf d config)
  identity : vault.identity =
    Factory.identityOf attestation (attestation.digest crypto tx d.factory)
  place : address = Factory.predictVaultAddress crypto d (attestation.digest crypto tx d.factory)
    (Factory.initCode env (Factory.initOf d config) vault.identity)
  self : vault.terms.vault = address
  root_ne_zero : vault.terms.invoiceRoot ≠ 0
  root_fresh : s.factory.vaultForRoot vault.terms.invoiceRoot = 0
  cva_fresh : s.factory.rootForCva vault.terms.cvaToken = 0
  attestation_fresh : s.factory.vaultForAttestation vault.identity.sourceAttestationDigest = 0
  nonce_fresh : ¬ s.factory.consumedNonce attestation.issuerKeyId attestation.nonce = true
  address_ne_zero : address ≠ 0
  address_free : s.vaults address = none
  tables : factory =
    { s.factory with
      consumedNonce :=
        setNested s.factory.consumedNonce attestation.issuerKeyId attestation.nonce true
      vaultForRoot := update s.factory.vaultForRoot vault.terms.invoiceRoot address
      rootForCva :=
        update s.factory.rootForCva vault.terms.cvaToken vault.terms.invoiceRoot
      vaultForAttestation := update s.factory.vaultForAttestation
        vault.identity.sourceAttestationDigest address }

variable {crypto env d}

theorem createIdentityAnchoredVault_created {s : System W} {tx : Tx} {config : InvoiceConfig}
    {attestation : SourceAttestation} {signature : Bytes} {address : Address}
    {vault : AnchorVault} {factory : FactoryState}
    (h : Factory.createIdentityAnchoredVault crypto env d s.factory s.vaults s.issuers s.world tx
      config attestation signature = .ok (address, vault, factory)) :
    Created crypto env d s tx config attestation signature address vault factory := by
  simp only [Factory.createIdentityAnchoredVault, Factory.validateConfig, bind_ok_iff,
    revertIf_ok_iff, mapError_ok_iff, pure_ok_iff, Prod.mk.injEq, not_not, not_or] at h
  obtain ⟨-, hbuyer, -, ⟨-, -, -, -, -, -, -, -, hroot_ne, hroot_fresh⟩, ⟨signer, digest⟩,
    hrecover, ⟨⟩, hauthorized, -, -, -, -, -, hnonce, -, hattestation, -, hcreation, -, hroot, -,
    hcontroller, -, -, -, hcva, -, ⟨hne, hfree, -⟩, built, hbuilt, rfl, rfl, rfl⟩ := h
  obtain ⟨rfl, hsigner⟩ := recover_ok hrecover
  obtain ⟨hcarries, hself, hasset⟩ := AnchorVault.construct_carries hbuilt
  obtain ⟨-, hidentity⟩ := AnchorVault.construct_ok hbuilt
  have hroot_eq : built.terms.invoiceRoot = config.invoiceRoot := hcarries.invoiceRoot
  have hdigest : built.identity.sourceAttestationDigest =
      attestation.digest crypto tx d.factory := by
    rw [hidentity]
    rfl
  constructor
  case caller => exact hbuyer
  case controller => exact hcontroller
  case issuer => exact ⟨signer, hsigner, hauthorized⟩
  case attested => exact hcreation.symm
  case root => exact hroot
  case carries => exact hcarries
  case identity => exact hidentity
  case place => rw [hidentity]
  case self => exact hself
  case root_ne_zero => exact hroot_eq ▸ hroot_ne
  case root_fresh => exact hroot_eq ▸ hroot_fresh
  case cva_fresh => exact hasset ▸ hcva
  case attestation_fresh => exact hdigest ▸ hattestation
  case nonce_fresh => exact hnonce
  case address_ne_zero => exact hne
  case address_free => exact hfree
  case tables => rw [hroot_eq, hdigest, hasset]

end

/-! ## What an event does to the tables -/

/-- The four tables are as before. -/
structure SameTables (f f' : FactoryState) : Prop where
  roots : f'.vaultForRoot = f.vaultForRoot
  cva : f'.rootForCva = f.rootForCva
  nonces : f'.consumedNonce = f.consumedNonce
  attestations : f'.vaultForAttestation = f.vaultForAttestation

theorem SameTables.refl (f : FactoryState) : SameTables f f := ⟨rfl, rfl, rfl, rfl⟩

section

variable {W : Type} {crypto : Crypto} {env : Externals W} {d : Deployment} {s s' : System W}
  {e : Event W}

/-- **Step.** An event creates one vault, or leaves the tables and the vaults alone. -/
theorem exec_created (h : exec crypto env d s e = .ok s') :
    (s'.vaults = s.vaults ∧ SameTables s.factory s'.factory) ∨
      ∃ tx config attestation signature address vault,
        e = .call tx (.createIdentityAnchoredVault config attestation signature) ∧
        Created crypto env d s tx config attestation signature address vault s'.factory ∧
        s'.vaults = update s.vaults address (some vault) := by
  cases e with
  | outside world =>
      obtain rfl := pure_ok_iff.mp h
      exact .inl ⟨rfl, .refl _⟩
  | call tx call =>
      cases call with
      | registerIssuer | revokeIssuer | advanceEpoch | transferIssuerRegistry
      | renounceIssuerRegistry =>
          obtain ⟨_, -, rfl⟩ := System.withIssuers_ok_iff.mp h
          exact .inl ⟨rfl, .refl _⟩
      | setFacility | setCvaAdapter | setSettlementToken | transferFactory =>
          obtain ⟨_, hset, rfl⟩ := System.withFactory_ok_iff.mp h
          simp only [Factory.setFacility, Factory.setCvaAdapter, Factory.setSettlementToken,
            Factory.transferOwnership, bind_ok_iff, pure_ok_iff] at hset
          obtain ⟨-, -, -, -, rfl⟩ := hset
          exact .inl ⟨rfl, ⟨rfl, rfl, rfl, rfl⟩⟩
      | renounceFactory =>
          obtain ⟨_, hset, rfl⟩ := System.withFactory_ok_iff.mp h
          simp only [Factory.renounceOwnership, bind_ok_iff, pure_ok_iff] at hset
          obtain ⟨-, -, rfl⟩ := hset
          exact .inl ⟨rfl, ⟨rfl, rfl, rfl, rfl⟩⟩
      | createIdentityAnchoredVault config attestation signature =>
          obtain ⟨address, vault, f, hcreate, rfl⟩ := System.withVault_ok_iff.mp h
          exact .inr ⟨tx, config, attestation, signature, address, vault, rfl,
            createIdentityAnchoredVault_created hcreate, rfl⟩
      | initialise | appendAmendment =>
          obtain ⟨_, -, rfl⟩ := System.withTerms_ok_iff.mp h
          exact .inl ⟨rfl, .refl _⟩
      | markCandidateSession | precommitExactSession =>
          obtain ⟨_, -, rfl⟩ := System.withSessions_ok_iff.mp h
          exact .inl ⟨rfl, .refl _⟩

/-! ## The tables are indexes -/

/-- The three tables find the created vaults, and nothing else. -/
structure Registered (s : System W) : Prop where
  byRoot : Indexes s.vaults (·.terms.invoiceRoot) 0 s.factory.vaultForRoot
  byAttestation :
    Indexes s.vaults (·.identity.sourceAttestationDigest) 0 s.factory.vaultForAttestation
  byCva : Relates s.vaults (·.terms.cvaToken) (·.terms.invoiceRoot) 0 s.factory.rootForCva
  root_ne_zero : ∀ address vault, s.vaults address = some vault → vault.terms.invoiceRoot ≠ 0

/-- Nothing is found before anything is created. -/
theorem Deployed.registered (h : Deployed s) : Registered s := by
  obtain ⟨owner, hfactory⟩ := h.factory
  constructor
  case byRoot =>
    rw [h.vaults, hfactory]
    exact .empty
  case byAttestation =>
    rw [h.vaults, hfactory]
    exact .empty
  case byCva =>
    rw [h.vaults, hfactory]
    exact .empty
  case root_ne_zero =>
    intro address vault hvault
    rw [h.vaults] at hvault
    exact nomatch hvault

/-- **Step.** A vault created under fresh keys is found by all three. -/
theorem exec_registered (hregistered : Registered s) (h : exec crypto env d s e = .ok s') :
    Registered s' := by
  rcases exec_created h with ⟨hvaults, htables⟩ |
    ⟨tx, config, attestation, signature, address, vault, -, hcreated, hvaults⟩
  · constructor
    case byRoot =>
      rw [hvaults, htables.roots]
      exact hregistered.byRoot
    case byAttestation =>
      rw [hvaults, htables.attestations]
      exact hregistered.byAttestation
    case byCva =>
      rw [hvaults, htables.cva]
      exact hregistered.byCva
    case root_ne_zero =>
      rw [hvaults]
      exact hregistered.root_ne_zero
  · constructor
    case byRoot =>
      rw [hvaults, hcreated.tables]
      exact hregistered.byRoot.insert hcreated.address_ne_zero hcreated.address_free
        hcreated.root_fresh
    case byAttestation =>
      rw [hvaults, hcreated.tables]
      exact hregistered.byAttestation.insert hcreated.address_ne_zero hcreated.address_free
        hcreated.attestation_fresh
    case byCva =>
      rw [hvaults, hcreated.tables]
      exact hregistered.byCva.insert hregistered.root_ne_zero hcreated.address_free
        hcreated.cva_fresh
    case root_ne_zero =>
      intro other found hfound
      rw [hvaults] at hfound
      by_cases hother : other = address
      · subst hother
        rw [update_self] at hfound
        obtain rfl := Option.some.inj hfound
        exact hcreated.root_ne_zero
      · rw [update_of_ne hother] at hfound
        exact hregistered.root_ne_zero other found hfound

/-- **Run.** In every reachable system the tables are indexes. -/
theorem Reaches.registered {events : List (Event W)} (h : Reaches crypto env d events s) :
    Registered s :=
  h.induct (fun _ => Deployed.registered) fun _ _ _ => exec_registered

/-! ## Entries stay -/

/-- What is in a table, and every created vault, is there for good. -/
structure Kept (s s' : System W) : Prop where
  roots : SetOnce 0 s.factory.vaultForRoot s'.factory.vaultForRoot
  cva : SetOnce 0 s.factory.rootForCva s'.factory.rootForCva
  attestations : SetOnce 0 s.factory.vaultForAttestation s'.factory.vaultForAttestation
  nonces : ∀ issuerKeyId nonce, s.factory.consumedNonce issuerKeyId nonce = true →
    s'.factory.consumedNonce issuerKeyId nonce = true
  vaults : SetOnce none s.vaults s'.vaults

theorem Kept.refl (s : System W) : Kept s s :=
  ⟨.refl _, .refl _, .refl _, fun _ _ h => h, .refl _⟩

theorem Kept.trans {s₁ s₂ s₃ : System W} (h : Kept s₁ s₂) (h' : Kept s₂ s₃) : Kept s₁ s₃ where
  roots := h.roots.trans h'.roots
  cva := h.cva.trans h'.cva
  attestations := h.attestations.trans h'.attestations
  nonces issuerKeyId nonce hused := h'.nonces _ _ (h.nonces issuerKeyId nonce hused)
  vaults := h.vaults.trans h'.vaults

/-- Marking an entry of a nested table of flags leaves every mark. -/
theorem setNested_kept {α β : Type} [DecidableEq α] [DecidableEq β] {table : α → β → Bool}
    {key other : α} {inner within : β} (h : table other within = true) :
    setNested table key inner true other within = true := by
  by_cases houter : other = key
  · subst houter
    by_cases hinner : within = inner
    · simp [setNested, hinner]
    · simpa [setNested, hinner] using h
  · simpa [setNested, houter] using h

/-- **Step.** -/
theorem exec_kept (h : exec crypto env d s e = .ok s') : Kept s s' := by
  rcases exec_created h with ⟨hvaults, htables⟩ |
    ⟨tx, config, attestation, signature, address, vault, -, hcreated, hvaults⟩
  · constructor
    case roots =>
      rw [htables.roots]
      exact .refl _
    case cva =>
      rw [htables.cva]
      exact .refl _
    case attestations =>
      rw [htables.attestations]
      exact .refl _
    case nonces =>
      rw [htables.nonces]
      exact fun _ _ hused => hused
    case vaults =>
      rw [hvaults]
      exact .refl _
  · constructor
    case roots =>
      rw [hcreated.tables]
      exact .update _ hcreated.root_fresh
    case cva =>
      rw [hcreated.tables]
      exact .update _ hcreated.cva_fresh
    case attestations =>
      rw [hcreated.tables]
      exact .update _ hcreated.attestation_fresh
    case nonces =>
      rw [hcreated.tables]
      exact fun _ _ hused => setNested_kept hused
    case vaults =>
      rw [hvaults]
      exact .update _ hcreated.address_free

/-- **Run.** -/
theorem run_kept {events : List (Event W)} (h : run (exec crypto env d) s events = .ok s') :
    Kept s s' :=
  run_relates (P := fun _ => True) Kept.refl Kept.trans (fun _ _ _ _ _ => trivial)
    (fun _ _ _ _ => exec_kept) h trivial

end

/-! ## What the digests determine -/

section

variable (crypto : Crypto) (d : Deployment) (tx : Tx)

/-- The typed data of an attestation. -/
def attestationBytes (attestation : SourceAttestation) : Bytes :=
  typedDataText (crypto.domainSeparator "Mordant Source Attestation" "1" tx.chainId d.factory)
    (attestation.structHash crypto)

/-- Everything hashed for the digests of a configuration and its attestation. -/
def hashedBytes (config : InvoiceConfig) (attestation : SourceAttestation) : Set Bytes :=
  {abiEncode (Factory.partiesWords config), abiEncode (Factory.economicsWords config),
    abiEncode (Factory.creationWords crypto d tx config),
    abiEncode (attestation.words crypto), attestationBytes crypto d tx attestation}

variable {crypto d tx}

/-- The two halves of an encoded configuration have all of its fields. -/
theorem config_eq_of_words {config config' : InvoiceConfig}
    (hparties : Factory.partiesWords config = Factory.partiesWords config')
    (heconomics : Factory.economicsWords config = Factory.economicsWords config') :
    config = config' := by
  simp only [Factory.partiesWords, List.cons.injEq, and_true, addressWord_injective.eq_iff]
    at hparties
  simp only [Factory.economicsWords, List.cons.injEq, and_true,
    (uintWord_toNat_injective (show 16 ≤ 256 by decide)).eq_iff,
    (uintWord_toNat_injective (show 64 ≤ 256 by decide)).eq_iff] at heconomics
  obtain ⟨hadapter, htoken, hroot, hcurrency, hbuyer, htreasury, hsigner⟩ := hparties
  obtain ⟨hunits, hadvance, hface, hbps, hend, hreveal, hcure⟩ := heconomics
  cases config
  cases config'
  simp only [InvoiceConfig.mk.injEq]
  exact ⟨hadapter, htoken, hroot, hcurrency, hbuyer, htreasury, hsigner, hunits, hadvance, hface,
    hbps, hend, hreveal, hcure⟩

/-- So does an encoded attestation. -/
theorem attestation_eq_of_words {attestation attestation' : SourceAttestation}
    (h : attestation.words crypto = attestation'.words crypto) :
    attestation = attestation' := by
  simp only [SourceAttestation.words, List.cons.injEq, and_true, true_and,
    addressWord_injective.eq_iff,
    (uintWord_toNat_injective (show 16 ≤ 256 by decide)).eq_iff,
    (uintWord_toNat_injective (show 32 ≤ 256 by decide)).eq_iff,
    (uintWord_toNat_injective (show 64 ≤ 256 by decide)).eq_iff] at h
  cases attestation
  cases attestation'
  simp only [SourceAttestation.mk.injEq]
  exact h

/-- Where the hash does not collide on what was hashed for two attested
configurations, one attestation digest means one configuration. -/
theorem signed_unique {config config' : InvoiceConfig}
    {attestation attestation' : SourceAttestation} (hcollision : Set.InjOn crypto.keccak256
      (hashedBytes crypto d tx config attestation ∪ hashedBytes crypto d tx config' attestation'))
    (hdigest : attestation.digest crypto tx d.factory = attestation'.digest crypto tx d.factory)
    (hattested : attestation.creationDigest = Factory.creationDigest crypto d tx config)
    (hattested' : attestation'.creationDigest = Factory.creationDigest crypto d tx config') :
    config = config' ∧ attestation = attestation' := by
  have htyped : attestationBytes crypto d tx attestation =
      attestationBytes crypto d tx attestation' :=
    hcollision (by simp [hashedBytes]) (by simp [hashedBytes]) hdigest
  have hstruct : attestation.structHash crypto = attestation'.structHash crypto :=
    (Crypto.typedData_inj htyped).2
  have hwords : abiEncode (attestation.words crypto) = abiEncode (attestation'.words crypto) :=
    hcollision (by simp [hashedBytes]) (by simp [hashedBytes]) hstruct
  obtain rfl := attestation_eq_of_words (abiEncode_injective hwords)
  rw [hattested] at hattested'
  have hcreation : abiEncode (Factory.creationWords crypto d tx config) =
      abiEncode (Factory.creationWords crypto d tx config') :=
    hcollision (by simp [hashedBytes]) (by simp [hashedBytes]) hattested'
  have hhalves := abiEncode_injective hcreation
  simp only [Factory.creationWords, List.cons.injEq, and_true, true_and] at hhalves
  have hparties : abiEncode (Factory.partiesWords config) =
      abiEncode (Factory.partiesWords config') :=
    hcollision (by simp [hashedBytes]) (by simp [hashedBytes]) hhalves.1
  have heconomics : abiEncode (Factory.economicsWords config) =
      abiEncode (Factory.economicsWords config') :=
    hcollision (by simp [hashedBytes]) (by simp [hashedBytes]) hhalves.2
  exact ⟨config_eq_of_words (abiEncode_injective hparties) (abiEncode_injective heconomics), rfl⟩

end

/-! ## One vault each -/

section

variable {W : Type} (crypto : Crypto) (env : Externals W) (d : Deployment)

/-- The vault at an address goes back to one call of the run: the system it was
made in, what it checked there, and that no other configuration and attestation
have the digest that was signed, unless the hash collides on theirs. -/
def Attested (events : List (Event W)) (address : Address) (vault : AnchorVault) : Prop :=
  ∃ before after tx config attestation signature s factory,
    events =
      before ++ .call tx (.createIdentityAnchoredVault config attestation signature) :: after ∧
    Reaches crypto env d before s ∧
    Created crypto env d s tx config attestation signature address vault factory ∧
    ∀ config' attestation',
      attestation'.digest crypto tx d.factory = vault.identity.sourceAttestationDigest →
      attestation'.creationDigest = Factory.creationDigest crypto d tx config' →
      Set.InjOn crypto.keccak256 (hashedBytes crypto d tx config attestation ∪
        hashedBytes crypto d tx config' attestation') →
      config = config' ∧ attestation = attestation'

/-- One vault for a root, for a custody token and for an attestation. -/
structure OneVaultEach (events : List (Event W)) (s : System W) : Prop where
  roots : Set.InjOn s.factory.vaultForRoot {root | s.factory.vaultForRoot root ≠ 0}
  attestations :
    Set.InjOn s.factory.vaultForAttestation {digest | s.factory.vaultForAttestation digest ≠ 0}
  vaults : s.factory.vaultForRoot '' {root | s.factory.vaultForRoot root ≠ 0} =
    {address | s.vaults address ≠ none}
  range : s.factory.vaultForRoot '' {root | s.factory.vaultForRoot root ≠ 0} =
    s.factory.vaultForAttestation '' {digest | s.factory.vaultForAttestation digest ≠ 0}
  cva : Set.BijOn s.factory.rootForCva (fieldRange s.vaults (·.terms.cvaToken))
    (fieldRange s.vaults (·.terms.invoiceRoot))
  unbound : ∀ token, token ∉ fieldRange s.vaults (·.terms.cvaToken) →
    s.factory.rootForCva token = 0
  attested : ∀ address vault, s.vaults address = some vault →
    Attested crypto env d events address vault

variable {crypto env d} {events before after : List (Event W)} {s t : System W}

/-- Later events leave the origin of a vault alone. -/
theorem Attested.snoc {address : Address} {vault : AnchorVault} (e : Event W)
    (h : Attested crypto env d events address vault) :
    Attested crypto env d (events ++ [e]) address vault := by
  obtain ⟨before, after, tx, config, attestation, signature, s, factory, rfl, hrest⟩ := h
  exact ⟨before, after ++ [e], tx, config, attestation, signature, s, factory,
    by rw [List.append_assoc, List.cons_append], hrest⟩

/-- **History.** Every vault of a reachable system was created by a call of the run. -/
theorem Reaches.attested (h : Reaches crypto env d events s) :
    ∀ address vault, s.vaults address = some vault →
      Attested crypto env d events address vault := by
  apply h.history
  case hdeployed =>
    intro s hdeployed address vault hvault
    rw [hdeployed.vaults] at hvault
    exact nomatch hvault
  case hstep =>
    intro before e s s' hreach hbefore hexec other found hfound
    rcases exec_created hexec with ⟨hvaults, -⟩ |
      ⟨tx, config, attestation, signature, address, vault, rfl, hcreated, hvaults⟩
    · rw [hvaults] at hfound
      exact (hbefore other found hfound).snoc e
    · rw [hvaults] at hfound
      by_cases hother : other = address
      · subst hother
        rw [update_self] at hfound
        obtain rfl := Option.some.inj hfound
        refine ⟨before, [], tx, config, attestation, signature, s, s'.factory, rfl, hreach,
          hcreated, ?_⟩
        intro config' attestation' hdigest hattested hcollision
        apply signed_unique hcollision ?_ hcreated.attested hattested
        rw [hdigest, hcreated.identity]
        rfl
      · rw [update_of_ne hother] at hfound
        exact (hbefore other found hfound).snoc _

/-- **One vault each.** In every run, what a table of the factory says once it says for
good, the tables correspond one to one, and every vault was created on what an
authorized issuer had signed. -/
theorem one_vault_each (hreach : Reaches crypto env d before s)
    (hrun : run (exec crypto env d) s after = .ok t) :
    Kept s t ∧ OneVaultEach crypto env d (before ++ after) t := by
  have hwhole := hreach.append hrun
  have hregistered := hwhole.registered
  refine ⟨run_kept hrun, ?_⟩
  constructor
  case roots => exact hregistered.byRoot.injOn
  case attestations => exact hregistered.byAttestation.injOn
  case vaults => exact hregistered.byRoot.image
  case range => rw [hregistered.byRoot.image, hregistered.byAttestation.image]
  case cva => exact hregistered.byCva.bijOn hregistered.byRoot
  case unbound =>
    intro token hunbound
    by_contra hbound
    exact hunbound (hregistered.byCva.only token hbound)
  case attested => exact hwhole.attested

end

namespace Sample

/-- One receivable each, of two issuers. -/
def twoVaults : List (Event Unit) :=
  [creation 1 issuerA 11 21 1, creation 2 issuerB 12 22 1]

end Sample

/-- Two vaults are created one after another. -/
theorem one_vault_each_twice : ∃ s t,
    Kept s t ∧ OneVaultEach Match.Sample.crypto Sample.env Sample.deployment
      (Sample.preparation 1 ++ Sample.twoVaults) t := by
  have hcommits : (Sample.outcome (Sample.preparation 1 ++ Sample.twoVaults)).toOption.any
      (fun _ => true) = true := by decide +kernel
  obtain ⟨t, hreach, -⟩ := Sample.reaches _ hcommits
  obtain ⟨genesis, world, s₀, hdeploy, hrun⟩ := hreach
  obtain ⟨s, hbefore, hafter⟩ := run_append_ok_iff.mp hrun
  exact ⟨s, t, one_vault_each ⟨genesis, world, s₀, hdeploy, hbefore⟩ hafter⟩

end Mordant.Identity
