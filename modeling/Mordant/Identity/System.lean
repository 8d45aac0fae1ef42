/-
# The identity system

The issuer registry, the factory with the vaults it created, and the two
registries beside it.  A system is deployed by its constructors and then runs
through events: a call by any account, or a change of the outside world.
-/

import Mordant.Identity.Sessions
import Mordant.Identity.Terms
import Mordant.Match.System

namespace Mordant.Identity

open Evm Foundation Match

/-- The contracts, the created vaults and the outside world. -/
structure System (W : Type) where
  issuers : IssuerState
  factory : FactoryState
  vaults : Address → Option AnchorVault
  terms : TermsState
  sessions : SessionState
  world : W

/-- The owners the constructors are given. -/
structure Genesis where
  issuerOwner : Address
  factoryOwner : Address

/-- The external functions that change state. -/
inductive Call
  -- issuer registry
  | registerIssuer (signer : Address) (fromEpoch : BitVec 32)
  | revokeIssuer (issuerKeyId : Bytes32)
  | advanceEpoch (issuerKeyId : Bytes32) (epoch : BitVec 32)
  | transferIssuerRegistry (newOwner : Address)
  | renounceIssuerRegistry
  -- factory
  | setFacility (facility : Address) (enabled : Bool)
  | setCvaAdapter (adapter : Address) (enabled : Bool)
  | setSettlementToken (token : Address) (enabled : Bool)
  | transferFactory (newOwner : Address)
  | renounceFactory
  | createIdentityAnchoredVault (config : InvoiceConfig) (attestation : SourceAttestation)
      (signature : Bytes)
  -- terms registry
  | initialise (anchor : Address)
  | appendAmendment (amendment : TermsAmendment) (signature : Bytes)
  -- session registry
  | markCandidateSession (sessionId : Bytes32)
  | precommitExactSession (precommitment : ExactSessionPrecommitment) (signature : Bytes)

/-- What can happen next. -/
inductive Event (W : Type)
  | call (tx : Tx) (call : Call)
  | outside (world : W)

section

variable {W : Type} (crypto : Crypto) (env : Externals W) (d : Deployment)

/-- Run all constructors. -/
def deploy (genesis : Genesis) (world : W) : Except IdentityError (System W) := do
  let issuers ← (IssuerRegistry.construct genesis.issuerOwner).mapError .issuer
  let factory ← Factory.construct d genesis.factoryOwner
  let terms ← Terms.construct d.issuerRegistry d.factory
  let sessions ← Sessions.construct d.issuerRegistry
  pure
    { issuers := issuers
      factory := factory
      vaults := fun _ => none
      terms := terms
      sessions := sessions
      world := world }

/-- The getters of any account. -/
def System.reads (s : System W) (anchor : Address) : AnchorReads :=
  match s.vaults anchor with
  | some vault => vault.reads
  | none => env.anchor s.world anchor

/-- Commit a new issuer registry. -/
def System.withIssuers (s : System W) (r : Except MatchError IssuerState) :
    Except IdentityError (System W) :=
  (fun issuers => { s with issuers := issuers }) <$> r.mapError .issuer

/-- Commit a new factory. -/
def System.withFactory (s : System W) (f : Except IdentityError FactoryState) :
    Except IdentityError (System W) := (fun factory => { s with factory := factory }) <$> f

/-- Commit a new terms registry. -/
def System.withTerms (s : System W) (r : Except IdentityError TermsState) :
    Except IdentityError (System W) := (fun terms => { s with terms := terms }) <$> r

/-- Commit a new session registry. -/
def System.withSessions (s : System W) (r : Except IdentityError SessionState) :
    Except IdentityError (System W) := (fun sessions => { s with sessions := sessions }) <$> r

/-- Commit a created vault together with the factory that created it. -/
def System.withVault (s : System W)
    (created : Except IdentityError (Address × AnchorVault × FactoryState)) :
    Except IdentityError (System W) :=
  (fun (address, vault, factory) =>
    { s with
      factory := factory
      vaults := Function.update s.vaults address (some vault) }) <$> created

/-- One call. -/
def Call.perform (s : System W) (tx : Tx) : Call → Except IdentityError (System W)
  | .registerIssuer signer fromEpoch =>
      s.withIssuers (IssuerRegistry.registerIssuer crypto s.issuers tx signer fromEpoch)
  | .revokeIssuer issuerKeyId =>
      s.withIssuers (IssuerRegistry.revokeIssuer s.issuers tx issuerKeyId)
  | .advanceEpoch issuerKeyId epoch =>
      s.withIssuers (IssuerRegistry.advanceEpoch s.issuers tx issuerKeyId epoch)
  | .transferIssuerRegistry newOwner =>
      s.withIssuers (IssuerRegistry.transferOwnership s.issuers tx newOwner)
  | .renounceIssuerRegistry => s.withIssuers (IssuerRegistry.renounceOwnership s.issuers tx)
  | .setFacility facility enabled =>
      s.withFactory (Factory.setFacility s.factory tx facility enabled)
  | .setCvaAdapter adapter enabled =>
      s.withFactory (Factory.setCvaAdapter s.factory tx adapter enabled)
  | .setSettlementToken token enabled =>
      s.withFactory (Factory.setSettlementToken s.factory tx token enabled)
  | .transferFactory newOwner =>
      s.withFactory (Factory.transferOwnership s.factory tx newOwner)
  | .renounceFactory => s.withFactory (Factory.renounceOwnership s.factory tx)
  | .createIdentityAnchoredVault config attestation signature =>
      s.withVault (Factory.createIdentityAnchoredVault crypto env d s.factory s.vaults s.issuers
        s.world tx config attestation signature)
  | .initialise anchor =>
      s.withTerms (Prod.snd <$> Terms.initialise crypto d.termsRegistry s.terms
        (s.reads env anchor) s.factory.vaultForAttestation tx anchor)
  | .appendAmendment amendment signature =>
      s.withTerms (Terms.appendAmendment crypto d.termsRegistry s.terms s.issuers tx amendment
        signature)
  | .markCandidateSession sessionId =>
      s.withSessions (Sessions.markCandidateSession s.sessions sessionId)
  | .precommitExactSession precommitment signature =>
      s.withSessions (Sessions.precommitExactSession crypto d.sessionRegistry s.sessions s.issuers
        tx precommitment signature)

/-- One event. -/
def exec (s : System W) : Event W → Except IdentityError (System W)
  | .call tx call => call.perform crypto env d s tx
  | .outside world => pure { s with world := world }

/-- A deployed system after a run of committed calls. -/
def Reaches (events : List (Event W)) (s : System W) : Prop :=
  ∃ genesis world s₀, deploy d genesis world = .ok s₀ ∧
    run (exec crypto env d) s₀ events = .ok s

variable {crypto env d} {s : System W} {events : List (Event W)}

/-- What the constructors leave, whatever they were given. -/
structure Deployed (s : System W) : Prop where
  issuers : ∃ owner, s.issuers = { owner := owner }
  factory : ∃ owner, s.factory = { owner := owner }
  vaults : s.vaults = fun _ => none
  terms : s.terms = {}
  sessions : s.sessions = {}

theorem deploy_ok {genesis : Genesis} {world : W}
    (h : deploy d genesis world = .ok s) : Deployed s := by
  simp only [deploy, IssuerRegistry.construct, Factory.construct, Terms.construct,
    Sessions.construct, bind_ok_iff, mapError_ok_iff, pure_ok_iff] at h
  obtain ⟨_, ⟨-, -, rfl⟩, _, ⟨-, -, -, -, rfl⟩, _, ⟨-, -, rfl⟩, _, ⟨-, -, rfl⟩, rfl⟩ := h
  exact ⟨⟨_, rfl⟩, ⟨_, rfl⟩, rfl, rfl, rfl⟩

/-- **Invariant rule.** A property the constructors establish and every event keeps
holds of every reachable system. -/
theorem Reaches.induct {P : System W → Prop} (h : Reaches crypto env d events s)
    (hdeployed : ∀ s, Deployed s → P s)
    (hstep : ∀ s e s', P s → exec crypto env d s e = .ok s' → P s') : P s := by
  obtain ⟨genesis, world, s₀, hdeploy, hrun⟩ := h
  exact run_always hstep hrun (hdeployed s₀ (deploy_ok hdeploy))

/-- **History rule.** The same for a property of the events so far and the system they led to. -/
theorem Reaches.history {P : List (Event W) → System W → Prop} (h : Reaches crypto env d events s)
    (hdeployed : ∀ s, Deployed s → P [] s)
    (hstep : ∀ before e s s', Reaches crypto env d before s → P before s →
      exec crypto env d s e = .ok s' → P (before ++ [e]) s') : P events s := by
  obtain ⟨genesis, world, s₀, hdeploy, hrun⟩ := h
  apply run_history (hdeployed s₀ (deploy_ok hdeploy)) ?_ hrun
  intro before e s₁ s₂ hbefore hholds hexec
  exact hstep before e s₁ s₂ ⟨genesis, world, s₀, hdeploy, hbefore⟩ hholds hexec

/-- One more event. -/
theorem Reaches.snoc {s' : System W} {e : Event W} (h : Reaches crypto env d events s)
    (hexec : exec crypto env d s e = .ok s') :
    Reaches crypto env d (events ++ [e]) s' := by
  obtain ⟨genesis, world, s₀, hdeploy, hrun⟩ := h
  exact ⟨genesis, world, s₀, hdeploy, run_snoc_ok_iff.mpr ⟨s, hrun, hexec⟩⟩

/-- More events. -/
theorem Reaches.append {before after : List (Event W)} {t : System W}
    (h : Reaches crypto env d before s) (hrun : run (exec crypto env d) s after = .ok t) :
    Reaches crypto env d (before ++ after) t := by
  obtain ⟨genesis, world, s₀, hdeploy, hbefore⟩ := h
  exact ⟨genesis, world, s₀, hdeploy, run_append_ok_iff.mpr ⟨s, hbefore, hrun⟩⟩

/-- Every event of a run happened in a reachable system. -/
theorem Reaches.split {before after : List (Event W)} {e : Event W}
    (h : Reaches crypto env d (before ++ e :: after) s) :
    ∃ s₁ s₂, Reaches crypto env d before s₁ ∧ exec crypto env d s₁ e = .ok s₂ ∧
      run (exec crypto env d) s₂ after = .ok s := by
  obtain ⟨genesis, world, s₀, hdeploy, hrun⟩ := h
  obtain ⟨s₁, hbefore, hrest⟩ := run_append_ok_iff.mp hrun
  obtain ⟨s₂, hexec, hafter⟩ := run_cons_ok_iff.mp hrest
  exact ⟨s₁, s₂, ⟨genesis, world, s₀, hdeploy, hbefore⟩, hexec, hafter⟩

end

/-! ## Frames -/

section

variable {W : Type} {s s' : System W}

theorem System.withIssuers_ok_iff {r : Except MatchError IssuerState} :
    s.withIssuers r = .ok s' ↔ ∃ issuers, r = .ok issuers ∧ { s with issuers := issuers } = s' := by
  rw [System.withIssuers, map_ok_iff]
  simp only [mapError_ok_iff]

theorem System.withFactory_ok_iff {f : Except IdentityError FactoryState} :
    s.withFactory f = .ok s' ↔ ∃ factory, f = .ok factory ∧ { s with factory := factory } = s' :=
  map_ok_iff

theorem System.withTerms_ok_iff {r : Except IdentityError TermsState} :
    s.withTerms r = .ok s' ↔ ∃ terms, r = .ok terms ∧ { s with terms := terms } = s' :=
  map_ok_iff

theorem System.withSessions_ok_iff {r : Except IdentityError SessionState} :
    s.withSessions r = .ok s' ↔
      ∃ sessions, r = .ok sessions ∧ { s with sessions := sessions } = s' :=
  map_ok_iff

theorem System.withVault_ok_iff
    {created : Except IdentityError (Address × AnchorVault × FactoryState)} :
    s.withVault created = .ok s' ↔ ∃ address vault factory,
      created = .ok (address, vault, factory) ∧
      { s with factory := factory, vaults := Function.update s.vaults address (some vault) } =
        s' := by
  rw [System.withVault, map_ok_iff]
  constructor
  · rintro ⟨⟨address, vault, factory⟩, hcreated, rfl⟩
    exact ⟨address, vault, factory, hcreated, rfl⟩
  · rintro ⟨address, vault, factory, hcreated, rfl⟩
    exact ⟨⟨address, vault, factory⟩, hcreated, rfl⟩

end

/-! ## A sample story

Two issuers, and receivables that a number tells apart. -/

namespace Sample

open Match.Sample (crypto sign tx)

def deployment : Deployment where
  factory := 0x601
  cviVerifier := 0x602
  issuerRegistry := 0x603
  termsRegistry := 0x604
  sessionRegistry := 0x605

def genesis : Genesis where
  issuerOwner := 0x701
  factoryOwner := 0x702

def issuerA : Address := 0x711
def issuerB : Address := 0x712
def buyer : Address := 0x713
def treasury : Address := 0x714

/-- Everybody is eligible, and each adapter has a token of its own. -/
def env : Externals Unit where
  isEligible _ _ _ := true
  vaultView adapter :=
    { isFacility := fun _ _ => false
      hasValidIdentity := fun _ _ => true
      isEligible := fun _ _ _ => true
      isEligibleForAsset := fun _ _ _ _ _ _ => true
      isAssetTransferAllowed := fun _ _ _ _ _ => true
      asset := fun _ => adapter + 0x1000
      issuedSupply := fun _ => some 0
      availableBalance := fun _ _ => some 0
      isActivationReady := fun _ _ => true
      isCashRedemptionReady := fun _ _ => true
      isRedemptionReady := fun _ _ _ => true
      consumeOnRedemption := fun _ _ _ => none
      releaseOnDefault := fun _ _ _ _ => none
      settlementAccepts := fun _ _ _ _ => true }
  creationCode := [0x60, 0x80]
  isOccupied _ _ := false
  anchor _ _ := ⟨none, none, none, none, none⟩

/-- One receivable. -/
def config (n : ℕ) : InvoiceConfig where
  cvaAdapter := BitVec.ofNat 160 (0x2000 + n)
  settlementToken := 0x720
  invoiceRoot := BitVec.ofNat 256 (0x3000 + n)
  currency := 0x721
  buyer := buyer
  originatorTreasury := treasury
  initialOriginatorSigner := 0x715
  initialUnits := 100
  advanceAmount := 1000
  faceValue := 1100
  bondBps := 1000
  protectionEnd := 500
  revealPeriod := 10
  curePeriod := 10

/-- What an issuer says of a receivable. -/
def attestation (n : ℕ) (issuer : Address) (assetCommitment termsCommitment : Bytes32)
    (epoch : BitVec 32) : SourceAttestation where
  chainId := 1
  factory := deployment.factory
  creationDigest := Factory.creationDigest crypto deployment (tx buyer 5) (config n)
  assetCommitment := assetCommitment
  initialTermsCommitment := termsCommitment
  identitySchemeVersion := 3
  termsSchemeVersion := 1
  identityEpoch := epoch
  issuerKeyId := IssuerRegistry.issuerKeyIdFor crypto issuer
  invoiceRoot := (config n).invoiceRoot
  controller := treasury
  validUntil := 100
  nonce := BitVec.ofNat 256 n

/-- The creation of the receivable's vault on what the issuer says. -/
def creation (n : ℕ) (issuer : Address) (assetCommitment termsCommitment : Bytes32)
    (epoch : BitVec 32) : Event Unit :=
  let attested := attestation n issuer assetCommitment termsCommitment epoch
  .call (tx buyer 5) (.createIdentityAnchoredVault (config n) attested
    (sign issuer (attested.digest crypto (tx buyer 5) deployment.factory)))

/-- Where that vault is created. -/
def vaultAddress (n : ℕ) (issuer : Address) (assetCommitment termsCommitment : Bytes32)
    (epoch : BitVec 32) : Address :=
  let attested := attestation n issuer assetCommitment termsCommitment epoch
  let digest := attested.digest crypto (tx buyer 5) deployment.factory
  Factory.predictVaultAddress crypto deployment digest
    (Factory.initCode env (Factory.initOf deployment (config n))
      (Factory.identityOf attested digest))

/-- Both issuers from an epoch on, and what the factory approves. -/
def preparation (epoch : BitVec 32) : List (Event Unit) :=
  [.call (tx 0x701 1) (.registerIssuer issuerA epoch),
    .call (tx 0x701 1) (.registerIssuer issuerB epoch),
    .call (tx 0x702 2) (.setCvaAdapter (config 1).cvaAdapter true),
    .call (tx 0x702 2) (.setCvaAdapter (config 2).cvaAdapter true),
    .call (tx 0x702 2) (.setSettlementToken 0x720 true)]

/-- The run of some events, from the constructors on. -/
def outcome (events : List (Event Unit)) : Except IdentityError (System Unit) := do
  let s ← deploy deployment genesis ()
  run (exec crypto env deployment) s events

/-- Events that commit one after another are a run, and what can be seen of the
system they lead to holds of it. -/
theorem reaches {events : List (Event Unit)} (test : System Unit → Bool)
    (hcommits : (outcome events).toOption.any test = true) :
    ∃ s, Reaches crypto env deployment events s ∧ test s = true := by
  obtain ⟨s, houtcome, htest⟩ := any_ok_iff.mp hcommits
  obtain ⟨s₀, hdeploy, hrun⟩ := bind_ok_iff.mp houtcome
  exact ⟨s, ⟨genesis, (), s₀, hdeploy, hrun⟩, htest⟩

end Sample

end Mordant.Identity
