/-
# The lineage of terms

What the terms registry accepted, anchor by anchor, is a chain: the first version
is read from the admitted anchor and every amendment replaces the newest one.  No
commitment is recorded twice and no nonce is used twice, across all anchors.  An
amendment is not compared with the identity it belongs to.
-/

import Mordant.Foundation.Chain
import Mordant.Identity.Admission
import Mordant.Match.OneShot

namespace Mordant.Identity

open Evm Foundation Match
open Function (update_of_ne update_self update)

/-! ## What the two functions do -/

section

variable {crypto : Crypto} {self : Address} {r r' : TermsState} {reads : AnchorReads}
  {vaultForAttestation : Bytes32 → Address} {issuers : IssuerState} {tx : Tx} {anchor : Address}
  {anchorId : Bytes32} {amendment : TermsAmendment} {signature : Bytes}

/-- The record holds what the getters of its admitted anchor answered. -/
structure ReadFrom (reads : AnchorReads) (vaultForAttestation : Bytes32 → Address)
    (record : AnchorTerms) : Prop where
  admitted : ∃ digest, reads.sourceAttestationDigest = some digest ∧ digest ≠ 0 ∧
    vaultForAttestation digest = record.anchor
  anchor_ne_zero : record.anchor ≠ 0
  asset : reads.assetCommitment = some record.assetCommitment
  issuer : reads.issuerKeyId = some record.issuerKeyId
  scheme : reads.termsSchemeVersion = some record.termsSchemeVersion

/-- A committed `initialise`. -/
structure Initialised (r : TermsState) (reads : AnchorReads)
    (vaultForAttestation : Bytes32 → Address) (anchorId : Bytes32) (record : AnchorTerms)
    (r' : TermsState) : Prop where
  unknown : (r.anchorTerms anchorId).initialised = false
  read : ReadFrom reads vaultForAttestation record
  terms : reads.initialTermsCommitment = some record.currentTermsCommitment
  terms_ne_zero : record.currentTermsCommitment ≠ 0
  separate : record.currentTermsCommitment ≠ record.assetCommitment
  version : record.currentVersion = 1
  initialised : record.initialised = true
  unrecorded : ¬ r.recordedTerms record.currentTermsCommitment = true
  after : r' =
    { r with
      anchorTerms := update r.anchorTerms anchorId record
      recordedTerms := update r.recordedTerms record.currentTermsCommitment true
      appended := r.appended ++
        [⟨anchorId, record.issuerKeyId, 1, record.currentTermsCommitment, 0⟩] }

theorem initialise_initialised
    (h : Terms.initialise crypto self r reads vaultForAttestation tx anchor = .ok (anchorId, r')) :
    ∃ record, anchorId = Terms.anchorIdOf crypto self tx anchor ∧ record.anchor = anchor ∧
      Initialised r reads vaultForAttestation anchorId record r' := by
  simp only [Terms.initialise, Terms.read, bind_ok_iff, revertIf_ok_iff, require_ok_iff,
    pure_ok_iff, Prod.mk.injEq, not_or, not_not, Bool.not_eq_true] at h
  obtain ⟨-, hanchor, digest, hdigest, -, ⟨hdigest_ne, hadmitted⟩, -, hunknown, asset, hasset,
    terms, hterms, issuer, hissuer, scheme, hscheme, -, ⟨-, hterms_ne, -, hseparate⟩, -,
    hunrecorded, rfl, rfl⟩ := h
  let record : AnchorTerms :=
    { assetCommitment := asset
      currentTermsCommitment := terms
      currentVersion := 1
      issuerKeyId := issuer
      termsSchemeVersion := scheme
      anchor := anchor
      initialised := true }
  refine ⟨record, rfl, rfl, ?_⟩
  constructor
  case read => exact ⟨⟨digest, hdigest, hdigest_ne, hadmitted⟩, hanchor, hasset, hissuer, hscheme⟩
  case unknown => exact hunknown
  case terms => exact hterms
  case terms_ne_zero => exact hterms_ne
  case separate => exact Ne.symm hseparate
  case version => rfl
  case initialised => rfl
  case unrecorded => simpa only [Bool.not_eq_true] using hunrecorded
  case after => rfl

/-- What an accepted amendment says, of the record it amends. -/
structure Amends (r : TermsState) (amendment : TermsAmendment) : Prop where
  initialised : (r.anchorTerms amendment.anchorId).initialised = true
  asset : amendment.assetCommitment = (r.anchorTerms amendment.anchorId).assetCommitment
  issuer : amendment.issuerKeyId = (r.anchorTerms amendment.anchorId).issuerKeyId
  version : amendment.termsVersion.toNat =
    (r.anchorTerms amendment.anchorId).currentVersion.toNat + 1
  scheme : amendment.termsSchemeVersion = (r.anchorTerms amendment.anchorId).termsSchemeVersion
  supersedes : amendment.supersedesTermsCommitment =
    (r.anchorTerms amendment.anchorId).currentTermsCommitment
  terms_ne_zero : amendment.termsCommitment ≠ 0
  nonce_ne_zero : amendment.nonce ≠ 0
  unrecorded : ¬ r.recordedTerms amendment.termsCommitment = true
  unused : ¬ r.consumedNonce amendment.issuerKeyId amendment.nonce = true

/-- It is for this registry and this moment. -/
structure InScope (contract : Address) (tx : Tx) (amendment : TermsAmendment) : Prop where
  chain : amendment.chainId.toNat = tx.chainId
  registry : amendment.registry = contract
  unexpired : tx.timestamp ≤ amendment.validUntil.toNat

/-- The storage after an amendment. -/
def amended (r : TermsState) (amendment : TermsAmendment) : TermsState :=
  { r with
    anchorTerms := update r.anchorTerms amendment.anchorId
      { r.anchorTerms amendment.anchorId with
        currentTermsCommitment := amendment.termsCommitment
        currentVersion := amendment.termsVersion }
    recordedTerms := update r.recordedTerms amendment.termsCommitment true
    consumedNonce := setNested r.consumedNonce amendment.issuerKeyId amendment.nonce true
    appended := r.appended ++ [⟨amendment.anchorId, amendment.issuerKeyId, amendment.termsVersion,
      amendment.termsCommitment, amendment.supersedesTermsCommitment⟩] }

/-- Exactly when an amendment is accepted. The registry asks about the epoch 1. -/
theorem appendAmendment_ok_iff :
    Terms.appendAmendment crypto self r issuers tx amendment signature = .ok r' ↔
      Amends r amendment ∧ InScope self tx amendment ∧
        (∃ signer,
          crypto.recoverStrict (Terms.digest crypto self tx amendment) signature = some signer ∧
            IssuerRegistry.requireAuthorized issuers amendment.issuerKeyId signer 1 = .ok ()) ∧
        r' = amended r amendment := by
  simp only [Terms.appendAmendment, bind_ok_iff, revertIf_ok_iff, exists_const,
    checkedAdd_ok_iff, require_ok_iff, mapError_ok_iff, pure_ok_iff, not_or, not_not, not_lt,
    Bool.not_eq_false]
  constructor
  · rintro ⟨hinitialised, ⟨hchain, hregistry⟩, hunexpired, hasset, hissuer, _, ⟨-, rfl⟩, hversion,
      hscheme, hsupersedes, ⟨hterms, hnonce⟩, hunrecorded, hunused, signer, hsigner, ⟨⟩,
      hauthorized, rfl⟩
    exact ⟨⟨hinitialised, hasset, hissuer, hversion, hscheme, hsupersedes, hterms, hnonce,
      hunrecorded, hunused⟩, ⟨hchain, hregistry, hunexpired⟩, ⟨signer, hsigner, hauthorized⟩, rfl⟩
  · rintro ⟨h, ⟨hchain, hregistry, hunexpired⟩, ⟨signer, hsigner, hauthorized⟩, rfl⟩
    have hbound := amendment.termsVersion.isLt
    rw [h.version] at hbound
    exact ⟨h.initialised, ⟨hchain, hregistry⟩, hunexpired, h.asset, h.issuer, _, ⟨hbound, rfl⟩,
      h.version, h.scheme, h.supersedes, ⟨h.terms_ne_zero, h.nonce_ne_zero⟩, h.unrecorded,
      h.unused, signer, hsigner, (), hauthorized, rfl⟩

end

/-! ## What an event does to the histories -/

/-- The versions of one anchor, oldest first. -/
def versionsOf (r : TermsState) (anchorId : Bytes32) : List TermsVersionAppended :=
  r.appended.filter fun version => version.anchorId = anchorId

/-- The part of a record that no amendment touches. -/
structure SameAnchor (record record' : AnchorTerms) : Prop where
  initialised : record'.initialised = true
  anchor : record'.anchor = record.anchor
  asset : record'.assetCommitment = record.assetCommitment
  issuer : record'.issuerKeyId = record.issuerKeyId
  scheme : record'.termsSchemeVersion = record.termsSchemeVersion

theorem SameAnchor.refl {record : AnchorTerms} (h : record.initialised = true) :
    SameAnchor record record := ⟨h, rfl, rfl, rfl, rfl⟩

theorem SameAnchor.trans {record₁ record₂ record₃ : AnchorTerms} (h : SameAnchor record₁ record₂)
    (h' : SameAnchor record₂ record₃) : SameAnchor record₁ record₃ :=
  ⟨h'.initialised, h'.anchor.trans h.anchor, h'.asset.trans h.asset, h'.issuer.trans h.issuer,
    h'.scheme.trans h.scheme⟩

/-- A record that was read from an anchor still says what was read. -/
theorem ReadFrom.kept {reads : AnchorReads} {vaultForAttestation : Bytes32 → Address}
    {record record' : AnchorTerms} (h : ReadFrom reads vaultForAttestation record)
    (hsame : SameAnchor record record') : ReadFrom reads vaultForAttestation record' where
  admitted := hsame.anchor ▸ h.admitted
  anchor_ne_zero := hsame.anchor ▸ h.anchor_ne_zero
  asset := hsame.asset ▸ h.asset
  issuer := hsame.issuer ▸ h.issuer
  scheme := hsame.scheme ▸ h.scheme

section

variable {W : Type} {crypto : Crypto} {env : Externals W} {d : Deployment} {s s' : System W}
  {e : Event W} {events : List (Event W)} {anchorId : Bytes32}

/-- The nonce an event uses up in the terms registry. -/
def Event.amendmentNonce : Event W → List (Bytes32 × BitVec 256)
  | .call _ (.appendAmendment amendment _) => [(amendment.issuerKeyId, amendment.nonce)]
  | _ => []

/-- **Step.** An event initialises one anchor, amends one, or leaves the registry alone. -/
theorem exec_terms (h : exec crypto env d s e = .ok s') :
    (s'.terms = s.terms ∧ e.amendmentNonce = []) ∨
      (∃ tx anchor record, e = .call tx (.initialise anchor) ∧ record.anchor = anchor ∧
        Initialised s.terms (s.reads env anchor) s.factory.vaultForAttestation
          (Terms.anchorIdOf crypto d.termsRegistry tx anchor) record s'.terms) ∨
      ∃ tx amendment signature, e = .call tx (.appendAmendment amendment signature) ∧
        Amends s.terms amendment ∧ s'.terms = amended s.terms amendment := by
  cases e with
  | outside world =>
      obtain rfl := pure_ok_iff.mp h
      exact .inl ⟨rfl, rfl⟩
  | call tx call =>
      cases call with
      | registerIssuer | revokeIssuer | advanceEpoch | transferIssuerRegistry
      | renounceIssuerRegistry =>
          obtain ⟨_, -, rfl⟩ := System.withIssuers_ok_iff.mp h
          exact .inl ⟨rfl, rfl⟩
      | setFacility | setCvaAdapter | setSettlementToken | transferFactory | renounceFactory =>
          obtain ⟨_, -, rfl⟩ := System.withFactory_ok_iff.mp h
          exact .inl ⟨rfl, rfl⟩
      | createIdentityAnchoredVault =>
          obtain ⟨_, _, _, -, rfl⟩ := System.withVault_ok_iff.mp h
          exact .inl ⟨rfl, rfl⟩
      | initialise anchor =>
          obtain ⟨_, hcall, rfl⟩ := System.withTerms_ok_iff.mp h
          obtain ⟨⟨anchorId, _⟩, hinitialise, rfl⟩ := map_ok_iff.mp hcall
          obtain ⟨record, rfl, hanchor, hinitialised⟩ := initialise_initialised hinitialise
          exact .inr (.inl ⟨tx, anchor, record, rfl, hanchor, hinitialised⟩)
      | appendAmendment amendment signature =>
          obtain ⟨_, hcall, rfl⟩ := System.withTerms_ok_iff.mp h
          obtain ⟨hamends, -, -, rfl⟩ := appendAmendment_ok_iff.mp hcall
          exact .inr (.inr ⟨tx, amendment, signature, rfl, hamends, rfl⟩)
      | markCandidateSession | precommitExactSession =>
          obtain ⟨_, -, rfl⟩ := System.withSessions_ok_iff.mp h
          exact .inl ⟨rfl, rfl⟩

/-! ## Every history is a chain -/

/-- What holds of the registry's storage and the events it emitted. An anchor it does
not know has no versions, and its record is blank. -/
structure Lineage (r : TermsState) : Prop where
  blank : ∀ anchorId, (r.anchorTerms anchorId).initialised = false → r.anchorTerms anchorId = {}
  chained : ∀ anchorId, Chained (·.termsVersion.toNat) (·.termsCommitment)
    (·.supersedesTermsCommitment) 0 (r.anchorTerms anchorId).currentTermsCommitment
    (versionsOf r anchorId)
  length : ∀ anchorId,
    (versionsOf r anchorId).length = (r.anchorTerms anchorId).currentVersion.toNat
  recorded : ∀ commitment, r.recordedTerms commitment = true ↔
    commitment ∈ r.appended.map (·.termsCommitment)
  distinct : (r.appended.map (·.termsCommitment)).Nodup

theorem lineage_initial : Lineage {} where
  blank _ _ := rfl
  chained _ := .nil
  length _ := rfl
  recorded commitment := by
    constructor
    · intro hrecorded
      exact nomatch hrecorded
    · intro hmem
      exact nomatch hmem
  distinct := List.nodup_nil

/-- **Append rule.** One more version at the end of one history, under a commitment
that is not recorded yet. -/
theorem Lineage.append {r r' : TermsState} (h : Lineage r) (version : TermsVersionAppended)
    (record : AnchorTerms) (hinitialised : record.initialised = true)
    (hcurrent : record.currentTermsCommitment = version.termsCommitment)
    (hversion : record.currentVersion = version.termsVersion)
    (hnext : version.termsVersion.toNat =
      (r.anchorTerms version.anchorId).currentVersion.toNat + 1)
    (hsupersedes : version.supersedesTermsCommitment =
      (r.anchorTerms version.anchorId).currentTermsCommitment)
    (hunrecorded : ¬ r.recordedTerms version.termsCommitment = true)
    (hrecords : r'.anchorTerms = update r.anchorTerms version.anchorId record)
    (hmarks : r'.recordedTerms = update r.recordedTerms version.termsCommitment true)
    (happended : r'.appended = r.appended ++ [version]) : Lineage r' := by
  have hother : ∀ anchorId, anchorId ≠ version.anchorId →
      versionsOf r' anchorId = versionsOf r anchorId := by
    intro anchorId hne
    have hskip : ¬ version.anchorId = anchorId := fun hsame => hne hsame.symm
    simp [versionsOf, happended, hskip]
  have hself : versionsOf r' version.anchorId = versionsOf r version.anchorId ++ [version] := by
    simp [versionsOf, happended]
  have hlength := h.length version.anchorId
  constructor
  case blank =>
    intro anchorId
    rw [hrecords]
    by_cases hsame : anchorId = version.anchorId
    · subst hsame
      rw [update_self]
      intro hblank
      rw [hinitialised] at hblank
      exact nomatch hblank
    · rw [update_of_ne hsame]
      exact h.blank anchorId
  case chained =>
    intro anchorId
    by_cases hsame : anchorId = version.anchorId
    · subst hsame
      rw [hrecords, update_self, hself, hcurrent]
      exact (h.chained _).snoc (by rw [hnext, hlength]) hsupersedes
    · rw [hrecords, update_of_ne hsame, hother anchorId hsame]
      exact h.chained anchorId
  case length =>
    intro anchorId
    by_cases hsame : anchorId = version.anchorId
    · subst hsame
      rw [hrecords, update_self, hself, List.length_append, List.length_singleton,
        hlength, hversion, hnext]
    · rw [hrecords, update_of_ne hsame, hother anchorId hsame]
      exact h.length anchorId
  case recorded =>
    intro commitment
    rw [hmarks, happended, List.map_append, List.mem_append, List.map_singleton,
      List.mem_singleton]
    by_cases hsame : commitment = version.termsCommitment
    · simp [hsame]
    · simp [hsame, h.recorded commitment]
  case distinct =>
    rw [happended, List.map_append, List.map_singleton]
    apply List.nodup_append.mpr
    refine ⟨h.distinct, List.nodup_singleton _, ?_⟩
    intro commitment hmem other hother hsame
    obtain rfl := List.mem_singleton.mp hother
    rw [hsame] at hmem
    exact hunrecorded ((h.recorded _).mpr hmem)

/-- **Step.** -/
theorem exec_lineage (hlineage : Lineage s.terms) (h : exec crypto env d s e = .ok s') :
    Lineage s'.terms := by
  rcases exec_terms h with ⟨hsame, -⟩ | ⟨tx, anchor, record, -, -, hinitialised⟩ |
    ⟨tx, amendment, signature, -, hamends, hafter⟩
  · rw [hsame]
    exact hlineage
  · have hblank := hlineage.blank _ hinitialised.unknown
    apply hlineage.append ⟨_, record.issuerKeyId, 1, record.currentTermsCommitment, 0⟩ record
    case hinitialised => exact hinitialised.initialised
    case hcurrent => rfl
    case hversion => exact hinitialised.version
    case hnext =>
      rw [hblank]
      rfl
    case hsupersedes =>
      rw [hblank]
    case hunrecorded => exact hinitialised.unrecorded
    case hrecords => rw [hinitialised.after]
    case hmarks => rw [hinitialised.after]
    case happended => rw [hinitialised.after]
  · apply hlineage.append
      ⟨amendment.anchorId, amendment.issuerKeyId, amendment.termsVersion,
        amendment.termsCommitment, amendment.supersedesTermsCommitment⟩
      { s.terms.anchorTerms amendment.anchorId with
        currentTermsCommitment := amendment.termsCommitment
        currentVersion := amendment.termsVersion }
    case hinitialised => exact hamends.initialised
    case hcurrent => rfl
    case hversion => rfl
    case hnext => exact hamends.version
    case hsupersedes => exact hamends.supersedes
    case hunrecorded => exact hamends.unrecorded
    case hrecords =>
      rw [hafter]
      rfl
    case hmarks =>
      rw [hafter]
      rfl
    case happended =>
      rw [hafter]
      rfl

/-- **Run.** -/
theorem Reaches.lineage (h : Reaches crypto env d events s) :
    Lineage s.terms := by
  apply h.induct
  case hdeployed =>
    intro s hdeployed
    rw [hdeployed.terms]
    exact lineage_initial
  case hstep => exact fun _ _ _ => exec_lineage

/-! ## Records stay what was read -/

/-- **Step.** A known anchor keeps what was read of it. -/
theorem exec_sameAnchor (h : exec crypto env d s e = .ok s')
    (hknown : (s.terms.anchorTerms anchorId).initialised = true) :
    SameAnchor (s.terms.anchorTerms anchorId) (s'.terms.anchorTerms anchorId) := by
  rcases exec_terms h with ⟨hsame, -⟩ | ⟨tx, anchor, record, -, -, hinitialised⟩ |
    ⟨tx, amendment, signature, -, hamends, hafter⟩
  · rw [hsame]
    exact .refl hknown
  · have hother : anchorId ≠ Terms.anchorIdOf crypto d.termsRegistry tx anchor := by
      rintro rfl
      rw [hinitialised.unknown] at hknown
      exact nomatch hknown
    rw [hinitialised.after]
    simp only [update_of_ne hother]
    exact .refl hknown
  · rw [hafter, amended]
    by_cases hsame : anchorId = amendment.anchorId
    · subst hsame
      simp only [update_self]
      exact ⟨hknown, rfl, rfl, rfl, rfl⟩
    · simp only [update_of_ne hsame]
      exact .refl hknown

/-- **Run.** -/
theorem run_sameAnchor (h : run (exec crypto env d) s events = .ok s')
    (hknown : (s.terms.anchorTerms anchorId).initialised = true) :
    SameAnchor (s.terms.anchorTerms anchorId) (s'.terms.anchorTerms anchorId) := by
  let P : System W → Prop := fun t =>
    SameAnchor (s.terms.anchorTerms anchorId) (t.terms.anchorTerms anchorId)
  refine run_always (P := P) ?_ h (.refl hknown)
  intro t e t' hsame hexec
  exact hsame.trans (exec_sameAnchor hexec hsame.initialised)

/-- A record goes back to the call that initialised it: it holds what the admitted
anchor answered then. -/
def Anchored (crypto : Crypto) (env : Externals W) (d : Deployment) (events : List (Event W))
    (anchorId : Bytes32) (record : AnchorTerms) : Prop :=
  ∃ before after tx s₀, events = before ++ .call tx (.initialise record.anchor) :: after ∧
    Reaches crypto env d before s₀ ∧
    anchorId = Terms.anchorIdOf crypto d.termsRegistry tx record.anchor ∧
    ReadFrom (s₀.reads env record.anchor) s₀.factory.vaultForAttestation record

theorem Anchored.snoc {record record' : AnchorTerms}
    (h : Anchored crypto env d events anchorId record) (hsame : SameAnchor record record')
    (e : Event W) : Anchored crypto env d (events ++ [e]) anchorId record' := by
  obtain ⟨before, after, tx, s₀, rfl, hreach, rfl, hread⟩ := h
  refine ⟨before, after ++ [e], tx, s₀, ?_, hreach, ?_, ?_⟩
  · rw [hsame.anchor, List.append_assoc, List.cons_append]
  · rw [hsame.anchor]
  · rw [hsame.anchor]
    exact hread.kept hsame

/-- **History.** -/
theorem Reaches.anchored (h : Reaches crypto env d events s) :
    ∀ anchorId, (s.terms.anchorTerms anchorId).initialised = true →
      Anchored crypto env d events anchorId (s.terms.anchorTerms anchorId) := by
  apply h.history
  case hdeployed =>
    intro s hdeployed anchorId hknown
    rw [hdeployed.terms] at hknown
    exact nomatch hknown
  case hstep =>
    intro before e s s' hreach hbefore hexec anchorId hknown
    by_cases hearlier : (s.terms.anchorTerms anchorId).initialised = true
    · exact (hbefore anchorId hearlier).snoc (exec_sameAnchor hexec hearlier) e
    · rcases exec_terms hexec with ⟨hsame, -⟩ | ⟨tx, anchor, record, rfl, rfl, hinitialised⟩ |
        ⟨tx, amendment, signature, -, hamends, hafter⟩
      · rw [hsame] at hknown
        exact absurd hknown hearlier
      · rw [hinitialised.after] at hknown ⊢
        by_cases hself : anchorId = Terms.anchorIdOf crypto d.termsRegistry tx record.anchor
        · subst hself
          simp only [update_self]
          exact ⟨before, [], tx, s, rfl, hreach, rfl, hinitialised.read⟩
        · simp only [update_of_ne hself] at hknown
          exact absurd hknown hearlier
      · rw [hafter, amended] at hknown
        by_cases hself : anchorId = amendment.anchorId
        · subst hself
          exact absurd hamends.initialised hearlier
        · simp only [update_of_ne hself] at hknown
          exact absurd hknown hearlier

/-! ## Nonces -/

/-- A nonce of an issuer was used by an amendment. -/
def TermsState.Used (r : TermsState) (key : Bytes32 × BitVec 256) : Prop :=
  r.consumedNonce key.1 key.2 = true

/-- **Step.** -/
theorem exec_amendmentNonce (h : exec crypto env d s e = .ok s') :
    Consumes s.terms.Used s'.terms.Used e.amendmentNonce := by
  rcases exec_terms h with ⟨hsame, hnone⟩ | ⟨tx, anchor, record, rfl, -, hinitialised⟩ |
    ⟨tx, amendment, signature, rfl, hamends, hafter⟩
  · rw [hnone, hsame]
    exact .refl _
  · rw [hinitialised.after]
    exact .refl _
  · rw [hafter]
    exact Consumes.setNested hamends.unused

/-- **Run.** No nonce of an issuer is used twice. -/
theorem Reaches.amendmentNonces (h : Reaches crypto env d events s) :
    (events.flatMap Event.amendmentNonce).Nodup := by
  obtain ⟨genesis, world, s₀, -, hrun⟩ := h
  have hstep : ∀ s e s', True → exec crypto env d s e = .ok s' →
      True ∧ Consumes s.terms.Used s'.terms.Used e.amendmentNonce :=
    fun s e s' _ hexec => ⟨trivial, exec_amendmentNonce hexec⟩
  exact (run_consumes hstep trivial hrun).nodup

end

/-! ## Terms histories are chains -/

section

variable {W : Type} (crypto : Crypto) (env : Externals W) (d : Deployment)

/-- What a reader of the registry relies on, after these events. -/
structure TermsChain (events : List (Event W)) (s : System W) : Prop where
  versions : ∀ anchorId, (s.terms.anchorTerms anchorId).initialised = true →
    (versionsOf s.terms anchorId).map (·.termsVersion.toNat) =
      List.range' 1 (s.terms.anchorTerms anchorId).currentVersion.toNat
  newest : ∀ anchorId, (s.terms.anchorTerms anchorId).initialised = true →
    ∃ version ∈ versionsOf s.terms anchorId,
      version.termsVersion = (s.terms.anchorTerms anchorId).currentVersion ∧
      version.termsCommitment = (s.terms.anchorTerms anchorId).currentTermsCommitment
  supersedes : ∀ anchorId, ∀ version ∈ versionsOf s.terms anchorId,
    ∀ version' ∈ versionsOf s.terms anchorId,
      version'.termsVersion.toNat = version.termsVersion.toNat + 1 →
      version'.supersedesTermsCommitment = version.termsCommitment
  anchored : ∀ anchorId, (s.terms.anchorTerms anchorId).initialised = true →
    Anchored crypto env d events anchorId (s.terms.anchorTerms anchorId)
  fixed : ∀ before after s₀, events = before ++ after → Reaches crypto env d before s₀ →
    run (exec crypto env d) s₀ after = .ok s → ∀ anchorId,
      (s₀.terms.anchorTerms anchorId).initialised = true →
      SameAnchor (s₀.terms.anchorTerms anchorId) (s.terms.anchorTerms anchorId)
  recorded : ∀ commitment, s.terms.recordedTerms commitment = true ↔
    ∃ version ∈ s.terms.appended, version.termsCommitment = commitment
  recordedOnce : ∀ version ∈ s.terms.appended, ∀ version' ∈ s.terms.appended,
    version.termsCommitment = version'.termsCommitment → version = version'
  noncesOnce : (events.flatMap Event.amendmentNonce).Nodup
  separate : ∀ anchorId, (s.terms.anchorTerms anchorId).initialised = true →
    (s.terms.anchorTerms anchorId).currentTermsCommitment ≠
      (s.terms.anchorTerms anchorId).assetCommitment

/-- No accepted amendment gives the commitment to the receivable out as its terms. -/
def SeparatesTerms (events : List (Event W)) : Prop :=
  ∀ tx amendment signature, .call tx (.appendAmendment amendment signature) ∈ events →
    amendment.termsCommitment ≠ amendment.assetCommitment

variable {crypto env d} {events : List (Event W)} {s t : System W}

/-- A known anchor has a version. -/
theorem Lineage.version_pos {r : TermsState} (h : Lineage r) {anchorId : Bytes32}
    (hnonempty : (r.anchorTerms anchorId).currentVersion ≠ 0) : versionsOf r anchorId ≠ [] := by
  intro hnil
  have hlength := h.length anchorId
  rw [hnil] at hlength
  exact hnonempty (BitVec.eq_of_toNat_eq hlength.symm)

/-- **Run.** A known anchor is at some version. -/
theorem Reaches.version_ne_zero (h : Reaches crypto env d events s) :
    ∀ anchorId, (s.terms.anchorTerms anchorId).initialised = true →
      (s.terms.anchorTerms anchorId).currentVersion ≠ 0 := by
  apply h.induct
  case hdeployed =>
    intro s hdeployed anchorId hknown
    rw [hdeployed.terms] at hknown
    exact nomatch hknown
  case hstep =>
    intro s e s' hpositive hexec anchorId
    rcases exec_terms hexec with ⟨hsame, -⟩ | ⟨tx, anchor, record, -, -, hinitialised⟩ |
      ⟨tx, amendment, signature, -, hamends, hafter⟩
    · rw [hsame]
      exact hpositive anchorId
    · rw [hinitialised.after]
      by_cases hself : anchorId = Terms.anchorIdOf crypto d.termsRegistry tx anchor
      · subst hself
        simp only [update_self, hinitialised.version]
        exact fun _ => by decide
      · simp only [update_of_ne hself]
        exact hpositive anchorId
    · rw [hafter, amended]
      by_cases hself : anchorId = amendment.anchorId
      · subst hself
        simp only [update_self]
        intro _ hzero
        have hversion := hamends.version
        rw [hzero] at hversion
        exact absurd hversion (by simp)
      · simp only [update_of_ne hself]
        exact hpositive anchorId

/-- **Run.** Terms and identity stay apart as long as the amendments keep them apart. -/
theorem Reaches.separate (h : Reaches crypto env d events s) : SeparatesTerms events →
    ∀ anchorId, (s.terms.anchorTerms anchorId).initialised = true →
      (s.terms.anchorTerms anchorId).currentTermsCommitment ≠
        (s.terms.anchorTerms anchorId).assetCommitment := by
  apply h.history
  case hdeployed =>
    intro s hdeployed _ anchorId hknown
    rw [hdeployed.terms] at hknown
    exact nomatch hknown
  case hstep =>
    intro before e s s' hreach hbefore hexec hseparates anchorId
    have hearlier : SeparatesTerms before := fun tx amendment signature hmem =>
      hseparates tx amendment signature (List.mem_append_left _ hmem)
    rcases exec_terms hexec with ⟨hsame, -⟩ | ⟨tx, anchor, record, -, -, hinitialised⟩ |
      ⟨tx, amendment, signature, rfl, hamends, hafter⟩
    · rw [hsame]
      exact hbefore hearlier anchorId
    · rw [hinitialised.after]
      by_cases hself : anchorId = Terms.anchorIdOf crypto d.termsRegistry tx anchor
      · subst hself
        simp only [update_self]
        exact fun _ => hinitialised.separate
      · simp only [update_of_ne hself]
        exact hbefore hearlier anchorId
    · rw [hafter, amended]
      by_cases hself : anchorId = amendment.anchorId
      · subst hself
        simp only [update_self]
        intro _
        rw [← hamends.asset]
        exact hseparates tx amendment signature (List.mem_append_right _ List.mem_cons_self)
      · simp only [update_of_ne hself]
        exact hbefore hearlier anchorId

/-- **Run.** With terms and identity kept apart, nothing is missing. -/
theorem Reaches.termsChain (h : Reaches crypto env d events s)
    (hseparates : SeparatesTerms events) : TermsChain crypto env d events s := by
  have hlineage := h.lineage
  constructor
  case versions =>
    intro anchorId _
    rw [(hlineage.chained anchorId).numbers, hlineage.length]
  case newest =>
    intro anchorId hknown
    have hnonempty := hlineage.version_pos (h.version_ne_zero anchorId hknown)
    obtain ⟨version, hmem, hnumber, hname⟩ := (hlineage.chained anchorId).exists_newest hnonempty
    rw [hlineage.length] at hnumber
    exact ⟨version, hmem, BitVec.eq_of_toNat_eq hnumber, hname⟩
  case supersedes =>
    intro anchorId version hmem version' hmem' hnext
    exact (hlineage.chained anchorId).previous_eq hmem hmem' hnext
  case anchored => exact h.anchored
  case fixed => exact fun before after s₀ _ _ hrun anchorId => run_sameAnchor hrun
  case recorded =>
    intro commitment
    rw [hlineage.recorded, List.mem_map]
  case recordedOnce =>
    intro version hmem version' hmem' hsame
    exact List.inj_on_of_nodup_map hlineage.distinct hmem hmem' hsame
  case noncesOnce => exact h.amendmentNonces
  case separate => exact h.separate hseparates

/-- **Terms histories are chains, exactly where amendments keep terms and identity
apart.** In every run, the registry is what its readers rely on after each of its
events if and only if no accepted amendment has the commitment to the receivable for
its terms. -/
theorem terms_chain_iff (hreach : Reaches crypto env d events t) :
    (∀ before after s, events = before ++ after → Reaches crypto env d before s →
      TermsChain crypto env d before s) ↔ SeparatesTerms events := by
  constructor
  · intro hchain tx amendment signature hmem
    obtain ⟨before, after, rfl⟩ := List.append_of_mem hmem
    obtain ⟨s₁, s₂, hbefore, hexec, -⟩ := hreach.split
    have hholds := hchain (before ++ [_]) after s₂ (by simp) (hbefore.snoc hexec)
    have hknown : (s₂.terms.anchorTerms amendment.anchorId).initialised = true ∧
        (s₂.terms.anchorTerms amendment.anchorId).currentTermsCommitment =
          amendment.termsCommitment ∧
        (s₂.terms.anchorTerms amendment.anchorId).assetCommitment =
          amendment.assetCommitment := by
      obtain ⟨_, hcall, rfl⟩ := System.withTerms_ok_iff.mp hexec
      obtain ⟨hamends, -, -, rfl⟩ := appendAmendment_ok_iff.mp hcall
      simp only [amended, update_self]
      exact ⟨hamends.initialised, trivial, hamends.asset.symm⟩
    have hseparate := hholds.separate amendment.anchorId hknown.1
    rwa [hknown.2.1, hknown.2.2] at hseparate
  · intro hseparates before after s hsplit hbefore
    apply hbefore.termsChain
    intro tx amendment signature hmem
    exact hseparates tx amendment signature (hsplit ▸ List.mem_append_left _ hmem)

end

namespace Sample

open Match.Sample (crypto sign tx)

/-- The first receivable's anchor, from the first issuer. -/
def anchorA (epoch : BitVec 32) : Address := vaultAddress 1 issuerA 11 21 epoch

/-- Anybody has the terms of an anchor recorded. -/
def initialisation (anchor : Address) : Event Unit := .call (tx 0x400 6) (.initialise anchor)

/-- The second version of an anchor's terms. -/
def secondVersion (anchor issuer : Address) (assetCommitment termsCommitment supersedes : Bytes32) :
    TermsAmendment where
  chainId := 1
  registry := deployment.termsRegistry
  anchorId := Terms.anchorIdOf crypto deployment.termsRegistry (tx 0x400 6) anchor
  assetCommitment := assetCommitment
  termsCommitment := termsCommitment
  supersedesTermsCommitment := supersedes
  termsVersion := 2
  termsSchemeVersion := 1
  issuerKeyId := IssuerRegistry.issuerKeyIdFor crypto issuer
  validUntil := 100
  nonce := 7

/-- Its issuer signs it and anybody hands it in. -/
def amending (issuer : Address) (amendment : TermsAmendment) : Event Unit :=
  .call (tx 0x400 7) (.appendAmendment amendment
    (sign issuer (Terms.digest crypto deployment.termsRegistry (tx 0x400 7) amendment)))

/-- The first issuer's anchor gets its terms, and then others. -/
def amendedTo (termsCommitment : Bytes32) : List (Event Unit) :=
  preparation 1 ++ [creation 1 issuerA 11 21 1, initialisation (anchorA 1),
    amending issuerA (secondVersion (anchorA 1) issuerA 11 termsCommitment 21)]

end Sample

/-- The issuer may amend the terms to the commitment of the receivable itself. -/
theorem terms_chain_not_always : ¬ ∀ events s,
    Reaches Match.Sample.crypto Sample.env Sample.deployment events s →
      TermsChain Match.Sample.crypto Sample.env Sample.deployment events s := by
  intro hchain
  have hcommits : (Sample.outcome (Sample.amendedTo 11)).toOption.any
      (fun s => (s.terms.anchorTerms (Terms.anchorIdOf Match.Sample.crypto
        Sample.deployment.termsRegistry (Match.Sample.tx 0x400 6) (Sample.anchorA 1))) ==
          { assetCommitment := 11
            currentTermsCommitment := 11
            currentVersion := 2
            issuerKeyId := IssuerRegistry.issuerKeyIdFor Match.Sample.crypto Sample.issuerA
            termsSchemeVersion := 1
            anchor := Sample.anchorA 1
            initialised := true }) = true := by decide +kernel
  obtain ⟨s, hreach, hrecord⟩ := Sample.reaches _ hcommits
  have hseparate := (hchain _ s hreach).separate (Terms.anchorIdOf Match.Sample.crypto
    Sample.deployment.termsRegistry (Match.Sample.tx 0x400 6) (Sample.anchorA 1))
  rw [eq_of_beq hrecord] at hseparate
  exact hseparate rfl rfl

/-- An amendment to other terms keeps the chain. -/
theorem terms_chain_amended : ∃ t,
    Reaches Match.Sample.crypto Sample.env Sample.deployment (Sample.amendedTo 31) t ∧
    ((∀ before after s, Sample.amendedTo 31 = before ++ after →
      Reaches Match.Sample.crypto Sample.env Sample.deployment before s →
      TermsChain Match.Sample.crypto Sample.env Sample.deployment before s) ↔
        SeparatesTerms (Sample.amendedTo 31)) := by
  have hcommits : (Sample.outcome (Sample.amendedTo 31)).toOption.any (fun _ => true) = true := by
    decide +kernel
  obtain ⟨t, hreach, -⟩ := Sample.reaches _ hcommits
  exact ⟨t, hreach, terms_chain_iff hreach⟩

end Mordant.Identity
