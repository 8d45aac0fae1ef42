/-
# When the terms registry refuses

An admitted anchor gets its terms recorded unless somebody recorded the same
commitment before, for whatever anchor: the commitment is public, and the set of
recorded ones is shared.  An issuer may amend the terms of its anchors as long as
it is at its first epoch, because the registry asks the issuer registry about the
epoch 1.
-/

import Mordant.Identity.Lineage

namespace Mordant.Identity

open Evm Foundation Match
open IssuerRegistry (issuerKeyIdFor)
open Function (update update_self update_of_ne)

variable {W : Type} {crypto : Crypto} {env : Externals W} {d : Deployment} {s s' : System W}
  {tx : Tx} {events : List (Event W)}

/-! ## Recording an anchor's terms -/

/-- For a created vault the registry asks no more than that it is admitted, not
known yet, and that its initial terms are not recorded. -/
theorem initialise_vault_ok_iff {r : TermsState} {vault : AnchorVault} {self anchor : Address}
    {vaultForAttestation : Bytes32 → Address} (hanchor : anchor ≠ 0)
    (hadmitted : vaultForAttestation vault.identity.sourceAttestationDigest = anchor)
    (hunknown : (r.anchorTerms (Terms.anchorIdOf crypto self tx anchor)).initialised = false) :
    (∃ result, Terms.initialise crypto self r vault.reads vaultForAttestation tx anchor =
      .ok result) ↔ ¬ r.recordedTerms vault.identity.initialTermsCommitment = true := by
  have hcomplete := vault.complete
  simp only [IdentityInit.Incomplete, not_or] at hcomplete
  obtain ⟨hasset, -, hterms, -, -, hissuer, hdigest⟩ := hcomplete
  simp only [Terms.initialise, Terms.read, AnchorVault.reads, bind_ok_iff, revertIf_ok_iff,
    exists_const, require_ok_iff, pure_ok_iff, not_or, not_not, Option.some.injEq]
  constructor
  · rintro ⟨result, -, _, rfl, -, -, _, -, _, rfl, _, -, _, -, -, hunrecorded, -⟩
    exact hunrecorded
  · intro hunrecorded
    refine ⟨_, hanchor, _, rfl, ⟨hdigest, hadmitted⟩, ?_, _, rfl, _, rfl, _, rfl, _, rfl,
      ⟨hasset, hterms, hissuer, vault.asset_ne_terms⟩, hunrecorded, rfl⟩
    rw [hunknown]
    exact Bool.false_ne_true

/-- **An admitted anchor gets its terms recorded exactly when nobody recorded them
before.** In every reachable system, for every anchor the factory admitted and the
registry does not know, `initialise` succeeds if and only if the anchor's initial
commitment is the commitment of no recorded version, of any anchor. The constructor
of the anchor has seen to it that its commitments are different and not zero. -/
theorem initialise_succeeds_iff {anchor : Address} {digest : Bytes32}
    (hreach : Reaches crypto env d events s)
    (hadmitted : s.factory.vaultForAttestation digest = anchor) (hanchor : anchor ≠ 0)
    (hunknown : (s.terms.anchorTerms
      (Terms.anchorIdOf crypto d.termsRegistry tx anchor)).initialised = false) :
    (∃ s', exec crypto env d s (.call tx (.initialise anchor)) = .ok s') ↔
      ∀ version ∈ s.terms.appended,
        (s.reads env anchor).initialTermsCommitment ≠ some version.termsCommitment := by
  obtain ⟨vault, hvault, rfl⟩ := (hreach.registered.byAttestation digest anchor).mp
    ⟨hadmitted, hanchor⟩
  have hreads : s.reads env anchor = vault.reads := by
    simp only [System.reads, hvault]
  have hexec : (∃ s', exec crypto env d s (.call tx (.initialise anchor)) = .ok s') ↔
      ∃ result, Terms.initialise crypto d.termsRegistry s.terms vault.reads
        s.factory.vaultForAttestation tx anchor = .ok result := by
    simp only [exec, Call.perform, System.withTerms_ok_iff, map_ok_iff, hreads]
    constructor
    · rintro ⟨_, _, ⟨result, hresult, -⟩, -⟩
      exact ⟨result, hresult⟩
    · rintro ⟨result, hresult⟩
      exact ⟨_, _, ⟨result, hresult, rfl⟩, rfl⟩
  rw [hexec, initialise_vault_ok_iff hanchor hadmitted hunknown, hreads,
    hreach.lineage.recorded, List.mem_map]
  constructor
  · intro hnew version hmem hsame
    exact hnew ⟨version, hmem, (Option.some.inj hsame).symm⟩
  · rintro hnew ⟨version, hmem, hsame⟩
    exact hnew version hmem (congrArg some hsame.symm)

namespace Sample

/-- The second receivable's anchor, from the second issuer. -/
def anchorB : Address := vaultAddress 2 issuerB 12 22 1

/-- Two issuers with an anchor each; the second one has its terms recorded. -/
def besideB : List (Event Unit) :=
  preparation 1 ++ [creation 1 issuerA 11 21 1, creation 2 issuerB 12 22 1,
    initialisation anchorB]

/-- The second issuer amends its terms to those the first anchor shows. -/
def overtaken : List (Event Unit) :=
  besideB ++ [amending issuerB (secondVersion anchorB issuerB 12 21 22)]

/-- The digest of the first anchor's attestation. -/
def digestA : Bytes32 :=
  (attestation 1 issuerA 11 21 1).digest Match.Sample.crypto (Match.Sample.tx buyer 5)
    deployment.factory

end Sample

/-- An issuer that puts another's initial terms on an anchor of its own keeps the
other anchor out. -/
theorem initialise_not_always : ¬ ∀ (events : List (Event Unit)) (s : System Unit) (tx : Tx)
    (anchor : Address) (digest asset terms : Bytes32),
    Reaches Match.Sample.crypto Sample.env Sample.deployment events s →
    s.factory.vaultForAttestation digest = anchor → anchor ≠ 0 →
    (s.terms.anchorTerms (Terms.anchorIdOf Match.Sample.crypto Sample.deployment.termsRegistry tx
      anchor)).initialised = false →
    (s.reads Sample.env anchor).assetCommitment = some asset →
    (s.reads Sample.env anchor).initialTermsCommitment = some terms →
    asset ≠ 0 → terms ≠ 0 → asset ≠ terms →
    ∃ s', exec Match.Sample.crypto Sample.env Sample.deployment s
      (.call tx (.initialise anchor)) = .ok s' := by
  intro hclaim
  have hcommits : (Sample.outcome Sample.overtaken).toOption.any (fun s =>
      decide (s.factory.vaultForAttestation Sample.digestA = Sample.anchorA 1 ∧
        Sample.anchorA 1 ≠ 0 ∧
        (s.terms.anchorTerms (Terms.anchorIdOf Match.Sample.crypto
          Sample.deployment.termsRegistry (Match.Sample.tx 0x400 8)
          (Sample.anchorA 1))).initialised = false ∧
        (s.reads Sample.env (Sample.anchorA 1)).assetCommitment = some 11 ∧
        (s.reads Sample.env (Sample.anchorA 1)).initialTermsCommitment = some 21 ∧
        (exec Match.Sample.crypto Sample.env Sample.deployment s
          (.call (Match.Sample.tx 0x400 8) (.initialise (Sample.anchorA 1)))).toBool = false)) =
      true := by decide +kernel
  obtain ⟨s, hreach, htest⟩ := Sample.reaches _ hcommits
  obtain ⟨hadmitted, hanchor, hunknown, hasset, hterms, hrefused⟩ := of_decide_eq_true htest
  have haccepted := hclaim _ s _ _ _ _ _ hreach hadmitted hanchor hunknown hasset hterms
    (by decide) (by decide) (by decide)
  rw [← toBool_eq_true_iff, hrefused] at haccepted
  exact nomatch haccepted

/-- The first anchor is not kept out by the second one's own terms. -/
theorem initialise_succeeds_beside : ∃ s, Reaches Match.Sample.crypto Sample.env
    Sample.deployment Sample.besideB s ∧
    ((∃ s', exec Match.Sample.crypto Sample.env Sample.deployment s
      (.call (Match.Sample.tx 0x400 8) (.initialise (Sample.anchorA 1))) = .ok s') ↔
      ∀ version ∈ s.terms.appended,
        (s.reads Sample.env (Sample.anchorA 1)).initialTermsCommitment ≠
          some version.termsCommitment) := by
  have hcommits : (Sample.outcome Sample.besideB).toOption.any (fun s =>
      decide (s.factory.vaultForAttestation Sample.digestA = Sample.anchorA 1 ∧
        Sample.anchorA 1 ≠ 0 ∧
        (s.terms.anchorTerms (Terms.anchorIdOf Match.Sample.crypto
          Sample.deployment.termsRegistry (Match.Sample.tx 0x400 8)
          (Sample.anchorA 1))).initialised = false)) = true := by decide +kernel
  obtain ⟨s, hreach, htest⟩ := Sample.reaches _ hcommits
  obtain ⟨hadmitted, hanchor, hunknown⟩ := of_decide_eq_true htest
  exact ⟨s, hreach, initialise_succeeds_iff hreach hadmitted hanchor hunknown⟩

/-! ## Amending terms -/

/-- An event takes an issuer's minimum epoch off 1: it registers the issuer from a
later epoch, or advances it. -/
def Event.LeavesFirstEpoch (crypto : Crypto) (issuerKeyId : Bytes32) : Event W → Prop
  | .call _ (.registerIssuer signer fromEpoch) =>
      issuerKeyIdFor crypto signer = issuerKeyId ∧ fromEpoch ≠ 1
  | .call _ (.advanceEpoch keyId _) => keyId = issuerKeyId
  | _ => False

/-- **Step.** An event registers an issuer, advances one, or leaves the registration and
the minimum epoch of every issuer alone. -/
theorem exec_epochs {e : Event W} (h : exec crypto env d s e = .ok s') :
    ((∀ keyId, (s'.issuers.issuers keyId).registered = (s.issuers.issuers keyId).registered ∧
        (s'.issuers.issuers keyId).minEpoch = (s.issuers.issuers keyId).minEpoch) ∧
        ∀ keyId, ¬ e.LeavesFirstEpoch crypto keyId) ∨
      (∃ tx signer fromEpoch, e = .call tx (.registerIssuer signer fromEpoch) ∧ fromEpoch ≠ 0 ∧
        (s.issuers.issuers (issuerKeyIdFor crypto signer)).registered = false ∧
        s'.issuers.issuers = update s.issuers.issuers
          (issuerKeyIdFor crypto signer) ⟨signer, fromEpoch, 0, true⟩) ∨
      ∃ tx keyId epoch, e = .call tx (.advanceEpoch keyId epoch) ∧
        (s.issuers.issuers keyId).registered = true ∧
        (s.issuers.issuers keyId).minEpoch < epoch ∧
        s'.issuers.issuers = update s.issuers.issuers keyId
          { s.issuers.issuers keyId with minEpoch := epoch } := by
  cases e with
  | outside world =>
      obtain rfl := pure_ok_iff.mp h
      exact .inl ⟨fun _ => ⟨rfl, rfl⟩, fun _ => id⟩
  | call tx call =>
      cases call with
      | registerIssuer signer fromEpoch =>
          obtain ⟨_, hcall, rfl⟩ := System.withIssuers_ok_iff.mp h
          simp only [IssuerRegistry.registerIssuer, bind_ok_iff, revertIf_ok_iff, pure_ok_iff,
            not_or, Bool.not_eq_true] at hcall
          obtain ⟨-, -, -, ⟨-, hepoch⟩, -, hnew, rfl⟩ := hcall
          exact .inr (.inl ⟨tx, signer, fromEpoch, rfl, hepoch, hnew, rfl⟩)
      | advanceEpoch keyId epoch =>
          obtain ⟨_, hcall, rfl⟩ := System.withIssuers_ok_iff.mp h
          simp only [IssuerRegistry.advanceEpoch, bind_ok_iff, revertIf_ok_iff, pure_ok_iff,
            not_or, Bool.not_eq_false, BitVec.not_le] at hcall
          obtain ⟨-, -, -, ⟨hregistered, -⟩, -, hlater, rfl⟩ := hcall
          exact .inr (.inr ⟨tx, keyId, epoch, rfl, hregistered, hlater, rfl⟩)
      | revokeIssuer revoked =>
          obtain ⟨_, hcall, rfl⟩ := System.withIssuers_ok_iff.mp h
          simp only [IssuerRegistry.revokeIssuer, bind_ok_iff, pure_ok_iff] at hcall
          obtain ⟨-, -, -, -, -, -, rfl⟩ := hcall
          refine .inl ⟨?_, fun _ => id⟩
          intro keyId
          by_cases hsame : keyId = revoked
          · subst hsame
            simp
          · simp [hsame]
      | transferIssuerRegistry =>
          obtain ⟨_, hcall, rfl⟩ := System.withIssuers_ok_iff.mp h
          simp only [IssuerRegistry.transferOwnership, bind_ok_iff, pure_ok_iff] at hcall
          obtain ⟨-, -, -, -, rfl⟩ := hcall
          exact .inl ⟨fun _ => ⟨rfl, rfl⟩, fun _ => id⟩
      | renounceIssuerRegistry =>
          obtain ⟨_, hcall, rfl⟩ := System.withIssuers_ok_iff.mp h
          simp only [IssuerRegistry.renounceOwnership, bind_ok_iff, pure_ok_iff] at hcall
          obtain ⟨-, -, rfl⟩ := hcall
          exact .inl ⟨fun _ => ⟨rfl, rfl⟩, fun _ => id⟩
      | setFacility | setCvaAdapter | setSettlementToken | transferFactory | renounceFactory =>
          obtain ⟨_, -, rfl⟩ := System.withFactory_ok_iff.mp h
          exact .inl ⟨fun _ => ⟨rfl, rfl⟩, fun _ => id⟩
      | createIdentityAnchoredVault =>
          obtain ⟨_, _, _, -, rfl⟩ := System.withVault_ok_iff.mp h
          exact .inl ⟨fun _ => ⟨rfl, rfl⟩, fun _ => id⟩
      | initialise | appendAmendment =>
          obtain ⟨_, -, rfl⟩ := System.withTerms_ok_iff.mp h
          exact .inl ⟨fun _ => ⟨rfl, rfl⟩, fun _ => id⟩
      | markCandidateSession | precommitExactSession =>
          obtain ⟨_, -, rfl⟩ := System.withSessions_ok_iff.mp h
          exact .inl ⟨fun _ => ⟨rfl, rfl⟩, fun _ => id⟩

/-- The minimum epoch of an issuer, told from the run. -/
structure EpochsTold (crypto : Crypto) (events : List (Event W)) (issuers : IssuerState)
    (keyId : Bytes32) : Prop where
  unregistered : (issuers.issuers keyId).registered = false →
    ∀ e ∈ events, ¬ e.LeavesFirstEpoch crypto keyId
  positive : (issuers.issuers keyId).registered = true → (issuers.issuers keyId).minEpoch ≠ 0
  first : (issuers.issuers keyId).registered = true →
    ((issuers.issuers keyId).minEpoch = 1 ↔ ∀ e ∈ events, ¬ e.LeavesFirstEpoch crypto keyId)

/-- An event that does not concern the issuer. -/
theorem EpochsTold.snoc {issuers issuers' : IssuerState} {keyId : Bytes32} {e : Event W}
    (h : EpochsTold crypto events issuers keyId)
    (hregistered : (issuers'.issuers keyId).registered = (issuers.issuers keyId).registered)
    (hepoch : (issuers'.issuers keyId).minEpoch = (issuers.issuers keyId).minEpoch)
    (hquiet : ¬ e.LeavesFirstEpoch crypto keyId) :
    EpochsTold crypto (events ++ [e]) issuers' keyId := by
  have hextend : (∀ e' ∈ events ++ [e], ¬ e'.LeavesFirstEpoch crypto keyId) ↔
      ∀ e' ∈ events, ¬ e'.LeavesFirstEpoch crypto keyId := by
    simp [or_imp, forall_and, hquiet]
  constructor
  case unregistered =>
    rw [hregistered, hextend]
    exact h.unregistered
  case positive =>
    rw [hregistered, hepoch]
    exact h.positive
  case first =>
    rw [hregistered, hepoch, hextend]
    exact h.first

/-- **History.** An issuer is at epoch 1 as long as it was registered from there and never
advanced. -/
theorem Reaches.epochsTold (h : Reaches crypto env d events s) :
    ∀ keyId, EpochsTold crypto events s.issuers keyId := by
  apply h.history
  case hdeployed =>
    intro s hdeployed keyId
    obtain ⟨owner, hissuers⟩ := hdeployed.issuers
    rw [hissuers]
    constructor
    case unregistered => exact fun _ e hmem => nomatch hmem
    case positive => exact fun hregistered => nomatch hregistered
    case first => exact fun hregistered => nomatch hregistered
  case hstep =>
    intro before e s s' hreach htold hexec keyId
    rcases exec_epochs hexec with ⟨hsame, hquiet⟩ |
      ⟨tx, signer, fromEpoch, rfl, hpositive, hnew, hafter⟩ |
      ⟨tx, advanced, epoch, rfl, hregistered, hlater, hafter⟩
    · exact (htold keyId).snoc (hsame keyId).1 (hsame keyId).2 (hquiet keyId)
    · by_cases hself : keyId = issuerKeyIdFor crypto signer
      · subst hself
        have hbefore := (htold _).unregistered hnew
        have hrecord : s'.issuers.issuers (issuerKeyIdFor crypto signer) =
            ⟨signer, fromEpoch, 0, true⟩ := by rw [hafter, update_self]
        constructor
        case unregistered =>
          intro hunregistered
          rw [hrecord] at hunregistered
          exact nomatch hunregistered
        case positive =>
          intro _
          rw [hrecord]
          exact hpositive
        case first =>
          intro _
          rw [hrecord]
          constructor
          · intro hone e hmem hleaves
            rcases List.mem_append.mp hmem with hmem | hmem
            · exact hbefore e hmem hleaves
            · obtain rfl := List.mem_singleton.mp hmem
              exact hleaves.2 hone
          · intro hquiet
            by_contra hne
            exact hquiet _ (List.mem_append_right _ List.mem_cons_self) ⟨rfl, hne⟩
      · apply (htold keyId).snoc
        case hregistered => rw [hafter, update_of_ne hself]
        case hepoch => rw [hafter, update_of_ne hself]
        case hquiet =>
          rintro ⟨hsame, -⟩
          exact hself hsame.symm
    · by_cases hself : keyId = advanced
      · subst hself
        have hrecord : s'.issuers.issuers keyId =
            { s.issuers.issuers keyId with minEpoch := epoch } := by
          rw [hafter, update_self]
        have hold := (htold keyId).positive hregistered
        constructor
        case unregistered =>
          intro hunregistered
          rw [hrecord, hregistered] at hunregistered
          exact nomatch hunregistered
        case positive =>
          intro _
          rw [hrecord]
          rintro rfl
          exact absurd hlater (by simp)
        case first =>
          intro _
          rw [hrecord]
          constructor
          · rintro rfl
            have hzero : (s.issuers.issuers keyId).minEpoch = 0 := by
              have hone : (s.issuers.issuers keyId).minEpoch.toNat < 1 := hlater
              exact BitVec.eq_of_toNat_eq (by simpa using hone)
            exact absurd hzero hold
          · intro hquiet
            exact absurd rfl (hquiet _ (List.mem_append_right _ List.mem_cons_self))
      · apply (htold keyId).snoc
        case hregistered => rw [hafter, update_of_ne hself]
        case hepoch => rw [hafter, update_of_ne hself]
        case hquiet =>
          intro hsame
          exact hself hsame.symm

/-- **An issuer may amend exactly while it is at its first epoch.** In every reachable
system, an amendment to the next version, fresh and in scope, that the live signer of
the anchor's issuer signed, is accepted if and only if the issuer was registered from
epoch 1 and was never advanced. -/
theorem amendment_accepted_iff {amendment : TermsAmendment} {signature : Bytes}
    (hreach : Reaches crypto env d events s) (hamends : Amends s.terms amendment)
    (hscope : InScope d.termsRegistry tx amendment)
    (hregistered : (s.issuers.issuers amendment.issuerKeyId).registered = true)
    (hunrevoked : (s.issuers.issuers amendment.issuerKeyId).revokedAt = 0)
    (hsigned : crypto.recoverStrict (Terms.digest crypto d.termsRegistry tx amendment) signature =
      some (s.issuers.issuers amendment.issuerKeyId).signer) :
    (∃ s', exec crypto env d s (.call tx (.appendAmendment amendment signature)) = .ok s') ↔
      ∀ e ∈ events, ¬ e.LeavesFirstEpoch crypto amendment.issuerKeyId := by
  have htold := hreach.epochsTold amendment.issuerKeyId
  rw [← htold.first hregistered]
  simp only [exec, Call.perform, System.withTerms_ok_iff, appendAmendment_ok_iff,
    requireAuthorized_ok_iff]
  constructor
  · rintro ⟨_, _, ⟨-, -, ⟨_, -, -, -, hepoch⟩, -⟩, -⟩
    have hpositive := htold.positive hregistered
    have hle : (s.issuers.issuers amendment.issuerKeyId).minEpoch.toNat ≤ 1 := hepoch
    have hne : (s.issuers.issuers amendment.issuerKeyId).minEpoch.toNat ≠ 0 := fun hzero =>
      hpositive (BitVec.eq_of_toNat_eq hzero)
    apply BitVec.eq_of_toNat_eq
    show (s.issuers.issuers amendment.issuerKeyId).minEpoch.toNat = 1
    omega
  · intro hfirst
    refine ⟨_, _, ⟨hamends, hscope, ⟨_, hsigned, ⟨hregistered, rfl⟩, hunrevoked, ?_⟩, rfl⟩, rfl⟩
    rw [hfirst]
    exact BitVec.le_refl 1

namespace Sample

/-- The first anchor has its terms recorded. -/
def recordedA : List (Event Unit) :=
  preparation 1 ++ [creation 1 issuerA 11 21 1, initialisation (anchorA 1)]

/-- Then the registry advances its issuer. -/
def advancedA : List (Event Unit) :=
  recordedA ++ [.call (Match.Sample.tx 0x701 6)
    (.advanceEpoch (issuerKeyIdFor Match.Sample.crypto issuerA) 2)]

/-- The amendment the issuer of the first anchor signs. -/
def amendmentA : TermsAmendment := secondVersion (anchorA 1) issuerA 11 31 21

/-- Its signature. -/
def signatureA : Bytes :=
  Match.Sample.sign issuerA (Terms.digest Match.Sample.crypto deployment.termsRegistry
    (Match.Sample.tx 0x400 7) amendmentA)

/-- That the amendment is the next version of its anchor, in scope, and signed by the
live signer of its issuer, can be evaluated. -/
def amendableBy (s : System Unit) : Bool :=
  let record := s.terms.anchorTerms amendmentA.anchorId
  let issuer := s.issuers.issuers amendmentA.issuerKeyId
  decide (record.initialised = true ∧ amendmentA.assetCommitment = record.assetCommitment ∧
    amendmentA.issuerKeyId = record.issuerKeyId ∧
    amendmentA.termsVersion.toNat = record.currentVersion.toNat + 1 ∧
    amendmentA.termsSchemeVersion = record.termsSchemeVersion ∧
    amendmentA.supersedesTermsCommitment = record.currentTermsCommitment ∧
    ¬ s.terms.recordedTerms amendmentA.termsCommitment = true ∧
    ¬ s.terms.consumedNonce amendmentA.issuerKeyId amendmentA.nonce = true ∧
    issuer.registered = true ∧ issuer.revokedAt = 0 ∧
    Match.Sample.crypto.recoverStrict (Terms.digest Match.Sample.crypto deployment.termsRegistry
      (Match.Sample.tx 0x400 7) amendmentA) signatureA = some issuer.signer)

/-- That test is what acceptance asks for, the epoch apart. -/
theorem amendable {s : System Unit} (h : amendableBy s = true) :
    Amends s.terms amendmentA ∧
      InScope deployment.termsRegistry (Match.Sample.tx 0x400 7) amendmentA ∧
      (s.issuers.issuers amendmentA.issuerKeyId).registered = true ∧
      (s.issuers.issuers amendmentA.issuerKeyId).revokedAt = 0 ∧
      Match.Sample.crypto.recoverStrict (Terms.digest Match.Sample.crypto deployment.termsRegistry
        (Match.Sample.tx 0x400 7) amendmentA) signatureA =
          some (s.issuers.issuers amendmentA.issuerKeyId).signer := by
  obtain ⟨hknown, hasset, hissuer, hversion, hscheme, hsupersedes, hunrecorded, hunused, hlive⟩ :=
    of_decide_eq_true h
  exact ⟨⟨hknown, hasset, hissuer, hversion, hscheme, hsupersedes, by decide, by decide,
    hunrecorded, hunused⟩, ⟨rfl, rfl, by decide⟩, hlive⟩

end Sample

/-- Raising the issuer's epoch freezes the terms of its anchor. -/
theorem amendment_not_always : ¬ ∀ (events : List (Event Unit)) (s : System Unit) (tx : Tx)
    (amendment : TermsAmendment) (signature : Bytes),
    Reaches Match.Sample.crypto Sample.env Sample.deployment events s →
    Amends s.terms amendment → InScope Sample.deployment.termsRegistry tx amendment →
    (s.issuers.issuers amendment.issuerKeyId).registered = true →
    (s.issuers.issuers amendment.issuerKeyId).revokedAt = 0 →
    Match.Sample.crypto.recoverStrict (Terms.digest Match.Sample.crypto
      Sample.deployment.termsRegistry tx amendment) signature =
        some (s.issuers.issuers amendment.issuerKeyId).signer →
    ∃ s', exec Match.Sample.crypto Sample.env Sample.deployment s
      (.call tx (.appendAmendment amendment signature)) = .ok s' := by
  intro hclaim
  have hcommits : (Sample.outcome Sample.advancedA).toOption.any (fun s =>
      Sample.amendableBy s && decide ((exec Match.Sample.crypto Sample.env Sample.deployment s
        (.call (Match.Sample.tx 0x400 7)
          (.appendAmendment Sample.amendmentA Sample.signatureA))).toBool = false)) = true := by
    decide +kernel
  obtain ⟨s, hreach, htest⟩ := Sample.reaches _ hcommits
  obtain ⟨hamendable, hrefused⟩ := Bool.and_eq_true_iff.mp htest
  obtain ⟨hamends, hscope, hregistered, hunrevoked, hsigned⟩ := Sample.amendable hamendable
  have haccepted := hclaim _ s _ _ _ hreach hamends hscope hregistered hunrevoked hsigned
  rw [← toBool_eq_true_iff, of_decide_eq_true hrefused] at haccepted
  exact nomatch haccepted

/-- Before that, the same amendment is accepted. -/
theorem amendment_accepted_before : ∃ s, Reaches Match.Sample.crypto Sample.env
    Sample.deployment Sample.recordedA s ∧
    ((∃ s', exec Match.Sample.crypto Sample.env Sample.deployment s
      (.call (Match.Sample.tx 0x400 7)
        (.appendAmendment Sample.amendmentA Sample.signatureA)) = .ok s') ↔
      ∀ e ∈ Sample.recordedA,
        ¬ e.LeavesFirstEpoch Match.Sample.crypto Sample.amendmentA.issuerKeyId) := by
  have hcommits : (Sample.outcome Sample.recordedA).toOption.any Sample.amendableBy = true := by
    decide +kernel
  obtain ⟨s, hreach, htest⟩ := Sample.reaches _ hcommits
  obtain ⟨hamends, hscope, hregistered, hunrevoked, hsigned⟩ := Sample.amendable htest
  exact ⟨s, hreach, amendment_accepted_iff hreach hamends hscope hregistered hunrevoked hsigned⟩

end Mordant.Identity
