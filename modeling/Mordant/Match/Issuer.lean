/-
# Who signed for the issuer

Opening a session recovers the address that made its issuer signature and
returns it for a later contract to judge.  The binder hands it to nobody.  The
issuer registry keeps every key bound to the signer it was derived from, so a
bind carries an authorized issuer exactly when its intent names a live key of
the address that signed.
-/

import Mordant.Match.Opening

namespace Mordant.Match

open Evm Foundation
open IssuerRegistry (issuerKeyIdFor requireAuthorized registerIssuer revokeIssuer advanceEpoch
  transferOwnership renounceOwnership construct)

section

variable {W : Type}

/-- The issuer signature of the session was made by the signer the registry
records for the key the intent names, and that issuer is live. -/
def IssuerPreauthorized (crypto : Crypto) (d : Deployment) (s : System W) (tx : Tx)
    (r : Binder.BindRequest) : Prop :=
  ∃ signer, crypto.recoverStrict (Governance.intentDigest crypto d.governance tx r.reveal.intent)
      r.reveal.signatures.issuer = some signer ∧
    requireAuthorized s.issuers r.reveal.intent.issuerKeyId signer
      r.reveal.intent.identityEpoch = .ok ()

/-- The key the intent names is registered and live, and it is derived from the
address the issuer signature recovers to. -/
structure NamesLiveIssuer (crypto : Crypto) (d : Deployment) (s : System W) (tx : Tx)
    (r : Binder.BindRequest) : Prop where
  registered : (s.issuers.issuers r.reveal.intent.issuerKeyId).registered = true
  unrevoked : (s.issuers.issuers r.reveal.intent.issuerKeyId).revokedAt = 0
  epoch : (s.issuers.issuers r.reveal.intent.issuerKeyId).minEpoch ≤ r.reveal.intent.identityEpoch
  signed : ∀ signer, crypto.recoverStrict
      (Governance.intentDigest crypto d.governance tx r.reveal.intent)
      r.reveal.signatures.issuer = some signer →
    r.reveal.intent.issuerKeyId = issuerKeyIdFor crypto signer

/-- Every registered key id is derived from its own signer. -/
def IssuersBound (crypto : Crypto) (r : IssuerState) : Prop :=
  ∀ keyId, (r.issuers keyId).registered = true →
    keyId = issuerKeyIdFor crypto (r.issuers keyId).signer

variable {crypto : Crypto} {env : Externals W} {d : Deployment} {s s' : System W} {tx : Tx}
  {r r' : IssuerState} {keyId : Bytes32} {signer : Address} {epoch : BitVec 32}

theorem requireAuthorized_ok_iff {u : Unit} :
    requireAuthorized r keyId signer epoch = .ok u ↔
      ((r.issuers keyId).registered = true ∧ (r.issuers keyId).signer = signer) ∧
        (r.issuers keyId).revokedAt = 0 ∧ (r.issuers keyId).minEpoch ≤ epoch := by
  simp only [requireAuthorized, revertIf_bind_ok_iff, revertIf_ok_iff, not_or,
    not_not, Bool.not_eq_false, BitVec.not_lt]

/-- Rewriting one record keeps the binding when the new record is bound. -/
theorem IssuersBound.update (h : IssuersBound crypto r) {record : Issuer}
    (hrecord : keyId = issuerKeyIdFor crypto record.signer) :
    IssuersBound crypto { r with issuers := Function.update r.issuers keyId record } := by
  intro other hother
  by_cases hsame : other = keyId
  · subst hsame
    simp only [Function.update_self]
    exact hrecord
  · simp only [Function.update_of_ne hsame] at hother ⊢
    exact h other hother

/-- A committed call of the issuer registry keeps keys bound to signers. -/
theorem registerIssuer_bound {fromEpoch : BitVec 32} (hbound : IssuersBound crypto r)
    (h : registerIssuer crypto r tx signer fromEpoch = .ok r') :
    IssuersBound crypto r' := by
  simp only [registerIssuer, bind_ok_iff, pure_ok_iff] at h
  obtain ⟨-, -, -, -, -, -, rfl⟩ := h
  exact hbound.update rfl

theorem revokeIssuer_bound (hbound : IssuersBound crypto r)
    (h : revokeIssuer r tx keyId = .ok r') :
    IssuersBound crypto r' := by
  simp only [revokeIssuer, bind_ok_iff, revertIf_ok_iff, pure_ok_iff,
    Bool.not_eq_false] at h
  obtain ⟨-, -, -, hregistered, -, -, rfl⟩ := h
  exact hbound.update (hbound keyId hregistered)

theorem advanceEpoch_bound (hbound : IssuersBound crypto r)
    (h : advanceEpoch r tx keyId epoch = .ok r') : IssuersBound crypto r' := by
  simp only [advanceEpoch, bind_ok_iff, revertIf_ok_iff, pure_ok_iff, not_or,
    Bool.not_eq_false] at h
  obtain ⟨-, -, -, ⟨hregistered, -⟩, -, -, rfl⟩ := h
  exact hbound.update (hbound keyId hregistered)

theorem transferOwnership_bound {newOwner : Address} (hbound : IssuersBound crypto r)
    (h : transferOwnership r tx newOwner = .ok r') : IssuersBound crypto r' := by
  simp only [transferOwnership, bind_ok_iff, pure_ok_iff] at h
  obtain ⟨-, -, -, -, rfl⟩ := h
  exact hbound

theorem renounceOwnership_bound (hbound : IssuersBound crypto r)
    (h : renounceOwnership r tx = .ok r') : IssuersBound crypto r' := by
  simp only [renounceOwnership, bind_ok_iff, pure_ok_iff] at h
  obtain ⟨-, -, rfl⟩ := h
  exact hbound

/-- Committing another contract's storage leaves the issuer registry alone. -/
theorem withGovernance_issuers {g : Except MatchError GovernanceState}
    (h : s.withGovernance g = .ok s') : s'.issuers = s.issuers := by
  obtain ⟨-, -, rfl⟩ := map_ok_iff.mp h
  rfl

theorem withSources_issuers {r : Except MatchError SourceState}
    (h : s.withSources r = .ok s') : s'.issuers = s.issuers := by
  obtain ⟨-, -, rfl⟩ := map_ok_iff.mp h
  rfl

theorem withVerifier_issuers {v : Except MatchError VerifierState}
    (h : s.withVerifier v = .ok s') : s'.issuers = s.issuers := by
  obtain ⟨-, -, rfl⟩ := map_ok_iff.mp h
  rfl

theorem bindRecourse_issuers {r : Binder.BindRequest} {commitment : Bytes32}
    (h : Binder.bindRecourse crypto env d s tx r = .ok (commitment, s')) :
    s'.issuers = s.issuers := by
  simp only [Binder.bindRecourse, bind_ok_iff, pure_ok_iff, Prod.mk.injEq] at h
  obtain ⟨-, -, -, -, -, -, -, -, -, -, ⟨commitment, verifier⟩, -, -, -, -, -, -, -, s₂, hopen, -,
    rfl⟩ := h
  simp only [Binder.openRecourse, Binder.resolve, bind_ok_iff, pure_ok_iff] at hopen
  obtain ⟨⟨context, s₃⟩, ⟨_, -, -, -, _, -, _, -, -, rfl⟩, -, -, -, -, _, -, _, -, rfl⟩ := hopen
  rfl

/-- The calls of the issuer registry. -/
def Call.ofIssuerRegistry : Call → Bool
  | .registerIssuer .. | .revokeIssuer .. | .advanceEpoch .. | .transferOwnership ..
  | .renounceOwnership => true
  | _ => false

/-- **Frame.** Only its own calls change the issuer registry. -/
theorem perform_issuers {call : Call} (hother : call.ofIssuerRegistry = false)
    (h : call.perform crypto env d s tx = .ok s') : s'.issuers = s.issuers := by
  cases call with
  | registerIssuer | revokeIssuer | advanceEpoch | transferOwnership | renounceOwnership =>
      exact nomatch hother
  | authorize | retire | emergencyRevoke | setAuthorizedRelayer | setAuthorizedBinder
  | commitSession | resolveSession =>
      exact withGovernance_issuers h
  | setAuthorizedSubmitter | setAuthorizedRevealer | commitSource | revealSource =>
      exact withSources_issuers h
  | setPolicyVersion | acceptMatch => exact withVerifier_issuers h
  | bindRecourse request =>
      obtain ⟨⟨commitment, t⟩, hbind, rfl⟩ := map_ok_iff.mp h
      exact bindRecourse_issuers hbind

/-- **Step.** Every call keeps keys bound to signers. -/
theorem perform_bound {call : Call} (hbound : IssuersBound crypto s.issuers)
    (h : call.perform crypto env d s tx = .ok s') : IssuersBound crypto s'.issuers := by
  cases hcall : call.ofIssuerRegistry with
  | false =>
      rw [perform_issuers hcall h]
      exact hbound
  | true =>
      cases call with
      | registerIssuer signer fromEpoch =>
          obtain ⟨r, hperform, rfl⟩ := map_ok_iff.mp h
          exact registerIssuer_bound hbound hperform
      | revokeIssuer keyId =>
          obtain ⟨r, hperform, rfl⟩ := map_ok_iff.mp h
          exact revokeIssuer_bound hbound hperform
      | advanceEpoch keyId epoch =>
          obtain ⟨r, hperform, rfl⟩ := map_ok_iff.mp h
          exact advanceEpoch_bound hbound hperform
      | transferOwnership newOwner =>
          obtain ⟨r, hperform, rfl⟩ := map_ok_iff.mp h
          exact transferOwnership_bound hbound hperform
      | renounceOwnership =>
          obtain ⟨r, hperform, rfl⟩ := map_ok_iff.mp h
          exact renounceOwnership_bound hbound hperform
      | _ => exact nomatch hcall

theorem exec_bound {event : Event W} (hbound : IssuersBound crypto s.issuers)
    (h : exec crypto env d s event = .ok s') : IssuersBound crypto s'.issuers := by
  cases event with
  | call tx call =>
      obtain ⟨-, -, hperform⟩ := bind_ok_iff.mp h
      exact perform_bound hbound hperform
  | outside world =>
      obtain rfl := pure_ok_iff.mp h
      exact hbound

/-- An event that is not a call of the issuer registry. -/
def Event.leavesIssuers : Event W → Bool
  | .call _ entry => !entry.ofIssuerRegistry
  | .outside _ => true

theorem exec_issuers {event : Event W} (hleaves : event.leavesIssuers = true)
    (h : exec crypto env d s event = .ok s') : s'.issuers = s.issuers := by
  cases event with
  | call tx call =>
      obtain ⟨-, -, hperform⟩ := bind_ok_iff.mp h
      have hother : call.ofIssuerRegistry = false := by simpa [Event.leavesIssuers] using hleaves
      exact perform_issuers hother hperform
  | outside world =>
      obtain rfl := pure_ok_iff.mp h
      rfl

/-- What one registration leaves behind, as long as the registry is not called. -/
theorem Reaches.registered {events : List (Event W)}
    (h : Reaches crypto env d (.call tx (.registerIssuer signer epoch) :: events) s)
    (hleaves : ∀ e ∈ events, e.leavesIssuers = true) :
    s.issuers.issuers (issuerKeyIdFor crypto signer) = ⟨signer, epoch, 0, true⟩ := by
  obtain ⟨genesis, world, s₀, hdeploy, hrun⟩ := h
  obtain ⟨s₁, hexec, hrest⟩ := run_cons_ok_iff.mp hrun
  obtain ⟨-, -, hperform⟩ := bind_ok_iff.mp hexec
  obtain ⟨r, hregister, rfl⟩ := map_ok_iff.mp hperform
  simp only [registerIssuer, bind_ok_iff, pure_ok_iff] at hregister
  obtain ⟨-, -, -, -, -, -, rfl⟩ := hregister
  refine run_invariant (P := fun s =>
    s.issuers.issuers (issuerKeyIdFor crypto signer) = ⟨signer, epoch, 0, true⟩)
    (fun s e s' hleave hs hstep => ?_) hrest hleaves (Function.update_self ..)
  rw [exec_issuers hleave hstep]
  exact hs

/-- No issuer is registered at first. -/
theorem deploy_bound {genesis : Genesis} {world : W}
    (h : deploy crypto d genesis world = .ok s) : IssuersBound crypto s.issuers := by
  simp only [deploy, construct, bind_ok_iff, pure_ok_iff] at h
  obtain ⟨issuers, ⟨-, -, rfl⟩, _, -, _, -, _, -, _, -, rfl⟩ := h
  intro keyId hregistered
  cases hregistered

/-- **Run.** In a reachable system every registered key is bound to its signer. -/
theorem Reaches.issuersBound {events : List (Event W)} (h : Reaches crypto env d events s) :
    IssuersBound crypto s.issuers := by
  obtain ⟨genesis, world, s₀, hdeploy, hrun⟩ := h
  exact run_always (fun _ _ _ => exec_bound) hrun (deploy_bound hdeploy)

/-- The issuer signature of a committed bind recovers to somebody. -/
theorem Binder.Opened.issuer {r : Binder.BindRequest} {context : Binder.OpenContext}
    (h : Binder.Opened crypto env d s tx r context) :
    crypto.recoverStrict (Governance.intentDigest crypto d.governance tx r.reveal.intent)
      r.reveal.signatures.issuer = some context.session.issuerSigner := by
  obtain ⟨governance, hsession⟩ := h.session
  have hissuer := Governance.resolveSession_issuer hsession
  exact hissuer

/-- When keys are bound to signers and no two signers share a key, the named key
decides who may sign for it. -/
theorem IssuersBound.preauthorized_iff {r : Binder.BindRequest} {context : Binder.OpenContext}
    (hbound : IssuersBound crypto s.issuers)
    (hinj : Function.Injective (issuerKeyIdFor crypto))
    (hopened : Binder.Opened crypto env d s tx r context) :
    IssuerPreauthorized crypto d s tx r ↔ NamesLiveIssuer crypto d s tx r := by
  constructor
  · rintro ⟨signer, hrecover, hauthorized⟩
    obtain ⟨⟨hregistered, hsigner⟩, hunrevoked, hepoch⟩ := requireAuthorized_ok_iff.mp hauthorized
    have hkey := hbound _ hregistered
    rw [hsigner] at hkey
    refine ⟨hregistered, hunrevoked, hepoch, ?_⟩
    intro other hother
    rw [hrecover] at hother
    rw [← Option.some.inj hother]
    exact hkey
  · rintro ⟨hregistered, hunrevoked, hepoch, hsigned⟩
    have hkey := hsigned _ hopened.issuer
    have hsigner : (s.issuers.issuers r.reveal.intent.issuerKeyId).signer =
        context.session.issuerSigner := hinj ((hbound _ hregistered).symm.trans hkey)
    exact ⟨_, hopened.issuer,
      requireAuthorized_ok_iff.mpr ⟨⟨hregistered, hsigner⟩, hunrevoked, hepoch⟩⟩

/-- **A bind carries an authorized issuer exactly when its intent names one.** In
every run, for every bind in it, in the system that bind was made in. -/
theorem issuer_preauthorized_iff {events before after : List (Event W)} {t : System W}
    {r : Binder.BindRequest} (hinj : Function.Injective (IssuerRegistry.issuerKeyIdFor crypto))
    (hreach : Reaches crypto env d events t)
    (hsplit : events = before ++ .call tx (.bindRecourse r) :: after) :
    ∃ s result, Reaches crypto env d before s ∧
      Binder.bindRecourse crypto env d s tx r = .ok result ∧
      (IssuerPreauthorized crypto d s tx r ↔ NamesLiveIssuer crypto d s tx r) := by
  obtain ⟨s, result, hbefore, hbind⟩ := hreach.bind hsplit
  obtain ⟨context, hopened⟩ := Binder.bindRecourse_opened hbind
  exact ⟨s, result, hbefore, hbind, hbefore.issuersBound.preauthorized_iff hinj hopened⟩

/-- The sample digest adds the last word of a buffer to a digest of the others. -/
theorem Sample.keccak256_concat (bytes : Bytes) (word : Bytes32) :
    Sample.crypto.keccak256 (bytes ++ wordBytes word) =
      BitVec.ofNat 256 (bytes.foldl
        (fun acc b => (acc * 0x100000001b3 + b.toNat + 1) % 2 ^ 256) 0) + word := by
  have hsplit : (bytes ++ wordBytes word).length - 32 = bytes.length := by
    rw [List.length_append, length_wordBytes, Nat.add_sub_cancel]
  simp only [Sample.crypto, hsplit, List.take_left, List.drop_left, wordOfBytes_wordBytes]

theorem Sample.issuerKeyIdFor_injective :
    Function.Injective (issuerKeyIdFor Sample.crypto) := by
  intro a b heq
  simp only [issuerKeyIdFor, Crypto.hashWords, abiEncode, List.flatMap_cons,
    List.flatMap_nil, List.append_nil, Sample.keccak256_concat] at heq
  exact addressWord_injective ((BitVec.add_right_inj _).mp heq)

/-- Whoever is recovered from a signature made it. -/
theorem Sample.signer_of_recoverStrict {digest digest' : Bytes32} {account : Address}
    (h : Sample.crypto.recoverStrict digest (Sample.sign account digest') = some signer) :
    signer = account := by
  simp only [Crypto.recoverStrict, Sample.sign, Crypto.signatureParts_append] at h
  obtain ⟨-, h⟩ := Option.ite_none_left_eq_some.mp h
  obtain ⟨hne, h⟩ := Option.ite_none_left_eq_some.mp h
  have hsigned : digest' >>> 1 = digest >>> 1 := by
    by_contra hother
    exact hne (if_neg hother)
  rw [← Option.some.inj h]
  exact (if_pos hsigned).trans (setWidth_addressWord account)

/-- The honest story carries the registered issuer. -/
theorem honest_issuer_preauthorized :
    ∃ s,
      Reaches Sample.crypto Sample.env Sample.deployment (Sample.preparation Sample.honest) s ∧
      IssuerPreauthorized Sample.crypto Sample.deployment s (Sample.tx 0x400 7)
        (Sample.request Sample.honest) := by
  obtain ⟨t, hreach⟩ := Sample.honest_reaches
  obtain ⟨s, -, hbefore, -, hiff⟩ :=
    issuer_preauthorized_iff Sample.issuerKeyIdFor_injective hreach rfl
  have hrecord : s.issuers.issuers Sample.issuerKeyId = ⟨Sample.issuer, 1, 0, true⟩ :=
    hbefore.registered (by decide)
  refine ⟨s, hbefore, hiff.mpr ⟨?_, ?_, ?_, ?_⟩⟩
  · exact congrArg Issuer.registered hrecord
  · exact congrArg Issuer.revokedAt hrecord
  · have hepoch : (s.issuers.issuers Sample.issuerKeyId).minEpoch = 1 :=
      congrArg Issuer.minEpoch hrecord
    exact BitVec.le_of_eq hepoch
  · intro signer hsigner
    rw [Sample.signer_of_recoverStrict hsigner]
    rfl

/-- A story whose issuer signature is made by a key nobody registered. -/
def Sample.rogue : Sample.Story := { Sample.honest with issuerSigner := 0x666 }

/-- It is bound nevertheless. -/
theorem rogue_issuer_binds :
    ∃ s result,
      Reaches Sample.crypto Sample.env Sample.deployment (Sample.preparation Sample.rogue) s ∧
      Binder.bindRecourse Sample.crypto Sample.env Sample.deployment s (Sample.tx 0x400 7)
        (Sample.request Sample.rogue) = .ok result ∧
      ¬ IssuerPreauthorized Sample.crypto Sample.deployment s (Sample.tx 0x400 7)
        (Sample.request Sample.rogue) := by
  obtain ⟨t, hreach⟩ := Sample.reaches Sample.rogue (by decide +kernel)
  obtain ⟨s, result, hbefore, hbind⟩ := hreach.bind rfl
  refine ⟨s, result, hbefore, hbind, ?_⟩
  rintro ⟨signer, hrecover, hauthorized⟩
  obtain ⟨⟨hregistered, hsigner⟩, -⟩ := requireAuthorized_ok_iff.mp hauthorized
  have hkey := hbefore.issuersBound _ hregistered
  rw [hsigner] at hkey
  have hissuer : Sample.issuer = signer := Sample.issuerKeyIdFor_injective hkey
  have hrogue : signer = 0x666 := Sample.signer_of_recoverStrict hrecover
  rw [hrogue] at hissuer
  exact absurd hissuer (by decide)

end

end Mordant.Match
