/-
# The signature quorum

What the signature stage accepts: concatenated signatures of at least as many validators
as the quorum asks for, one after the other by address.  The digest they sign tells the
verifier, the chain, every field of the core and the recomputation context, so signers
who sign one statement only have all signed this one; and any quorum that signs is
accepted.
-/

import Mordant.Foundation.Chunks
import Mordant.Match.Transcript
import Mordant.Match.TypedIntent

namespace Mordant.Match

open Evm Foundation

/-! ## The result core as typed data -/

/-- The type the result core is hashed as, flat. -/
def resultCoreType : StructType ResultCore where
  name := "ConfidentialMatchResultV5Core"
  members :=
    [(⟨"uint16", "schemaVersion"⟩, fun core => uintWord core.schemaVersion.toNat),
      (⟨"uint256", "chainId"⟩, (·.chainId)),
      (⟨"address", "verifier"⟩, fun core => addressWord core.verifier),
      (⟨"address", "binder"⟩, fun core => addressWord core.binder),
      (⟨"bytes32", "policyId"⟩, (·.policyId)),
      (⟨"uint32", "policyVersion"⟩, fun core => uintWord core.policyVersion.toNat),
      (⟨"bytes32", "sessionCommitment"⟩, (·.session.sessionCommitment)),
      (⟨"bytes32", "sessionNullifier"⟩, (·.session.sessionNullifier)),
      (⟨"bytes32", "governanceContext"⟩, (·.session.governanceContext)),
      (⟨"bytes32", "sourceRecordCommitmentA"⟩, (·.session.sourceRecordCommitmentA)),
      (⟨"bytes32", "sourceRecordCommitmentB"⟩, (·.session.sourceRecordCommitmentB)),
      (⟨"bytes32", "enrollmentDigestA"⟩, (·.session.enrollmentDigestA)),
      (⟨"bytes32", "enrollmentDigestB"⟩, (·.session.enrollmentDigestB)),
      (⟨"bytes32", "ciphertextDigestA"⟩, (·.evaluation.ciphertextDigestA)),
      (⟨"bytes32", "ciphertextDigestB"⟩, (·.evaluation.ciphertextDigestB)),
      (⟨"bytes32", "inputCommitmentA"⟩, (·.evaluation.inputCommitmentA)),
      (⟨"bytes32", "inputCommitmentB"⟩, (·.evaluation.inputCommitmentB)),
      (⟨"bool", "sameEconomicAsset"⟩, fun core => boolWord core.sameEconomicAsset),
      (⟨"bool", "policyConflict"⟩, fun core => boolWord core.policyConflict),
      (⟨"uint8", "outcome"⟩, fun core => uintWord core.outcome.toNat),
      (⟨"bytes32", "outputCiphertextCommitment"⟩, (·.evaluation.outputCiphertextCommitment)),
      (⟨"bytes32", "circuitHash"⟩, (·.evaluation.circuitHash)),
      (⟨"uint32", "circuitVersion"⟩, fun core => uintWord core.evaluation.circuitVersion.toNat),
      (⟨"uint16", "releaseLayoutVersion"⟩,
        fun core => uintWord core.evaluation.releaseLayoutVersion.toNat),
      (⟨"bytes32", "parameterFingerprint"⟩, (·.evaluation.parameterFingerprint)),
      (⟨"uint32", "evaluationKeyEpoch"⟩,
        fun core => uintWord core.evaluation.evaluationKeyEpoch.toNat),
      (⟨"bytes32", "evaluationKeyDigest"⟩, (·.evaluation.evaluationKeyDigest)),
      (⟨"bytes32", "runtimeFingerprint"⟩, (·.evaluation.runtimeFingerprint)),
      (⟨"bytes32", "providerProofCommitment"⟩, (·.evaluation.providerProofCommitment)),
      (⟨"uint256", "nonce"⟩, (·.nonce)),
      (⟨"uint64", "expiry"⟩, fun core => uintWord core.expiry.toNat)]

namespace ResultCore

theorem typeHash_typed (crypto : Crypto) :
    typeHash crypto = crypto.keccakText resultCoreType.typeText :=
  congrArg crypto.keccakText (by decide +kernel)

/-- The four pieces are one encoding of the flat type. -/
theorem structHash_typed (crypto : Crypto) (core : ResultCore) :
    core.structHash crypto = resultCoreType.hashStruct crypto core := by
  simp only [structHash, ← abiEncode_append, typeHash_typed]
  rfl

theorem boolWord_injective : Function.Injective boolWord := by
  intro a b h
  cases a <;> cases b <;> first | rfl | exact absurd h (by decide)

theorem outcomeWord_injective : Function.Injective fun o : Outcome => uintWord o.toNat := by
  intro a b h
  cases a <;> cases b <;> first | rfl | exact absurd h (by decide)

/-- The words of a core tell the core. -/
theorem words_injective : Function.Injective resultCoreType.words := by
  intro core core' h
  have huint : ∀ {width : ℕ} {x y : BitVec width}, width ≤ 256 →
      uintWord x.toNat = uintWord y.toNat → x = y := fun hwidth heq =>
    uintWord_toNat_injective hwidth heq
  simp only [StructType.words, resultCoreType, List.map_cons, List.map_nil, List.cons.injEq,
    and_true] at h
  obtain ⟨hschema, hchain, hverifier, hbinder, hpolicy, hversion, h₁, h₂, h₃, h₄, h₅, h₆, h₇,
    h₈, h₉, h₁₀, h₁₁, hsame, hconflict, houtcome, h₁₂, h₁₃, hcircuit, hlayout, h₁₄, hepoch, h₁₅,
    h₁₆, h₁₇, hnonce, hexpiry⟩ := h
  obtain ⟨schema, chain, verifier, binder, policy, version, ⟨_, _, _, _, _, _, _⟩,
    ⟨_, _, _, _, _, _, circuit, layout, _, epoch, _, _, _⟩, same, conflict, outcome, nonce,
    expiry⟩ := core
  obtain ⟨schema', chain', verifier', binder', policy', version', ⟨_, _, _, _, _, _, _⟩,
    ⟨_, _, _, _, _, _, circuit', layout', _, epoch', _, _, _⟩, same', conflict', outcome', nonce',
    expiry'⟩ := core'
  simp only at *
  obtain rfl := huint (by decide) hschema
  obtain rfl := addressWord_injective hverifier
  obtain rfl := addressWord_injective hbinder
  obtain rfl := huint (by decide) hversion
  obtain rfl := boolWord_injective hsame
  obtain rfl := boolWord_injective hconflict
  obtain rfl := outcomeWord_injective houtcome
  obtain rfl := huint (by decide) hcircuit
  obtain rfl := huint (by decide) hlayout
  obtain rfl := huint (by decide) hepoch
  obtain rfl := huint (by decide) hexpiry
  subst_vars
  rfl

end ResultCore

namespace Verifier

/-! ## The signature loop -/

section

variable {crypto : Crypto} {v : VerifierState} {digest : Bytes32} {previous : Address}
  {parts : List Bytes}

/-- The signatures recover the signers, one for one. -/
def Recovers (crypto : Crypto) (digest : Bytes32) (parts : List Bytes) (signers : List Address) :
    Prop :=
  List.Forall₂ (fun part signer => crypto.recoverStrict digest part = some signer) parts signers

/-- Every signer has its signature. -/
theorem exists_part {signers : List Address} (h : Recovers crypto digest parts signers)
    {signer : Address} (hsigner : signer ∈ signers) :
    ∃ part ∈ parts, crypto.recoverStrict digest part = some signer := by
  induction h with
  | nil => exact absurd hsigner List.not_mem_nil
  | cons hrecover _ ih =>
      rcases List.mem_cons.mp hsigner with rfl | hsigner
      · exact ⟨_, List.mem_cons_self, hrecover⟩
      · obtain ⟨part, hpart, hrecovers⟩ := ih hsigner
        exact ⟨part, List.mem_cons_of_mem _ hpart, hrecovers⟩

/-- The loop passes when the signatures recover active validators whose addresses
increase from the one before. -/
theorem checkSigners_ok_iff {u : Unit} :
    checkSigners crypto v digest previous parts = .ok u ↔
      ∃ signers, Recovers crypto digest parts signers ∧
        (previous :: signers).Pairwise (· < ·) ∧
        ∀ signer ∈ signers, v.validators signer = true := by
  induction parts generalizing previous with
  | nil =>
      refine iff_of_true rfl ⟨[], List.Forall₂.nil, List.pairwise_singleton _ _, ?_⟩
      exact fun signer h => absurd h List.not_mem_nil
  | cons part parts ih =>
      simp only [checkSigners, bind_ok_iff, require_ok_iff, revertIf_ok_iff, exists_const,
        Bool.not_eq_false, BitVec.not_le, ih]
      constructor
      · rintro ⟨signer, hrecover, habove, hactive, signers, hrest, hsorted, hall⟩
        refine ⟨signer :: signers, List.Forall₂.cons hrecover hrest, ?_, ?_⟩
        · refine List.pairwise_cons.mpr ⟨fun other hother => ?_, hsorted⟩
          rcases List.mem_cons.mp hother with rfl | hother
          · exact habove
          · exact BitVec.lt_trans habove (List.rel_of_pairwise_cons hsorted hother)
        · exact List.forall_mem_cons.mpr ⟨hactive, hall⟩
      · rintro ⟨signers, hrecovers, hsorted, hall⟩
        obtain ⟨signer, rest, hrecover, hrest, rfl⟩ := List.forall₂_cons_left_iff.mp hrecovers
        obtain ⟨hactive, hall⟩ := List.forall_mem_cons.mp hall
        obtain ⟨habove, hsorted⟩ := List.pairwise_cons.mp hsorted
        exact ⟨signer, hrecover, habove signer List.mem_cons_self, hactive, rest, hrest, hsorted,
          hall⟩

/-- What is recovered is from sixty-five bytes. -/
theorem length_of_recoverStrict {part : Bytes} {signer : Address}
    (h : crypto.recoverStrict digest part = some signer) : part.length = 65 := by
  by_contra hne
  simp only [Crypto.recoverStrict, hne, ne_eq, not_false_eq_true, true_or, if_true] at h
  cases h

end

/-! ## The validators -/

section

variable {crypto : Crypto} {self : Address} {validators : List Address} {quorum : ℕ}

/-- The constructor makes active the validators it is given, all different, none of them
active before and none the zero address. -/
theorem addValidators_ok {active active' : Address → Bool}
    (h : addValidators active validators = .ok active') :
    (∀ a, active' a = true ↔ active a = true ∨ a ∈ validators) ∧
      (∀ a ∈ validators, a ≠ 0 ∧ active a = false) ∧ validators.Nodup := by
  induction validators generalizing active with
  | nil =>
      obtain rfl := Except.ok.inj h
      exact ⟨fun a => by simp, fun a ha => absurd ha List.not_mem_nil, List.nodup_nil⟩
  | cons validator rest ih =>
      simp only [addValidators, bind_ok_iff, revertIf_ok_iff, exists_const, not_or,
        Bool.not_eq_true] at h
      obtain ⟨⟨hzero, hnew⟩, hrest⟩ := h
      obtain ⟨hactive, hfresh, hnodup⟩ := ih hrest
      have hother : ∀ a ∈ rest, a ≠ validator := by
        rintro a ha rfl
        have hinactive := (hfresh a ha).2
        rw [Function.update_self] at hinactive
        exact nomatch hinactive
      refine ⟨fun a => ?_, ?_, List.nodup_cons.mpr ⟨fun hmem => hother _ hmem rfl, hnodup⟩⟩
      · rw [hactive, List.mem_cons]
        by_cases hsame : a = validator
        · rw [hsame, Function.update_self]
          exact iff_of_true (Or.inl rfl) (Or.inr (Or.inl rfl))
        · rw [Function.update_of_ne hsame, or_iff_right hsame]
      · refine List.forall_mem_cons.mpr ⟨⟨hzero, hnew⟩, fun a ha => ⟨(hfresh a ha).1, ?_⟩⟩
        rw [← (hfresh a ha).2, Function.update_of_ne (hother a ha)]

end

/-- The calls that change a verifier. -/
inductive VerifierCall
  | setPolicyVersion (policyId : Bytes32) (version : BitVec 32)
  | acceptMatch (g : GovernanceState) (envelope : MatchEnvelope) (attestation : Bytes)

def perform (crypto : Crypto) (self : Address) (v : VerifierState) :
    Tx × VerifierCall → Except MatchError VerifierState
  | (tx, .setPolicyVersion policyId version) => setPolicyVersion v tx policyId version
  | (tx, .acceptMatch g envelope attestation) =>
      Prod.snd <$> acceptMatch crypto self v g tx envelope attestation

/-- The verifier some calls after it was constructed over its validators and quorum. -/
def Lives (crypto : Crypto) (self : Address) (validators : List Address) (quorum : ℕ)
    (v : VerifierState) : Prop :=
  ∃ tx owner governance recomputationQuorum v₀ calls,
    construct crypto self tx owner governance validators quorum recomputationQuorum = .ok v₀ ∧
      run (perform crypto self) v₀ calls = .ok v

/-- What no call changes. -/
structure Governed (validators : List Address) (quorum : ℕ) (v : VerifierState) : Prop where
  quorum_eq : v.quorum = quorum
  quorum_pos : 0 < quorum
  active_iff : ∀ a, v.validators a = true ↔ a ∈ validators
  nonzero : ∀ a ∈ validators, a ≠ 0

section

variable {crypto : Crypto} {self : Address} {validators : List Address} {quorum : ℕ}
  {v v' : VerifierState} {tx : Tx}

theorem Governed.of_construct {owner governance : Address} {recomputationQuorum : BitVec 16}
    (h : construct crypto self tx owner governance validators quorum recomputationQuorum =
      .ok v) : Governed validators quorum v := by
  simp only [construct, bind_ok_iff, revertIf_ok_iff, exists_const, pure_ok_iff, not_or] at h
  obtain ⟨-, ⟨hquorum, -⟩, -, active, hactive, rfl⟩ := h
  obtain ⟨hiff, hfresh, -⟩ := addValidators_ok hactive
  exact
    { quorum_eq := rfl
      quorum_pos := Nat.pos_of_ne_zero hquorum
      active_iff := fun a => by rw [hiff, Bool.false_eq_true, false_or]
      nonzero := fun a ha => (hfresh a ha).1 }

/-- Consuming identities leaves everything else as it is. -/
theorem consume_keeps {core : ResultCore} (h : consume crypto v core = .ok v') :
    v'.quorum = v.quorum ∧ v'.validators = v.validators ∧
      v'.validatorSetId = v.validatorSetId := by
  simp only [consume, bind_ok_iff, revertIf_ok_iff, exists_const, pure_ok_iff] at h
  obtain ⟨-, -, -, -, -, -, rfl⟩ := h
  exact ⟨rfl, rfl, rfl⟩

theorem Governed.consume {core : ResultCore} (hgoverned : Governed validators quorum v)
    (h : consume crypto v core = .ok v') : Governed validators quorum v' := by
  obtain ⟨hquorum, hvalidators, -⟩ := consume_keeps h
  exact
    { quorum_eq := hquorum.trans hgoverned.quorum_eq
      quorum_pos := hgoverned.quorum_pos
      active_iff := fun a => by rw [hvalidators, hgoverned.active_iff]
      nonzero := hgoverned.nonzero }

/-- Accepting a result is consuming its identities, after the checks, and verifying its
attestation over the context of the core. -/
theorem acceptMatch_consumed {g : GovernanceState} {envelope : MatchEnvelope}
    {attestation : Bytes} {result : Bytes32 × VerifierState}
    (h : acceptMatch crypto self v g tx envelope attestation = .ok result) :
    consume crypto v envelope.core = .ok result.2 ∧
      envelope.core.chainId.toNat = tx.chainId ∧
      verifyAttestation crypto self result.2 tx envelope.core
        (recomputationContext crypto envelope.core) attestation = .ok () := by
  obtain ⟨-, v', haccept, rfl⟩ := acceptMatch_ok_iff.mp h
  simp only [acceptCore, bind_ok_iff, pure_ok_iff, exists_unit] at haccept
  obtain ⟨hcheck, v'', hconsume, hverify, rfl⟩ := haccept
  simp only [checkResult, bind_ok_iff, revertIf_ok_iff, exists_const, ne_eq, not_not] at hcheck
  exact ⟨hconsume, hcheck.2.1, hverify⟩

theorem Governed.perform {call : Tx × VerifierCall} (hgoverned : Governed validators quorum v)
    (h : perform crypto self v call = .ok v') : Governed validators quorum v' := by
  obtain ⟨tx, call⟩ := call
  cases call with
  | setPolicyVersion policyId version =>
      simp only [Verifier.perform, setPolicyVersion, bind_ok_iff, revertIf_ok_iff, exists_const,
        pure_ok_iff] at h
      obtain ⟨-, -, rfl⟩ := h
      exact ⟨hgoverned.quorum_eq, hgoverned.quorum_pos, hgoverned.active_iff, hgoverned.nonzero⟩
  | acceptMatch g envelope attestation =>
      obtain ⟨result, haccept, rfl⟩ := map_ok_iff.mp h
      exact hgoverned.consume (acceptMatch_consumed haccept).1

theorem Lives.governed (h : Lives crypto self validators quorum v) :
    Governed validators quorum v := by
  obtain ⟨tx, owner, governance, recomputationQuorum, v₀, calls, hconstruct, hrun⟩ := h
  exact run_always (fun _ _ _ hgoverned hstep => Governed.perform hgoverned hstep) hrun
    (Governed.of_construct hconstruct)

end

/-! ## What the signature stage accepts -/

/-- Concatenated signatures over a digest, of at least `quorum` validators in the order of
their addresses. -/
def IsQuorumAttestation (crypto : Crypto) (validators : List Address) (quorum : ℕ)
    (digest : Bytes32) (attestation : Bytes) : Prop :=
  ∃ parts signers, attestation = parts.flatten ∧ (∀ part ∈ parts, part.length = 65) ∧
    quorum ≤ parts.length ∧ Recovers crypto digest parts signers ∧
    signers.Pairwise (· < ·) ∧ ∀ signer ∈ signers, signer ∈ validators

section

variable {crypto : Crypto} {self : Address} {validators : List Address} {quorum : ℕ}
  {v : VerifierState} {tx : Tx} {core : ResultCore} {context : Bytes32} {attestation : Bytes}

theorem signatures_eq : signatures attestation = chunks 65 attestation := rfl

theorem Governed.verifyAttestation_ok_iff (hgoverned : Governed validators quorum v) :
    verifyAttestation crypto self v tx core context attestation = .ok () ↔
      IsQuorumAttestation crypto validators quorum
        (attestationDigest crypto self tx v.validatorSetId (resultDigest crypto self tx core)
          context) attestation := by
  simp only [verifyAttestation, bind_ok_iff, revertIf_ok_iff, exists_const, not_or, not_not,
    checkSigners_ok_iff, signatures_eq, hgoverned.quorum_eq, Nat.not_lt, hgoverned.active_iff]
  constructor
  · rintro ⟨⟨-, hmultiple⟩, hmany, signers, hrecovers, hsorted, hvalidators⟩
    refine ⟨chunks 65 attestation, signers, (flatten_chunks hmultiple).symm,
      fun part => length_of_mem_chunks, ?_, hrecovers, (List.pairwise_cons.mp hsorted).2,
      hvalidators⟩
    rwa [chunks, List.length_map, List.length_range]
  · rintro ⟨parts, signers, rfl, hparts, hmany, hrecovers, hsorted, hvalidators⟩
    have hlength := length_flatten_of_size hparts
    have hpos := hgoverned.quorum_pos
    rw [chunks_flatten (by decide) hparts, hlength]
    refine ⟨⟨by omega, Nat.mul_mod_right _ _⟩, by omega, signers, hrecovers, ?_, hvalidators⟩
    refine List.pairwise_cons.mpr ⟨fun signer hsigner => ?_, hsorted⟩
    -- addresses are counted from zero, which nobody has
    have hne := hgoverned.nonzero signer (hvalidators signer hsigner)
    exact BitVec.lt_of_le_ne (Nat.zero_le _) hne.symm

/-- Different addresses can be put in increasing order. -/
theorem exists_increasing {signers : List Address} (hnodup : signers.Nodup) :
    ∃ order : List Address, order.Perm signers ∧ order.Pairwise (· < ·) := by
  let le : Address → Address → Bool := fun a b => decide (a ≤ b)
  have htrans : ∀ a b c, le a b = true → le b c = true → le a c = true := by
    intro a b c hab hbc
    exact decide_eq_true (BitVec.le_trans (of_decide_eq_true hab) (of_decide_eq_true hbc))
  have htotal : ∀ a b, (le a b || le b a) = true := by
    intro a b
    rw [Bool.or_eq_true, decide_eq_true_eq, decide_eq_true_eq]
    exact BitVec.le_total a b
  have hperm := List.mergeSort_perm signers le
  have hsorted := List.pairwise_mergeSort htrans htotal signers
  refine ⟨signers.mergeSort le, hperm, (hsorted.and (hperm.nodup_iff.mpr hnodup)).imp ?_⟩
  exact fun ⟨hle, hne⟩ => BitVec.lt_of_le_ne (of_decide_eq_true hle) hne

/-- Signatures of a quorum, put in order, are accepted. -/
theorem Governed.exists_attestation (hgoverned : Governed validators quorum v)
    {signers : List Address} (hnodup : signers.Nodup) (hsub : signers ⊆ validators)
    (hmany : quorum ≤ signers.length) {sign : Address → Bytes}
    (hsign : ∀ signer ∈ signers, crypto.recoverStrict
      (attestationDigest crypto self tx v.validatorSetId (resultDigest crypto self tx core)
        context) (sign signer) = some signer) :
    ∃ order : List Address, order.Perm signers ∧
      verifyAttestation crypto self v tx core context (order.map sign).flatten = .ok () := by
  obtain ⟨order, hperm, hincreasing⟩ := exists_increasing hnodup
  have hmem : ∀ signer ∈ order, signer ∈ signers := fun signer => hperm.mem_iff.mp
  refine ⟨order, hperm, hgoverned.verifyAttestation_ok_iff.mpr
    ⟨order.map sign, order, rfl, ?_, ?_, ?_, hincreasing, ?_⟩⟩
  · rw [List.forall_mem_map]
    exact fun signer hsigner => length_of_recoverStrict (hsign signer (hmem signer hsigner))
  · rwa [List.length_map, hperm.length_eq]
  · rw [Recovers, List.forall₂_map_left_iff, List.forall₂_same]
    exact fun signer hsigner => hsign signer (hmem signer hsigner)
  · exact fun signer hsigner => hsub (hmem signer hsigner)

end

/-! ## What the digest says -/

/-- What a validator attests. -/
structure AttestedStatement where
  verifier : Address
  chainId : BitVec 256
  validatorSetId : Bytes32
  core : ResultCore
  context : Bytes32

section

variable (crypto : Crypto)

/-- The text of a domain separator. -/
def domainText (verifier : Address) (chainId : ℕ) : Bytes :=
  abiEncode [crypto.keccakText
      "EIP712Domain(string name,string version,uint256 chainId,address verifyingContract)",
    crypto.keccakText "Mordant Confidential Match", crypto.keccakText "5", uintWord chainId,
    addressWord verifier]

/-- A block of the chain of the statement. -/
def AttestedStatement.tx (statement : AttestedStatement) : Tx :=
  ⟨⟨0, 0, 0⟩, statement.chainId.toNat⟩

/-- The digest that attests the statement. -/
def AttestedStatement.digest (statement : AttestedStatement) : Bytes32 :=
  attestationDigest crypto statement.verifier statement.tx statement.validatorSetId
    (resultDigest crypto statement.verifier statement.tx statement.core) statement.context

/-- The text of the attestation's struct. -/
def AttestedStatement.attestationText (statement : AttestedStatement) : Bytes :=
  abiEncode [attestationTypeHash crypto, statement.validatorSetId,
    resultDigest crypto statement.verifier statement.tx statement.core, statement.context]

/-- Everything hashed for the digest. -/
def AttestedStatement.texts (statement : AttestedStatement) : List Bytes :=
  let separator := domainSeparator crypto statement.verifier statement.tx
  [domainText crypto statement.verifier statement.chainId.toNat,
    resultCoreType.encoding crypto statement.core,
    typedDataText separator (statement.core.structHash crypto),
    statement.attestationText crypto,
    typedDataText separator (crypto.keccak256 (statement.attestationText crypto))]

variable {crypto}

/-- It is the digest of any block of that chain. -/
theorem AttestedStatement.digest_eq {statement : AttestedStatement} {tx : Tx}
    (hchain : statement.chainId.toNat = tx.chainId) :
    statement.digest crypto = attestationDigest crypto statement.verifier tx
      statement.validatorSetId (resultDigest crypto statement.verifier tx statement.core)
      statement.context := by
  simp only [digest, attestationDigest, resultDigest, domainSeparator, AttestedStatement.tx,
    hchain]

/-- A digest attests one statement. -/
theorem AttestedStatement.eq_of_digest {statement statement' : AttestedStatement}
    {hashed : Set Bytes} (hinj : hashed.InjOn crypto.keccak256)
    (hmem : ∀ text ∈ statement.texts crypto, text ∈ hashed)
    (hmem' : ∀ text ∈ statement'.texts crypto, text ∈ hashed)
    (h : statement.digest crypto = statement'.digest crypto) : statement = statement' := by
  simp only [texts, List.forall_mem_cons] at hmem hmem'
  obtain ⟨hdomain, hcore, hresult, hstruct, hattested, -⟩ := hmem
  obtain ⟨hdomain', hcore', hresult', hstruct', hattested', -⟩ := hmem'
  obtain ⟨hseparator, hstructs⟩ := Crypto.typedData_inj (hinj hattested hattested' h)
  have hdomains := abiEncode_injective (hinj hdomain hdomain' hseparator)
  have hstatements := abiEncode_injective (hinj hstruct hstruct' hstructs)
  simp only [List.cons.injEq, and_true, true_and] at hdomains hstatements
  obtain ⟨hset, hresults, hcontext⟩ := hstatements
  have hcores := (Crypto.typedData_inj (hinj hresult hresult' hresults)).2
  rw [ResultCore.structHash_typed, ResultCore.structHash_typed] at hcores
  have hwords := StructType.words_of_encoding (hinj hcore hcore' hcores)
  obtain ⟨verifier, chainId, setId, core, context⟩ := statement
  obtain ⟨verifier', chainId', setId', core', context'⟩ := statement'
  obtain rfl := addressWord_injective hdomains.2
  obtain rfl := uintWord_toNat_injective le_rfl hdomains.1
  obtain rfl : setId = setId' := hset
  obtain rfl : core = core' := ResultCore.words_injective hwords
  obtain rfl : context = context' := hcontext
  rfl

end

/-- What each validator attested in its life. -/
abbrev AttestationLog := Address → Set AttestedStatement

/-- The texts hashed for what the validators attested and for one more statement. -/
def hashedTexts (crypto : Crypto) (validators : List Address) (log : AttestationLog)
    (statement : AttestedStatement) : Set Bytes :=
  {text | ∃ attested, (attested = statement ∨ ∃ signer ∈ validators, attested ∈ log signer) ∧
    text ∈ attested.texts crypto}

theorem hashedTexts_same {crypto : Crypto} {validators : List Address}
    {statement : AttestedStatement} :
    hashedTexts crypto validators (fun _ => {statement}) statement ⊆
      {text | text ∈ statement.texts crypto} := by
  rintro text ⟨attested, hattested, htext⟩
  have hsame : attested = statement := by
    rcases hattested with hsame | ⟨signer, -, hlogged⟩
    · exact hsame
    · exact Set.mem_singleton_iff.mp hlogged
  rwa [hsame] at htext

/-- No signature of a validator over the digest is in the attestation that the validator
did not make to attest something. -/
def Unforged (crypto : Crypto) (validators : List Address) (log : AttestationLog)
    (digest : Bytes32) (attestation : Bytes) : Prop :=
  ∀ part ∈ chunks 65 attestation, ∀ signer ∈ validators,
    crypto.recoverStrict digest part = some signer →
      ∃ attested ∈ log signer, attested.digest crypto = digest

section

variable {crypto : Crypto} {self : Address} {validators : List Address} {quorum : ℕ}
  {v : VerifierState} {tx : Tx}

/-- The statement an envelope is accepted for. -/
def acceptedStatement (crypto : Crypto) (self : Address) (v : VerifierState) (core : ResultCore) :
    AttestedStatement :=
  ⟨self, core.chainId, v.validatorSetId, core, recomputationContext crypto core⟩

/-- A quorum of different validators attested what was accepted. -/
theorem Governed.quorum_attested (hgoverned : Governed validators quorum v) {g : GovernanceState}
    {envelope : MatchEnvelope} {attestation : Bytes} {result : Bytes32 × VerifierState}
    {log : AttestationLog}
    (haccept : acceptMatch crypto self v g tx envelope attestation = .ok result)
    (hunforged : Unforged crypto validators log
      ((acceptedStatement crypto self v envelope.core).digest crypto) attestation)
    (hinj : (hashedTexts crypto validators log
      (acceptedStatement crypto self v envelope.core)).InjOn crypto.keccak256) :
    ∃ signers : List Address, signers.Nodup ∧ quorum ≤ signers.length ∧
      ∀ signer ∈ signers, signer ∈ validators ∧
        acceptedStatement crypto self v envelope.core ∈ log signer := by
  obtain ⟨hconsume, hchain, hverify⟩ := acceptMatch_consumed haccept
  obtain ⟨-, -, hset⟩ := consume_keeps hconsume
  have hdigest : attestationDigest crypto self tx result.2.validatorSetId
      (resultDigest crypto self tx envelope.core) (recomputationContext crypto envelope.core) =
        (acceptedStatement crypto self v envelope.core).digest crypto := by
    rw [AttestedStatement.digest_eq hchain, hset]
    rfl
  have hexact := (hgoverned.consume hconsume).verifyAttestation_ok_iff.mp hverify
  rw [hdigest] at hexact
  obtain ⟨parts, signers, rfl, hparts, hmany, hrecovers, hsorted, hvalidators⟩ := hexact
  rw [Unforged, chunks_flatten (by decide) hparts] at hunforged
  refine ⟨signers, hsorted.imp fun hlt => BitVec.ne_of_lt hlt, ?_, fun signer hsigner =>
    ⟨hvalidators signer hsigner, ?_⟩⟩
  · rwa [← List.Forall₂.length_eq hrecovers]
  · obtain ⟨part, hpart, hrecover⟩ := exists_part hrecovers hsigner
    obtain ⟨attested, hattested, hsame⟩ :=
      hunforged part hpart signer (hvalidators signer hsigner) hrecover
    have heq := AttestedStatement.eq_of_digest hinj
      (fun text htext => ⟨attested, Or.inr ⟨signer, hvalidators signer hsigner, hattested⟩, htext⟩)
      (fun text htext => ⟨_, Or.inl rfl, htext⟩) hsame
    rwa [← heq]

/-- **The quorum is exact.** In every life of the verifier, the signature stage accepts
exactly the concatenated signatures of a quorum; a quorum of different validators attested
what is accepted, this core of this verifier on this chain under its recomputation context;
and the signatures of any quorum can be put together so that they are accepted. -/
theorem quorum_exact (hlives : Lives crypto self validators quorum v) :
    (∀ tx core context attestation,
      verifyAttestation crypto self v tx core context attestation = .ok () ↔
        IsQuorumAttestation crypto validators quorum
          (attestationDigest crypto self tx v.validatorSetId (resultDigest crypto self tx core)
            context) attestation) ∧
    (∀ g tx envelope attestation result log,
      acceptMatch crypto self v g tx envelope attestation = .ok result →
      Unforged crypto validators log
        ((acceptedStatement crypto self v envelope.core).digest crypto) attestation →
      (hashedTexts crypto validators log
        (acceptedStatement crypto self v envelope.core)).InjOn crypto.keccak256 →
      ∃ signers : List Address, signers.Nodup ∧ quorum ≤ signers.length ∧
        ∀ signer ∈ signers, signer ∈ validators ∧
          acceptedStatement crypto self v envelope.core ∈ log signer) ∧
    ∀ tx core context signers sign, signers.Nodup → signers ⊆ validators →
      quorum ≤ signers.length →
      (∀ signer ∈ signers, crypto.recoverStrict
        (attestationDigest crypto self tx v.validatorSetId (resultDigest crypto self tx core)
          context) (sign signer) = some signer) →
      ∃ order : List Address, order.Perm signers ∧
        verifyAttestation crypto self v tx core context (order.map sign).flatten = .ok () := by
  have hgoverned := hlives.governed
  refine ⟨fun tx core context attestation => hgoverned.verifyAttestation_ok_iff, ?_, ?_⟩
  · intro g tx envelope attestation result log haccept hunforged hinj
    exact hgoverned.quorum_attested haccept hunforged hinj
  · intro tx core context signers sign hnodup hsub hmany hsign
    exact hgoverned.exists_attestation hnodup hsub hmany hsign

end

/-! ## Three validators, two of whom sign -/

namespace Sample

open Governance.Sample

def core : ResultCore where
  schemaVersion := 5
  chainId := 1
  verifier := 0x104
  binder := 0x105
  policyId := 0x51
  policyVersion := 1
  session := ⟨0x11, 0x12, 0x13, 0x14, 0x15, 0x16, 0x17⟩
  evaluation :=
    ⟨0x21, 0x22, 0x23, 0x24, 0x25, 0x26, 5, 1, 0x27, 1, 0x28, 0x29, 0x2a⟩
  sameEconomicAsset := true
  policyConflict := true
  outcome := .sameAssetPolicyConflict
  nonce := 1
  expiry := 100

def validators : List Address := [0x20a, 0x20b, 0x20c]

/-- A call in block `block`, at time `block`, on chain 1. -/
def tx (sender : Address) (block : ℕ) : Tx := ⟨⟨sender, block, block⟩, 1⟩

/-- A registry that admitted the session before. -/
def registry : GovernanceState where
  governor := 0x202
  commitments _ := { sessionNullifier := 0x12, committedInBlock := 5, isCommitted := true }

/-- The verifier, constructed and configured. -/
def configured : Except MatchError VerifierState := do
  let v ← construct walletCrypto 0x104 (tx 0x200 0) 0x204 0x102 validators 2 2
  run (perform walletCrypto 0x104) v [(tx 0x204 2, .setPolicyVersion 0x51 1)]

/-- What its validators attest. -/
def statement : AttestedStatement :=
  ⟨0x104, 1, validatorSetIdOf walletCrypto 0x104 (tx 0x200 0) validators 2, core,
    recomputationContext walletCrypto core⟩

def attestation : Bytes :=
  let digest := statement.digest walletCrypto
  walletSign 0x20a digest ++ walletSign 0x20c digest

def envelope : MatchEnvelope where
  core := core
  resultCommitment := core.commitmentOf walletCrypto
  transcript := ⟨0x91, 0x92, 2, recomputationContext walletCrypto core⟩

def accepted : Except MatchError (VerifierState × (Bytes32 × VerifierState)) := do
  let v ← configured
  let result ← acceptMatch walletCrypto 0x104 v registry (tx 0x105 7) envelope attestation
  pure (v, result)

theorem configured_set {v : VerifierState} (h : configured = .ok v) :
    v.validatorSetId = statement.validatorSetId := by
  simp only [configured, construct, bind_ok_iff, revertIf_ok_iff, exists_const, pure_ok_iff,
    run_cons_ok_iff, run_nil, perform, setPolicyVersion] at h
  obtain ⟨_, ⟨-, -, -, _, -, rfl⟩, _, ⟨-, -, rfl⟩, hlast⟩ := h
  obtain rfl := Except.ok.inj hlast
  rfl

theorem configured_lives {v : VerifierState} (h : configured = .ok v) :
    Lives walletCrypto 0x104 validators 2 v := by
  obtain ⟨v₀, hconstruct, hrun⟩ := bind_ok_iff.mp h
  exact ⟨_, _, _, _, v₀, _, hconstruct, hrun⟩

/-- The digests end in different digits. -/
theorem hashed_digits : (statement.texts walletCrypto).map
    (fun text => (walletCrypto.keccak256 text).toNat % 1000) = [149, 871, 693, 895, 661] := by
  decide +kernel

/-- Nothing hashed for the statement collides. -/
theorem hashed_injOn : (hashedTexts walletCrypto validators (fun _ => {statement})
    statement).InjOn walletCrypto.keccak256 := by
  have hnodup : ((statement.texts walletCrypto).map
      fun text => (walletCrypto.keccak256 text).toNat % 1000).Nodup := by
    rw [hashed_digits]
    decide
  intro text htext other hother heq
  exact List.inj_on_of_nodup_map hnodup (hashedTexts_same htext) (hashedTexts_same hother)
    (congrArg (fun digest : Bytes32 => digest.toNat % 1000) heq)

theorem statement_digest : statement.digest walletCrypto =
    attestationDigest walletCrypto 0x104 (tx 0x105 7) statement.validatorSetId
      (resultDigest walletCrypto 0x104 (tx 0x105 7) core)
      (recomputationContext walletCrypto core) := by
  have hchain : statement.chainId.toNat = (tx 0x105 7).chainId := rfl
  rw [AttestedStatement.digest_eq hchain]
  rfl

end Sample

open Governance.Sample Verifier.Sample in
/-- A result is accepted on what two of three validators attested, and the signatures of
two are accepted in the order of their addresses. -/
theorem quorum_exact_sample :
    ∃ v result, acceptMatch walletCrypto 0x104 v registry (tx 0x105 7) envelope attestation =
        .ok result ∧
      (∃ signers : List Address, signers.Nodup ∧ 2 ≤ signers.length ∧
        ∀ signer ∈ signers, signer ∈ validators ∧
          acceptedStatement walletCrypto 0x104 v core ∈ ({statement} : Set AttestedStatement)) ∧
      verifyAttestation walletCrypto 0x104 v (tx 0x105 7) core
        (recomputationContext walletCrypto core) attestation = .ok () ∧
      ∃ order : List Address, order.Perm [0x20c, 0x20b] ∧
        verifyAttestation walletCrypto 0x104 v (tx 0x105 7) core
          (recomputationContext walletCrypto core)
          (order.map fun signer => walletSign signer (statement.digest walletCrypto)).flatten =
            .ok () := by
  have hcommits : accepted.toBool = true := by decide +kernel
  obtain ⟨run, hrun⟩ := toBool_eq_true_iff.mp hcommits
  simp only [accepted, bind_ok_iff] at hrun
  obtain ⟨v, hconfigured, result, haccept, -⟩ := hrun
  have hstatement : acceptedStatement walletCrypto 0x104 v core = statement := by
    rw [acceptedStatement, configured_set hconfigured]
    rfl
  have hdigest : attestationDigest walletCrypto 0x104 (tx 0x105 7) v.validatorSetId
      (resultDigest walletCrypto 0x104 (tx 0x105 7) core)
      (recomputationContext walletCrypto core) = statement.digest walletCrypto := by
    rw [configured_set hconfigured, statement_digest]
  obtain ⟨hexact, hattested, hproduced⟩ := quorum_exact (configured_lives hconfigured)
  have hsign : ∀ signer : Address, signer ≠ 0 →
      walletCrypto.recoverStrict (statement.digest walletCrypto)
        (walletSign signer (statement.digest walletCrypto)) = some signer :=
    fun _ => recoverStrict_walletSign _
  refine ⟨v, result, haccept, ?_, ?_, ?_⟩
  · have hinj := hashed_injOn
    have hunforged : Unforged walletCrypto validators (fun _ => {statement})
        (statement.digest walletCrypto) attestation :=
      fun _ _ _ _ _ => ⟨statement, rfl, rfl⟩
    rw [← hstatement] at hunforged hinj
    have hsigners := hattested registry _ envelope attestation result _ haccept hunforged hinj
    rwa [hstatement] at hsigners
  · rw [hexact, hdigest]
    refine ⟨[walletSign 0x20a (statement.digest walletCrypto),
      walletSign 0x20c (statement.digest walletCrypto)], [0x20a, 0x20c], ?_, ?_, le_rfl, ?_,
      ?_, ?_⟩
    · rw [List.flatten_cons, List.flatten_singleton, attestation]
    · simp only [List.forall_mem_cons]
      exact ⟨length_of_recoverStrict (hsign 0x20a (by decide)),
        length_of_recoverStrict (hsign 0x20c (by decide)), fun _ h => absurd h List.not_mem_nil⟩
    · exact List.Forall₂.cons (hsign 0x20a (by decide))
        (List.Forall₂.cons (hsign 0x20c (by decide)) List.Forall₂.nil)
    · exact List.pairwise_pair.mpr (by decide)
    · exact fun signer hsigner =>
        (show [(0x20a : Address), 0x20c] ⊆ validators by decide) hsigner
  · have hothers : ∀ signer ∈ [(0x20c : Address), 0x20b],
        walletCrypto.recoverStrict (statement.digest walletCrypto)
          (walletSign signer (statement.digest walletCrypto)) = some signer := by
      simp only [List.forall_mem_cons]
      exact ⟨hsign 0x20c (by decide), hsign 0x20b (by decide), fun _ h => absurd h List.not_mem_nil⟩
    rw [← hdigest] at hothers ⊢
    exact hproduced (tx 0x105 7) core (recomputationContext walletCrypto core) [0x20c, 0x20b] _
      (by decide) (by decide) (by decide) hothers

end Verifier

end Mordant.Match
