/-
# Settlement authority

A plan fixes what a governed conflict pays; an authorization is derived from a
plan and names it by hash; a release is what the bridge is about to sign.  The
gate compares the three pairwise.

Each of the three spells addresses and digests in its own letter case, and writes
amounts as decimal strings or as big integers.  `Economics` is the normal form
they are compared in: what a settlement pays, to whom, from where and for which
result.
-/

import Mordant.Foundation.Call
import Mordant.Script.Text

namespace Mordant.Protection

open Foundation Script

/-- What these functions throw: an error of their own, or what `BigInt` throws. -/
inductive SettlementThrown
  | authority (code message : String)
  | syntaxError
  deriving DecidableEq

def settlementPlanSchema : Text := lit "mordant.settlement-plan/1"
def settlementAuthorizationSchema : Text := lit "mordant.settlement-authorization/1"

section

variable (runtime : Runtime)

def sameAddress (left right : Text) : Bool :=
  runtime.toLowerCase left = runtime.toLowerCase right

/-- `normalizeDigest`: the digits of a digest in either of its two spellings. -/
def normalizeDigest (value : Text) : Text :=
  let lower := runtime.toLowerCase value
  if lit "sha256:" <+: lower then lower.drop 7
  else if lit "0x" <+: lower then lower.drop 2
  else lower

def sameDigest (left right : Text) : Bool :=
  normalizeDigest runtime left = normalizeDigest runtime right

end

/-- `SettlementPlan`. Its schema and its conflict are constants of the type. -/
structure SettlementPlan where
  settlementProfileDigest : Hex
  governedResultDigest : Hex
  runId : Hex
  releaseAuthorityId : Text
  adapter : Hex
  chainId : ℤ
  holderA : Hex
  holderB : Hex
  /-- Atomic units, decimal strings. -/
  payoutA : Text
  payoutB : Text
  cureWindowSeconds : ℤ

structure SettlementAuthorization where
  schemaVersion : Text
  planHash : Hex
  settlementProfileDigest : Hex
  governedResultDigest : Hex
  runId : Hex
  adapter : Hex
  chainId : ℤ
  holderA : Hex
  holderB : Hex
  payoutA : Text
  payoutB : Text
  cureWindowSeconds : ℤ

structure AuthorizedReleaseFacts where
  adapter : Hex
  chainId : ℤ
  governedResultDigest : Hex
  runId : Hex
  holderA : Hex
  holderB : Hex
  payoutA : ℤ
  payoutB : ℤ
  conflict : Bool

section

variable (runtime : Runtime) (plan : SettlementPlan)

/-- `canonicalPlan`: the order of the keys is fixed. -/
def canonicalPlan : Text :=
  let lowered (value : Text) := stringifyText (runtime.toLowerCase value)
  stringifyObject
    [("schemaVersion", stringifyText settlementPlanSchema),
      ("settlementProfileDigest", lowered plan.settlementProfileDigest.text),
      ("governedResultDigest", lowered plan.governedResultDigest.text),
      ("runId", lowered plan.runId.text),
      ("releaseAuthorityId", lowered plan.releaseAuthorityId),
      ("conflict", lit "true"),
      ("adapter", lowered plan.adapter.text),
      ("chainId", stringifyInt plan.chainId),
      ("holderA", lowered plan.holderA.text),
      ("holderB", lowered plan.holderB.text),
      ("payoutA", stringifyText plan.payoutA),
      ("payoutB", stringifyText plan.payoutB),
      ("cureWindowSeconds", stringifyInt plan.cureWindowSeconds)]

def settlementPlanHash : Hex where
  text := lit "0x" ++ runtime.sha256 (lit "MordantSettlementPlan/v1" ++ [0] ++
    canonicalPlan runtime plan)
  prefixed := List.prefix_append _ _

def deriveSettlementAuthorization : SettlementAuthorization where
  schemaVersion := settlementAuthorizationSchema
  planHash := settlementPlanHash runtime plan
  settlementProfileDigest := plan.settlementProfileDigest
  governedResultDigest := plan.governedResultDigest
  runId := plan.runId
  adapter := plan.adapter
  chainId := plan.chainId
  holderA := plan.holderA
  holderB := plan.holderB
  payoutA := plan.payoutA
  payoutB := plan.payoutB
  cureWindowSeconds := plan.cureWindowSeconds

end

/-- `assertSettlementAuthorization`. A payout is only read when everything before
it agrees, and reading one that is no integer throws. -/
def assertSettlementAuthorization (runtime : Runtime) (authorization : SettlementAuthorization)
    (plan : SettlementPlan) (release : AuthorizedReleaseFacts) :
    Except SettlementThrown Unit := do
  revertIf (authorization.schemaVersion ≠ settlementAuthorizationSchema)
    (.authority "AUTHORIZATION_SCHEMA" "Unrecognised settlement authorization schema")
  revertIf (sameDigest runtime authorization.planHash.text
      (settlementPlanHash runtime plan).text = false)
    (.authority "PLAN_MISMATCH"
      "The settlement authorization was not derived from this verified plan")
  revertIf (sameDigest runtime authorization.settlementProfileDigest.text
      plan.settlementProfileDigest.text = false)
    (.authority "PROFILE_DIGEST_MISMATCH"
      "The authorization and the plan disagree about the committed profile")
  revertIf (release.conflict ≠ true)
    (.authority "NO_CONFLICT_RELEASE"
      "A release without a conflict must never carry a settlement authorization")
  revertIf (sameDigest runtime authorization.governedResultDigest.text
      release.governedResultDigest.text = false)
    (.authority "RESULT_MISMATCH" "The authorization was issued for a different governed result")
  revertIf (sameDigest runtime authorization.runId.text release.runId.text = false)
    (.authority "RUN_MISMATCH" "The authorization was issued for a different governed run")
  revertIf (sameAddress runtime authorization.adapter.text release.adapter.text = false)
    (.authority "ADAPTER_MISMATCH" "The authorization does not cover this Adapter V2")
  revertIf (authorization.chainId ≠ release.chainId)
    (.authority "CHAIN_MISMATCH" "The authorization was issued for a different chain")
  revertIf (sameAddress runtime authorization.holderA.text release.holderA.text = false ∨
      sameAddress runtime authorization.holderB.text release.holderB.text = false)
    (.authority "HOLDER_MISMATCH"
      "The release pays a holder the committed profile did not name")
  let payoutMismatch := .authority "PAYOUT_MISMATCH"
    "The release pays an amount the committed profile did not fix"
  let payoutA ← require .syntaxError (bigInt authorization.payoutA)
  revertIf (payoutA ≠ release.payoutA) payoutMismatch
  let payoutB ← require .syntaxError (bigInt authorization.payoutB)
  revertIf (payoutB ≠ release.payoutB) payoutMismatch

/-! ## What is paid -/

/-- What a settlement pays, to whom, from where and for which result: addresses
and digests in lower case, amounts as integers where they are any. -/
structure Economics where
  adapter : Text
  chainId : ℤ
  governedResultDigest : Text
  runId : Text
  holderA : Text
  holderB : Text
  payoutA : Option ℤ
  payoutB : Option ℤ
  deriving DecidableEq

section

variable (runtime : Runtime)

def SettlementPlan.economics (plan : SettlementPlan) : Economics where
  adapter := runtime.toLowerCase plan.adapter.text
  chainId := plan.chainId
  governedResultDigest := runtime.toLowerCase plan.governedResultDigest.text
  runId := runtime.toLowerCase plan.runId.text
  holderA := runtime.toLowerCase plan.holderA.text
  holderB := runtime.toLowerCase plan.holderB.text
  payoutA := bigInt plan.payoutA
  payoutB := bigInt plan.payoutB

def SettlementAuthorization.economics (authorization : SettlementAuthorization) : Economics where
  adapter := runtime.toLowerCase authorization.adapter.text
  chainId := authorization.chainId
  governedResultDigest := runtime.toLowerCase authorization.governedResultDigest.text
  runId := runtime.toLowerCase authorization.runId.text
  holderA := runtime.toLowerCase authorization.holderA.text
  holderB := runtime.toLowerCase authorization.holderB.text
  payoutA := bigInt authorization.payoutA
  payoutB := bigInt authorization.payoutB

def AuthorizedReleaseFacts.economics (release : AuthorizedReleaseFacts) : Economics where
  adapter := runtime.toLowerCase release.adapter.text
  chainId := release.chainId
  governedResultDigest := runtime.toLowerCase release.governedResultDigest.text
  runId := runtime.toLowerCase release.runId.text
  holderA := runtime.toLowerCase release.holderA.text
  holderB := runtime.toLowerCase release.holderB.text
  payoutA := some release.payoutA
  payoutB := some release.payoutB

/-- The authorization claims to be derived from the plan, and its payouts are
integers. -/
structure Names (authorization : SettlementAuthorization) (plan : SettlementPlan) : Prop where
  schema : authorization.schemaVersion = settlementAuthorizationSchema
  planHash : sameDigest runtime authorization.planHash.text
    (settlementPlanHash runtime plan).text = true
  profileDigest : sameDigest runtime authorization.settlementProfileDigest.text
    plan.settlementProfileDigest.text = true
  payoutA : (bigInt authorization.payoutA).isSome
  payoutB : (bigInt authorization.payoutB).isSome

end

section

variable {runtime : Runtime} {authorization : SettlementAuthorization} {plan : SettlementPlan}
variable {release : AuthorizedReleaseFacts}

/-- Two hexadecimal digests are the same when they are in lower case. -/
theorem sameDigest_hex (left right : Hex) : sameDigest runtime left.text right.text = true ↔
    runtime.toLowerCase left.text = runtime.toLowerCase right.text := by
  -- a lower-case hexadecimal string is its prefix and what normalization leaves
  have hnormal : ∀ value : Hex, runtime.toLowerCase value.text =
      lit "0x" ++ normalizeDigest runtime value.text := by
    intro value
    obtain ⟨digits, hdigits⟩ := runtime.lower_hex _ value.prefixed
    have hnot : ¬ lit "sha256:" <+: lit "0x" ++ digits := by
      have hsha : lit "sha256:" = 115 :: lit "ha256:" := by decide
      have hhex : lit "0x" = 48 :: lit "x" := by decide
      rintro ⟨rest, hrest⟩
      rw [hsha, hhex] at hrest
      exact absurd (List.cons.inj hrest).1 (by decide)
    rw [normalizeDigest, ← hdigits]
    simp only [if_neg hnot, if_pos (List.prefix_append (lit "0x") digits)]
    rfl
  rw [sameDigest, decide_eq_true_iff, hnormal left, hnormal right, List.append_cancel_left_eq]

theorem sameAddress_iff (left right : Text) : sameAddress runtime left right = true ↔
    runtime.toLowerCase left = runtime.toLowerCase right :=
  decide_eq_true_iff

/-- **The gate.** It lets a conflict release through exactly when the
authorization names the plan and pays what the release pays. -/
theorem assertSettlementAuthorization_ok_iff :
    assertSettlementAuthorization runtime authorization plan release = .ok () ↔
      Names runtime authorization plan ∧ release.conflict = true ∧
        authorization.economics runtime = release.economics runtime := by
  simp only [assertSettlementAuthorization, revertIf_bind_ok_iff, require_bind_ok_iff,
    revertIf_ok_iff, not_or, Bool.not_eq_false, not_not, sameDigest_hex, sameAddress_iff,
    SettlementAuthorization.economics, AuthorizedReleaseFacts.economics, Economics.mk.injEq]
  constructor
  · rintro ⟨hschema, hplan, hprofile, hconflict, hresult, hrun, hadapter, hchain,
      ⟨hholderA, hholderB⟩, payoutA, hA, rfl, payoutB, hB, rfl⟩
    refine ⟨⟨hschema, (sameDigest_hex _ _).mpr hplan, (sameDigest_hex _ _).mpr hprofile, ?_, ?_⟩,
      hconflict, hadapter, hchain, hresult, hrun, hholderA, hholderB, hA, hB⟩
    · rw [hA]
      rfl
    · rw [hB]
      rfl
  · rintro ⟨hnames, hconflict, hadapter, hchain, hresult, hrun, hholderA, hholderB, hA, hB⟩
    exact ⟨hnames.schema, (sameDigest_hex _ _).mp hnames.planHash,
      (sameDigest_hex _ _).mp hnames.profileDigest, hconflict, hresult, hrun, hadapter, hchain,
      ⟨hholderA, hholderB⟩, _, hA, rfl, _, hB, rfl⟩

/-- What is let through pays what the plan says exactly when the authorization does. -/
theorem released_economics_iff
    (hpassed : assertSettlementAuthorization runtime authorization plan release = .ok ()) :
    release.economics runtime = plan.economics runtime ↔
      authorization.economics runtime = plan.economics runtime := by
  obtain ⟨-, -, hpaid⟩ := assertSettlementAuthorization_ok_iff.mp hpassed
  rw [hpaid]

/-- The release an authorization is for. -/
def SettlementAuthorization.ownRelease (authorization : SettlementAuthorization)
    (payoutA payoutB : ℤ) : AuthorizedReleaseFacts where
  adapter := authorization.adapter
  chainId := authorization.chainId
  governedResultDigest := authorization.governedResultDigest
  runId := authorization.runId
  holderA := authorization.holderA
  holderB := authorization.holderB
  payoutA := payoutA
  payoutB := payoutB
  conflict := true

/-- An authorization that names a plan lets its own release through. -/
theorem Names.ownRelease (hnames : Names runtime authorization plan) :
    ∃ payoutA payoutB, bigInt authorization.payoutA = some payoutA ∧
      bigInt authorization.payoutB = some payoutB ∧
      assertSettlementAuthorization runtime authorization plan
        (authorization.ownRelease payoutA payoutB) = .ok () := by
  obtain ⟨payoutA, hA⟩ := Option.isSome_iff_exists.mp hnames.payoutA
  obtain ⟨payoutB, hB⟩ := Option.isSome_iff_exists.mp hnames.payoutB
  refine ⟨payoutA, payoutB, hA, hB,
    assertSettlementAuthorization_ok_iff.mpr ⟨hnames, rfl, ?_⟩⟩
  simp only [SettlementAuthorization.economics, AuthorizedReleaseFacts.economics,
    SettlementAuthorization.ownRelease, hA, hB]

end

end Mordant.Protection
