/-
# What a release does to the shared files

Every call generates its shares in one order, for a coalition of two operators of the
published roster, and creates the result only after the last of them.  Whatever other
calls do meanwhile, what a call returns is the result object.  None of this depends on
how the calls are scheduled, and none of it involves the ledgers: no operation of a
release writes one.
-/

import Mordant.Coalition.Release

namespace Mordant.Coalition

open Evm Foundation Program

/-! ## The discipline of a release -/

/-- The shares of a coalition, in the order a call generates them. -/
def shareOrder (points : List Word64) : List (Word64 × BitVec 8) :=
  points.flatMap fun point => [(point, 0), (point, 1)]

/-- Two different operators of the published roster. -/
structure Serving (files : CaseFiles) (coalition : Word64 × Word64) : Prop where
  distinct : coalition.1 ≠ coalition.2
  published : ∃ manifest, files.thresholdManifest = some manifest ∧ manifest.validate = .ok () ∧
    ∀ point ∈ [coalition.1, coalition.2], point ∈ manifest.operators.map (·.point)

/-- The session of a case: the digest of its binding. -/
def IsSession (files : CaseFiles) (session : Digest) : Prop :=
  ∃ binding, files.loadCaseManifest = .ok binding ∧ files.bindingDigest binding = .ok session

section

variable {ι : Type} [DecidableEq ι] {i j : ι} {op : ReleaseOp} {s t : Shared ι}

/-- The shares one call had generated. -/
def served (i : ι) (s : Shared ι) : List (Word64 × BitVec 8) :=
  (s.shares.filter (·.call = i)).map fun share => (share.point, share.slot)

/-- The share an operation generates. -/
def ReleaseOp.generated (i : ι) (s : Shared ι) : ReleaseOp → List (Share ι)
  | .generateShare point session slot => [⟨i, point, session, slot, s.result.isSome⟩]
  | _ => []

omit [DecidableEq ι] in
theorem shares_create (object : ReleaseObject) : (s.create object).2.shares = s.shares := by
  cases object <;> simp only [Shared.create] <;> split <;> rfl

/-- The shares after an operation. -/
theorem shares_act : (op.act i s).2.shares = s.shares ++ op.generated i s := by
  cases op with
  | create object => exact (shares_create object).trans (List.append_nil _).symm
  | openLedger path =>
      simp only [ReleaseOp.act]
      split <;> exact (List.append_nil _).symm
  | closeLedger path =>
      simp only [ReleaseOp.act]
      split <;> exact (List.append_nil _).symm
  | generateShare => rfl
  | objectExists | readResult | getSession => exact (List.append_nil _).symm

/-- What an operation that creates no result leaves of it. -/
theorem result_act_of_not_result (hop : ∀ value, op ≠ .create (.result value)) :
    (op.act i s).2.result = s.result := by
  cases op with
  | create object =>
      cases object with
      | result value => exact absurd rfl (hop value)
      | admission | consumed =>
          simp only [ReleaseOp.act, Shared.create]
          split <;> rfl
  | openLedger | closeLedger =>
      simp only [ReleaseOp.act]
      split <;> rfl
  | generateShare | objectExists | readResult | getSession => rfl

/-- The result object is never replaced. -/
theorem result_act {value : CoalitionConflictResult} (h : s.result = some value) :
    (op.act i s).2.result = some value := by
  by_cases hop : ∃ other, op = .create (.result other)
  · obtain ⟨other, rfl⟩ := hop
    rw [ReleaseOp.act, Shared.create, if_pos (Option.isSome_of_mem h), h]
  · rw [result_act_of_not_result (fun other heq => hop ⟨other, heq⟩), h]

theorem served_of_shares {fresh : List (Share ι)} (h : t.shares = s.shares ++ fresh) :
    served i t = served i s ++
      (fresh.filter (·.call = i)).map fun share => (share.point, share.slot) := by
  rw [served, h, List.filter_append, List.map_append, served]

theorem served_act_of_ne (hne : i ≠ j) : served i (op.act j s).2 = served i s := by
  rw [served_of_shares shares_act]
  cases op with
  | generateShare => simp [ReleaseOp.generated, hne.symm]
  | _ => exact List.append_nil _

theorem served_generateShare {point : Word64} {session : Digest} {slot : BitVec 8} :
    served i ((ReleaseOp.generateShare point session slot).act i s).2 =
      served i s ++ [(point, slot)] := by
  rw [served_of_shares shares_act]
  simp [ReleaseOp.generated]

end

section

variable {ι : Type} [DecidableEq ι] (files : CaseFiles)

/-- What a call knows when it performs an operation. -/
def knowsRelease (i : ι) : ReleaseOp → Shared ι → Prop
  | .generateShare point session slot, s => IsSession files session ∧
      ∃ coalition, Serving files coalition ∧
        served i s ++ [(point, slot)] <+: shareOrder [coalition.1, coalition.2]
  | .create (.result _), s => (served i s).length = 4
  | _, _ => True

/-- A call relies on the others to leave its shares alone and never to replace a result. -/
def releaseDiscipline : Discipline (releaseEffects ι) where
  knows := knowsRelease files
  ready i s := served i s = []
  rely i s t := served i t = served i s ∧ ∀ value, s.result = some value → t.result = some value
  refl _ _ := ⟨rfl, fun _ h => h⟩
  trans hst htu := ⟨htu.1.trans hst.1, fun value h => htu.2 value (hst.2 value h)⟩
  ready_rely hready hrely := hrely.1.trans hready
  rely_act hne _ := ⟨served_act_of_ne hne, fun _ h => result_act h⟩
  rely_lost _ := ⟨rfl, fun _ h => h⟩

/-- What a call returns is the result object. -/
def Reports : Except Thrown CoalitionConflictResult → Shared ι → Prop :=
  onOk fun value s => s.result = some value

end

/-! ## Operations that neither generate a share nor create the result -/

def Quiet : ReleaseOp → Prop
  | .generateShare _ _ _ => False
  | .create (.result _) => False
  | _ => True

/-- What an operator that was opened holds. -/
structure Opened (files : CaseFiles) (call : ReleaseCall) (prepared : Prepared)
    (held : CoalitionOperator) : Prop where
  bundle : ∃ root, call.openBundle root = .ok held.threshold
  runtime : ∃ runtime, files.loadEvaluationRuntime prepared.binding = .ok runtime ∧
    files.registerCaseEnrollmentIssuers runtime prepared.binding = .ok held.runtime
  published : prepared.manifest.containsOperator held.threshold.identity = true

/-- An operator before and after it accepted a request. -/
def Accepted (library : FheLibrary) (request : OperatorReleaseRequestV5) (now : ℤ)
    (held held' : CoalitionOperator) : Prop :=
  ∃ existing verdict, verifyAndRecompute library held.runtime held.threshold held.fingerprint
      request now existing = (verdict, none) ∧
    held' = { held with verdict }

section

variable {ι : Type} [DecidableEq ι] {files : CaseFiles} {library : FheLibrary} {i : ι}
  {op : ReleaseOp} {s : Shared ι} {α : Type} {R : α → Prop} {x : ReleaseProgram α}
  {call : ReleaseCall} {prepared : Prepared} {request : OperatorReleaseRequestV5}

theorem Quiet.knows (h : Quiet op) : knowsRelease files i op s := by
  cases op with
  | generateShare => exact h.elim
  | create object =>
      cases object with
      | result => exact h.elim
      | admission | consumed => exact trivial
  | _ => exact trivial

theorem Quiet.served (h : Quiet op) : served i (op.act i s).2 = served i s := by
  rw [served_of_shares shares_act]
  cases op with
  | generateShare => exact h.elim
  | _ => exact List.append_nil _

/-- A quiet program leaves the call's own shares as they are. -/
theorem quiet_served {sofar : List (Word64 × BitVec 8)} (h : x.Obeys Quiet R)
    (hs : Coalition.served i s = sofar) :
    Upholds (releaseDiscipline files) i (onOk fun a t => Coalition.served i t = sofar ∧ R a)
      x s := by
  have hquiet := h.upholds (D := releaseDiscipline files)
    (A := fun t => Coalition.served i t = sofar) (fun hrely hs => hrely.1.trans hs)
    (fun hop hs => ⟨Quiet.knows hop, (Quiet.served hop).trans hs⟩) hs
  exact hquiet.mono fun _ _ ht a ha => ⟨ht.1, ht.2 a ha⟩

/-- A quiet program leaves a result as it is. -/
theorem quiet_reports {result : Except Thrown CoalitionConflictResult} (h : x.Obeys Quiet R)
    (hs : Reports result s) :
    Upholds (releaseDiscipline files) i
      (fun outcome t => Reports result t ∧ ∀ a, outcome = .ok a → R a) x s :=
  h.upholds (fun hrely hs value hvalue => hrely.2 value (hs value hvalue))
    (fun hop hs => ⟨Quiet.knows hop, fun value hvalue => result_act (hs value hvalue)⟩) hs

theorem obeys_closeLedger {path : LedgerPath} :
    (closeLedger path).Obeys Quiet fun _ => True :=
  obeys_ask.mpr ⟨trivial, fun _ => trivial⟩

theorem obeys_createJSON {object : ReleaseObject} (h : Quiet (.create object)) :
    (createJSON object).Obeys Quiet fun _ => True := by
  rw [createJSON, obeys_bind, obeys_ask]
  exact ⟨h, fun _ => obeys_lift.mpr fun _ _ => trivial⟩

theorem obeys_closeLedgers (operators : List CoalitionOperator) :
    (closeLedgers operators).Obeys Quiet fun _ => True := by
  induction operators with
  | nil => exact trivial
  | cons held rest ih =>
      rw [closeLedgers, obeys_bind]
      exact obeys_closeLedger.mono fun _ _ => ih

theorem obeys_admitRelease : (admitRelease call prepared).Obeys Quiet fun _ => True := by
  simp only [admitRelease, obeys_bind, obeys_ask, obeys_throwIf]
  refine ⟨trivial, fun consumed _ => ⟨trivial, fun admitted => ?_⟩⟩
  split
  · exact trivial
  · exact obeys_createJSON trivial

/-- An operator that is in the published manifest is on its roster. -/
theorem point_of_containsOperator {manifest : CoalitionThresholdManifest}
    {identity : ThresholdOperatorPublic} (h : manifest.containsOperator identity = true) :
    identity.point ∈ manifest.operators.map (·.point) := by
  obtain ⟨record, hmem, hsame⟩ := List.any_eq_true.mp h
  simp only [Bool.and_eq_true, decide_eq_true_eq] at hsame
  exact List.mem_map.mpr ⟨record, hmem, hsame.1.1⟩

theorem obeys_openOperator {index : ℕ} {root : String} :
    (openOperator files call prepared index root).Obeys Quiet fun opened =>
      ∀ held, opened = .ok held → Opened files call prepared held := by
  have hskipped : ∀ reason : String, Obeys Quiet (fun opened : Except String CoalitionOperator =>
      ∀ held, opened = .ok held → Opened files call prepared held)
      (pure (.error reason) : ReleaseProgram (Except String CoalitionOperator)) :=
    fun reason => obeys_pure.mpr (by rintro held ⟨⟩)
  unfold openOperator
  split
  · exact hskipped _
  · next threshold hbundle =>
      split
      · exact hskipped _
      · next runtime hruntime =>
          split
          · exact hskipped _
          · next trusted htrusted =>
              simp only [obeys_bind, obeys_ask]
              refine ⟨trivial, fun opened => ?_⟩
              split
              · exact hskipped _
              · split
                · rw [obeys_bind]
                  exact obeys_closeLedger.mono fun _ _ => hskipped _
                · split
                  · rw [obeys_bind]
                    exact obeys_closeLedger.mono fun _ _ => hskipped _
                  · next hcontained =>
                      rw [obeys_pure]
                      rintro held ⟨⟩
                      exact ⟨⟨root, hbundle⟩, ⟨runtime, hruntime, htrusted⟩,
                        Bool.not_eq_false _ ▸ hcontained⟩

theorem obeys_openEach {roots : List String} {index : ℕ} :
    (openEach files call prepared index roots).Obeys Quiet fun opened =>
      ∀ held ∈ opened.1, Opened files call prepared held := by
  induction roots generalizing index with
  | nil => exact fun held h => (List.not_mem_nil h).elim
  | cons root roots ih =>
      rw [openEach, obeys_bind]
      refine obeys_openOperator.mono fun opened hopened => ?_
      rw [obeys_bind]
      refine ih.mono fun rest hrest => ?_
      cases opened with
      | error reason => exact hrest
      | ok held =>
          intro other hother
          rcases List.mem_cons.mp hother with rfl | hlater
          · exact hopened other rfl
          · exact hrest other hlater

theorem obeys_openOperators : (openOperators files call prepared).Obeys Quiet fun operators =>
    ∀ held ∈ operators, Opened files call prepared held := by
  rw [openOperators, obeys_bind]
  refine obeys_openEach.mono fun opened hopened => ?_
  obtain ⟨operators, unreachable⟩ := opened
  show Obeys _ _ (if operators.length < coalitionThreshold then _ else _)
  split
  · rw [obeys_bind]
    exact (obeys_closeLedgers _).mono fun _ _ => obeys_lift.mpr (by rintro _ ⟨⟩)
  · exact hopened

/-- Verification keeps the operators and their order. -/
theorem obeys_verifyEach {now : ℤ} (operators : List CoalitionOperator) :
    (verifyEach library request now operators).Obeys Quiet fun verified =>
      List.Forall₂ (fun held entry => ∃ existing verdict, verifyAndRecompute library held.runtime
        held.threshold held.fingerprint request now existing = (verdict, entry.2) ∧
        entry.1 = { held with verdict }) operators verified := by
  induction operators with
  | nil => exact List.Forall₂.nil
  | cons held rest ih =>
      simp only [verifyEach, obeys_bind, obeys_ask]
      refine ⟨trivial, fun existing => ih.mono fun verified hverified => ?_⟩
      rw [obeys_pure]
      exact .cons ⟨existing, _, rfl, rfl⟩ hverified

/-- The quorum of two operators is these two. -/
theorem obeys_verifyQuorum {proposed : Digest} {now : ℤ} {first second : CoalitionOperator} :
    (verifyQuorum library [first, second] request proposed now).Obeys Quiet
      (List.Forall₂ (Accepted library request now) [first, second]) := by
  rw [verifyQuorum, obeys_bind]
  refine (obeys_verifyEach _).mono fun verified hverified => ?_
  simp only [obeys_bind, obeys_throwIf, obeys_lift, obeys_pure]
  intro hquorum _ _
  have hlength : verified.length = 2 := hverified.length_eq.symm
  -- a filter that leaves as many as there were leaves them all
  have hall : verified.filter (fun entry => entry.2.isNone && entry.1.verdict.accepted) =
      verified := by
    apply List.filter_eq_self.mpr
    apply List.length_filter_eq_length_iff.mp
    apply le_antisymm (List.length_filter_le _ _)
    have hle := not_lt.mp hquorum
    rwa [List.length_map, coalitionThreshold, ← hlength] at hle
  rw [hall, List.take_of_length_le (by simp [hlength, coalitionThreshold]),
    List.forall₂_map_right_iff]
  have hnone := List.filter_eq_self.mp hall
  refine (List.forall₂_iff_get.mpr ⟨hverified.length_eq, fun n hn hn' => ?_⟩)
  obtain ⟨existing, verdict, hverify, hheld⟩ := hverified.get hn hn'
  have hentry := (Bool.and_eq_true_iff.mp (hnone _ (List.get_mem verified ⟨n, hn'⟩))).1
  rw [Option.isNone_iff_eq_none.mp hentry] at hverify
  exact ⟨existing, verdict, hverify, hheld⟩

theorem points_of_accepted {now : ℤ} {operators quorum : List CoalitionOperator}
    (h : List.Forall₂ (Accepted library request now) operators quorum) :
    quorum.map (·.point) = operators.map (·.point) := by
  induction h with
  | nil => rfl
  | cons hheld _ ih =>
      obtain ⟨_, _, -, rfl⟩ := hheld
      rw [List.map_cons, List.map_cons, ih]
      rfl

end

/-! ## The shares and the result of one call -/

section

variable {ι : Type} [DecidableEq ι] {files : CaseFiles} {library : FheLibrary} {i : ι}
  {s : Shared ι} {call : ReleaseCall} {prepared : Prepared} {request : OperatorReleaseRequestV5}
  {held : CoalitionOperator} {sofar : List (Word64 × BitVec 8)}

/-- What a request is made of: the session of the case, and a coalition of the roster. -/
structure Proper (files : CaseFiles) (request : OperatorReleaseRequestV5) : Prop where
  session : IsSession files request.descriptor.sessionCommitment
  published : ∃ manifest, files.thresholdManifest = some manifest ∧ manifest.validate = .ok () ∧
    ∀ point ∈ [request.coalition.1, request.coalition.2],
      point ∈ manifest.operators.map (·.point)

/-- One share, generated when it is its turn. -/
theorem upholds_shareFor {ciphertext : Ciphertext} {slot : BitVec 8} (h : Proper files request)
    (hturn : sofar ++ [(held.point, slot)] <+:
      shareOrder [request.coalition.1, request.coalition.2]) (hs : served i s = sofar) :
    Upholds (releaseDiscipline files) i
      (onOk fun _ t => served i t = sofar ++ [(held.point, slot)])
      (shareFor library call request held ciphertext slot) s := by
  refine upholds_lift_bind fun legacy hlegacy => upholds_lift_bind fun _ hvalid => ?_
  have hcoalition := releaseDescriptorForSlot_coalition (mapError_ok_iff.mp hlegacy)
  have hdistinct := (validateReleaseRequest_ok (mapError_ok_iff.mp hvalid)).1
  rw [hcoalition] at hdistinct
  refine upholds_ask_bind fun t ht =>
    ⟨⟨h.session, request.coalition, ⟨hdistinct, h.published⟩, ?_⟩, ?_⟩
  · rw [ht.1, hs]
    exact hturn
  · intro u hu _ _
    rw [hu.1]
    exact served_generateShare.trans (congrArg (· ++ _) (ht.1.trans hs))

/-- The two shares of one operator. -/
theorem upholds_releaseShares (h : Proper files request)
    (hturn : sofar ++ shareOrder [held.point] <+:
      shareOrder [request.coalition.1, request.coalition.2]) (hs : served i s = sofar) :
    Upholds (releaseDiscipline files) i
      (onOk fun _ t => served i t = sofar ++ shareOrder [held.point])
      (releaseShares library call request held) s := by
  have hfirst : sofar ++ [(held.point, 0)] <+:
      shareOrder [request.coalition.1, request.coalition.2] :=
    (List.prefix_append_right_inj sofar).mpr ⟨[(held.point, 1)], rfl⟩ |>.trans hturn
  have hsecond : sofar ++ [(held.point, 0)] ++ [(held.point, 1)] <+:
      shareOrder [request.coalition.1, request.coalition.2] := by
    rw [List.append_assoc]
    exact hturn
  refine upholds_lift_bind fun outputs _ => ?_
  refine (upholds_shareFor h hfirst hs).andThen fun _ t ht => ?_
  refine (upholds_shareFor h hsecond ht).andThen fun _ u hu v hv _ _ => ?_
  rw [hv.1, hu, List.append_assoc]
  rfl

/-- The shares of a list of operators. -/
theorem upholds_releaseEach (h : Proper files request) (quorum : List CoalitionOperator)
    {sofar : List (Word64 × BitVec 8)}
    (hturn : sofar ++ shareOrder (quorum.map (·.point)) <+:
      shareOrder [request.coalition.1, request.coalition.2]) (hs : served i s = sofar) :
    Upholds (releaseDiscipline files) i
      (onOk fun _ t => served i t = sofar ++ shareOrder (quorum.map (·.point)))
      (releaseEach library call request quorum) s := by
  induction quorum generalizing sofar s with
  | nil =>
      intro t ht _ _
      rw [ht.1, hs]
      exact (List.append_nil sofar).symm
  | cons held rest ih =>
      have hsplit : sofar ++ shareOrder ((held :: rest).map (·.point)) =
          sofar ++ shareOrder [held.point] ++ shareOrder (rest.map (·.point)) := by
        rw [List.append_assoc]
        rfl
      rw [hsplit] at hturn ⊢
      refine (upholds_releaseShares h ((List.prefix_append _ _).trans hturn) hs).andThen
        fun _ t ht => ?_
      refine (ih hturn ht).andThen fun _ u hu v hv _ _ => ?_
      rw [hv.1, hu]

/-- The result is created after the last share, and stays. -/
theorem upholds_createResult {value : CoalitionConflictResult} (hs : (served i s).length = 4) :
    Upholds (releaseDiscipline files) i (onOk fun _ t => t.result = some value)
      (createJSON (.result value)) s := by
  refine upholds_ask_bind fun t ht => ⟨?_, ?_⟩
  · show (served i t).length = 4
    rw [ht.1, hs]
  · intro u hu a ha
    apply hu.2
    simp only [releaseEffects, ReleaseOp.act, Shared.create] at ha ⊢
    split at ha
    · exact nomatch ha
    · next hnone => rw [if_neg hnone]

/-- **What one call does.** It generates its shares in order and reports the result. -/
theorem upholds_releaseWith {operators : List CoalitionOperator}
    (hsession : IsSession files prepared.descriptor.sessionCommitment)
    (hmanifest : files.thresholdManifest = some prepared.manifest)
    (hvalid : prepared.manifest.validate = .ok ())
    (hoperators : ∀ held ∈ operators, held.point ∈ prepared.manifest.operators.map (·.point))
    (hs : served i s = []) :
    Upholds (releaseDiscipline files) i Reports
      (releaseWith library files call prepared operators) s := by
  unfold releaseWith
  split
  · next first second rest =>
      have hproper : ∀ request : OperatorReleaseRequestV5,
          request.descriptor = prepared.descriptor →
          request.coalition = (first.point, second.point) → Proper files request := by
        intro request hdescriptor hcoalition
        refine ⟨hdescriptor ▸ hsession, prepared.manifest, hmanifest, hvalid, ?_⟩
        rw [hcoalition]
        intro point hpoint
        rcases List.mem_pair.mp hpoint with rfl | rfl
        · exact hoperators first List.mem_cons_self
        · exact hoperators second (List.mem_cons_of_mem _ List.mem_cons_self)
      refine (quiet_served obeys_verifyQuorum hs).andThen fun quorum t ⟨hturned, haccepted⟩ => ?_
      have ht := And.intro hturned (points_of_accepted haccepted)
      have hturn : [] ++ shareOrder (quorum.map (·.point)) <+:
          shareOrder [first.point, second.point] := by
        rw [ht.2]
        exact List.prefix_rfl
      refine (upholds_releaseEach (hproper _ rfl rfl) quorum hturn ht.1).andThen
        fun shares u hu => ?_
      refine upholds_lift_bind fun result _ => ?_
      have hlength : (served i u).length = 4 := by
        rw [hu, ht.2]
        rfl
      refine (upholds_createResult hlength).andThen fun _ v hv => ?_
      have hreports : Reports (.ok result) v := by
        rintro value ⟨⟩
        exact hv
      have hconsumed : ∀ value : CoalitionConsumed, Upholds (releaseDiscipline files) i
          (onOk fun _ t => Reports (.ok result) t) (createJSON (.consumed value)) v :=
        fun value =>
          have hquiet : Quiet (.create (.consumed value)) := trivial
          (quiet_reports (obeys_createJSON hquiet) hreports).mono fun _ _ hw _ _ => hw.1
      exact (hconsumed _).andThen fun _ w hw z hz value hvalue => hz.2 value (hw value hvalue)
  · exact fun t _ value hvalue => nomatch hvalue

/-- The manifest a case is released under is the published one. -/
theorem loadCoalitionThresholdManifest_ok {binding : FHECaseBinding}
    {manifest : CoalitionThresholdManifest}
    (h : loadCoalitionThresholdManifest files binding = .ok manifest) :
    files.thresholdManifest = some manifest ∧ manifest.validate = .ok () := by
  simp only [loadCoalitionThresholdManifest, bind_ok_iff, require_ok_iff, revertIf_ok_iff,
    exists_const, pure_ok_iff] at h
  obtain ⟨_, hpublished, _, hvalid, -, _, -, -, rfl⟩ := h
  exact ⟨hpublished, hvalid⟩

/-- The enrollments of a case are paired for its session. -/
theorem verifyCaseEnrollmentsV5_ok {runtime : Runtime} {binding : FHECaseBinding}
    {participants : ValidatedFreshParticipants} {now : ℤ} {enrollments : CaseEnrollmentsV5}
    (h : verifyCaseEnrollmentsV5 library files runtime binding participants now = .ok enrollments) :
    files.bindingDigest binding = .ok enrollments.paired.sessionCommitment := by
  simp only [verifyCaseEnrollmentsV5, bind_ok_iff, revertIf_ok_iff, exists_const, pure_ok_iff,
    mapError_ok_iff, not_or, not_not] at h
  obtain ⟨_, hdigest, _, -, _, -, _, -, _, -, _, -, -, ⟨hsession, -⟩, rfl⟩ := h
  rw [hdigest, hsession]

/-- What `Release` works out first is about the case and its published roster. -/
theorem prepare_ok (h : prepare library files call = .ok prepared) :
    IsSession files prepared.descriptor.sessionCommitment ∧
      files.thresholdManifest = some prepared.manifest ∧ prepared.manifest.validate = .ok () := by
  simp only [prepare, bind_ok_iff, revertIf_ok_iff, exists_const, pure_ok_iff, mapError_ok_iff] at h
  obtain ⟨binding, hbinding, -, -, manifest, hmanifest, _, -, -, _, -, _, -, -, _, -, -,
    enrollments, henrollments, _, -, -, _, -, rfl⟩ := h
  obtain ⟨hpublished, hvalid⟩ := loadCoalitionThresholdManifest_ok hmanifest
  exact ⟨⟨binding, hbinding, verifyCaseEnrollmentsV5_ok henrollments⟩, hpublished, hvalid⟩

theorem upholds_release (hs : served i s = []) :
    Upholds (releaseDiscipline files) i Reports (release library files call) s := by
  refine upholds_lift_bind fun _ _ => upholds_lift_bind fun prepared hprepared => ?_
  obtain ⟨hsession, hmanifest, hvalid⟩ := prepare_ok hprepared
  refine (quiet_served obeys_admitRelease hs).andThen fun _ t ht => ?_
  refine (quiet_served obeys_openOperators ht.1).andThen fun operators u hu => ?_
  apply Upholds.onReturn
  have hroster := fun held hheld => point_of_containsOperator (hu.2 held hheld).published
  refine (upholds_releaseWith hsession hmanifest hvalid hroster hu.1).mono fun result v hv => ?_
  apply Upholds.onReturn
  refine (quiet_reports (obeys_closeLedgers operators) hv).mono fun _ w hw => ?_
  exact fun z hz value hvalue => hz.2 value (hw.1 value hvalue)

theorem upholds_inspectRelease : Upholds (releaseDiscipline files) i Reports inspectRelease s := by
  refine upholds_ask_bind fun t _ => ⟨trivial, upholds_lift_bind fun value hvalue => ?_⟩
  have hreports : Reports (.ok value) t := by
    rintro _ ⟨⟩
    exact require_ok_iff.mp hvalue
  refine upholds_ask_bind fun u hu => ⟨trivial, upholds_lift_bind fun _ _ => ?_⟩
  intro v hv other hother
  exact hv.2 other (hu.2 other (hreports other hother))

end

end Mordant.Coalition
