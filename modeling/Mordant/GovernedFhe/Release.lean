/-
# One release of a case

However many calls are made, by however many processes, and wherever they are cut off, the
stores of a case tell one story: one recomputation, compared once, and behind it at most
one use of the secret key, one signature and one result.

A process may sign for a ciphertext that an earlier one recomputed.  Nothing but that
recomputation, found equal to what the evaluator published, lets a result be signed.
-/

import Mordant.GovernedFhe.Decryptor

namespace Mordant.GovernedFhe

open Evm Foundation
open Coalition (Digest Runtime)

/-! ## A case and its calls -/

/-- The objects that nothing but a release creates. -/
def CaseObject.released : CaseObject → Bool
  | .inl object => object = .publicResult
  | .inr .secretKey | .inr .decryptorSigningKey | .inr .privateCase => false
  | .inr _ => true

/-- A case that was opened: nothing of it was released. -/
structure OpenedCase where
  objects : Objects CaseObject Bytes
  unreleased : ∀ object, CaseObject.released object = true → objects object = none

/-- What is done on a case: a release is asked for, or one of the others publishes an
object. -/
inductive CaseCall
  | release (request : ReleaseRequest)
  | publish (object : PublicObject) (data : Bytes)

/-- The others do not publish results. -/
def caseTask {ι : Type} (library : Library) (_ : ι) :
    CaseCall → Task (Option (GovernedConflictResult × Bytes))
  | .release request => do
    let released ← release library request
    pure (some released)
  | .publish object data => do
    Program.throwIf (object = .publicResult) (thrown .store)
    let _ ← createObject library (.inl object) data (thrown .store)
    pure none

/-! ## What justifies what is done -/

/-- What is reserved to whoever created an object. -/
inductive UseKind
  | recomputation
  | decryption
  | signature
  deriving DecidableEq

def Use.kind : Use → UseKind
  | recomputed _ _ => .recomputation
  | readSecretKey _ => .decryption
  | signed _ => .signature

def UseKind.backing : UseKind → CaseObject
  | recomputation => .inr .recomputeAdmission
  | decryption => .inr .releaseAdmission
  | signature => .inr .releaseAdmission

abbrev CaseDeed (ι : Type) : Type := Deed ι CaseObject Bytes Use

section

variable {ι : Type} (library : Library) (opened : OpenedCase)

/-- An object was there when the case was opened, or was created since. -/
def Stored (history : List (CaseDeed ι)) (object : CaseObject) (data : Bytes) : Prop :=
  opened.objects object = some data ∨ ∃ i, .created i object data ∈ history

/-- A ciphertext was recomputed and found equal to the evaluator's. -/
def Confirmed (history : List (CaseDeed ι)) (ciphertext : Bytes) : Prop :=
  ∃ i, .noted i (.recomputed ciphertext ciphertext) ∈ history

/-- A result is about a ciphertext. -/
structure GovernedConflictResult.About (result : GovernedConflictResult) (ciphertext : Bytes) :
    Prop where
  digest : result.resultCiphertextDigest = library.sha256 ciphertext
  commitment : result.resultCiphertextCommitment = resultCommitment library ciphertext

/-- What justifies an object of the private store. -/
def JustifiedPrivate (history : List (CaseDeed ι)) (i : ι) (data : Bytes) : PrivateObject → Prop
  | .recomputedResult => .noted i (.recomputed data data) ∈ history
  | .recomputeMismatch =>
    ∃ result evaluator, result ≠ evaluator ∧ .noted i (.recomputed result evaluator) ∈ history
  | .recomputeVerified => ∃ ciphertext, .created i (.inr .recomputedResult) ciphertext ∈ history
  | .retainedResult => ∃ result, .noted i (.signed result) ∈ history ∧
      data = marshalCanonical library .governedResult result
  | .recomputeAdmission | .releaseAdmission | .releaseConsumed => True
  | .secretKey | .decryptorSigningKey | .privateCase => False

/-- What justifies a use. -/
def JustifiedUse (history : List (CaseDeed ι)) (i : ι) : Use → Prop
  | .recomputed _ evaluator => (∃ data, .created i (.inr .recomputeAdmission) data ∈ history) ∧
      Stored opened history (.inl .resultCiphertext) evaluator
  | .readSecretKey _ => ∃ data, .created i (.inr .releaseAdmission) data ∈ history
  | .signed result => (∃ data, .created i (.inr .releaseAdmission) data ∈ history) ∧
      ∃ ciphertext, Confirmed history ciphertext ∧ result.About library ciphertext

/-- What justifies what is done on a case. -/
def Justified (history : List (CaseDeed ι)) : CaseDeed ι → Prop
  | .created _ (.inl object) data => object = .publicResult →
      ∃ i, .created i (.inr .retainedResult) data ∈ history
  | .created i (.inr object) data => JustifiedPrivate library history i data object
  | .noted i use => JustifiedUse library opened history i use

variable {library opened} {history history' : List (CaseDeed ι)} {deed : CaseDeed ι}

theorem Stored.mono {object : CaseObject} {data : Bytes} (hsub : history ⊆ history')
    (h : Stored opened history object data) : Stored opened history' object data :=
  h.imp_right fun ⟨i, hmem⟩ => ⟨i, hsub hmem⟩

theorem Confirmed.mono {ciphertext : Bytes} (hsub : history ⊆ history')
    (h : Confirmed history ciphertext) : Confirmed history' ciphertext :=
  h.imp fun _ hmem => hsub hmem

theorem JustifiedPrivate.mono {i : ι} {data : Bytes} {object : PrivateObject}
    (hsub : history ⊆ history') (h : JustifiedPrivate library history i data object) :
    JustifiedPrivate library history' i data object := by
  cases object with
  | recomputedResult => exact hsub h
  | recomputeMismatch =>
      obtain ⟨result, evaluator, hne, hmem⟩ := h
      exact ⟨result, evaluator, hne, hsub hmem⟩
  | recomputeVerified => exact h.imp fun _ hmem => hsub hmem
  | retainedResult => exact h.imp fun _ hmem => ⟨hsub hmem.1, hmem.2⟩
  | recomputeAdmission | releaseAdmission | releaseConsumed => exact trivial
  | secretKey | decryptorSigningKey | privateCase => exact h

theorem JustifiedUse.mono {i : ι} {use : Use} (hsub : history ⊆ history')
    (h : JustifiedUse library opened history i use) :
    JustifiedUse library opened history' i use := by
  cases use with
  | recomputed result evaluator => exact ⟨h.1.imp fun _ hmem => hsub hmem, h.2.mono hsub⟩
  | readSecretKey secretKey => exact h.imp fun _ hmem => hsub hmem
  | signed result =>
      obtain ⟨hadmitted, ciphertext, hconfirmed, habout⟩ := h
      exact ⟨hadmitted.imp fun _ hmem => hsub hmem, ciphertext, hconfirmed.mono hsub, habout⟩

variable (library opened)

/-- What may be done on a case. -/
def caseCharter (ι : Type) : Charter ι CaseObject Bytes Use UseKind where
  initial := opened.objects
  kind := Use.kind
  backing := UseKind.backing
  Justified := Justified library opened
  mono {history history' deed} hsub h := by
    cases deed with
    | created i object data =>
        cases object with
        | inl object => exact fun hresult => (h hresult).imp fun _ hmem => hsub hmem
        | inr object => exact JustifiedPrivate.mono hsub h
    | noted i use => exact JustifiedUse.mono hsub h
  backed {history i use} h := by
    cases use with
    | recomputed result evaluator => exact h.1
    | readSecretKey secretKey => exact h
    | signed result => exact h.1

end

/-! ## What the loaders find -/

section

variable {library : Library} {object : Option Bytes} {manifest : FHECaseManifest}
  {artifact : EvaluatedConflictArtifact} {artifactDigest : Digest}

theorem readNamed_ok {name : String} {maximum : ℕ} {data : Bytes} {ref : ObjectRef}
    (h : readNamed library name object maximum = .ok (data, ref)) :
    object = some data ∧ ref = ⟨name, library.sha256 data, data.length⟩ := by
  simp only [readNamed, bind_ok_iff, require_ok_iff, revertIf_ok_iff, exists_const,
    pure_ok_iff, Prod.mk.injEq] at h
  obtain ⟨found, rfl, -, rfl, rfl⟩ := h
  exact ⟨rfl, rfl⟩

theorem read_ok {ref : ObjectRef} {maximum : ℕ} {data : Bytes}
    (h : read library ref object maximum = .ok data) :
    object = some data ∧ ref.digest = library.sha256 data := by
  simp only [read, bind_ok_iff, exists_const, revertIf_ok_iff, pure_ok_iff] at h
  obtain ⟨-, -, ⟨found, actual⟩, hread, -, hdigest, rfl⟩ := h
  obtain ⟨hobject, rfl⟩ := readNamed_ok hread
  exact ⟨hobject, (not_not.mp hdigest).symm⟩

theorem readJSON_ok {document : Document} {value : document.Value} {data : Bytes}
    (h : readJSON library document object = .ok (value, data)) :
    object = some data := by
  simp only [readJSON, bind_ok_iff, pure_ok_iff, Prod.mk.injEq] at h
  obtain ⟨⟨found, ref⟩, hread, decoded, -, -, rfl⟩ := h
  exact (readNamed_ok hread).1

theorem mapError_ok {ε ε' α : Type} {check : Except ε α} {wrap : ε → ε'} {a : α}
    (h : check.mapError wrap = .ok a) : check = .ok a := mapError_ok_iff.mp h

theorem loadEvaluatedArtifact_ok {seen : PublicObject → Option Bytes} {resultBytes : Bytes}
    (h : loadEvaluatedArtifact library seen manifest =
      .ok (artifact, resultBytes, artifactDigest)) :
    seen .resultCiphertext = some resultBytes := by
  simp only [loadEvaluatedArtifact, bind_ok_iff, pure_ok_iff, Prod.mk.injEq] at h
  obtain ⟨⟨found, bytes⟩, -, result, hvalid, rfl, rfl, -⟩ := h
  simp only [validateEvaluatedArtifact, bind_ok_iff, exists_const, revertIf_ok_iff,
    mapError_ok_iff, pure_ok_iff, Prod.exists] at hvalid
  obtain ⟨-, _, -, _, -, data, hread, -, _, _, -, -, _, _, -, -, rfl⟩ := hvalid
  exact (read_ok hread).1

/-- A recomputation that is loaded is the object that holds it. -/
theorem checkVerifiedRecomputation_ok {seen : Objects CaseObject Bytes} {ciphertext : Bytes}
    {verified : RecomputeVerified}
    (h : checkVerifiedRecomputation library manifest artifact artifactDigest seen =
      .ok (ciphertext, verified)) :
    seen (.inr .recomputedResult) = some ciphertext ∧
      verified.recomputedResultCiphertext.digest = library.sha256 ciphertext ∧
      verified.resultCiphertextCommitment = resultCommitment library ciphertext := by
  simp only [checkVerifiedRecomputation, bind_ok_iff, exists_const, revertIf_ok_iff, pure_ok_iff,
    Prod.exists, Prod.mk.injEq] at h
  obtain ⟨_, _, -, _, -, found, _, -, -, data, hread, hcommitment, rfl, rfl⟩ := h
  obtain ⟨hobject, hdigest⟩ := read_ok hread
  exact ⟨hobject, hdigest, (not_not.mp hcommitment).symm⟩

theorem checkRetained_ok {seen : Objects CaseObject Bytes} {authority : ReleaseAuthorityManifest}
    {result : GovernedConflictResult} {retainedBytes : Bytes}
    (h : checkRetained library manifest artifact authority artifactDigest seen =
      .ok (result, retainedBytes)) :
    seen (.inr .retainedResult) = some retainedBytes := by
  simp only [checkRetained, bind_ok_iff, exists_const, revertIf_ok_iff, pure_ok_iff, Prod.exists,
    Prod.mk.injEq] at h
  obtain ⟨found, data, hread, _, _, -, _, -, -, rfl, rfl⟩ := h
  exact readJSON_ok hread

end

/-! ## What a call knows -/

section

variable {ι : Type} [DecidableEq ι] {library : Library} {opened : OpenedCase} {i : ι}
  {mine : List (CaseDeed ι)} {w : Archive ι CaseObject Bytes Use} {α β : Type}
  {R : β → Archive ι CaseObject Bytes Use → Prop} {object : CaseObject} {refusal : Thrown}
  {data evaluatorResultBytes : Bytes} {manifest : FHECaseManifest}
  {artifact : EvaluatedConflictArtifact} {artifactDigest : Digest} {now : ℤ}
  {request : ReleaseRequest}

/-- A task of a party keeps to the charter of the case. -/
abbrev Keeps (library : Library) (opened : OpenedCase) (i : ι)
    (R : β → Archive ι CaseObject Bytes Use → Prop) (task : Task β)
    (w : Archive ι CaseObject Bytes Use) : Prop :=
  Upholds (caseCharter library opened ι).discipline i (onOk R) task w

theorem keeps_loading_bind {load : Objects CaseObject Bytes → Except Thrown α} {f : α → Task β}
    (hat : (caseCharter library opened ι).At i mine w)
    (h : ∀ t seen a, w.Later t → (caseCharter library opened ι).At i mine t →
      seen.Extends t.objects → load seen = .ok a → Keeps library opened i R (f a) t) :
    Keeps library opened i R (loading load >>= f) w := by
  apply upholds_look_bind hat
  intro t seen hlater hat hseen
  exact upholds_lift_bind fun a ha => h t seen a hlater hat hseen ha

theorem keeps_present_bind {f : Bool → Task β} (hat : (caseCharter library opened ι).At i mine w)
    (h : ∀ t found, w.Later t → (caseCharter library opened ι).At i mine t →
      Keeps library opened i R (f found) t) :
    Keeps library opened i R (present object >>= f) w := by
  apply upholds_look_bind hat
  intro t seen hlater hat _
  exact h t _ hlater hat

omit [DecidableEq ι] in
theorem keeps_throwIf_bind {p : Prop} [Decidable p] {f : Unit → Task β}
    (h : ¬ p → Keeps library opened i R (f ()) w) :
    Keeps library opened i R (Program.throwIf p refusal >>= f) w := upholds_throwIf_bind h

/-- A task goes on only where its object was created. -/
theorem keeps_createObject_bind {f : ObjectRef → Task β}
    (hat : (caseCharter library opened ι).At i mine w)
    (hjustified : ∀ t, w.Later t → (caseCharter library opened ι).At i mine t →
      Justified library opened t.history (.created i object data)) (h : ∀ t, w.Later t →
      (caseCharter library opened ι).At i (.created i object data :: mine) t →
      Keeps library opened i R (f ⟨object.name, library.sha256 data, data.length⟩) t) :
    Keeps library opened i R (createObject library object data refusal >>= f) w := by
  simp only [createObject, Program.bind_assoc]
  apply keeps_throwIf_bind
  intro _
  apply upholds_create_bind hat hjustified
  · intro t hlater hat
    exact h t hlater hat
  · intro t _ _
    exact fun u _ a ha => nomatch ha

theorem keeps_createJSON_bind {document : Document} {value : document.Value} {f : Bytes → Task β}
    (hat : (caseCharter library opened ι).At i mine w)
    (hjustified : ∀ t, w.Later t → (caseCharter library opened ι).At i mine t →
      Justified library opened t.history
        (.created i object (marshalCanonical library document value)))
    (h : ∀ t, w.Later t → (caseCharter library opened ι).At i
        (.created i object (marshalCanonical library document value) :: mine) t →
      Keeps library opened i R (f (marshalCanonical library document value)) t) :
    Keeps library opened i R (createJSON library object document value refusal >>= f) w := by
  rw [createJSON, Program.bind_assoc]
  exact keeps_createObject_bind hat hjustified h

theorem keeps_loading {load : Objects CaseObject Bytes → Except Thrown β}
    (hat : (caseCharter library opened ι).At i mine w)
    (h : ∀ t seen b, w.Later t → (caseCharter library opened ι).At i mine t →
      seen.Extends t.objects → load seen = .ok b → R b t) :
    Keeps library opened i R (loading load) w := by
  apply upholds_look_bind hat
  intro t seen hlater hat hseen u hrely b hb
  exact h u seen b (hlater.trans hrely.later) (hat.rely hrely) (hseen.trans hrely.later.objects) hb

/-- What a call has done before a release is admitted: it took note of a recomputation, if
of anything. -/
def Unreleased (mine : List (CaseDeed ι)) : Prop :=
  ∀ j use, .noted j use ∈ mine → use.kind = .recomputation

omit [DecidableEq ι] in
theorem Unreleased.nil : Unreleased ([] : List (CaseDeed ι)) := fun _ _ h => nomatch h

omit [DecidableEq ι] in
theorem Unreleased.created (h : Unreleased mine) :
    Unreleased (.created i object data :: mine) :=
  fun j use hmem => h j use ((List.mem_cons.mp hmem).resolve_left nofun)

/-- What is prepared for a release: a ciphertext that was recomputed and found equal to the
evaluator's, and what was verified of it. -/
structure Prepared (library : Library) (history : List (CaseDeed ι))
    (prepared : Bytes × RecomputeVerified) : Prop where
  confirmed : Confirmed history prepared.1
  digest : prepared.2.recomputedResultCiphertext.digest = library.sha256 prepared.1
  commitment : prepared.2.resultCiphertextCommitment = resultCommitment library prepared.1

/-- Where a call stands that has prepared a release. -/
def AtPrepared (library : Library) (opened : OpenedCase) (i : ι)
    (prepared : Bytes × RecomputeVerified) (t : Archive ι CaseObject Bytes Use) : Prop :=
  Prepared library t.history prepared ∧
    ∃ mine, (caseCharter library opened ι).At i mine t ∧ Unreleased mine

omit [DecidableEq ι] in
/-- An object that a release creates was created by one. -/
theorem created_of_present (hsound : w.Sound (caseCharter library opened ι))
    (hreleased : object.released = true)
    (hdata : w.objects object = some data) : ∃ j, .created j object data ∈ w.history :=
  hsound.created hdata (opened.unreleased object hreleased)

omit [DecidableEq ι] in
/-- A recomputed ciphertext that is in the private store was confirmed. -/
theorem confirmed_of_present {ciphertext : Bytes}
    (hsound : w.Sound (caseCharter library opened ι))
    (hdata : w.objects (.inr .recomputedResult) = some ciphertext) :
    Confirmed w.history ciphertext := by
  obtain ⟨j, hcreated⟩ := created_of_present hsound rfl hdata
  exact ⟨j, hsound.justified hcreated⟩

theorem keeps_loadVerifiedRecomputation (hat : (caseCharter library opened ι).At i mine w)
    (hmine : Unreleased mine) :
    Keeps library opened i (AtPrepared library opened i)
      (loadVerifiedRecomputation library manifest artifact artifactDigest) w := by
  apply keeps_loading hat
  rintro t seen ⟨ciphertext, verified⟩ - hat hseen hload
  obtain ⟨hobject, hdigest, hcommitment⟩ := checkVerifiedRecomputation_ok (mapError_ok hload)
  exact ⟨⟨confirmed_of_present hat.sound (hseen _ _ hobject), hdigest, hcommitment⟩, mine, hat,
    hmine⟩

theorem keeps_recompute {participants : ValidatedFreshParticipants}
    (hat : (caseCharter library opened ι).At i [.created i (.inr .recomputeAdmission) data] w)
    (hevaluator : w.objects (.inl .resultCiphertext) = some evaluatorResultBytes) :
    Keeps library opened i (AtPrepared library opened i)
      (recompute library manifest artifact evaluatorResultBytes artifactDigest participants now)
      w := by
  apply keeps_loading_bind hat
  intro t _ runtime hlater hat _ _
  replace hevaluator := hlater.objects _ _ hevaluator
  apply keeps_throwIf_bind
  intro _
  apply keeps_loading_bind hat
  rintro t _ ⟨recordA, recordB⟩ hlater hat - -
  replace hevaluator := hlater.objects _ _ hevaluator
  refine upholds_lift_bind fun _ _ => upholds_lift_bind fun receivableA _ =>
    upholds_lift_bind fun receivableB _ => upholds_lift_bind fun recomputedBytes _ => ?_
  apply upholds_note_bind hat
  · intro t hlater hat
    refine ⟨⟨data, hat.mem (List.mem_singleton_self _)⟩, ?_⟩
    exact hat.sound.stored.mp (hlater.objects _ _ hevaluator)
  · intro other _ hmem
    exact nomatch List.mem_singleton.mp hmem
  intro t _ hat
  by_cases hequal : recomputedBytes = evaluatorResultBytes
  · subst hequal
    rw [if_neg (not_not.mpr rfl)]
    apply keeps_createObject_bind hat
    · intro t _ hat
      exact hat.mem List.mem_cons_self
    intro t _ hat
    apply keeps_createJSON_bind hat
    · intro t _ hat
      exact ⟨recomputedBytes, hat.mem List.mem_cons_self⟩
    intro t _ hat
    refine upholds_pure hat fun t _ hat => ?_
    refine ⟨⟨⟨i, hat.mem ?_⟩, rfl, rfl⟩, _, hat, ?_⟩
    · exact List.mem_cons_of_mem _ (List.mem_cons_of_mem _ List.mem_cons_self)
    · intro j use hmem
      simp only [List.mem_cons, reduceCtorEq, Deed.noted.injEq, false_or, List.not_mem_nil,
        or_false] at hmem
      obtain ⟨-, rfl⟩ := hmem
      rfl
  · rw [if_pos hequal]
    apply keeps_createJSON_bind hat
    · intro t _ hat
      exact ⟨recomputedBytes, evaluatorResultBytes, hequal, hat.mem List.mem_cons_self⟩
    intro t _ _
    exact fun u _ a ha => nomatch ha

theorem keeps_admitRecomputation {participants : ValidatedFreshParticipants}
    (hat : (caseCharter library opened ι).At i [] w)
    (hevaluator : w.objects (.inl .resultCiphertext) = some evaluatorResultBytes) :
    Keeps library opened i (AtPrepared library opened i)
      (admitRecomputation library manifest artifact evaluatorResultBytes artifactDigest
        participants now) w := by
  apply keeps_present_bind hat
  intro t _ hlater hat
  replace hevaluator := hlater.objects _ _ hevaluator
  refine keeps_throwIf_bind fun _ => keeps_throwIf_bind fun _ => ?_
  apply upholds_permit_bind hat
  intro t _ hlater hat
  replace hevaluator := hlater.objects _ _ hevaluator
  apply keeps_throwIf_bind
  intro _
  apply keeps_present_bind hat
  intro t _ hlater hat
  replace hevaluator := hlater.objects _ _ hevaluator
  apply keeps_throwIf_bind
  intro _
  apply keeps_present_bind hat
  intro t _ hlater hat
  replace hevaluator := hlater.objects _ _ hevaluator
  apply keeps_throwIf_bind
  intro _
  apply keeps_present_bind hat
  intro t _ hlater hat
  replace hevaluator := hlater.objects _ _ hevaluator
  apply keeps_throwIf_bind
  intro _
  apply keeps_createJSON_bind hat
  · intro t _ _
    exact trivial
  intro t hlater hat
  exact keeps_recompute hat (hlater.objects _ _ hevaluator)

theorem keeps_prepareVerifiedRecomputation (hat : (caseCharter library opened ι).At i [] w)
    (hevaluator : w.objects (.inl .resultCiphertext) = some evaluatorResultBytes) :
    Keeps library opened i (AtPrepared library opened i)
      (prepareVerifiedRecomputation library manifest artifact evaluatorResultBytes artifactDigest
        now) w := by
  apply keeps_loading_bind hat
  intro t _ participants hlater hat _ _
  replace hevaluator := hlater.objects _ _ hevaluator
  apply keeps_throwIf_bind
  intro _
  apply keeps_present_bind hat
  intro t _ hlater hat
  replace hevaluator := hlater.objects _ _ hevaluator
  apply keeps_throwIf_bind
  intro _
  apply keeps_present_bind hat
  intro t verified hlater hat
  replace hevaluator := hlater.objects _ _ hevaluator
  cases verified with
  | true => exact keeps_loadVerifiedRecomputation hat .nil
  | false => exact keeps_admitRecomputation hat hevaluator

/-- Where a call stands that has signed a result. -/
def AtSigned (library : Library) (opened : OpenedCase) (i : ι) (result : GovernedConflictResult)
    (t : Archive ι CaseObject Bytes Use) : Prop :=
  ∃ mine, (caseCharter library opened ι).At i mine t ∧ .noted i (.signed result) ∈ mine

theorem keeps_decryptAndSign {verifiedCase : VerifiedCase} {prepared : Bytes × RecomputeVerified}
    (hat : (caseCharter library opened ι).At i mine w) (hmine : Unreleased mine)
    (hadmitted : .created i (.inr .releaseAdmission) data ∈ mine)
    (hprepared : Prepared library w.history prepared) :
    Keeps library opened i (AtSigned library opened i)
      (decryptAndSign library request verifiedCase prepared.1 prepared.2) w := by
  apply keeps_loading_bind hat
  intro t _ privateCase hlater hat _ _
  have hconfirmed := hprepared.confirmed.mono hlater.subset
  apply keeps_loading_bind hat
  rintro t _ ⟨params, publicKey⟩ hlater hat - -
  replace hconfirmed := hconfirmed.mono hlater.subset
  apply keeps_loading_bind hat
  intro t _ secretBytes hlater hat _ _
  replace hconfirmed := hconfirmed.mono hlater.subset
  apply upholds_note_bind hat
  · intro t _ hat
    exact ⟨data, hat.mem hadmitted⟩
  · intro other hkind hmem
    exact nomatch (hmine i other hmem).symm.trans hkind
  intro t hlater hat
  replace hconfirmed := hconfirmed.mono hlater.subset
  apply keeps_throwIf_bind
  intro _
  refine upholds_lift_bind fun conflict _ => ?_
  apply keeps_loading_bind hat
  intro t _ signingBytes hlater hat _ _
  replace hconfirmed := hconfirmed.mono hlater.subset
  apply keeps_throwIf_bind
  intro _
  refine upholds_lift_bind fun signature _ => ?_
  apply upholds_note_bind hat
  · intro t hlater hat
    refine ⟨⟨data, hat.mem (List.mem_cons_of_mem _ hadmitted)⟩, prepared.1, ?_, ?_⟩
    · exact hconfirmed.mono hlater.subset
    · exact ⟨hprepared.digest, hprepared.commitment⟩
  · intro other hkind hmem
    rcases List.mem_cons.mp hmem with heq | hmem
    · obtain ⟨-, rfl⟩ := Deed.noted.inj heq
      exact nomatch hkind
    · exact nomatch (hmine i other hmem).symm.trans hkind
  intro t _ hat
  exact upholds_pure hat fun u _ hat => ⟨_, hat, List.mem_cons_self⟩

/-- A result that is returned is the one that is retained and published. -/
structure Returned (released : GovernedConflictResult × Bytes)
    (t : Archive ι CaseObject Bytes Use) : Prop where
  retained : t.objects (.inr .retainedResult) = some released.2
  published : t.objects (.inl .publicResult) = some released.2

theorem keeps_firstRelease {verifiedCase : VerifiedCase}
    (hat : (caseCharter library opened ι).At i [] w)
    (hevaluator : w.objects (.inl .resultCiphertext) = some verifiedCase.resultBytes) :
    Keeps library opened i Returned (firstRelease library request verifiedCase) w := by
  apply keeps_present_bind hat
  intro t _ hlater hat
  replace hevaluator := hlater.objects _ _ hevaluator
  apply keeps_throwIf_bind
  intro _
  apply keeps_present_bind hat
  intro t _ hlater hat
  replace hevaluator := hlater.objects _ _ hevaluator
  apply keeps_throwIf_bind
  intro _
  refine (keeps_prepareVerifiedRecomputation hat hevaluator).andThen ?_
  rintro prepared t ⟨hprepared, mine, hat, hmine⟩
  apply keeps_createJSON_bind hat
  · intro t _ _
    exact trivial
  intro t hlater hat
  have hprepared : Prepared library t.history prepared :=
    ⟨hprepared.confirmed.mono hlater.subset, hprepared.digest, hprepared.commitment⟩
  refine (keeps_decryptAndSign hat hmine.created List.mem_cons_self hprepared).andThen ?_
  rintro result t ⟨mine, hat, hsigned⟩
  apply keeps_createJSON_bind hat
  · intro t _ hat
    exact ⟨result, hat.mem hsigned, rfl⟩
  intro t _ hat
  apply keeps_createObject_bind hat
  · intro t _ hat _
    exact ⟨i, hat.mem List.mem_cons_self⟩
  intro t _ hat
  apply keeps_createJSON_bind hat
  · intro t _ _
    exact trivial
  intro t _ hat
  refine upholds_pure hat fun t _ hat => ?_
  have hpublished := hat.mem (List.mem_cons_of_mem _ List.mem_cons_self)
  have hretained := hat.mem (List.mem_cons_of_mem _ (List.mem_cons_of_mem _ List.mem_cons_self))
  exact ⟨hat.sound.there hretained, hat.sound.there hpublished⟩

theorem keeps_publishRetained {retainedBytes : Bytes}
    (hat : (caseCharter library opened ι).At i mine w)
    (hretained : w.objects (.inr .retainedResult) = some retainedBytes) :
    Keeps library opened i (fun _ t => w.Later t ∧
        t.objects (.inl .publicResult) = some retainedBytes ∧
        ∃ mine, (caseCharter library opened ι).At i mine t)
      (publishRetained library retainedBytes) w := by
  apply keeps_present_bind hat
  intro t published hlater hat
  cases published with
  | true =>
      apply keeps_loading_bind hat
      rintro u seen ⟨publicBytes, ref⟩ hlater' hat hseen hload
      have hobject := (readNamed_ok (mapError_ok hload)).1
      intro v hrely _ hequal
      obtain rfl := not_not.mp (revertIf_ok_iff.mp hequal)
      have hat := hat.rely hrely
      refine ⟨hlater.trans (hlater'.trans hrely.later), ?_, mine, hat⟩
      exact hrely.later.objects _ _ (hseen _ _ hobject)
  | false =>
      apply keeps_createObject_bind hat
      · intro u hlater' hat _
        exact created_of_present hat.sound rfl
          (hlater'.objects _ _ (hlater.objects _ _ hretained))
      intro u hlater' hat
      refine upholds_pure hat fun v hlater'' hat => ?_
      refine ⟨hlater.trans (hlater'.trans hlater''), ?_, _, hat⟩
      exact hat.sound.there (hat.mem List.mem_cons_self)

theorem keeps_consumeRetained {result : GovernedConflictResult}
    (hat : (caseCharter library opened ι).At i mine w) :
    Keeps library opened i (fun _ t => w.Later t ∧
        ∃ mine, (caseCharter library opened ι).At i mine t)
      (consumeRetained library result artifactDigest now) w := by
  apply keeps_present_bind hat
  intro t consumed hlater hat
  cases consumed with
  | true =>
      apply keeps_loading_bind hat
      rintro u _ ⟨found, data⟩ hlater' hat - -
      intro v hrely _ _
      exact ⟨hlater.trans (hlater'.trans hrely.later), mine, hat.rely hrely⟩
  | false =>
      apply keeps_createJSON_bind hat
      · intro u _ _
        exact trivial
      intro u hlater' hat
      refine upholds_pure hat fun v hlater'' hat => ?_
      exact ⟨hlater.trans (hlater'.trans hlater''), _, hat⟩

theorem keeps_exactRetry {authority : ReleaseAuthorityManifest}
    (hat : (caseCharter library opened ι).At i mine w) :
    Keeps library opened i Returned
      (exactRetry library manifest artifact artifactDigest authority now) w := by
  apply keeps_loading_bind hat
  rintro t seen ⟨result, retainedBytes⟩ - hat hseen hload
  have hretained := hseen _ _ (checkRetained_ok (mapError_ok hload))
  apply keeps_loading_bind hat
  intro t _ _ hlater hat _ _
  replace hretained := hlater.objects _ _ hretained
  refine (keeps_publishRetained hat hretained).andThen ?_
  rintro - t ⟨hlater, hpublished, mine, hat⟩
  replace hretained := hlater.objects _ _ hretained
  refine (keeps_consumeRetained hat).andThen ?_
  rintro - t ⟨hlater, mine, hat⟩
  refine upholds_pure hat fun u hlater' _ => ?_
  exact ⟨hlater'.objects _ _ (hlater.objects _ _ hretained),
    hlater'.objects _ _ (hlater.objects _ _ hpublished)⟩

theorem keeps_verifyPublicCase (hat : (caseCharter library opened ι).At i mine w) :
    Keeps library opened i (fun verifiedCase t => (caseCharter library opened ι).At i mine t ∧
        t.objects (.inl .resultCiphertext) = some verifiedCase.resultBytes)
      (verifyPublicCase library request) w := by
  apply keeps_loading_bind hat
  intro t _ manifest _ hat _ _
  apply keeps_throwIf_bind
  intro _
  apply keeps_loading_bind hat
  rintro t seen ⟨artifact, resultBytes, artifactDigest⟩ - hat hseen hload
  have hresult := hseen _ _ (loadEvaluatedArtifact_ok (mapError_ok hload))
  apply keeps_throwIf_bind
  intro _
  apply keeps_loading_bind hat
  intro t _ authority hlater hat _ _
  apply keeps_throwIf_bind
  intro _
  refine upholds_pure hat fun u hlater' hat => ?_
  exact ⟨hat, hlater'.objects _ _ (hlater.objects _ _ hresult)⟩

theorem keeps_release (hat : (caseCharter library opened ι).At i [] w) :
    Keeps library opened i Returned (release library request) w := by
  refine (keeps_verifyPublicCase hat).andThen ?_
  rintro verifiedCase t ⟨hat, hevaluator⟩
  apply keeps_present_bind hat
  intro t retained hlater hat
  cases retained with
  | true => exact keeps_exactRetry hat
  | false => exact keeps_firstRelease hat (hlater.objects _ _ hevaluator)

/-- What a call leaves: where a release returns, its result is retained and published. -/
def CallLeaves (_ : ι) :
    Except Thrown (Option (GovernedConflictResult × Bytes)) → Archive ι CaseObject Bytes Use →
      Prop :=
  onOk fun released t => ∀ result, released = some result → Returned result t

theorem keeps_caseTask (call : CaseCall) (hat : (caseCharter library opened ι).At i [] w) :
    Upholds (caseCharter library opened ι).discipline i (CallLeaves i) (caseTask library i call)
      w := by
  cases call with
  | release request =>
      refine (keeps_release hat).andThen ?_
      rintro released t hreturned u hrely _ ha result hresult
      obtain rfl := Except.ok.inj ha
      obtain rfl := Option.some.inj hresult
      exact ⟨hrely.later.objects _ _ hreturned.retained,
        hrely.later.objects _ _ hreturned.published⟩
  | publish object data =>
      refine keeps_throwIf_bind fun hobject => ?_
      apply keeps_createObject_bind hat
      · intro t _ _ hresult
        exact (hobject hresult).elim
      intro t _ hat
      exact upholds_pure hat fun _ _ _ _ h => nomatch h

end

/-! ## Whole runs -/

section

variable {ι : Type} [DecidableEq ι] {library : Library} {opened : OpenedCase}

/-- The stores of a case and its calls. -/
abbrev CasePool (ι : Type) : Type :=
  Pool ι (Archive ι CaseObject Bytes Use) (ArchiveOp CaseObject Bytes Use) ArchiveOp.Answer Thrown
    (Option (GovernedConflictResult × Bytes))

/-- Before any call. -/
def OpenedCase.start (opened : OpenedCase) (trouble : ℕ → Trouble CaseObject) : CasePool ι :=
  ⟨{ objects := opened.objects, trouble }, fun _ => .idle⟩

/-- Calls start, go on and are cut off in any order. -/
def caseRun (library : Library) (pool : CasePool ι) (moves : List (Move ι CaseCall)) :
    Except Unscheduled (CasePool ι) :=
  run (Pool.exec (archiveEffects ι CaseObject Bytes Use) (caseTask library)) pool moves

/-- What a call has returned, if it is a release that succeeded. -/
def Pool.released (pool : CasePool ι) (i : ι) : Option (GovernedConflictResult × Bytes) :=
  match pool.thread i with
  | .active (.ret (.ok released)) => released
  | _ => none

/-- What a deed uses. -/
def uses (kind : UseKind) (deed : CaseDeed ι) : Bool :=
  match deed with
  | .created _ _ _ => false
  | .noted _ use => use.kind = kind

/-- The uses of one kind, newest first. -/
def Archive.uses (w : Archive ι CaseObject Bytes Use) (kind : UseKind) : List (CaseDeed ι) :=
  w.history.filter (GovernedFhe.uses kind)

/-- What holds of a case at any time, and between two times. -/
structure ReleasedOnce (library : Library) (before after : CasePool ι) : Prop where
  /-- There is at most one recomputation, one use of the secret key and one signature. -/
  once : ∀ kind, (Archive.uses after.state kind).length ≤ 1
  /-- What is returned is what is retained and what is published. -/
  returned : ∀ {i released}, Pool.released after i = some released →
    after.state.objects (.inr .retainedResult) = some released.2 ∧
      after.state.objects (.inl .publicResult) = some released.2
  /-- What is published is what is retained. -/
  published : ∀ {data}, after.state.objects (.inl .publicResult) = some data →
    after.state.objects (.inr .retainedResult) = some data
  /-- A result is signed for a ciphertext that was recomputed before, by this call or an
  earlier one, and is the evaluator's. -/
  confirmed : ∀ {i result later earlier},
    after.state.history = later ++ .noted i (.signed result) :: earlier →
      ∃ ciphertext, Confirmed earlier ciphertext ∧ result.About library ciphertext ∧
        after.state.objects (.inl .resultCiphertext) = some ciphertext
  /-- After a mismatch nothing is signed and no call succeeds. -/
  mismatch : ∀ {i result evaluator}, .noted i (.recomputed result evaluator) ∈ after.state.history →
    result ≠ evaluator → Archive.uses after.state .signature = [] ∧
      ∀ j, Pool.released after j = none
  /-- Once a result is retained it stays, and nothing is signed any more. -/
  retained : ∀ {data}, before.state.objects (.inr .retainedResult) = some data →
    after.state.objects (.inr .retainedResult) = some data ∧
      Archive.uses after.state .signature = Archive.uses before.state .signature

variable {w w' : Archive ι CaseObject Bytes Use}

omit [DecidableEq ι] in
theorem uses_iff {kind : UseKind} {deed : CaseDeed ι} :
    uses kind deed = true ↔ (caseCharter library opened ι).claim deed = some (.inr kind) := by
  cases deed with
  | created i object data => exact ⟨nofun, fun h => nomatch Option.some.inj h⟩
  | noted i use =>
      refine decide_eq_true_iff.trans ⟨fun h => ?_, fun h => Sum.inr.inj (Option.some.inj h)⟩
      rw [Charter.claim, ← h]
      rfl

omit [DecidableEq ι] in
theorem length_uses_le (hsound : w.Sound (caseCharter library opened ι)) (kind : UseKind) :
    (Archive.uses w kind).length ≤ 1 := by
  have hle := hsound.claimed.length_filter_le (.inr kind)
  have heq : w.history.filter (uses kind) = w.history.filter fun deed =>
      (caseCharter library opened ι).claim deed = some (.inr kind) :=
    List.filter_congr fun deed _ => Bool.eq_iff_iff.mpr (uses_iff.trans decide_eq_true_iff.symm)
  rw [Archive.uses, heq]
  exact hle

omit [DecidableEq ι] in
/-- A use that was made is the only one of its kind, for good. -/
theorem uses_eq_of_later (hsound : w'.Sound (caseCharter library opened ι)) (hlater : w.Later w')
    {kind : UseKind} (hused : Archive.uses w kind ≠ []) :
    Archive.uses w' kind = Archive.uses w kind := by
  obtain ⟨deeds, heq⟩ := hlater.history
  have hle := length_uses_le hsound kind
  rw [Archive.uses, heq, List.filter_append] at hle ⊢
  rw [List.length_append] at hle
  have hpos := List.length_pos_iff.mpr hused
  have hnone : (deeds.filter (uses kind)).length = 0 := by
    change _ + (Archive.uses w kind).length ≤ 1 at hle
    omega
  rw [List.eq_nil_of_length_eq_zero hnone, List.nil_append, Archive.uses]

omit [DecidableEq ι] in
theorem exists_signed (hused : Archive.uses w .signature ≠ []) :
    ∃ i result, .noted i (.signed result) ∈ w.history := by
  obtain ⟨deed, hmem⟩ := List.exists_mem_of_ne_nil _ hused
  obtain ⟨hmem, huse⟩ := List.mem_filter.mp hmem
  cases deed with
  | created i object data => exact nomatch huse
  | noted i use =>
      cases use with
      | recomputed result evaluator => exact (Bool.false_ne_true huse).elim
      | readSecretKey secretKey => exact (Bool.false_ne_true huse).elim
      | signed result => exact ⟨i, result, hmem⟩

omit [DecidableEq ι] in
/-- What is retained was signed. -/
theorem signed_of_retained (hsound : w.Sound (caseCharter library opened ι)) {data : Bytes}
    (hretained : w.objects (.inr .retainedResult) = some data) :
    ∃ i result, .noted i (.signed result) ∈ w.history := by
  obtain ⟨i, hcreated⟩ := created_of_present hsound rfl hretained
  obtain ⟨result, hsigned, -⟩ := hsound.justified hcreated
  exact ⟨i, result, hsigned⟩

omit [DecidableEq ι] in
/-- What is confirmed is what the evaluator published. -/
theorem evaluator_of_confirmed (hsound : w.Sound (caseCharter library opened ι))
    {ciphertext : Bytes} (hconfirmed : Confirmed w.history ciphertext) :
    w.objects (.inl .resultCiphertext) = some ciphertext := by
  obtain ⟨j, hrecomputed⟩ := hconfirmed
  exact hsound.stored.mpr (hsound.justified hrecomputed).2

omit [DecidableEq ι] in
/-- Where something was signed, what was recomputed is the evaluator's. -/
theorem equal_of_signed (hsound : w.Sound (caseCharter library opened ι)) {i j : ι}
    {signed : GovernedConflictResult} {result evaluator : Bytes}
    (hsigned : .noted i (.signed signed) ∈ w.history)
    (hrecomputed : .noted j (.recomputed result evaluator) ∈ w.history) : result = evaluator := by
  obtain ⟨-, ciphertext, ⟨k, hconfirmed⟩, -⟩ := hsound.justified hsigned
  obtain ⟨-, heq⟩ := hsound.noted hrecomputed hconfirmed rfl
  obtain ⟨rfl, rfl⟩ := Use.recomputed.inj heq
  rfl

variable {trouble : ℕ → Trouble CaseObject} {earlier later : List (Move ι CaseCall)}
  {before after : CasePool ι}

/-- **Theorem (release).** Whatever calls are made on a case, in whatever order they go on
and wherever they are cut off. -/
theorem governed_release_once
    (hbefore : caseRun library (opened.start trouble) earlier = .ok before)
    (hafter : caseRun library before later = .ok after) : ReleasedOnce library before after := by
  have hprogram : ∀ i call w, (caseCharter library opened ι).At i [] w →
      Upholds (caseCharter library opened ι).discipline i (CallLeaves i) (caseTask library i call)
        w := fun _ call _ hat => keeps_caseTask call hat
  obtain ⟨hsoundBefore, hpool⟩ := Charter.run_sound hprogram hbefore
  have hwhole : caseRun library (opened.start trouble) (earlier ++ later) = .ok after :=
    run_append_ok_iff.mpr ⟨before, hbefore, hafter⟩
  obtain ⟨hsound, hpool'⟩ := Charter.run_sound hprogram hwhole
  have hlater := Charter.run_later hprogram hafter hpool
  have hreturned {i : ι} {released : GovernedConflictResult × Bytes}
      (h : Pool.released after i = some released) : Returned released after.state := by
    rw [Pool.released] at h
    split at h
    · next found hactive =>
        obtain rfl := h
        exact hpool'.returned hactive _ rfl _ rfl
    · exact nomatch h
  refine ⟨length_uses_le hsound, fun h => ⟨(hreturned h).retained, (hreturned h).published⟩,
    ?_, ?_, ?_, ?_⟩
  · intro data hpublished
    obtain ⟨i, hcreated⟩ := created_of_present hsound rfl hpublished
    obtain ⟨j, hretained⟩ := hsound.justified hcreated rfl
    exact hsound.there hretained
  · intro i result late early heq
    obtain ⟨-, ciphertext, hconfirmed, habout⟩ := hsound.justified_before heq
    refine ⟨ciphertext, hconfirmed, habout, evaluator_of_confirmed hsound (hconfirmed.mono ?_)⟩
    rw [heq]
    exact List.subset_append_of_subset_right _ (List.subset_cons_self _ _)
  · intro i result evaluator hrecomputed hne
    refine ⟨?_, fun j => ?_⟩
    · by_contra hused
      obtain ⟨k, signed, hsigned⟩ := exists_signed hused
      exact hne (equal_of_signed hsound hsigned hrecomputed)
    · by_contra hsome
      obtain ⟨released, hreleased⟩ := Option.ne_none_iff_exists'.mp hsome
      obtain ⟨k, signed, hsigned⟩ := signed_of_retained hsound (hreturned hreleased).retained
      exact hne (equal_of_signed hsound hsigned hrecomputed)
  · intro data hretained
    refine ⟨hlater.objects _ _ hretained, uses_eq_of_later hsound hlater fun hnone => ?_⟩
    obtain ⟨k, signed, hsigned⟩ := signed_of_retained hsoundBefore hretained
    exact List.filter_eq_nil_iff.mp hnone _ hsigned rfl

end

/-! ## A run -/

def sampleHash (bytes : Bytes) : Digest :=
  BitVec.ofNat 256 (bytes.foldl (fun acc b => acc * 257 + b.toNat + 1) 7)

/-- What stands for a document: its kind, and which of its kind it is. -/
def sampleMarshal : (document : Document) → document.Value → Bytes
  | .caseBinding, _ => [0]
  | .evaluationKeys, _ => [1]
  | .caseCrypto, _ => [2]
  | .bindingStatement, statement => [3, UInt8.ofNat statement.participantID.toNat]
  | .caseManifest, _ => [4]
  | .releaseAuthority, _ => [5]
  | .participantArtifact, artifact => [6, UInt8.ofNat artifact.participantID.toNat]
  | .participantEnrollment, record => [7, UInt8.ofNat record.participantID.toNat]
  | .evaluatedArtifact, _ => [8]
  | .evaluationAdmission, _ => [9]
  | .evaluationCompleted, _ => [10]
  | .recomputeAdmission, _ => [11]
  | .recomputeVerified, _ => [12]
  | .recomputeMismatch, _ => [13]
  | .releaseAdmission, _ => [14]
  | .releaseConsumed, _ => [15]
  | .privateCase, _ => [16]
  | .governedResult, _ => [17]
  | _, _ => []

def sampleIdentity (role : Role) : ParticipantIdentity :=
  match role with
  | .a => ⟨21, role.text, List.replicate 32 1⟩
  | .b => ⟨22, role.text, List.replicate 32 2⟩

def sampleRef (name : String) (bytes : Bytes) : ObjectRef := ⟨name, sampleHash bytes, bytes.length⟩

def sampleAuthorityKey : Bytes := List.replicate 32 3

def sampleAuthority : Digest :=
  sampleHash (stringBytes "MordantReleaseAuthorityIdentity/v1" ++ [0] ++
    stringBytes releaseModeGovernedDecryptor ++ [0] ++ sampleAuthorityKey)

def sampleBinding : FHECaseBinding where
  schemaVersion := caseBindingSchema
  caseID := 31
  assetIdentity := 0x7613136ebe7efb777c78cdf8bd73a5a3e5604b005875e05e1427cce9dbc4c95c
  serviceID := serviceID
  serviceVersion := serviceVersion
  policyID := 32
  policyVersion := Coalition.policyVersion
  circuitID := circuitID
  circuitVersion := Coalition.circuitV5Version
  circuitDigest := 33
  parameterProfile := parameterProfile
  parameterFingerprint := 34
  publicKeyDigest := sampleHash [41]
  evaluationKeyManifestDigest := sampleHash [1]
  participantA := sampleIdentity .a
  participantB := sampleIdentity .b
  participantOrder := [21, 22]
  inputSchema := inputSchema
  resultSchema := resultSchema
  releaseMode := releaseModeGovernedDecryptor
  releaseAuthorityID := sampleAuthority
  releaseAuthorityPublicKey := sampleAuthorityKey
  caseNonce := 35
  createdAtUnix := 10
  expiresAtUnix := 100

def sampleGaloisKeys : List GaloisKeyRef :=
  rotationSteps.zipIdx.map fun (step, index) =>
    ⟨BitVec.ofNat 32 index, step, BitVec.ofNat 64 (50 + index),
      sampleRef (PublicObject.galoisKey index).name [UInt8.ofNat (50 + index)]⟩

def sampleCrypto : CaseCryptoManifest where
  schemaVersion := caseCryptoSchema
  parameters := sampleRef PublicObject.parameters.name [40]
  publicKey := sampleRef PublicObject.publicKey.name [41]
  evaluationKeys := ⟨sampleRef PublicObject.relinearizationKey.name [42], sampleGaloisKeys⟩

def sampleSignature (role : Role) : ParticipantBindingSignature :=
  ⟨⟨role.text, (sampleIdentity role).id, sampleHash [0]⟩, List.replicate 64 4⟩

def sampleManifest : FHECaseManifest where
  schemaVersion := caseManifestSchema
  binding := sampleBinding
  crypto := sampleCrypto
  signatureA := sampleSignature .a
  signatureB := sampleSignature .b

def sampleAuthorityManifest : ReleaseAuthorityManifest where
  schemaVersion := releaseAuthoritySchema
  caseID := 31
  caseBindingDigest := sampleHash [0]
  releaseMode := releaseModeGovernedDecryptor
  authorityID := sampleAuthority
  signingPublicKey := sampleAuthorityKey
  sourceProvenance := 36
  signature := List.replicate 64 4

/-- A number for each role. -/
def Role.number : Role → UInt8
  | .a => 21
  | .b => 22

def samplePledge (role : Role) : CipherPledge where
  keyID := "key"
  parameterFingerprint := 34
  policyBits := [role.number, 1]
  currencyBits := [role.number, 2]
  amountBits := [role.number, 3]
  obligationIDBits := [role.number, 4]
  receivableIDBits := some [role.number, 5]
  receivableCommitment := 0
  authorizationCommitment := 37
  privateMetadataCommitment := 38

def sampleComponents (role : Role) : List CiphertextComponentRef :=
  participantCiphertextComponentNames.zipIdx.map fun (name, index) =>
    ⟨name, sampleHash [role.number, UInt8.ofNat (index + 1)], 2⟩

def sampleArtifact (role : Role) : EncryptedParticipantArtifact where
  schemaVersion := participantArtifactSchema
  caseBindingDigest := sampleHash [0]
  caseID := 31
  assetIdentity := sampleBinding.assetIdentity
  participantID := (sampleIdentity role).id
  participantRole := role.text
  publicKeyDigest := sampleHash [41]
  parameterProfile := parameterProfile
  parameterFingerprint := 34
  circuitDigest := 33
  inputSchema := inputSchema
  ciphertextObject := sampleRef (PublicObject.submission role).name [43, role.number]
  components := sampleComponents role
  submissionNonce := sampleHash [44, role.number]
  expiresAtUnix := 90
  signature := List.replicate 64 4

def sampleEvaluated : EvaluatedConflictArtifact where
  schemaVersion := evaluatedArtifactSchema
  caseID := 31
  caseBindingDigest := sampleHash [0]
  assetIdentity := sampleBinding.assetIdentity
  participantArtifactDigests := [sampleHash [6, 21], sampleHash [6, 22]]
  publicKeyDigest := sampleHash [41]
  parameterProfile := parameterProfile
  parameterFingerprint := 34
  circuitID := circuitID
  circuitVersion := Coalition.circuitV5Version
  circuitDigest := 33
  resultCiphertext := sampleRef PublicObject.resultCiphertext.name [45]
  resultCiphertextCommitment :=
    sampleHash (stringBytes "MordantFixedConflictCiphertext/v1" ++ [0] ++ [45])
  outputSchema := resultSchema
  outputSlot := resultSlot
  evaluatorProvenance := 39
  evaluatedAtUnix := 20

def sampleEvaluationAdmission : EvaluationAdmission :=
  ⟨evaluationAdmissionSchema, 31, sampleHash [0], sampleEvaluated.participantArtifactDigests, 39,
    20⟩

def sampleEvaluationCompleted : EvaluationCompleted :=
  ⟨evaluationCompletedSchema, 31, sampleHash [0], sampleHash [8], sampleHash [45],
    sampleEvaluated.resultCiphertextCommitment, 20⟩

def sampleRecomputeAdmission : RecomputeAdmission :=
  ⟨recomputeAdmissionSchema, 31, sampleHash [0], sampleEvaluated.participantArtifactDigests,
    sampleHash [8], 30⟩

def sampleVerified : RecomputeVerified :=
  ⟨recomputeVerifiedSchema, 31, sampleHash [0], sampleHash [8],
    sampleRef PrivateObject.recomputedResult.name [45],
    sampleEvaluated.resultCiphertextCommitment, 30⟩

def samplePrivateCase : PrivateCaseManifest :=
  ⟨privateCaseSchema, 31, sampleHash [0], sampleRef PrivateObject.secretKey.name [46],
    sampleRef PrivateObject.decryptorSigningKey.name (List.replicate 64 5), sampleAuthority⟩

/-- A runtime that trusts nobody yet. -/
def sampleRuntime : Runtime := ⟨"key", sampleHash [41], 34, false, fun _ => none⟩

/-- What does not depend on the documents that are read. -/
def sampleLibrary (read : (document : Document) → Bytes → Option document.Value) : Library where
  sha256 := sampleHash
  keccak256 := sampleHash
  ed25519Verify _ _ signature := signature = List.replicate 64 4
  sign _ _ := List.replicate 64 4
  codec document := ⟨sampleMarshal document, read document⟩
  parameterFingerprint := some 34
  fixedCircuitDigest := 33
  unmarshalParameters bytes := some bytes
  unmarshalPublicKey _ bytes := some bytes
  newCeremonyExternalClient _ _ := none
  newGovernedExternalClient _ _ := some ⟨"key", sampleHash [41], 34, .governedEphemeral⟩
  unmarshalCipherPledge bytes :=
    if bytes = [43, 21] then some (samplePledge .a)
    else if bytes = [43, 22] then some (samplePledge .b) else none
  marshalCipherPledge pledge := pledge.policyBits.head?.map fun number => [43, number]
  freshCiphertext _ _ := true
  validRelinearizationKey _ _ := true
  galoisElements _ := some ((List.range 9).map fun index => BitVec.ofNat 64 (50 + index))
  unmarshalGaloisKey _ bytes := bytes.head?.map fun number => BitVec.ofNat 64 number.toNat
  newCoalitionEvaluationRuntime _ _ _ _ := none
  newGovernedEvaluationRuntime _ _ _ _ := some sampleRuntime
  recomputeCircuitV5 _ _ := some [45]
  validSecretKey _ _ := true
  decryptSlots _ _ _ := some [1, 0, 0]

/-- The records of the enrollments, as they are assembled. -/
def sampleRecord (role : Role) : Option ParticipantEnrollmentV5 :=
  let library := sampleLibrary fun _ _ => none
  let record := do
    let facts ← enrollmentCaseFactsFromBinding library sampleBinding
    let side ← participantCircuitSideDigest library (samplePledge role)
    assembleEnrollmentRecord library facts (sampleArtifact role) (sampleHash [6, role.number]) role
      side (List.replicate 64 4)
  record.toOption

/-- How the documents are read. -/
def sampleUnmarshal : (document : Document) → Bytes → Option document.Value
  | .caseBinding, [0] => some sampleBinding
  | .caseCrypto, [2, 10] => some sampleCrypto
  | .caseBinding, [0, 10] => some sampleBinding
  | .caseManifest, [4, 10] => some sampleManifest
  | .releaseAuthority, [5, 10] => some sampleAuthorityManifest
  | .participantArtifact, [6, 21, 10] => some (sampleArtifact .a)
  | .participantArtifact, [6, 22, 10] => some (sampleArtifact .b)
  | .participantEnrollment, [7, 21, 10] => sampleRecord .a
  | .participantEnrollment, [7, 22, 10] => sampleRecord .b
  | .evaluatedArtifact, [8, 10] => some sampleEvaluated
  | .evaluationAdmission, [9, 10] => some sampleEvaluationAdmission
  | .evaluationCompleted, [10, 10] => some sampleEvaluationCompleted
  | .recomputeAdmission, [11, 10] => some sampleRecomputeAdmission
  | .recomputeVerified, [12, 10] => some sampleVerified
  | .privateCase, [16, 10] => some samplePrivateCase
  | _, _ => none

def governedLibrary : Library := sampleLibrary sampleUnmarshal

/-- What is published and kept when the release is asked for. -/
def sampleObjects : Objects CaseObject Bytes
  | .inl .parameters => some [40]
  | .inl .publicKey => some [41]
  | .inl .relinearizationKey => some [42]
  | .inl (.galoisKey index) => some [UInt8.ofNat (50 + index)]
  | .inl .caseBinding => some [0, 10]
  | .inl .caseCrypto => some [2, 10]
  | .inl .caseManifest => some [4, 10]
  | .inl .releaseAuthority => some [5, 10]
  | .inl (.submission role) => some [43, role.number]
  | .inl (.submissionManifest role) => some [6, role.number, 10]
  | .inl (.enrollment role) => some [7, role.number, 10]
  | .inl .evaluatedArtifact => some [8, 10]
  | .inl .evaluationAdmission => some [9, 10]
  | .inl .evaluationCompleted => some [10, 10]
  | .inl .resultCiphertext => some [45]
  | .inl _ => none
  | .inr .secretKey => some [46]
  | .inr .decryptorSigningKey => some (List.replicate 64 5)
  | .inr .privateCase => some [16, 10]
  | .inr _ => none

def sampleRequest : ReleaseRequest := ⟨47, 30, sampleEvaluated⟩


theorem sampleObjects_unreleased (object : CaseObject) (h : object.released = true) :
    sampleObjects object = none := by
  cases object with
  | inl object =>
      obtain rfl : object = .publicResult := of_decide_eq_true h
      rfl
  | inr object =>
      cases object with
      | secretKey | decryptorSigningKey | privateCase => exact nomatch h
      | recomputeAdmission | recomputedResult | recomputeVerified | recomputeMismatch
      | releaseAdmission | releaseConsumed | retainedResult => rfl

def sampleCase : OpenedCase := ⟨sampleObjects, sampleObjects_unreleased⟩

/-- A call that is lost when it has recomputed. -/
def lostCall : List (Move Bool CaseCall) :=
  .start false (.release sampleRequest) :: List.replicate 20 (.step false) ++ [.crash false]

/-- A call that goes on from what was recomputed. -/
def nextCall : List (Move Bool CaseCall) :=
  .start true (.release sampleRequest) :: List.replicate 20 (.step true)

/-- Who made the uses of a kind. -/
def Pool.users (pool : CasePool Bool) (kind : UseKind) : List Bool :=
  (Archive.uses pool.state kind).map Deed.party

theorem nextCall_ok :
    (((caseRun governedLibrary (sampleCase.start fun _ => {}) lostCall).toOption.bind fun before =>
      (caseRun governedLibrary before nextCall).toOption).any fun after =>
        Pool.users after .recomputation = [false] && Pool.users after .signature = [true] &&
          (Pool.released after true).map Prod.snd = some [17, 10]) = true := by
  decide +kernel

theorem governed_release_once_sample :
    ∃ before after : CasePool Bool,
      caseRun governedLibrary (sampleCase.start fun _ => {}) lostCall = .ok before ∧
        caseRun governedLibrary before nextCall = .ok after ∧
        ReleasedOnce governedLibrary before after := by
  obtain ⟨after, hruns, -⟩ := (Option.any_eq_true _ _).mp nextCall_ok
  obtain ⟨before, hbefore, hafter⟩ := Option.bind_eq_some_iff.mp hruns
  have hbefore := toOption_eq_some_iff.mp hbefore
  have hafter := toOption_eq_some_iff.mp hafter
  exact ⟨before, after, hbefore, hafter, governed_release_once hbefore hafter⟩

/-- The second process signs, and the first one recomputed. -/
theorem signed_for_another_recomputation :
    ¬ ∀ (library : Library) (opened : OpenedCase) (trouble : ℕ → Trouble CaseObject)
      (moves : List (Move Bool CaseCall)) (pool : CasePool Bool),
      caseRun library (opened.start trouble) moves = .ok pool →
        ∀ i result later earlier,
          pool.state.history = later ++ .noted i (.signed result) :: earlier →
            ∃ ciphertext, .noted i (.recomputed ciphertext ciphertext) ∈ earlier := by
  intro hclaim
  obtain ⟨after, hruns, htest⟩ := (Option.any_eq_true _ _).mp nextCall_ok
  obtain ⟨before, hbefore, hafter⟩ := Option.bind_eq_some_iff.mp hruns
  have hrun : caseRun governedLibrary (sampleCase.start fun _ => {}) (lostCall ++ nextCall) =
      .ok after :=
    run_append_ok_iff.mpr
      ⟨before, toOption_eq_some_iff.mp hbefore, toOption_eq_some_iff.mp hafter⟩
  simp only [Bool.and_eq_true, decide_eq_true_eq] at htest
  obtain ⟨⟨hrecomputed, hsigned⟩, -⟩ := htest
  have hsome : Archive.uses after.state .signature ≠ [] := by
    intro hnone
    rw [Pool.users, hnone] at hsigned
    exact nomatch hsigned
  obtain ⟨i, result, hmem⟩ := exists_signed hsome
  have hparty : i ∈ Pool.users after .signature :=
    List.mem_map.mpr ⟨_, List.mem_filter.mpr ⟨hmem, rfl⟩, rfl⟩
  obtain ⟨later, earlier, heq⟩ := List.append_of_mem hmem
  obtain ⟨ciphertext, hown⟩ := hclaim _ _ _ _ _ hrun i result later earlier heq
  have hown : .noted i (.recomputed ciphertext ciphertext) ∈ after.state.history := by
    rw [heq]
    exact List.mem_append_right _ (List.mem_cons_of_mem _ hown)
  have hparty' : i ∈ Pool.users after .recomputation :=
    List.mem_map.mpr ⟨_, List.mem_filter.mpr ⟨hown, rfl⟩, rfl⟩
  rw [hsigned, List.mem_singleton] at hparty
  rw [hrecomputed, List.mem_singleton] at hparty'
  exact Bool.false_ne_true (hparty'.symm.trans hparty)

end Mordant.GovernedFhe
