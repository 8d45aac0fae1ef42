/-
# What a refused release leaves

A release that is refused because of what it reads of the case before the recomputation is
admitted leaves the stores as they were, and is asked for again as if for the first time.
The evaluation keys and the enrollments are read behind the admission: where they are
refused, the admission stays, and with it the case's one attempt is spent.
-/

import Mordant.Foundation.Solo
import Mordant.GovernedFhe.Release

namespace Mordant.GovernedFhe

open Evm Foundation
open Coalition (Digest)
open Function (update update_of_ne)

/-- What a refusal of evaluation material does: nothing was recomputed or released, and the
admission of the recomputation is what is added. -/
structure Spent (objects later : Objects CaseObject Bytes) : Prop where
  fresh : ∀ object ∈ [PrivateObject.recomputeAdmission, .recomputeMismatch, .recomputeVerified,
    .releaseAdmission, .releaseConsumed, .retainedResult], objects (.inr object) = none
  admitted : ∃ data,
    later = update objects (.inr .recomputeAdmission) (some data)

/-- Behind the admission there is nothing to go on from. -/
theorem Spent.attempted {objects later : Objects CaseObject Bytes} (h : Spent objects later) :
    (∀ object ∈ [PrivateObject.recomputeVerified, .retainedResult],
      later (.inr object) = none) ∧ (later (.inr .recomputeAdmission)).isSome = true := by
  obtain ⟨data, rfl⟩ := h.admitted
  refine ⟨fun object hobject => ?_, by rw [Function.update_self]; rfl⟩
  have hne : (Sum.inr object : CaseObject) ≠ .inr .recomputeAdmission := by
    rintro heq
    obtain rfl := Sum.inr.inj heq
    exact absurd hobject (by decide)
  rw [update_of_ne hne]
  apply h.fresh
  simp only [List.mem_cons, List.not_mem_nil, or_false] at hobject ⊢
  rcases hobject with rfl | rfl
  · exact .inr (.inr (.inl rfl))
  · exact .inr (.inr (.inr (.inr (.inr rfl))))

section

variable {ι : Type} {library : Library} {objects : Objects CaseObject Bytes} {i : ι}
  {w : Archive ι CaseObject Bytes Use} {α β : Type} {R : β → Archive ι CaseObject Bytes Use → Prop}
  {E : Thrown → Archive ι CaseObject Bytes Use → Prop} {object : CaseObject} {refusal : Thrown}
  {manifest : FHECaseManifest} {now : ℤ} {participants : ValidatedFreshParticipants}
  {artifact : EvaluatedConflictArtifact} {evaluatorResultBytes : Bytes} {artifactDigest : Digest}

/-- What a task leaves where it is alone and nothing goes wrong. -/
abbrev Ends (i : ι) (R : β → Archive ι CaseObject Bytes Use → Prop)
    (E : Thrown → Archive ι CaseObject Bytes Use → Prop) (task : Task β)
    (w : Archive ι CaseObject Bytes Use) : Prop :=
  Solo (archiveEffects ι CaseObject Bytes Use) i R E task w

/-! ## Rules -/

theorem ends_loading_bind {load : Objects CaseObject Bytes → Except Thrown α} {f : α → Task β}
    (hw : w.Holds objects)
    (herror : ∀ error t, load objects = .error error → t.Holds objects → E error t)
    (h : ∀ a t, load objects = .ok a → t.Holds objects → Ends i R E (f a) t) :
    Ends i R E (loading load >>= f) w := by
  apply solo_bind
  apply solo_bind
  apply solo_look hw
  intro t ht
  apply solo_lift
  · intro a ha
    exact h a t ha ht
  · intro error hload
    exact herror error t hload ht

theorem ends_present_bind {f : Bool → Task β} (hw : w.Holds objects)
    (h : ∀ t, t.Holds objects → Ends i R E (f (objects object).isSome) t) :
    Ends i R E (present object >>= f) w := by
  apply solo_bind
  apply solo_bind
  exact solo_look hw h

theorem ends_throwIf_bind {p : Prop} [Decidable p] {f : Unit → Task β} (herror : p → E refusal w)
    (h : ¬ p → Ends i R E (f ()) w) :
    Ends i R E (Program.throwIf p refusal >>= f) w :=
  solo_bind (solo_throwIf h herror)

theorem ends_lift_bind {x : Except Thrown α} {f : α → Task β}
    (herror : ∀ error, x = .error error → E error w)
    (h : ∀ a, x = .ok a → Ends i R E (f a) w) : Ends i R E (Program.lift x >>= f) w :=
  solo_bind (solo_lift h herror)

theorem ends_createObject_bind {data : Bytes} {f : ObjectRef → Task β} (hw : w.Holds objects)
    (herror : ∀ t, t.Holds objects → E refusal t)
    (h : ∀ t, t.Holds (update objects object (some data)) →
      Ends i R E (f ⟨object.name, library.sha256 data, data.length⟩) t) :
    Ends i R E (createObject library object data refusal >>= f) w := by
  simp only [createObject, Program.bind_assoc]
  apply ends_throwIf_bind
  · intro _
    exact herror w hw
  intro _
  apply solo_bind
  apply solo_create hw
  · intro _ t ht
    exact h t ht
  · intro _ t ht
    exact herror t ht

theorem ends_createJSON_bind {document : Document} {value : document.Value} {f : Bytes → Task β}
    (hw : w.Holds objects) (herror : ∀ t, t.Holds objects → E refusal t)
    (h : ∀ t, t.Holds (update objects object
        (some (marshalCanonical library document value))) →
      Ends i R E (f (marshalCanonical library document value)) t) :
    Ends i R E (createJSON library object document value refusal >>= f) w := by
  rw [createJSON, Program.bind_assoc]
  exact ends_createObject_bind hw herror h

/-- An error that is wrapped has the origin of its wrapping. -/
theorem origin_of_mapError {check : Except Thrown α} {wrap : Thrown → Thrown} {error : Thrown}
    {origin : Origin} (hwrap : ∀ error, (wrap error).origin = origin)
    (h : check.mapError wrap = .error error) : error.origin = origin := by
  cases check with
  | ok a => exact nomatch h
  | error found =>
      obtain rfl := Except.error.inj h
      exact hwrap found

theorem origin_of_require {x : Option α} {error : Thrown}
    (h : require refusal x = .error error) : error = refusal := by
  cases x with
  | none => exact (Except.error.inj h).symm
  | some a => exact nomatch h

/-! ## A refusal -/

/-- What a refusal leaves of the objects. -/
structure Spares (objects : Objects CaseObject Bytes) (error : Thrown)
    (t : Archive ι CaseObject Bytes Use) : Prop where
  case_material : error.origin = .caseMaterial → t.objects = objects
  evaluation_material : error.origin = .evaluationMaterial → Spent objects t.objects

theorem Spares.of_other {error : Thrown} (h : error.origin = .other) : Spares objects error w :=
  ⟨fun hcase => (nomatch h.symm.trans hcase), fun heval => (nomatch h.symm.trans heval)⟩

theorem Spares.of_case {error : Thrown} (h : error.origin = .caseMaterial)
    (hw : w.Holds objects) : Spares objects error w :=
  ⟨fun _ => hw.objects, fun heval => nomatch h.symm.trans heval⟩

theorem Spares.of_evaluation {error : Thrown} (h : error.origin = .evaluationMaterial)
    (hspent : Spent objects w.objects) : Spares objects error w :=
  ⟨fun hcase => (nomatch h.symm.trans hcase), fun _ => hspent⟩

/-- What is verified first leaves everything as it is. -/
theorem ends_verifyPublicCase {request : ReleaseRequest} (hw : w.Holds objects) :
    Ends i (fun _ t => t.Holds objects)
      (fun error t => t.Holds objects ∧ error.origin ≠ .evaluationMaterial)
      (verifyPublicCase library request) w := by
  have hcase {error : Thrown} {t : Archive ι CaseObject Bytes Use}
      (h : error.origin = .caseMaterial) (ht : t.Holds objects) :
      t.Holds objects ∧ error.origin ≠ .evaluationMaterial :=
    ⟨ht, fun heval => nomatch h.symm.trans heval⟩
  have hother {error : Thrown} {t : Archive ι CaseObject Bytes Use}
      (h : error.origin = .other) (ht : t.Holds objects) :
      t.Holds objects ∧ error.origin ≠ .evaluationMaterial :=
    ⟨ht, fun heval => nomatch h.symm.trans heval⟩
  apply ends_loading_bind hw
  · intro error t h ht
    exact hcase (origin_of_mapError (fun _ => rfl) h) ht
  intro manifest t _ ht
  apply ends_throwIf_bind
  · intro _
    exact hother rfl ht
  intro _
  apply ends_loading_bind ht
  · intro error t h ht
    exact hcase (origin_of_mapError (fun _ => rfl) h) ht
  rintro ⟨artifact, resultBytes, artifactDigest⟩ t - ht
  apply ends_throwIf_bind
  · intro _
    exact hother rfl ht
  intro _
  apply ends_loading_bind ht
  · intro error t h ht
    exact hcase (origin_of_mapError (fun _ => rfl) h) ht
  intro authority t _ ht
  apply ends_throwIf_bind
  · intro _
    exact hother rfl ht
  intro _
  exact ht

/-- Where a release stands that is prepared: the public store is as it was, and the
parameters and the public key were found there. -/
structure AtReady (library : Library) (objects : Objects CaseObject Bytes)
    (manifest : FHECaseManifest) (t : Archive ι CaseObject Bytes Use) : Prop where
  holds : ∃ later, t.Holds later ∧ publicOf later = publicOf objects
  material : ∃ found, loadPublicEncryptionMaterial library (publicOf objects) manifest.crypto =
    .ok found

/-- The parameters and the public key are found where the participants are. -/
theorem material_of_participants {seen : PublicObject → Option Bytes}
    (h : loadAndValidateFreshParticipants library seen manifest now = .ok participants) :
    ∃ found, loadPublicEncryptionMaterial library seen manifest.crypto = .ok found := by
  simp only [loadAndValidateFreshParticipants, bind_ok_iff] at h
  obtain ⟨found, hfound, -⟩ := h
  exact ⟨found, hfound⟩

theorem publicOf_update {object : PrivateObject} {data : Option Bytes} :
    publicOf (update objects (.inr object) data) = publicOf objects := by
  funext name
  show update objects (.inr object) data (.inl name) = objects (.inl name)
  rw [update_of_ne Sum.inl_ne_inr]

theorem ends_recompute {later : Objects CaseObject Bytes} (hw : w.Holds later)
    (hspent : Spent objects later)
    (hmaterial : ∃ found, loadPublicEncryptionMaterial library (publicOf objects)
      manifest.crypto = .ok found) :
    Ends i (fun _ t => AtReady library objects manifest t) (Spares objects)
      (recompute library manifest artifact evaluatorResultBytes artifactDigest participants now)
      w := by
  have hpublic : publicOf later = publicOf objects := by
    obtain ⟨data, rfl⟩ := hspent.admitted
    exact publicOf_update
  have hevaluation {error : Thrown} {t : Archive ι CaseObject Bytes Use}
      (h : error.origin = .evaluationMaterial) (ht : t.Holds later) : Spares objects error t :=
    .of_evaluation h (ht.objects.symm ▸ hspent)
  apply ends_loading_bind hw
  · intro error t h ht
    exact hevaluation (origin_of_mapError (fun _ => rfl) h) ht
  intro runtime t _ ht
  apply ends_throwIf_bind
  · intro _
    exact hevaluation rfl ht
  intro _
  apply ends_loading_bind ht
  · intro error t h ht
    exact hevaluation (origin_of_mapError (fun _ => rfl) h) ht
  rintro ⟨recordA, recordB⟩ t - ht
  apply ends_lift_bind
  · intro error h
    exact hevaluation (origin_of_mapError (fun _ => rfl) h) ht
  intro _ _
  have hother {α : Type} {x : Option α} {error : Thrown}
      (h : require (thrown .releaseAmbiguous) x = .error error) : error.origin = .other := by
    rw [origin_of_require h]
    rfl
  apply ends_lift_bind
  · intro error h
    exact .of_other (hother h)
  intro receivableA _
  apply ends_lift_bind
  · intro error h
    exact .of_other (hother h)
  intro receivableB _
  apply ends_lift_bind
  · intro error h
    exact .of_other (hother h)
  intro recomputedBytes _
  apply solo_bind
  apply solo_takeNote ht
  intro t ht
  by_cases hequal : recomputedBytes = evaluatorResultBytes
  · rw [if_neg (not_not.mpr hequal)]
    apply ends_createObject_bind ht
    · intro t _
      exact .of_other rfl
    intro t ht
    apply ends_createJSON_bind ht
    · intro t _
      exact .of_other rfl
    intro t ht
    exact solo_pure ⟨⟨_, ht, publicOf_update.trans (publicOf_update.trans hpublic)⟩, hmaterial⟩
  · rw [if_pos hequal]
    apply ends_createJSON_bind ht
    · intro t _
      exact .of_other rfl
    intro t _
    exact .of_other rfl

theorem ends_admitRecomputation (hw : w.Holds objects)
    (hfresh : ∀ object ∈ [PrivateObject.recomputeMismatch, .recomputeVerified,
      .releaseAdmission, .releaseConsumed, .retainedResult], objects (.inr object) = none)
    (hmaterial : ∃ found, loadPublicEncryptionMaterial library (publicOf objects)
      manifest.crypto = .ok found) :
    Ends i (fun _ t => AtReady library objects manifest t) (Spares objects)
      (admitRecomputation library manifest artifact evaluatorResultBytes artifactDigest
        participants now) w := by
  apply ends_present_bind hw
  intro t ht
  apply ends_throwIf_bind
  · intro _
    exact .of_other rfl
  intro hadmitted
  apply ends_throwIf_bind
  · intro _
    exact .of_other rfl
  intro _
  apply solo_bind
  apply solo_permit ht
  intro t ht
  apply ends_throwIf_bind
  · intro _
    exact .of_other rfl
  intro _
  apply ends_present_bind ht
  intro t ht
  apply ends_throwIf_bind
  · intro _
    exact .of_other rfl
  intro _
  apply ends_present_bind ht
  intro t ht
  apply ends_throwIf_bind
  · intro _
    exact .of_other rfl
  intro _
  apply ends_present_bind ht
  intro t ht
  apply ends_throwIf_bind
  · intro _
    exact .of_other rfl
  intro _
  apply ends_createJSON_bind ht
  · intro t _
    exact .of_other rfl
  intro t ht
  refine ends_recompute ht ⟨?_, _, rfl⟩ hmaterial
  intro object hobject
  rcases List.mem_cons.mp hobject with rfl | hobject
  · exact Option.not_isSome_iff_eq_none.mp hadmitted
  · exact hfresh object hobject

theorem ends_prepareVerifiedRecomputation (hw : w.Holds objects)
    (hfresh : ∀ object ∈ [PrivateObject.releaseAdmission, .releaseConsumed, .retainedResult],
      objects (.inr object) = none) :
    Ends i (fun _ t => AtReady library objects manifest t) (Spares objects)
      (prepareVerifiedRecomputation library manifest artifact evaluatorResultBytes artifactDigest
        now) w := by
  apply ends_loading_bind hw
  · intro error t h ht
    exact .of_case (origin_of_mapError (fun _ => rfl) h) ht
  intro participants t hload ht
  have hmaterial := material_of_participants (mapError_ok hload)
  apply ends_throwIf_bind
  · intro _
    exact .of_case rfl ht
  intro _
  apply ends_present_bind ht
  intro t ht
  apply ends_throwIf_bind
  · intro _
    exact .of_other rfl
  intro hmismatch
  apply ends_present_bind ht
  intro t ht
  by_cases hverified : (objects (.inr .recomputeVerified)).isSome = true
  · rw [if_pos hverified]
    apply solo_bind
    apply solo_look ht
    intro t ht
    apply solo_lift
    · intro _ _
      exact ⟨⟨objects, ht, rfl⟩, hmaterial⟩
    · intro error h
      exact .of_other (origin_of_mapError (fun _ => rfl) h)
  · rw [if_neg hverified]
    apply ends_admitRecomputation ht _ hmaterial
    intro object hobject
    rcases List.mem_cons.mp hobject with rfl | hobject
    · exact Option.not_isSome_iff_eq_none.mp hmismatch
    · rcases List.mem_cons.mp hobject with rfl | hobject
      · exact Option.not_isSome_iff_eq_none.mp hverified
      · exact hfresh object hobject

theorem origin_of_decryptBit {params secretKey ciphertext : Bytes} {error : Thrown}
    (h : decryptBit library params secretKey ciphertext = .error error) :
    error.origin = .other := by
  rw [decryptBit, bind_error_iff] at h
  rcases h with h | ⟨slots, -, h⟩
  · rw [origin_of_require h]
    rfl
  cases slots with
  | nil =>
      obtain rfl := Except.error.inj h
      rfl
  | cons bit rest =>
      simp only [bind_error_iff, revertIf_error_iff, pure_ne_error, and_false, exists_false,
        or_false] at h
      rcases h with ⟨-, rfl⟩ | ⟨-, -, -, rfl⟩
      · rfl
      · rfl

/-- Nothing that follows is refused because of the case. -/
theorem ends_decryptAndSign {request : ReleaseRequest} {verifiedCase : VerifiedCase}
    {recomputedBytes : Bytes} {verified : RecomputeVerified} {later : Objects CaseObject Bytes}
    (hw : w.Holds later) (hpublic : publicOf later = publicOf objects)
    (hmaterial : ∃ found, loadPublicEncryptionMaterial library (publicOf objects)
      verifiedCase.manifest.crypto = .ok found) :
    Ends i (fun _ t => t.Holds later) (Spares objects)
      (decryptAndSign library request verifiedCase recomputedBytes verified) w := by
  apply ends_loading_bind hw
  · intro error t h _
    exact .of_other (origin_of_mapError (fun _ => rfl) h)
  intro privateCase t _ ht
  apply ends_loading_bind ht
  · intro error t h _
    obtain ⟨found, hfound⟩ := hmaterial
    rw [hpublic, hfound] at h
    exact nomatch h
  rintro ⟨params, publicKey⟩ t - ht
  apply ends_loading_bind ht
  · intro error t h _
    exact .of_other (origin_of_mapError (fun _ => rfl) h)
  intro secretBytes t _ ht
  apply solo_bind
  apply solo_takeNote ht
  intro t ht
  apply ends_throwIf_bind
  · intro _
    exact .of_other rfl
  intro _
  apply ends_lift_bind
  · intro error h
    exact .of_other (origin_of_decryptBit h)
  intro conflict _
  apply ends_loading_bind ht
  · intro error t h _
    exact .of_other (origin_of_mapError (fun _ => rfl) h)
  intro signingBytes t _ ht
  apply ends_throwIf_bind
  · intro _
    exact .of_other rfl
  intro _
  apply ends_lift_bind
  · intro error h
    exact .of_other (origin_of_mapError (fun _ => rfl) h)
  intro signature _
  apply solo_bind
  apply solo_takeNote ht
  intro t ht
  exact solo_pure ht

/-- What goes on from a retained result is not refused because of the case. -/
theorem ends_exactRetry {authority : ReleaseAuthorityManifest} (hw : w.Holds objects) :
    Ends i (fun _ _ => True) (Spares objects)
      (exactRetry library manifest artifact artifactDigest authority now) w := by
  apply ends_loading_bind hw
  · intro error t h _
    exact .of_other (origin_of_mapError (fun _ => rfl) h)
  rintro ⟨result, retainedBytes⟩ t - ht
  apply ends_loading_bind ht
  · intro error t h _
    exact .of_other (origin_of_mapError (fun _ => rfl) h)
  intro _ t _ ht
  have hpublish : Ends i (fun _ t => ∃ later, t.Holds later) (Spares objects)
      (publishRetained library retainedBytes) t := by
    apply ends_present_bind ht
    intro t ht
    by_cases hpublished : (objects (.inl .publicResult)).isSome = true
    · rw [if_pos hpublished]
      apply ends_loading_bind ht
      · intro error t h _
        exact .of_other (origin_of_mapError (fun _ => rfl) h)
      rintro ⟨publicBytes, ref⟩ t - ht
      apply solo_throwIf
      · intro _
        exact ⟨objects, ht⟩
      · intro _
        exact .of_other rfl
    · rw [if_neg hpublished]
      apply ends_createObject_bind ht
      · intro t _
        exact .of_other rfl
      intro t ht
      exact ⟨_, ht⟩
  apply solo_bind
  refine hpublish.mono ?_ fun _ _ h => h
  rintro - t ⟨later, ht⟩
  have hconsume : Ends i (fun _ _ => True) (Spares objects)
      (consumeRetained library result artifactDigest now) t := by
    apply ends_present_bind ht
    intro t ht
    by_cases hconsumed : (later (.inr .releaseConsumed)).isSome = true
    · rw [if_pos hconsumed]
      apply ends_loading_bind ht
      · intro error t h _
        exact .of_other (origin_of_mapError (fun _ => rfl) h)
      rintro ⟨consumed, data⟩ t - ht
      apply solo_throwIf
      · intro _
        exact trivial
      · intro _
        exact .of_other rfl
    · rw [if_neg hconsumed]
      apply ends_createJSON_bind ht
      · intro t _
        exact .of_other rfl
      intro t _
      exact trivial
  apply solo_bind
  exact hconsume.mono (fun _ _ _ => trivial) fun _ _ h => h

theorem ends_firstRelease {request : ReleaseRequest} {verifiedCase : VerifiedCase}
    (hw : w.Holds objects) (hretained : objects (.inr .retainedResult) = none) :
    Ends i (fun _ _ => True) (Spares objects) (firstRelease library request verifiedCase) w := by
  apply ends_present_bind hw
  intro t ht
  apply ends_throwIf_bind
  · intro _
    exact .of_other rfl
  intro hadmitted
  apply ends_present_bind ht
  intro t ht
  apply ends_throwIf_bind
  · intro _
    exact .of_other rfl
  intro hconsumed
  have hfresh : ∀ object ∈ [PrivateObject.releaseAdmission, .releaseConsumed, .retainedResult],
      objects (.inr object) = none := by
    simp only [List.forall_mem_cons, List.not_mem_nil, false_implies, implies_true, and_true]
    exact ⟨Option.not_isSome_iff_eq_none.mp hadmitted,
      Option.not_isSome_iff_eq_none.mp hconsumed, hretained⟩
  apply solo_bind
  refine (ends_prepareVerifiedRecomputation ht hfresh).mono ?_ fun _ _ h => h
  rintro ⟨recomputedBytes, verified⟩ t ⟨⟨later, ht, hpublic⟩, hmaterial⟩
  apply ends_createJSON_bind ht
  · intro t _
    exact .of_other rfl
  intro t ht
  apply solo_bind
  refine (ends_decryptAndSign ht (publicOf_update.trans hpublic) hmaterial).mono ?_
    fun _ _ h => h
  intro result t ht
  apply ends_createJSON_bind ht
  · intro t _
    exact .of_other rfl
  intro t ht
  apply ends_createObject_bind ht
  · intro t _
    exact .of_other rfl
  intro t ht
  apply ends_createJSON_bind ht
  · intro t _
    exact .of_other rfl
  intro t _
  exact trivial

theorem ends_release {request : ReleaseRequest} (hw : w.Holds objects) :
    Ends i (fun _ _ => True) (Spares objects) (release library request) w := by
  apply solo_bind
  refine (ends_verifyPublicCase hw).mono ?_ fun error t h => ?_
  · intro verifiedCase t ht
    apply ends_present_bind ht
    intro t ht
    by_cases hretained : (objects (.inr .retainedResult)).isSome = true
    · rw [if_pos hretained]
      exact ends_exactRetry ht
    · rw [if_neg hretained]
      exact ends_firstRelease ht (Option.not_isSome_iff_eq_none.mp hretained)
  · exact ⟨fun _ => h.1.objects, fun heval => (h.2 heval).elim⟩

/-- Where the one attempt is spent, no release succeeds, and none leaves anything. -/
theorem ends_release_spent {request : ReleaseRequest} (hw : w.Holds objects)
    (hfresh : ∀ object ∈ [PrivateObject.recomputeVerified, .retainedResult],
      objects (.inr object) = none)
    (hadmitted : (objects (.inr .recomputeAdmission)).isSome = true) :
    Ends i (fun _ _ => False) (fun _ t => t.objects = objects) (release library request) w := by
  have hverified : (objects (.inr .recomputeVerified)).isSome = false := by
    rw [hfresh _ List.mem_cons_self]
    rfl
  have hretained : (objects (.inr .retainedResult)).isSome = false := by
    rw [hfresh _ (List.mem_cons_of_mem _ List.mem_cons_self)]
    rfl
  apply solo_bind
  refine (ends_verifyPublicCase hw).mono ?_ fun error t h => h.1.objects
  intro verifiedCase t ht
  apply ends_present_bind ht
  intro t ht
  rw [if_neg (Bool.eq_false_iff.mp hretained)]
  apply ends_present_bind ht
  intro t ht
  apply ends_throwIf_bind
  · intro _
    exact ht.objects
  intro _
  apply ends_present_bind ht
  intro t ht
  apply ends_throwIf_bind
  · intro _
    exact ht.objects
  intro _
  apply solo_bind
  apply ends_loading_bind ht
  · intro error t _ ht
    exact ht.objects
  intro participants t _ ht
  apply ends_throwIf_bind
  · intro _
    exact ht.objects
  intro _
  apply ends_present_bind ht
  intro t ht
  apply ends_throwIf_bind
  · intro _
    exact ht.objects
  intro _
  apply ends_present_bind ht
  intro t ht
  rw [if_neg (Bool.eq_false_iff.mp hverified)]
  apply ends_present_bind ht
  intro t ht
  apply ends_throwIf_bind
  · intro _
    exact ht.objects
  intro hnone
  exact (hnone hadmitted).elim

/-! ## What comes after a refusal -/

/-- The archive with another public store. -/
def publishing (store : PublicObject → Option Bytes) (w : Archive ι CaseObject Bytes Use) :
    Archive ι CaseObject Bytes Use :=
  { w with objects := Sum.elim store fun object => w.objects (.inr object) }

/-- What a release comes to alone, and what it leaves. -/
def releaseAlone (library : Library) (i : ι) (request : ReleaseRequest)
    (w : Archive ι CaseObject Bytes Use) :
    Except Thrown (GovernedConflictResult × Bytes) × Archive ι CaseObject Bytes Use :=
  (release library request).alone (archiveEffects ι CaseObject Bytes Use) i w

variable {request : ReleaseRequest} {error : Thrown} {t : Archive ι CaseObject Bytes Use}

/-- **Theorem (refusal).** A release that is refused for what it reads of the case before the
admission leaves the stores as they were, and whatever is published afterwards, a release
comes to what it would have come to.  One that is refused for evaluation material adds the
admission, and no release succeeds after it, whatever is published. -/
theorem refused_release (hcalm : w.Calm)
    (hrefused : releaseAlone library i request w = (.error error, t)) :
    (error.origin = .caseMaterial → t.objects = w.objects ∧
      ∀ store request', (releaseAlone library i request' (publishing store t)).1 =
        (releaseAlone library i request' (publishing store w)).1) ∧
    (error.origin = .evaluationMaterial → Spent w.objects t.objects ∧
      ∀ store request', ∃ error',
        (releaseAlone library i request' (publishing store t)).1 = .error error' ∧
          (releaseAlone library i request' (publishing store t)).2.objects =
            (publishing store t).objects) := by
  have hw : w.Holds w.objects := ⟨hcalm, rfl⟩
  have hspares : Spares w.objects error t := (ends_release hw).error hrefused
  have hcalm' : t.Calm := by
    have htrouble : t.trouble = w.trouble := by
      have hkept := trouble_alone (i := i) (release library request) w
      rw [← releaseAlone, hrefused] at hkept
      exact hkept
    rw [Archive.Calm, htrouble]
    exact hcalm
  refine ⟨fun hcase => ?_, fun heval => ?_⟩
  · have hobjects := hspares.case_material hcase
    refine ⟨hobjects, fun store request' => ?_⟩
    have hleft : (publishing store t).Holds (publishing store w).objects :=
      ⟨hcalm', by rw [publishing, publishing, hobjects]⟩
    have hright : (publishing store w).Holds (publishing store w).objects := ⟨hcalm, rfl⟩
    exact (alone_congr hleft hright).1
  · have hspent := hspares.evaluation_material heval
    refine ⟨hspent, fun store request' => ?_⟩
    have hholds : (publishing store t).Holds (publishing store t).objects := ⟨hcalm', rfl⟩
    obtain ⟨hfresh, hadmitted⟩ := hspent.attempted
    have hends : Ends i (fun _ _ => False) (fun _ u => u.objects = (publishing store t).objects)
        (release library request') (publishing store t) :=
      ends_release_spent hholds hfresh hadmitted
    cases hresult : releaseAlone library i request' (publishing store t) with
    | mk result u =>
        cases result with
        | ok a => exact (hends.ok hresult).elim
        | error error' => exact ⟨error', rfl, hends.error hresult⟩

end

/-! ## A refusal that spends the attempt -/

/-- The sample case, without one object. -/
def withoutObject (object : PublicObject) : Archive Bool CaseObject Bytes Use :=
  { objects := update sampleObjects (.inl object) none }

/-- A refused release: what was refused, and whether the recomputation was admitted. -/
def refusalOf (w : Archive Bool CaseObject Bytes Use) : Option (Origin × Bool) :=
  match releaseAlone governedLibrary true sampleRequest w with
  | (.ok _, _) => none
  | (.error error, t) => some (error.origin, (t.objects (.inr .recomputeAdmission)).isSome)

theorem refusalOf_withoutSubmission :
    refusalOf (withoutObject (.submission .a)) = some (.caseMaterial, false) := by
  decide +kernel

theorem refusalOf_withoutKeys :
    refusalOf (withoutObject .relinearizationKey) = some (.evaluationMaterial, true) := by
  decide +kernel

theorem exists_of_refusalOf {w : Archive Bool CaseObject Bytes Use} {origin : Origin}
    {admitted : Bool} (h : refusalOf w = some (origin, admitted)) :
    ∃ error t, releaseAlone governedLibrary true sampleRequest w = (.error error, t) ∧
      error.origin = origin ∧ (t.objects (.inr .recomputeAdmission)).isSome = admitted := by
  rw [refusalOf] at h
  split at h
  · exact nomatch h
  · next error t hresult =>
      obtain ⟨horigin, hadmitted⟩ := Prod.mk.inj (Option.some.inj h)
      exact ⟨error, t, hresult, horigin, hadmitted⟩

theorem refused_release_sample :
    ∃ error t, releaseAlone governedLibrary true sampleRequest (withoutObject (.submission .a)) =
        (.error error, t) ∧
      t.objects = (withoutObject (.submission .a)).objects := by
  obtain ⟨error, t, hresult, horigin, -⟩ := exists_of_refusalOf refusalOf_withoutSubmission
  have hcalm : (withoutObject (.submission .a)).Calm := fun _ => ⟨rfl, rfl⟩
  exact ⟨error, t, hresult, ((refused_release hcalm hresult).1 horigin).1⟩

/-- Where an evaluation key is missing, the release is refused and its one attempt spent. -/
theorem missing_keys_spend :
    ¬ ∀ (library : Library) (w : Archive Bool CaseObject Bytes Use) (i : Bool)
      (request : ReleaseRequest) (error : Thrown) (t : Archive Bool CaseObject Bytes Use),
      w.Calm → releaseAlone library i request w = (.error error, t) →
        error.origin ∈ [Origin.caseMaterial, .evaluationMaterial] →
          ∀ object, t.objects (.inr object) = w.objects (.inr object) := by
  intro hclaim
  obtain ⟨error, t, hresult, horigin, hadmitted⟩ := exists_of_refusalOf refusalOf_withoutKeys
  have hsame := hclaim _ _ _ _ _ _ (fun _ => ⟨rfl, rfl⟩) hresult
    (horigin ▸ List.mem_cons_of_mem _ List.mem_cons_self) .recomputeAdmission
  rw [hsame] at hadmitted
  exact absurd hadmitted (by decide)

end Mordant.GovernedFhe
