/-
# What the transcript of a release binds

A transcript is hashed as one run of words: its own domain, the fields of the release, the
statements of the operators, the released bits and the time.  Nothing says how many
statements there are.  As many words stand ahead of them and as many behind them in every
transcript, so the length of the run says it, and the run determines the transcript.
-/

import Mordant.Coalition.Confirmation

namespace Mordant.Coalition

open Evm Foundation

namespace ReleaseTranscriptV5

section

variable {keccak256 : Bytes → Digest} {transcript other : ReleaseTranscriptV5} {digest : Digest}

/-- A transcript that is accepted has the hash of its words, and another one has none. -/
theorem digest_ok_iff : transcript.digest keccak256 = .ok digest ↔
    transcript.validate = .ok () ∧ keccak256 (transcript.hashed keccak256) = digest := by
  simp only [ReleaseTranscriptV5.digest, bind_ok_iff, exists_unit, pure_ok_iff]

theorem boolWord_injective : Function.Injective boolWord := by decide

/-- The run of words determines the transcript. -/
theorem hashed_injective : Function.Injective (hashed keccak256) := by
  intro transcript other h
  have hahead : (transcript.leading keccak256).length = (other.leading keccak256).length := rfl
  have hbehind : transcript.trailing.length = other.trailing.length := rfl
  obtain ⟨hleading, hstatements, htrailing⟩ :=
    append_inj_between hahead hbehind (abiEncode_injective h)
  simp only [leading, List.cons.injEq, true_and, and_true] at hleading
  simp only [trailing, List.cons.injEq, and_true] at htrailing
  obtain ⟨hcommitment, hnullifier, henrollmentA, henrollmentB, hinputs, houtputs, hcircuit, hkey,
    hparameter, hpolicy, hversion, hfirst, hsecond, hthreshold⟩ := hleading
  obtain ⟨hsame, hconflict, hreleased⟩ := htrailing
  have hcircuit := uintWord_toNat_injective (by decide) hcircuit
  have hversion := uintWord_toNat_injective (by decide) hversion
  have hcoalition : transcript.coalition = other.coalition :=
    Prod.ext (uintWord_toNat_injective (by decide) hfirst)
      (uintWord_toNat_injective (by decide) hsecond)
  have hthreshold := uintWord_toNat_injective (by decide) hthreshold
  have hsame := boolWord_injective hsame
  have hconflict := boolWord_injective hconflict
  have hreleased := uintWord_toNat_injective (by decide) hreleased
  cases transcript
  cases other
  simp_all only

/-- The digest of a transcript binds every field of it, however many operators stated what
they recomputed. -/
theorem digest_binds (hvalid : transcript.validate = .ok ()) (hvalid' : other.validate = .ok ())
    (hinj : Set.InjOn keccak256 {transcript.hashed keccak256, other.hashed keccak256})
    (h : transcript.digest keccak256 = other.digest keccak256) : transcript = other := by
  rw [digest_ok_iff.mpr ⟨hvalid, rfl⟩, digest_ok_iff.mpr ⟨hvalid', rfl⟩] at h
  exact hashed_injective (hinj (.inl rfl) (.inr rfl) (Except.ok.inj h))

/-- The statements of both shares of both operators, in the order they are produced, are those
of the transcript. -/
theorem digest_binds_sample :
    sampleTranscript = (sampleRequest 9 100).descriptor.transcript (1, 2) 2
      (sharedStatements sampleSameShares sampleConflictShares) true true 10 :=
  have hkeccak : Set.InjOn sampleDigest {sampleTranscript.hashed sampleDigest,
      sampleTranscript.hashed sampleDigest} := Set.injOn_pair.mpr fun _ => rfl
  digest_binds (by decide +kernel) (by decide +kernel) hkeccak rfl

end

end ReleaseTranscriptV5

end Mordant.Coalition
