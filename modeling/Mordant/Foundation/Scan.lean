/-
# Loops over a byte string

A canonicalizer walks over its input once and writes into a buffer that it allocated
before, either one element for each it reads, at the same index, or fewer, at an
index of their own.  Both loops stop at the first element they refuse and report
where it stands.  The rules give what the buffer holds when the loop ends.
-/

import Mathlib.Data.List.Basic

namespace Mordant.Foundation

section

variable {α : Type}

/-- `for (; i < raw.length; ++i) if (!p(raw[i])) revert`. -/
def checkAll (p : α → Bool) : ℕ → List α → Except ℕ Unit
  | _, [] => .ok ()
  | i, a :: rest => if p a then checkAll p (i + 1) rest else .error i

theorem checkAll_toOption {p : α → Bool} {i : ℕ} {raw : List α} :
    (checkAll p i raw).toOption = if raw.all p then some () else none := by
  induction raw generalizing i with
  | nil => rfl
  | cons a raw ih =>
      by_cases hp : p a = true
      · simpa [checkAll, hp] using ih
      · simp [checkAll, hp, Except.toOption]

end

section

variable {α β : Type}

/-- `for (; i < raw.length; ++i) out[i] = step(raw[i])`, which stops at an element
without a value. -/
def fill (step : α → Option β) : ℕ → List α → List β → Except ℕ (List β)
  | _, [], out => .ok out
  | i, a :: rest, out =>
      match step a with
      | some b => fill step (i + 1) rest (out.set i b)
      | none => .error i

/-- A loop that reaches the end has overwritten the blank part. -/
theorem fill_toOption {step : α → Option β} {p : α → Bool} {f : α → β}
    (hstep : ∀ a, step a = if p a then some (f a) else none) {raw : List α} {done blank : List β}
    (hlength : blank.length = raw.length) :
    (fill step done.length raw (done ++ blank)).toOption =
      if raw.all p then some (done ++ raw.map f) else none := by
  induction raw generalizing done blank with
  | nil =>
      rw [List.length_nil, List.length_eq_zero_iff] at hlength
      simp [fill, hlength, Except.toOption]
  | cons a raw ih =>
      obtain ⟨b, blank, rfl⟩ := List.exists_cons_of_length_eq_add_one hlength
      by_cases hp : p a = true
      · have hrest := @ih (done ++ [f a]) blank (by simpa using hlength)
        rw [List.length_append, List.length_singleton] at hrest
        simpa [fill, hstep a, hp] using hrest
      · simp [fill, hstep a, hp, Except.toOption]

/-- The whole loop. -/
theorem fill_from_start {step : α → Option β} {p : α → Bool} {f : α → β}
    (hstep : ∀ a, step a = if p a then some (f a) else none) {raw : List α} {blank : List β}
    (hlength : blank.length = raw.length) :
    (fill step 0 raw blank).toOption = if raw.all p then some (raw.map f) else none :=
  @fill_toOption α β step p f hstep raw [] blank hlength

end

section

variable {α β : Type}

/-- What becomes of an element. -/
inductive Scanned (β : Type)
  | keep (b : β)
  | drop
  | refuse

/-- The loop with an index of its own for what it writes, `out[length++] = ...`. -/
def compact (step : α → Scanned β) : ℕ → List α → List β → ℕ → Except ℕ (List β × ℕ)
  | _, [], out, length => .ok (out, length)
  | i, a :: rest, out, length =>
      match step a with
      | .keep b => compact step (i + 1) rest (out.set length b) (length + 1)
      | .drop => compact step (i + 1) rest out length
      | .refuse => .error i

/-- A loop that reaches the end has counted what it kept, and the front of the
buffer holds it. -/
theorem compact_toOption {step : α → Scanned β} {p dropped : α → Bool} {f : α → β}
    (hstep : ∀ a, step a = if dropped a then .drop else if p a then .keep (f a) else .refuse)
    {i : ℕ} {raw : List α} {done blank : List β} (hlength : raw.length ≤ blank.length) :
    ((compact step i raw (done ++ blank) done.length).toOption.map fun (out, length) =>
        (out.take length, length)) =
      let kept := raw.filter fun a => !dropped a
      if kept.all p then some (done ++ kept.map f, done.length + kept.length) else none := by
  induction raw generalizing i done blank with
  | nil => simp [compact, Except.toOption]
  | cons a raw ih =>
      by_cases hdropped : dropped a = true
      · have hrest := @ih (i + 1) done blank (by simp at hlength; omega)
        simpa [compact, hstep a, hdropped] using hrest
      · by_cases hp : p a = true
        · obtain ⟨b, blank, rfl⟩ :=
            List.exists_cons_of_length_pos (l := blank) (by simp at hlength; omega)
          have hrest := @ih (i + 1) (done ++ [f a]) blank (by simpa using hlength)
          rw [List.length_append, List.length_singleton] at hrest
          simpa [compact, hstep a, hdropped, hp, Nat.add_assoc, Nat.add_comm 1] using hrest
        · simp [compact, hstep a, hdropped, hp, Except.toOption]

/-- The whole loop. -/
theorem compact_from_start {step : α → Scanned β} {p dropped : α → Bool} {f : α → β}
    (hstep : ∀ a, step a = if dropped a then .drop else if p a then .keep (f a) else .refuse)
    {raw : List α} {blank : List β} (hlength : raw.length ≤ blank.length) :
    ((compact step 0 raw blank 0).toOption.map fun (out, length) => (out.take length, length)) =
      let kept := raw.filter fun a => !dropped a
      if kept.all p then some (kept.map f, kept.length) else none := by
  have hloop := @compact_toOption α β step p dropped f hstep 0 raw [] blank hlength
  simpa only [List.nil_append, List.length_nil, Nat.zero_add] using hloop

end

end Mordant.Foundation
