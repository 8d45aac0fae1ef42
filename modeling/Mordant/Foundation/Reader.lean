/-
# Reading from the front of a text

A reader takes a value off the front of a text and leaves the rest, or fails.  `Reads` is
the round trip of one part: whatever follows what was written, the reader takes exactly
that much and gives the value back.  Round trips compose along `bind`, so a record is read
back field by field.
-/

import Mathlib.Data.List.Basic

namespace Mordant.Foundation

/-- A reader of values over texts of `τ`. -/
def Reader (τ α : Type) : Type := List τ → Option (α × List τ)

namespace Reader

variable {τ α β : Type}

instance : Monad (Reader τ) where
  pure a := fun text => some (a, text)
  bind x f := fun text => (x text).bind fun next => f next.1 next.2

/-- The next `n` signs. -/
def take (n : ℕ) : Reader τ (List τ) := fun text =>
  if n ≤ text.length then some (text.take n, text.drop n) else none

/-- The next `n` signs, decoded. -/
def field (n : ℕ) (decode : List τ → α) : Reader τ α := do
  let text ← take n
  pure (decode text)

def failIf (p : Prop) [Decidable p] : Reader τ Unit := fun text =>
  if p then none else some ((), text)

/-- A text that is read to its end. -/
def whole (x : Reader τ α) (text : List τ) : Option α :=
  match x text with
  | some (a, []) => some a
  | _ => none

end Reader

open Reader

section

variable {τ α β : Type} {x : Reader τ α} {f : α → Reader τ β} {written written' : List τ} {a : α}
  {b : β} {n : ℕ}

/-- What was written is read back as `a`, whatever follows it. -/
def Reads (x : Reader τ α) (written : List τ) (a : α) : Prop :=
  ∀ rest, x (written ++ rest) = some (a, rest)

theorem reads_pure : Reads (pure a : Reader τ α) [] a := fun _ => rfl

theorem Reads.bind (h : Reads x written a) (hf : Reads (f a) written' b) :
    Reads (x >>= f) (written ++ written') b := by
  intro rest
  show (x (written ++ written' ++ rest)).bind (fun next => f next.1 next.2) = _
  rw [List.append_assoc, h, Option.bind_some]
  exact hf rest

/-- The last part of a text. -/
theorem Reads.last (h : Reads x written a) (hf : f a = pure b) : Reads (x >>= f) written b := by
  have hbind := h.bind (f := f) (hf ▸ reads_pure)
  rwa [List.append_nil] at hbind

theorem reads_take (hlength : written.length = n) : Reads (take n) written written := by
  intro rest
  rw [take, if_pos (by rw [List.length_append]; omega), ← hlength, List.take_left, List.drop_left]

theorem reads_field {decode : List τ → α} (hlength : written.length = n)
    (hdecode : decode written = a) : Reads (field n decode) written a :=
  (reads_take hlength).last (congrArg pure hdecode)

theorem Reads.unless {p : Prop} [Decidable p] {f : Unit → Reader τ β} (hp : ¬ p)
    (h : Reads (f ()) written b) : Reads (failIf p >>= f) written b := by
  intro rest
  show (failIf p (written ++ rest)).bind (fun next => f next.1 next.2) = _
  rw [failIf, if_neg hp, Option.bind_some]
  exact h rest

/-- A text that is read back is read to its end. -/
theorem Reads.whole (h : Reads x written a) : x.whole written = some a := by
  have hrest := h []
  rw [List.append_nil] at hrest
  rw [Reader.whole, hrest]

end

end Mordant.Foundation
