/-
# Encodings that say where they end

An encoding is delimited when what is written tells where it ends, whatever follows.
Delimited encodings can be written one after another and read back, so a hash over such
a text commits to every part of it.
-/

import Mathlib.Data.Nat.Digits.Lemmas

namespace Mordant.Foundation

/-- What stands between runs of known lengths is known when the whole is. -/
theorem append_inj_between {α : Type} {first first' middle middle' last last' : List α}
    (hfirst : first.length = first'.length) (hlast : last.length = last'.length)
    (h : first ++ middle ++ last = first' ++ middle' ++ last') :
    first = first' ∧ middle = middle' ∧ last = last' := by
  obtain ⟨hfront, hlast⟩ := List.append_inj' h hlast
  obtain ⟨hfirst, hmiddle⟩ := List.append_inj hfront hfirst
  exact ⟨hfirst, hmiddle, hlast⟩

section

variable {α β γ : Type} {domain domain' : Set β} {write : β → List α}

/-- What is written of the domain tells where it ends. -/
def Delimited (domain : Set β) (write : β → List α) : Prop :=
  ∀ ⦃x⦄, x ∈ domain → ∀ ⦃y⦄, y ∈ domain → ∀ ⦃rest rest'⦄,
    write x ++ rest = write y ++ rest' → x = y ∧ rest = rest'

namespace Delimited

/-- An encoding that a reader takes off the front of any text is delimited. -/
theorem of_read (read : List α → Option (β × List α))
    (h : ∀ x ∈ domain, ∀ rest, read (write x ++ rest) = some (x, rest)) :
    Delimited domain write := by
  intro x hx y hy rest rest' heq
  have hread : some (x, rest) = some (y, rest') := by
    rw [← h x hx, heq, h y hy]
  exact Prod.mk.inj (Option.some.inj hread)

/-- An encoding of one length is delimited. -/
theorem of_length {n : ℕ} (hlength : ∀ x ∈ domain, (write x).length = n)
    (hinj : domain.InjOn write) : Delimited domain write := by
  intro x hx y hy rest rest' heq
  obtain ⟨hwrite, hrest⟩ := List.append_inj heq ((hlength x hx).trans (hlength y hy).symm)
  exact ⟨hinj hx hy hwrite, hrest⟩

theorem injOn (h : Delimited domain write) : domain.InjOn write := by
  intro x hx y hy heq
  have hnil : write x ++ [] = write y ++ [] := congrArg (· ++ []) heq
  exact (h hx hy hnil).1

/-- A payload behind its length. -/
theorem counted {header : ℕ → List α} {lengths : Set ℕ} (h : Delimited lengths header) :
    Delimited {payload | payload.length ∈ lengths}
      fun payload : List α => header payload.length ++ payload := by
  intro x hx y hy rest rest' heq
  simp only [List.append_assoc] at heq
  obtain ⟨hlength, hpayload⟩ := h hx hy heq
  exact List.append_inj hpayload hlength

/-- As many, one after the other. -/
theorem flatMap_inj (h : Delimited domain write) {values others : List β}
    (hvalues : ∀ x ∈ values, x ∈ domain) (hothers : ∀ x ∈ others, x ∈ domain)
    (hlength : values.length = others.length) (heq : values.flatMap write = others.flatMap write) :
    values = others := by
  induction values generalizing others with
  | nil => exact (List.length_eq_zero_iff.mp hlength.symm).symm
  | cons x xs ih =>
      cases others with
      | nil => exact nomatch hlength
      | cons y ys =>
          obtain ⟨hx, hxs⟩ := List.forall_mem_cons.mp hvalues
          obtain ⟨hy, hys⟩ := List.forall_mem_cons.mp hothers
          rw [List.flatMap_cons, List.flatMap_cons] at heq
          obtain ⟨rfl, htail⟩ := h hx hy heq
          rw [ih hxs hys (Nat.succ.inj hlength) htail]

end Delimited

end

end Mordant.Foundation
