/-
# Readers that accept what a writer writes

A round trip says that what was written is read back.  Where agreement is decided over what
is written again, the other direction counts as well: whatever the reader takes off a text
is what the writer would have put there.  `Exactly` says both, and it composes field by
field: a record is read exactly when its parts are.

Two such texts are equal when the values are, so a reader of this kind has one text for a
value.
-/

import Mordant.Foundation.Delimited
import Mordant.Foundation.Reader

namespace Mordant.Foundation

namespace Reader

variable {τ α β : Type}

/-- So many values, one after another. -/
def replicate (x : Reader τ α) : ℕ → Reader τ (List α)
  | 0 => pure []
  | n + 1 => do
    let a ← x
    let rest ← replicate x n
    pure (a :: rest)

/-- A value that takes nothing off the text, if there is one. -/
def lift (value : Option α) : Reader τ α := fun text => value.map fun a => (a, text)

/-- A part that is read off, and then read to its end by another reader. -/
def nested (x : Reader τ (List τ)) (parse : List τ → Option α) : Reader τ α := do
  let part ← x
  lift (parse part)

/-- A text that is read to its end, if its value is written again as that text. -/
def reencoded [DecidableEq τ] (x : Reader τ α) (marshal : α → Option (List τ))
    (text : List τ) : Option α :=
  (x.whole text).filter fun a => marshal a = some text

end Reader

open Reader

section

variable {τ α β : Type} {x : Reader τ α} {f : α → Reader τ β} {text rest : List τ} {a a' : α}
  {b : β} {n : ℕ} {p : Prop} {done : Unit}

theorem reader_bind_iff : (x >>= f) text = some (b, rest) ↔
    ∃ a middle, x text = some (a, middle) ∧ f a middle = some (b, rest) := by
  show (x text).bind (fun next => f next.1 next.2) = some (b, rest) ↔ _
  rw [Option.bind_eq_some_iff, Prod.exists]

theorem reader_pure_iff :
    (pure a : Reader τ α) text = some (a', rest) ↔ a = a' ∧ text = rest := by
  show some (a, text) = some (a', rest) ↔ _
  rw [Option.some_inj, Prod.mk.injEq]

theorem take_iff {part : List τ} :
    take n text = some (part, rest) ↔ part.length = n ∧ text = part ++ rest := by
  rw [take]
  by_cases hlength : n ≤ text.length
  · rw [if_pos hlength, Option.some_inj, Prod.mk.injEq]
    constructor
    · rintro ⟨rfl, rfl⟩
      exact ⟨List.length_take_of_le hlength, (List.take_append_drop n text).symm⟩
    · rintro ⟨rfl, rfl⟩
      exact ⟨List.take_left, List.drop_left⟩
  · rw [if_neg hlength]
    refine iff_of_false (Option.some_ne_none _).symm ?_
    rintro ⟨rfl, rfl⟩
    exact hlength (by rw [List.length_append]; omega)

theorem failIf_reader_iff [Decidable p] :
    failIf p text = some (done, rest) ↔ ¬ p ∧ text = rest := by
  rw [failIf]
  by_cases hp : p
  · rw [if_pos hp]
    exact iff_of_false (Option.some_ne_none _).symm fun h => h.1 hp
  · rw [if_neg hp, Option.some_inj, Prod.mk.injEq]
    exact and_congr_left' (iff_of_true rfl hp)

theorem lift_iff {value : Option α} :
    (lift value : Reader τ α) text = some (a, rest) ↔ value = some a ∧ text = rest := by
  cases value with
  | none => exact iff_of_false (fun h => nomatch h) (fun h => nomatch h.1)
  | some b => rw [lift, Option.map_some, Option.some_inj, Option.some_inj, Prod.mk.injEq]

theorem whole_iff : x.whole text = some a ↔ x text = some (a, []) := by
  rw [whole]
  split
  · next h => rw [h, Option.some_inj, Option.some_inj, Prod.mk.injEq, and_iff_left rfl]
  · next h => exact iff_of_false (Option.some_ne_none _).symm (h a)

end

/-! ## Exact readers -/

section

variable {τ α β : Type} {x : Reader τ α} {admits : α → Prop} {write : α → List τ}
  {text text' rest : List τ} {a : α} {n : ℕ}

/-- The reader takes an admitted value off a text exactly where the text begins with what is
written of it. -/
def Exactly (x : Reader τ α) (admits : α → Prop) (write : α → List τ) : Prop :=
  ∀ text a rest, x text = some (a, rest) ↔ admits a ∧ text = write a ++ rest

/-- A whole text is accepted exactly as what is written of an admitted value. -/
def ExactlyParses (parse : List τ → Option α) (admits : α → Prop) (write : α → List τ) : Prop :=
  ∀ text a, parse text = some a ↔ admits a ∧ text = write a

namespace Exactly

theorem whole (h : Exactly x admits write) : ExactlyParses x.whole admits write := by
  intro text a
  rw [whole_iff, h, List.append_nil]

/-- A field of one length whose decoding loses nothing. -/
theorem field {decode : List τ → α} (hlength : ∀ a, (write a).length = n)
    (hdecode : ∀ a, decode (write a) = a)
    (hwrite : ∀ text : List τ, text.length = n → write (decode text) = text) :
    Exactly (Reader.field n decode) (fun _ => True) write := by
  intro text a rest
  rw [Reader.field, reader_bind_iff, true_and]
  simp only [take_iff, reader_pure_iff]
  constructor
  · rintro ⟨part, _, ⟨hpart, rfl⟩, rfl, rfl⟩
    rw [hwrite part hpart]
  · rintro rfl
    exact ⟨write a, rest, ⟨hlength a, rfl⟩, hdecode a, rfl⟩

/-- As many values as are expected. -/
theorem replicate (h : Exactly x admits write) (n : ℕ) :
    Exactly (x.replicate n) (fun values => values.length = n ∧ ∀ a ∈ values, admits a)
      fun values => values.flatMap write := by
  induction n with
  | zero =>
      intro text values rest
      rw [Reader.replicate, reader_pure_iff]
      constructor
      · rintro ⟨rfl, rfl⟩
        exact ⟨⟨rfl, fun a ha => absurd ha List.not_mem_nil⟩, rfl⟩
      · rintro ⟨⟨hlength, -⟩, rfl⟩
        rw [List.length_eq_zero_iff] at hlength
        rw [hlength]
        exact ⟨rfl, rfl⟩
  | succ n ih =>
      intro text values rest
      simp only [Reader.replicate, reader_bind_iff, reader_pure_iff, h _, ih _]
      constructor
      · rintro ⟨a, _, ⟨ha, rfl⟩, others, _, ⟨⟨rfl, hothers⟩, rfl⟩, rfl, rfl⟩
        refine ⟨⟨rfl, List.forall_mem_cons.mpr ⟨ha, hothers⟩⟩, ?_⟩
        rw [List.flatMap_cons, List.append_assoc]
      · rintro ⟨⟨hlength, hadmits⟩, rfl⟩
        obtain ⟨a, others, rfl⟩ := List.exists_cons_of_length_eq_add_one hlength
        obtain ⟨ha, hothers⟩ := List.forall_mem_cons.mp hadmits
        rw [List.flatMap_cons, List.append_assoc]
        exact ⟨a, _, ⟨ha, rfl⟩, others, _, ⟨⟨Nat.succ.inj hlength, hothers⟩, rfl⟩, rfl, rfl⟩

/-- A part that another reader reads to its end. -/
theorem nested {part : Reader τ (List τ)} {framed : List τ → Prop} {frame : List τ → List τ}
    {parse : List τ → Option α} (hpart : Exactly part framed frame)
    (hparse : ExactlyParses parse admits write) :
    Exactly (part.nested parse) (fun a => framed (write a) ∧ admits a)
      fun a => frame (write a) := by
  intro text a rest
  simp only [Reader.nested, reader_bind_iff, lift_iff, hpart _, hparse _]
  constructor
  · rintro ⟨_, _, ⟨hframed, rfl⟩, ⟨ha, rfl⟩, rfl⟩
    exact ⟨⟨hframed, ha⟩, rfl⟩
  · rintro ⟨⟨hframed, ha⟩, rfl⟩
    exact ⟨write a, rest, ⟨hframed, rfl⟩, ⟨ha, rfl⟩, rfl⟩

/-- What is written of admitted values tells where it ends. -/
theorem delimited (h : Exactly x admits write) : Delimited {a | admits a} write :=
  .of_read x fun a ha rest => (h _ a rest).mpr ⟨ha, rfl⟩

end Exactly

namespace ExactlyParses

variable {parse : List τ → Option α}

/-- What is written of an admitted value is read back. -/
theorem parse_write (h : ExactlyParses parse admits write) (ha : admits a) :
    parse (write a) = some a :=
  (h _ a).mpr ⟨ha, rfl⟩

/-- What is accepted is what is written of the value. -/
theorem write_parse (h : ExactlyParses parse admits write) (hparse : parse text = some a) :
    write a = text :=
  ((h text a).mp hparse).2.symm

end ExactlyParses

/-- A writer and a reader of one format: what is written is read back, what is read is what is
written again, and nothing goes on after a text that is read. -/
structure Format {ε : Type} (domain : Set α) (encode : α → Except ε (List τ))
    (decode : List τ → Except ε α) : Prop where
  decode_encode : ∀ a ∈ domain, ∀ text, encode a = .ok text → decode text = .ok a
  encode_decode : ∀ text a, decode text = .ok a → ∀ text', encode a = .ok text' → text' = text
  ends : ∀ text more a, decode text = .ok a → more ≠ [] → ∀ a', decode (text ++ more) ≠ .ok a'

/-- An exact reader and the writer that it is exact for, each with checks of its own. -/
theorem Exactly.format {ε : Type} {domain : Set α} {encode : α → Except ε (List τ)}
    {decode : List τ → Except ε α} {writes accepts : α → Prop} (h : Exactly x admits write)
    (hencode : ∀ a text, encode a = .ok text ↔ writes a ∧ text = write a)
    (hdecode : ∀ text a, decode text = .ok a ↔ x.whole text = some a ∧ accepts a)
    (hchecks : ∀ a ∈ domain, writes a → admits a ∧ accepts a) : Format domain encode decode where
  decode_encode := by
    intro a ha text htext
    obtain ⟨hwrites, rfl⟩ := (hencode a text).mp htext
    obtain ⟨hadmits, haccepts⟩ := hchecks a ha hwrites
    exact (hdecode _ a).mpr ⟨h.whole.parse_write hadmits, haccepts⟩
  encode_decode := by
    intro text a htext text' htext'
    obtain ⟨-, rfl⟩ := (hencode a text').mp htext'
    exact h.whole.write_parse ((hdecode text a).mp htext).1
  ends := by
    intro text more a htext hmore a' hlonger
    have hread := whole_iff.mp ((hdecode text a).mp htext).1
    have hread' := whole_iff.mp ((hdecode _ a').mp hlonger).1
    obtain ⟨hadmits, rfl⟩ := (h text a []).mp hread
    have hmiddle := (h _ a more).mpr ⟨hadmits, rfl⟩
    rw [List.append_nil] at hread'
    exact hmore (Prod.mk.inj (Option.some.inj (hmiddle.symm.trans hread'))).2

end

/-! ## Formats that are written again -/

section

variable {τ α : Type} {x : Reader τ α} {marshal : α → Option (List τ)} {values : List α} {a : α}

theorem Reads.nested {part : Reader τ (List τ)} {parse : List τ → Option α}
    {written text : List τ} (h : Reads part written text) (hparse : parse text = some a) :
    Reads (part.nested parse) written a := by
  intro rest
  exact reader_bind_iff.mpr ⟨text, rest, h rest, lift_iff.mpr ⟨hparse, rfl⟩⟩

theorem reads_replicate {write : α → List τ} (h : ∀ a ∈ values, Reads x (write a) a) :
    Reads (x.replicate values.length) (values.flatMap write) values := by
  induction values with
  | nil => exact reads_pure
  | cons a values ih =>
      obtain ⟨ha, hvalues⟩ := List.forall_mem_cons.mp h
      exact ha.bind ((ih hvalues).last rfl)

/-- Some values of a format have one text each, which is read back, and no other text is
accepted: what is read is written again as it was. -/
structure Canonical (produced : Set α) (marshal : α → Option (List τ))
    (parse : List τ → Option α) : Prop where
  parse_marshal : ∀ a ∈ produced, ∃ text, marshal a = some text ∧ parse text = some a
  marshal_parse : ∀ text a, parse text = some a → marshal a = some text
  distinct : ∀ text text' a a', parse text = some a → parse text' = some a' → text ≠ text' →
    a ≠ a'

theorem reencoded_of_reads [DecidableEq τ] {text : List τ} (hmarshal : marshal a = some text)
    (h : Reads x text a) : x.reencoded marshal text = some a :=
  Option.filter_eq_some_iff.mpr ⟨h.whole, decide_eq_true hmarshal⟩

/-- It is enough that what is written is read back. -/
theorem canonical_of_reads [DecidableEq τ] {produced : Set α}
    (h : ∀ a ∈ produced, ∃ text, marshal a = some text ∧ Reads x text a) :
    Canonical produced marshal (x.reencoded marshal) where
  parse_marshal a ha := by
    obtain ⟨text, hmarshal, hreads⟩ := h a ha
    exact ⟨text, hmarshal, reencoded_of_reads hmarshal hreads⟩
  marshal_parse text a ha := of_decide_eq_true (Option.filter_eq_some_iff.mp ha).2
  distinct := by
    rintro text text' a _ ha ha' hne rfl
    have hmarshal := of_decide_eq_true (Option.filter_eq_some_iff.mp ha).2
    rw [of_decide_eq_true (Option.filter_eq_some_iff.mp ha').2] at hmarshal
    exact hne (Option.some.inj hmarshal).symm

end

end Mordant.Foundation
