/-
# Reading documents

What `JSON.parse` accepts, and what it reads there.  A document is spelled in more than one
way, since strings may be escaped where nothing asks for it; whatever spells a value, without
spaces, is read as that value.
-/

import Mathlib.Data.List.Nodup
import Mordant.Script.Stringify

namespace Mordant.Script

/-! ## Tokens -/

/-- The white space between tokens. -/
def isJsonSpace (unit : UInt16) : Bool := unit = 32 || unit = 9 || unit = 10 || unit = 13

def skipSpace (text : Text) : Text := text.dropWhile isJsonSpace

/-- The unit a letter after the backslash stands for. -/
def escapedLetter (letter : UInt16) : Option UInt16 :=
  if letter = 34 ∨ letter = 92 ∨ letter = 47 then some letter
  else if letter = 98 then some 8
  else if letter = 102 then some 12
  else if letter = 110 then some 10
  else if letter = 114 then some 13
  else if letter = 116 then some 9
  else none

/-- The unit four digits stand for. -/
def escapedUnit (a b c d : UInt16) : Option UInt16 :=
  (naturalOf 16 [a, b, c, d]).map UInt16.ofNat

/-- Reads a string after its opening quote, and returns what comes after the closing one. -/
def readString : Text → Option (Text × Text)
  | [] => none
  | 34 :: rest => some ([], rest)
  | 92 :: 117 :: a :: b :: c :: d :: rest =>
    match escapedUnit a b c d with
    | some unit => (readString rest).map (Prod.map (unit :: ·) id)
    | none => none
  | 92 :: letter :: rest =>
    match escapedLetter letter with
    | some unit => (readString rest).map (Prod.map (unit :: ·) id)
    | none => none
  | unit :: rest => if unit < 32 then none else (readString rest).map (Prod.map (unit :: ·) id)

def isDecimal (unit : UInt16) : Bool := 48 ≤ unit && unit ≤ 57

/-- Nothing, or an exponent. -/
def isExponent : Text → Bool
  | [] => true
  | unit :: rest =>
    let digits := if rest.head? = some 43 ∨ rest.head? = some 45 then rest.tail else rest
    (unit = 101 || unit = 69) && digits ≠ [] && digits.all isDecimal

/-- Nothing, or a fraction, and then an exponent. -/
def isFraction : Text → Bool
  | 46 :: rest => rest.takeWhile isDecimal ≠ [] && isExponent (rest.dropWhile isDecimal)
  | rest => isExponent rest

/-- The grammar of a number. -/
def isNumberLiteral (text : Text) : Bool :=
  let unsigned := if text.head? = some 45 then text.tail else text
  let whole := unsigned.takeWhile isDecimal
  whole ≠ [] && (whole.head? ≠ some 48 || whole.length = 1) &&
    isFraction (unsigned.dropWhile isDecimal)

/-- The units a number may be spelled with. -/
def isLiteralUnit (unit : UInt16) : Bool := isNumberUnit unit || unit = 69

/-! ## Documents -/

/-- `CreateDataProperty`: a key that is there keeps its place and takes the new value. -/
def putMember (members : List (Text × Json)) (member : Text × Json) : List (Text × Json) :=
  if member.1 ∈ members.map Prod.fst then
    members.map fun old => if old.1 = member.1 then member else old
  else members ++ [member]

section

variable (readNumber : Text → Number)

/-- A value that is no string and holds no other. -/
def readWord (text : Text) : Option (Json × Text) :=
  if lit "null" <+: text then some (.null, text.drop 4)
  else if lit "true" <+: text then some (.bool true, text.drop 4)
  else if lit "false" <+: text then some (.bool false, text.drop 5)
  else
    let literal := text.takeWhile isLiteralUnit
    if isNumberLiteral literal then
      some (.number (readNumber literal), text.dropWhile isLiteralUnit)
    else none

mutual

/-- Reads a value off the front. -/
def readValue : ℕ → Text → Option (Json × Text)
  | 0, _ => none
  | fuel + 1, text =>
    match skipSpace text with
    | 34 :: rest => (readString rest).map (Prod.map .text id)
    | 91 :: rest =>
      if (skipSpace rest).head? = some 93 then some (.array [], (skipSpace rest).tail)
      else (readElements fuel rest).map (Prod.map .array id)
    | 123 :: rest =>
      if (skipSpace rest).head? = some 125 then some (.object [], (skipSpace rest).tail)
      else (readMembers fuel rest).map (Prod.map (fun all => .object (all.foldl putMember [])) id)
    | rest => readWord readNumber rest

/-- Reads the elements of an array, up to its closing bracket. -/
def readElements : ℕ → Text → Option (List Json × Text)
  | 0, _ => none
  | fuel + 1, text => do
    let (value, rest) ← readValue fuel text
    match skipSpace rest with
    | 44 :: rest => (readElements fuel rest).map (Prod.map (value :: ·) id)
    | 93 :: rest => some ([value], rest)
    | _ => none

/-- Reads the members of an object, up to its closing brace. -/
def readMembers : ℕ → Text → Option (List (Text × Json) × Text)
  | 0, _ => none
  | fuel + 1, text =>
    match skipSpace text with
    | 34 :: rest => do
      let (key, rest) ← readString rest
      match skipSpace rest with
      | 58 :: rest => do
        let (value, rest) ← readValue fuel rest
        match skipSpace rest with
        | 44 :: rest => (readMembers fuel rest).map (Prod.map ((key, value) :: ·) id)
        | 125 :: rest => some ([(key, value)], rest)
        | _ => none
      | _ => none
    | _ => none

end

/-- `JSON.parse`, which throws where there is no value.  Keys that are array indices stay in
the order they are read in. -/
def Json.parse (text : Text) : Option Json :=
  match readValue readNumber (text.length + 1) text with
  | some (value, rest) => if skipSpace rest = [] then some value else none
  | none => none

end

/-! ## What spells a value -/

/-- What spells a string between its quotes. -/
def SpelledString (body text : Text) : Prop :=
  ∀ rest, readString (body ++ 34 :: rest) = some (text, rest)

/-- An object in braces, from its members. -/
def spellMembers (parts : List (Text × Text)) : Text :=
  lit "\x7b" ++ List.intercalate (lit ",") (parts.map fun part =>
    34 :: part.1 ++ [34] ++ lit ":" ++ part.2) ++ lit "\x7d"

section

variable (readNumber : Text → Number)

mutual

/-- What spells a value, without spaces. -/
inductive Spelled : Text → Json → Prop
  | null : Spelled (lit "null") .null
  | bool (value : Bool) : Spelled (stringifyBool value) (.bool value)
  | number {literal : Text} (units : literal.all isLiteralUnit = true)
      (grammar : isNumberLiteral literal = true) : Spelled literal (.number (readNumber literal))
  | text {body text : Text} (spelled : SpelledString body text) :
      Spelled (34 :: body ++ [34]) (.text text)
  | array {parts : List Text} {elements : List Json} (spelled : SpelledAll parts elements) :
      Spelled (stringifyArray parts) (.array elements)
  | object {parts : List (Text × Text)} {members : List (Text × Json)}
      (spelled : SpelledEach parts members) (distinct : (members.map Prod.fst).Nodup) :
      Spelled (spellMembers parts) (.object members)

inductive SpelledAll : List Text → List Json → Prop
  | nil : SpelledAll [] []
  | cons {part : Text} {value : Json} {parts : List Text} {elements : List Json}
      (first : Spelled part value) (rest : SpelledAll parts elements) :
      SpelledAll (part :: parts) (value :: elements)

inductive SpelledEach : List (Text × Text) → List (Text × Json) → Prop
  | nil : SpelledEach [] []
  | cons {body key part : Text} {value : Json} {parts : List (Text × Text)}
      {members : List (Text × Json)} (name : SpelledString body key) (first : Spelled part value)
      (rest : SpelledEach parts members) :
      SpelledEach ((body, part) :: parts) ((key, value) :: members)

end

end

/-! ## Reading what spells a value -/

/-- No number goes on here. -/
def Ends (rest : Text) : Prop := ∀ unit ∈ rest.head?, isLiteralUnit unit = false

/-- What a value begins with closes no list and is no space. -/
def opens (unit : UInt16) : Bool := !isJsonSpace unit && unit ≠ 93 && unit ≠ 125

section

variable {readNumber : Text → Number} {unit : UInt16} {text rest : Text} {value : Json} {fuel : ℕ}

theorem skipSpace_cons (h : isJsonSpace unit = false) :
    skipSpace (unit :: rest) = unit :: rest := by
  rw [skipSpace, List.dropWhile_cons, if_neg (by rw [h]; decide)]

theorem ends_cons (h : isLiteralUnit unit = false) : Ends (unit :: rest) := by
  intro other hother
  obtain rfl := Option.some.inj hother
  exact h

theorem takeWhile_literal (hunits : text.all isLiteralUnit = true) (hrest : Ends rest) :
    (text ++ rest).takeWhile isLiteralUnit = text ∧
      (text ++ rest).dropWhile isLiteralUnit = rest := by
  have hall := List.all_eq_true.mp hunits
  rw [List.takeWhile_append_of_pos hall, List.dropWhile_append_of_pos hall]
  cases rest with
  | nil => exact ⟨List.append_nil _, rfl⟩
  | cons unit rest =>
      have hstop : ¬ isLiteralUnit unit = true := by
        rw [hrest unit rfl]
        decide
      rw [List.takeWhile_cons_of_neg hstop, List.dropWhile_cons_of_neg hstop]
      exact ⟨List.append_nil _, rfl⟩

/-- A number begins with a digit or a minus. -/
theorem isNumberLiteral_head (h : isNumberLiteral text = true) :
    ∃ unit rest, text = unit :: rest ∧ (isDecimal unit = true ∨ unit = 45) := by
  cases text with
  | nil => exact absurd h (by decide)
  | cons unit rest =>
      refine ⟨unit, rest, rfl, ?_⟩
      by_cases hminus : unit = 45
      · exact .inr hminus
      · refine .inl ?_
        by_contra hdigit
        have hhead : ¬ (unit :: rest).head? = some 45 := fun hsome =>
          hminus (Option.some.inj hsome)
        rw [isNumberLiteral, if_neg hhead, List.takeWhile_cons_of_neg hdigit] at h
        exact absurd h (by simp)

theorem opens_of_number (h : isDecimal unit = true ∨ unit = 45) :
    opens unit = true ∧ unit ≠ 34 ∧ unit ≠ 91 ∧ unit ≠ 123 ∧ unit ≠ 110 ∧ unit ≠ 116 ∧
      unit ≠ 102 := by
  have hbounds : 45 ≤ unit.toNat ∧ unit.toNat ≤ 57 := by
    rcases h with hdigit | rfl
    · simp only [isDecimal, Bool.and_eq_true, decide_eq_true_eq, UInt16.le_iff_toNat_le,
        UInt16.reduceToNat] at hdigit
      omega
    · decide
  have hne : ∀ other : UInt16, other.toNat < 45 ∨ 57 < other.toNat → unit ≠ other := by
    rintro other hother rfl
    omega
  have hspace : isJsonSpace unit = false := by
    simp only [isJsonSpace, Bool.or_eq_false_iff, decide_eq_false_iff_not]
    exact ⟨⟨⟨hne _ (by decide), hne _ (by decide)⟩, hne _ (by decide)⟩, hne _ (by decide)⟩
  refine ⟨?_, hne _ (by decide), hne _ (by decide), hne _ (by decide), hne _ (by decide),
    hne _ (by decide), hne _ (by decide)⟩
  rw [opens, hspace, decide_eq_true (hne 93 (by decide)), decide_eq_true (hne 125 (by decide))]
  rfl

/-- What spells a value begins as a value does. -/
theorem Spelled.head (h : Spelled readNumber text value) :
    ∃ unit rest, text = unit :: rest ∧ opens unit = true := by
  cases h with
  | null => exact ⟨_, _, rfl, rfl⟩
  | bool value => cases value <;> exact ⟨_, _, rfl, rfl⟩
  | number _ grammar =>
      obtain ⟨unit, rest, htext, hunit⟩ := isNumberLiteral_head grammar
      exact ⟨unit, rest, htext, (opens_of_number hunit).1⟩
  | text _ => exact ⟨_, _, rfl, rfl⟩
  | array _ => exact ⟨_, _, rfl, rfl⟩
  | object _ _ => exact ⟨_, _, rfl, rfl⟩

theorem isJsonSpace_of_opens (h : opens unit = true) : isJsonSpace unit = false := by
  simp only [opens, Bool.and_eq_true, Bool.not_eq_true'] at h
  exact h.1.1

/-- The text of a part, between its braces or brackets. -/
theorem append_close {close : UInt16} (part : Text) (parts : List Text) :
    List.intercalate (lit ",") (part :: parts) ++ [close] ++ rest =
      part ++ (closeElements close parts ++ rest) := by
  rw [intercalate_close, List.append_assoc]

theorem readWord_number (hunits : text.all isLiteralUnit = true)
    (hgrammar : isNumberLiteral text = true) (hrest : Ends rest) :
    readWord readNumber (text ++ rest) = some (.number (readNumber text), rest) := by
  obtain ⟨unit, tail, rfl, hunit⟩ := isNumberLiteral_head hgrammar
  obtain ⟨-, -, -, -, hnull, htrue, hfalse⟩ := opens_of_number hunit
  have hword : ∀ {first : UInt16} {letters : Text}, unit ≠ first →
      ¬ first :: letters <+: unit :: tail ++ rest := by
    intro first letters hne hprefix
    exact hne (List.cons_prefix_cons.mp hprefix).1.symm
  have hnull : ¬ lit "null" <+: unit :: tail ++ rest := hword hnull
  have htrue : ¬ lit "true" <+: unit :: tail ++ rest := hword htrue
  have hfalse : ¬ lit "false" <+: unit :: tail ++ rest := hword hfalse
  obtain ⟨htake, hdrop⟩ := takeWhile_literal hunits hrest
  rw [readWord, if_neg hnull, if_neg htrue, if_neg hfalse, htake, hdrop, if_pos hgrammar]

/-- What is neither quoted, bracketed nor braced is a word. -/
theorem readValue_word {first : UInt16} (hopens : opens first = true) (htext : first ≠ 34)
    (harray : first ≠ 91) (hobject : first ≠ 123) :
    readValue readNumber (fuel + 1) (first :: rest) = readWord readNumber (first :: rest) := by
  rw [readValue, skipSpace_cons (isJsonSpace_of_opens hopens)]
  split
  · next heq => exact absurd (List.cons.inj heq).1 htext
  · next heq => exact absurd (List.cons.inj heq).1 harray
  · next heq => exact absurd (List.cons.inj heq).1 hobject
  · rfl

/-- Members with different keys are all kept, in their order. -/
theorem foldl_putMember (members before : List (Text × Json))
    (h : ((before ++ members).map Prod.fst).Nodup) :
    members.foldl putMember before = before ++ members := by
  induction members generalizing before with
  | nil => exact (List.append_nil _).symm
  | cons member members ih =>
      have hnew : member.1 ∉ before.map Prod.fst := by
        rw [List.map_append, List.map_cons] at h
        exact fun hmem => (List.nodup_middle.mp h).notMem (List.mem_append_left _ hmem)
      rw [List.foldl_cons, putMember, if_neg hnew, ih]
      · rw [List.append_assoc, List.singleton_append]
      · rw [List.append_assoc, List.singleton_append]
        exact h

/-- A first unit that closes nothing opens the first element. -/
theorem readValue_array (hopens : opens unit = true) :
    readValue readNumber (fuel + 1) (91 :: unit :: rest) =
      (readElements readNumber fuel (unit :: rest)).map (Prod.map .array id) := by
  have hclose : ¬ (unit :: rest).head? = some 93 := by
    intro hhead
    obtain rfl := Option.some.inj hhead
    exact nomatch hopens
  show (if (skipSpace (unit :: rest)).head? = some 93 then _ else _) = _
  rw [skipSpace_cons (isJsonSpace_of_opens hopens), if_neg hclose]

/-- The last element. -/
theorem readElements_last (hvalue : readValue readNumber fuel text = some (value, 93 :: rest)) :
    readElements readNumber (fuel + 1) text = some ([value], rest) := by
  rw [readElements, hvalue]
  rfl

/-- An element before others. -/
theorem readElements_more {others : List Json} {after : Text}
    (hvalue : readValue readNumber fuel text = some (value, 44 :: rest))
    (hothers : readElements readNumber fuel rest = some (others, after)) :
    readElements readNumber (fuel + 1) text = some (value :: others, after) := by
  rw [readElements, hvalue]
  show (readElements readNumber fuel rest).map _ = _
  rw [hothers]
  rfl

/-- A quote opens the first key. -/
theorem readValue_object :
    readValue readNumber (fuel + 1) (123 :: 34 :: rest) =
      (readMembers readNumber fuel (34 :: rest)).map
        (Prod.map (fun all => .object (all.foldl putMember [])) id) := rfl

/-- The last member. -/
theorem readMembers_last {body key : Text} (hname : SpelledString body key)
    (hvalue : readValue readNumber fuel text = some (value, 125 :: rest)) :
    readMembers readNumber (fuel + 1) (34 :: (body ++ 34 :: 58 :: text)) =
      some ([(key, value)], rest) := by
  rw [readMembers]
  show (readString (body ++ 34 :: 58 :: text)).bind _ = _
  rw [hname]
  show (readValue readNumber fuel text).bind _ = _
  rw [hvalue]
  rfl

/-- A member before others. -/
theorem readMembers_more {body key after : Text} {others : List (Text × Json)}
    (hname : SpelledString body key)
    (hvalue : readValue readNumber fuel text = some (value, 44 :: rest))
    (hothers : readMembers readNumber fuel rest = some (others, after)) :
    readMembers readNumber (fuel + 1) (34 :: (body ++ 34 :: 58 :: text)) =
      some ((key, value) :: others, after) := by
  rw [readMembers]
  show (readString (body ++ 34 :: 58 :: text)).bind _ = _
  rw [hname]
  show (readValue readNumber fuel text).bind _ = _
  rw [hvalue]
  show (readMembers readNumber fuel rest).map _ = _
  rw [hothers]
  rfl

/-- A member as it is spelled. -/
def spellMember (part : Text × Text) : Text := 34 :: part.1 ++ [34] ++ lit ":" ++ part.2

theorem spellMember_append {body part : Text} :
    spellMember (body, part) ++ rest = 34 :: (body ++ 34 :: 58 :: (part ++ rest)) := by
  simp only [spellMember, List.cons_append, List.append_assoc, List.nil_append]
  rfl

mutual

/-- **What spells a value is read as that value**, and no further. -/
theorem Spelled.read : ∀ {text : Text} {value : Json}, Spelled readNumber text value →
    ∀ (fuel : ℕ) (rest : Text), text.length ≤ fuel → Ends rest →
      readValue readNumber fuel (text ++ rest) = some (value, rest)
  | _, _, .null, 0, _, hfuel, _ | _, _, .bool true, 0, _, hfuel, _
  | _, _, .bool false, 0, _, hfuel, _ | _, _, .array _, 0, _, hfuel, _
  | _, _, .object _ _, 0, _, hfuel, _ | _, _, .text _, 0, _, hfuel, _ =>
      absurd hfuel (Nat.not_succ_le_zero _)
  | _, _, .number _ grammar, 0, _, hfuel, _ => by
      obtain ⟨unit, tail, rfl, -⟩ := isNumberLiteral_head grammar
      exact absurd hfuel (Nat.not_succ_le_zero _)
  | _, _, .null, fuel + 1, rest, _, _ =>
      readValue_word rfl (by decide) (by decide) (by decide)
  | _, _, .bool true, fuel + 1, rest, _, _ =>
      readValue_word rfl (by decide) (by decide) (by decide)
  | _, _, .bool false, fuel + 1, rest, _, _ =>
      readValue_word rfl (by decide) (by decide) (by decide)
  | _, _, .number units grammar, fuel + 1, rest, _, hrest => by
      have hword : readWord readNumber _ = _ := readWord_number units grammar hrest
      obtain ⟨unit, tail, rfl, hunit⟩ := isNumberLiteral_head grammar
      obtain ⟨hopens, htext, harray, hobject, -⟩ := opens_of_number hunit
      exact (readValue_word hopens htext harray hobject).trans hword
  | _, _, @Spelled.text _ body _ spelled, fuel + 1, rest, _, _ => by
      show (readString (body ++ [34] ++ rest)).map _ = _
      rw [List.append_assoc, List.singleton_append, spelled rest]
      rfl
  | _, _, .array .nil, fuel + 1, rest, _, _ => rfl
  | _, _, .array (@SpelledAll.cons _ part _ parts _ first others), fuel + 1, rest, hfuel, _ => by
      have htext : stringifyArray (part :: parts) ++ rest =
          91 :: (part ++ (closeElements 93 parts ++ rest)) := congrArg (91 :: ·) (append_close _ _)
      have hlength := congrArg List.length htext
      simp only [List.length_append, List.length_cons] at hlength
      have hread := others.read part _ fuel rest (by rw [List.length_append]; omega) first.read
      obtain ⟨unit, tail, rfl, hopens⟩ := first.head
      rw [htext]
      show readValue readNumber (fuel + 1) (91 :: unit :: _) = _
      rw [readValue_array hopens]
      show (readElements readNumber fuel (unit :: tail ++ _)).map _ = _
      rw [hread]
      rfl
  | _, _, .object .nil _, fuel + 1, rest, _, _ => rfl
  | _, _, .object (@SpelledEach.cons _ body key part _ parts _ name first others) distinct,
      fuel + 1, rest, hfuel, _ => by
      have htext : spellMembers ((body, part) :: parts) ++ rest =
          123 :: (spellMember (body, part) ++
            (closeElements 125 (parts.map spellMember) ++ rest)) :=
        congrArg (123 :: ·) (append_close _ _)
      have hlength := congrArg List.length htext
      simp only [List.length_append, List.length_cons] at hlength
      have hread := others.read body key part _ fuel rest name
        (by rw [List.length_append]; omega) first.read
      rw [htext, spellMember_append, readValue_object, ← spellMember_append, hread]
      show some (Json.object (List.foldl putMember [] _), rest) = _
      rw [foldl_putMember _ [] distinct]
      rfl

theorem SpelledAll.read : ∀ {others : List Text} {elements : List Json},
    SpelledAll readNumber others elements → ∀ (part : Text) (value : Json) (fuel : ℕ)
      (rest : Text), (part ++ closeElements 93 others).length ≤ fuel →
      (∀ (fuel : ℕ) (rest : Text), part.length ≤ fuel → Ends rest →
        readValue readNumber fuel (part ++ rest) = some (value, rest)) →
      readElements readNumber fuel (part ++ (closeElements 93 others ++ rest)) =
        some (value :: elements, rest)
  | _, _, .nil, part, value, 0, rest, hfuel, _
  | _, _, .cons _ _, part, value, 0, rest, hfuel, _ => by
      simp [closeElements] at hfuel
  | _, _, .nil, part, value, fuel + 1, rest, hfuel, hfirst => by
      simp only [closeElements, List.length_append, List.length_cons] at hfuel
      exact readElements_last (hfirst fuel _ (by omega) (ends_cons (by decide)))
  | _, _, @SpelledAll.cons _ next _ others _ second rests, part, value, fuel + 1, rest, hfuel,
      hfirst => by
      simp only [closeElements, List.length_append, List.length_cons] at hfuel
      have hothers := rests.read next _ fuel rest (by rw [List.length_append]; omega) second.read
      have hvalue := hfirst fuel (44 :: (next ++ (closeElements 93 others ++ rest))) (by omega)
        (ends_cons (by decide))
      rw [closeElements, List.cons_append, List.append_assoc]
      exact readElements_more hvalue hothers

theorem SpelledEach.read : ∀ {others : List (Text × Text)} {members : List (Text × Json)},
    SpelledEach readNumber others members → ∀ (body key part : Text) (value : Json) (fuel : ℕ)
      (rest : Text), SpelledString body key →
      (spellMember (body, part) ++ closeElements 125 (others.map spellMember)).length ≤ fuel →
      (∀ (fuel : ℕ) (rest : Text), part.length ≤ fuel → Ends rest →
        readValue readNumber fuel (part ++ rest) = some (value, rest)) →
      readMembers readNumber fuel
        (spellMember (body, part) ++ (closeElements 125 (others.map spellMember) ++ rest)) =
          some ((key, value) :: members, rest)
  | _, _, .nil, _, _, _, _, 0, _, _, hfuel, _
  | _, _, .cons _ _ _, _, _, _, _, 0, _, _, hfuel, _ => by
      simp [closeElements] at hfuel
  | _, _, .nil, body, key, part, value, fuel + 1, rest, hname, hfuel, hfirst => by
      simp only [List.map_nil, closeElements, List.length_append, List.length_cons, spellMember]
        at hfuel
      rw [spellMember_append]
      exact readMembers_last hname (hfirst fuel _ (by omega) (ends_cons (by decide)))
  | _, _, @SpelledEach.cons _ body' key' next _ others _ name second rests, body, key, part,
      value, fuel + 1, rest, hname, hfuel, hfirst => by
      rw [List.map_cons, closeElements] at hfuel ⊢
      have hlength : ∀ part : Text × Text, part.2.length ≤ (spellMember part).length := by
        intro part
        simp only [spellMember, List.length_append]
        omega
      have hpart := hlength (body, part)
      simp only [List.length_append, List.length_cons] at hfuel hpart
      have hothers := rests.read body' key' next _ fuel rest name
        (by rw [List.length_append]; omega) second.read
      have hvalue := hfirst fuel (44 :: (spellMember (body', next) ++
        (closeElements 125 (others.map spellMember) ++ rest))) (by omega) (ends_cons (by decide))
      rw [spellMember_append, List.cons_append, List.append_assoc]
      exact readMembers_more hname hvalue hothers

end

/-- What spells a value is parsed as that value. -/
theorem Spelled.parse (h : Spelled readNumber text value) :
    Json.parse readNumber text = some value := by
  have hread := h.read (text.length + 1) [] (Nat.le_succ _) fun _ hmem => nomatch hmem
  rw [List.append_nil] at hread
  rw [Json.parse, hread]
  rfl

end

/-! ## Numbers -/

/-- How the runtime writes finite numbers, and reads them. -/
structure NumberFormat where
  /-- `JSON.stringify` of a finite number. -/
  write : ℚ → Text
  /-- The number a literal stands for. -/
  read : Text → Number
  literal : ∀ value, isNumberLiteral (write value) = true
  units : ∀ value, (write value).all isNumberUnit = true
  read_write : ∀ value, read (write value) = .finite value

/-- What is written tells the number. -/
theorem NumberFormat.numberTexts (numbers : NumberFormat) : NumberTexts numbers.write where
  injective value other h := by
    have hread := numbers.read_write value
    rw [h, numbers.read_write] at hread
    exact (Number.finite.inj hread).symm
  nonempty value h := by
    have hliteral := numbers.literal value
    rw [h] at hliteral
    exact absurd hliteral (by decide)
  units value := List.all_eq_true.mp (numbers.units value)

end Mordant.Script
