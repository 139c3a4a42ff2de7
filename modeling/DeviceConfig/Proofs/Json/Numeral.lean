import DeviceConfig.Json.NumberText
import DeviceConfig.Proofs.Text.Digits
import Mathlib.Algebra.Group.Int.Defs
import Mathlib.Algebra.Group.Nat.Defs

/-!
The numbers of JSON: a sign, digits without needless zeros in front, a fraction and a power of ten. What is read off the
front of a text is such a number, and one that nothing follows is read as a whole. An integer that fits 64 bits is
kept digit by digit.
-/

namespace DeviceConfig.Json

open Decimal Document NumberText Text

structure Digits where
  chars : List Char
  given : chars ≠ []
  digits : ∀ c ∈ chars, isDigit c = true

def digitValues (cs : List Char) : List Nat := cs.map fun c => c.toNat - '0'.toNat

def Digits.values (digits : Digits) : List Nat := digitValues digits.chars

theorem Digits.values_ne_nil (digits : Digits) : digits.values ≠ [] := by
  simpa [values, digitValues] using digits.given

theorem Digits.head {digits : Digits} {behind rest : List Char} {c : Char}
    (begins : digits.chars ++ behind = c :: rest) : isDigit c = true := by
  obtain ⟨_ | ⟨first, more⟩, given, all⟩ := digits
  · contradiction
  · obtain ⟨rfl, -⟩ := List.cons.inj begins
    exact all _ List.mem_cons_self

def signChars (sign : Option Bool) : List Char := sign.elim [] fun minus => [if minus then '-' else '+']

/-- A power of ten: the letter, a sign if there is one, and the digits. -/
structure Power where
  letter : Char
  known : letter = 'e' ∨ letter = 'E'
  /-- Is the sign a minus? -/
  sign : Option Bool
  digits : Digits

def Power.chars (power : Power) : List Char :=
  power.letter :: (signChars power.sign ++ power.digits.chars)

def Digits.on (digits : Digits) (parts : Parts) : Parts :=
  { parts with fraction := digits.values, isFloat := true }

def Power.on (power : Power) (parts : Parts) : Parts :=
  { parts with
    isFloat := true
    exponentNegative := power.sign == some true
    exponent := ofDigits power.digits.values
    exponentTooLarge := 1 <<< 31 ≤ ofDigits power.digits.values }

/-- A fraction or none, and a power of ten or none, as they are written. -/
def tailChars (fraction : Option Digits) (power : Option Power) : List Char :=
  fraction.elim [] ('.' :: ·.chars) ++ power.elim [] Power.chars

def withTail (fraction : Option Digits) (power : Option Power) (parts : Parts) : Parts :=
  let broken := fraction.elim parts (·.on parts)
  power.elim broken (·.on broken)

structure Numeral where
  negative : Bool
  whole : Digits
  -- A zero in front stands alone.
  unpadded : ∀ c rest, whole.chars ≠ '0' :: c :: rest
  fraction : Option Digits
  power : Option Power

namespace Numeral

def chars (n : Numeral) : List Char :=
  (if n.negative then ['-'] else []) ++ (n.whole.chars ++ tailChars n.fraction n.power)

def parts (n : Numeral) : Parts :=
  withTail n.fraction n.power { negative := n.negative, whole := n.whole.values }

end Numeral

/-! ### Digits -/

def NoDigit (cs : List Char) : Prop := ∀ c rest, cs = c :: rest → isDigit c = false

theorem takeDigits_append {digits rest : List Char} (all : ∀ c ∈ digits, isDigit c = true) (ends : NoDigit rest) :
    takeDigits (digits ++ rest) = (digitValues digits, rest) := by
  induction digits with
  | nil =>
    cases rest with
    | nil => rfl
    | cons c rest => simp [takeDigits, ends c rest rfl, digitValues]
  | cons c digits ih =>
    obtain ⟨here, later⟩ := List.forall_mem_cons.mp all
    rw [List.cons_append, takeDigits, if_pos here, ih later]
    rfl

theorem of_takeDigits {cs rest : List Char} {values : List Nat} (taken : takeDigits cs = (values, rest)) :
    ∃ digits, cs = digits ++ rest ∧ values = digitValues digits ∧ ∀ c ∈ digits, isDigit c = true := by
  induction cs generalizing values with
  | nil =>
    cases taken
    exact ⟨[], rfl, rfl, List.forall_mem_nil _⟩
  | cons c cs ih =>
    rw [takeDigits] at taken
    split at taken
    · next digit =>
      obtain ⟨rfl, rfl⟩ := Prod.mk.inj taken
      obtain ⟨digits, split, same, all⟩ := ih rfl
      exact ⟨c :: digits, congrArg (c :: ·) split, congrArg (_ :: ·) same, List.forall_mem_cons.mpr ⟨digit, all⟩⟩
    · cases taken
      exact ⟨[], rfl, rfl, List.forall_mem_nil _⟩

theorem takeDigits_digits (digits : Digits) {rest : List Char} (ends : NoDigit rest) :
    takeDigits (digits.chars ++ rest) = (digits.values, rest) :=
  takeDigits_append digits.digits ends

theorem digits_of_takeDigits {cs rest : List Char} {values : List Nat} (taken : takeDigits cs = (values, rest))
    (given : values ≠ []) : ∃ digits : Digits, cs = digits.chars ++ rest ∧ values = digits.values := by
  obtain ⟨digits, split, rfl, all⟩ := of_takeDigits taken
  exact ⟨⟨digits, by simpa [digitValues] using given, all⟩, split, rfl⟩

/-! ### The power of ten -/

/-- The sign of a power: whether it is a minus, and what is behind it. -/
def takeSign : List Char → Bool × List Char
  | '+' :: rest => (false, rest)
  | '-' :: rest => (true, rest)
  | rest => (false, rest)

theorem takeSign_append (sign : Option Bool) {cs : List Char} (unsigned : ∀ c rest, cs = c :: rest → c ≠ '+' ∧ c ≠ '-') :
    takeSign (signChars sign ++ cs) = (sign == some true, cs) := by
  obtain _ | _ | _ := sign
  · cases cs with
    | nil => rfl
    | cons c rest =>
      obtain ⟨plus, minus⟩ := unsigned c rest rfl
      simp [signChars, takeSign, plus, minus]
  · rfl
  · rfl

theorem exists_sign (cs : List Char) :
    ∃ sign, cs = signChars sign ++ (takeSign cs).2 ∧ (takeSign cs).1 = (sign == some true) := by
  unfold takeSign
  split
  · exact ⟨some false, rfl, rfl⟩
  · exact ⟨some true, rfl, rfl⟩
  · exact ⟨none, rfl, rfl⟩

theorem withExponent_marked (parts : Parts) {c : Char} (known : c = 'e' ∨ c = 'E') (cs : List Char) :
    withExponent parts (c :: cs) =
      match takeDigits (takeSign cs).2 with
      | ([], _) => none
      | (digits, rest) => some
        ({ parts with
            isFloat := true
            exponentNegative := (takeSign cs).1
            exponent := ofDigits digits
            exponentTooLarge := 1 <<< 31 ≤ ofDigits digits }, rest) := by
  simp only [withExponent, if_pos known]
  rfl

def NoPower (cs : List Char) : Prop := ∀ c rest, cs = c :: rest → c ≠ 'e' ∧ c ≠ 'E'

theorem withExponent_absent (parts : Parts) {cs : List Char} (ends : NoPower cs) :
    withExponent parts cs = some (parts, cs) := by
  cases cs with
  | nil => rfl
  | cons c rest =>
    obtain ⟨small, large⟩ := ends c rest rfl
    simp [withExponent, small, large]

theorem withExponent_append (parts : Parts) (power : Power) {rest : List Char} (ends : NoDigit rest) :
    withExponent parts (power.chars ++ rest) = some (power.on parts, rest) := by
  obtain ⟨letter, known, sign, digits⟩ := power
  have unsigned : ∀ c more, digits.chars ++ rest = c :: more → c ≠ '+' ∧ c ≠ '-' := by
    intro c more begins
    have digit : isDigit c = true := digits.head begins
    constructor <;> rintro rfl <;> exact absurd digit (by decide)
  have shape : (Power.mk letter known sign digits).chars ++ rest =
      letter :: (signChars sign ++ (digits.chars ++ rest)) := by
    simp [Power.chars, signChars]
  rw [shape, withExponent_marked parts known, takeSign_append sign unsigned, takeDigits_digits digits ends]
  cases values : digits.values with
  | nil => exact absurd values digits.values_ne_nil
  | cons first more => simp [Power.on, values]

theorem of_withExponent {parts found : Parts} {cs rest : List Char}
    (read : withExponent parts cs = some (found, rest)) :
    (cs = rest ∧ found = parts) ∨ ∃ power : Power, cs = power.chars ++ rest ∧ found = power.on parts := by
  by_cases marked : NoPower cs
  · rw [withExponent_absent parts marked] at read
    cases read
    exact .inl ⟨rfl, rfl⟩
  · simp only [NoPower, not_forall, ← not_or, not_not] at marked
    obtain ⟨c, cs, rfl, known⟩ := marked
    rw [withExponent_marked parts known] at read
    split at read
    · cases read
    · next values after given taken =>
      cases read
      obtain ⟨digits, split, rfl⟩ := digits_of_takeDigits taken fun empty => given empty
      obtain ⟨sign, signed, minus⟩ := exists_sign cs
      refine .inr ⟨⟨c, known, sign, digits⟩, ?_, ?_⟩
      · rw [signed, split]
        simp [Power.chars, signChars]
      · simp [Power.on, minus]

/-! ### Whole numbers -/

def readFraction? (parts : Parts) : List Char → Option (Parts × List Char)
  | '.' :: rest =>
    match takeDigits rest with
    | ([], _) => none
    | (digits, rest) => withExponent { parts with fraction := digits, isFloat := true } rest
  | rest => withExponent parts rest

def readUnsigned? (negative : Bool) (cs : List Char) : Option (Node × List Char) :=
  match takeDigits cs with
  | ([], _) => none
  | (0 :: _ :: _, _) => none
  | (whole, rest) => (readFraction? { negative, whole } rest).map fun found => (found.1.toNode, found.2)

def takeMinus (cs : List Char) : Bool × List Char :=
  if cs.head? = some '-' then (true, cs.tail) else (false, cs)

theorem takeMinus_append (negative : Bool) {cs : List Char} (unsigned : cs.head? ≠ some '-') :
    takeMinus ((if negative then ['-'] else []) ++ cs) = (negative, cs) := by
  cases negative <;> simp [takeMinus, unsigned]

theorem eq_of_takeMinus {cs rest : List Char} {negative : Bool} (taken : takeMinus cs = (negative, rest)) :
    cs = (if negative then ['-'] else []) ++ rest := by
  unfold takeMinus at taken
  split at taken
  · next minus =>
    obtain ⟨rfl, rfl⟩ := Prod.mk.inj taken
    exact (List.cons_head?_tail minus).symm
  · obtain ⟨rfl, rfl⟩ := Prod.mk.inj taken
    rfl

theorem read?_eq (cs : List Char) : NumberText.read? cs = readUnsigned? (takeMinus cs).1 (takeMinus cs).2 := by
  unfold NumberText.read?
  split
  next negative rest sign =>
  have minus : takeMinus cs = (negative, rest) := by
    rw [← sign]
    split
    · rfl
    · next unsigned =>
      rw [takeMinus, if_neg]
      intro minus
      exact unsigned _ (List.cons_head?_tail minus).symm
  rw [minus]
  -- Digits, then a point or none, then the digits behind it: both sides stop at the same place.
  simp only [readUnsigned?]
  generalize takeDigits rest = taken
  split
  · rfl
  · rfl
  · simp only [Option.bind_eq_bind, Option.bind_some]
    split
    · next behind =>
      simp only [readFraction?]
      generalize takeDigits behind = taken
      split
      · rfl
      · simp only [Option.map_eq_bind]
        rfl
    · simp only [readFraction?, Option.map_eq_bind]
      rfl

theorem of_readFraction? {parts found : Parts} {cs rest : List Char}
    (read : readFraction? parts cs = some (found, rest)) :
    ∃ fraction power, cs = tailChars fraction power ++ rest ∧ found = withTail fraction power parts := by
  unfold readFraction? at read
  split at read
  · next behind =>
    split at read
    · cases read
    · next values after given taken =>
      obtain ⟨digits, split, rfl⟩ := digits_of_takeDigits taken fun empty => given empty
      obtain ⟨rfl, rfl⟩ | ⟨power, rfl, rfl⟩ := of_withExponent read
      · exact ⟨some digits, none, by simp [tailChars, split], rfl⟩
      · exact ⟨some digits, some power, by simp [tailChars, split], rfl⟩
  · obtain ⟨rfl, rfl⟩ | ⟨power, rfl, rfl⟩ := of_withExponent read
    · exact ⟨none, none, rfl, rfl⟩
    · exact ⟨none, some power, rfl, rfl⟩

/-- Nothing follows that could be a part of a number. -/
structure Ends (cs : List Char) : Prop where
  noDigit : NoDigit cs
  noPower : NoPower cs
  noPoint : ∀ rest, cs ≠ '.' :: rest

theorem readFraction?_append (parts : Parts) (fraction : Option Digits) (power : Option Power) {rest : List Char}
    (ends : Ends rest) :
    readFraction? parts (tailChars fraction power ++ rest) = some (withTail fraction power parts, rest) := by
  have powered (parts : Parts) :
      withExponent parts (power.elim [] Power.chars ++ rest) = some (power.elim parts (·.on parts), rest) := by
    cases power with
    | none => exact withExponent_absent parts ends.noPower
    | some power => exact withExponent_append parts power ends.noDigit
  have stops : NoDigit (power.elim [] Power.chars ++ rest) := by
    cases power with
    | none => exact ends.noDigit
    | some power =>
      intro c more begins
      obtain ⟨rfl, -⟩ := List.cons.inj begins
      obtain known | known := power.known <;> rw [known] <;> decide
  cases fraction with
  | none =>
    -- The power begins with a letter, so no point is seen where there is none.
    have pointless : ∀ more, power.elim [] Power.chars ++ rest ≠ '.' :: more := by
      cases power with
      | none => exact ends.noPoint
      | some power =>
        intro more begins
        obtain ⟨point, -⟩ := List.cons.inj begins
        obtain known | known := power.known <;> rw [known] at point <;> exact absurd point (by decide)
    have plain : readFraction? parts (power.elim [] Power.chars ++ rest) =
        withExponent parts (power.elim [] Power.chars ++ rest) := by
      unfold readFraction?
      split
      · next more begins => exact absurd begins (pointless more)
      · rfl
    exact plain.trans (powered parts)
  | some digits =>
    have shape : tailChars (some digits) power ++ rest =
        '.' :: (digits.chars ++ (power.elim [] Power.chars ++ rest)) := by
      simp [tailChars]
    rw [shape, readFraction?, takeDigits_digits digits stops]
    have given := digits.values_ne_nil
    cases values : digits.values with
    | nil => exact absurd values given
    | cons first more =>
      dsimp only
      rw [powered]
      simp [withTail, Digits.on, values]

/-! ### Numbers -/

theorem of_readUnsigned? {negative : Bool} {cs rest : List Char} {node : Node}
    (read : readUnsigned? negative cs = some (node, rest)) :
    ∃ n : Numeral, n.negative = negative ∧ cs = n.whole.chars ++ tailChars n.fraction n.power ++ rest ∧
      node = n.parts.toNode := by
  unfold readUnsigned? at read
  split at read
  · cases read
  · cases read
  · next whole after given short taken =>
    obtain ⟨⟨found, behind⟩, followed, same⟩ := Option.map_eq_some_iff.mp read
    obtain ⟨rfl, rfl⟩ := Prod.mk.inj same
    obtain ⟨digits, rfl, rfl⟩ := digits_of_takeDigits taken fun empty => given empty
    obtain ⟨fraction, power, rfl, rfl⟩ := of_readFraction? followed
    have unpadded : ∀ c rest, digits.chars ≠ '0' :: c :: rest := by
      intro c rest padded
      exact short _ _ (by rw [Digits.values, padded]; rfl)
    exact ⟨⟨negative, digits, unpadded, fraction, power⟩, rfl, by simp, rfl⟩

/-- Only a number is read. -/
theorem of_read? {cs rest : List Char} {node : Node} (read : NumberText.read? cs = some (node, rest)) :
    ∃ n : Numeral, cs = n.chars ++ rest ∧ node = n.parts.toNode := by
  rw [read?_eq] at read
  obtain ⟨n, negative, split, rfl⟩ := of_readUnsigned? read
  have minus : takeMinus cs = (n.negative, (takeMinus cs).2) := by rw [negative]
  refine ⟨n, ?_, rfl⟩
  rw [eq_of_takeMinus minus, split, Numeral.chars]
  simp

theorem noDigit_tail (fraction : Option Digits) (power : Option Power) {rest : List Char} (ends : NoDigit rest) :
    NoDigit (tailChars fraction power ++ rest) := by
  intro c more begins
  cases fraction with
  | some digits =>
    obtain ⟨rfl, -⟩ := List.cons.inj begins
    decide
  | none =>
    cases power with
    | none => exact ends c more begins
    | some power =>
      obtain ⟨rfl, -⟩ := List.cons.inj begins
      obtain known | known := power.known <;> rw [known] <;> decide

theorem readUnsigned?_append (n : Numeral) {rest : List Char} (ends : Ends rest) :
    readUnsigned? n.negative (n.whole.chars ++ (tailChars n.fraction n.power ++ rest)) =
      some (n.parts.toNode, rest) := by
  have given := n.whole.values_ne_nil
  -- The digit of value zero is the character zero, and no digit stands behind it.
  have short : ∀ digit more, n.whole.values ≠ 0 :: digit :: more := by
    intro digit more values
    obtain ⟨c, others, shape, zero, later⟩ := List.map_eq_cons_iff.mp values
    obtain ⟨next, rest, rfl, -⟩ := List.map_eq_cons_iff.mp later
    have digit : isDigit c = true := n.whole.digits c (by simp [shape])
    obtain ⟨least, -⟩ := isDigit_iff.mp digit
    have same : c = '0' := by
      apply Char.toNat_inj.mp
      have value : '0'.toNat = 48 := rfl
      omega
    exact n.unpadded next rest (same ▸ shape)
  have tail := readFraction?_append { negative := n.negative, whole := n.whole.values } n.fraction n.power ends
  rw [readUnsigned?, takeDigits_digits n.whole (noDigit_tail n.fraction n.power ends.noDigit)]
  split
  · next empty => exact absurd (Prod.mk.inj empty).1 given
  · next padded => exact absurd (Prod.mk.inj padded).1 (short _ _)
  · next same =>
    obtain ⟨rfl, rfl⟩ := Prod.mk.inj same
    rw [tail]
    rfl

/-- A number is read as a whole if nothing follows that could be a part of it. -/
theorem read?_append (n : Numeral) {rest : List Char} (ends : Ends rest) :
    NumberText.read? (n.chars ++ rest) = some (n.parts.toNode, rest) := by
  have unsigned : (n.whole.chars ++ (tailChars n.fraction n.power ++ rest)).head? ≠ some '-' := by
    intro minus
    exact absurd (n.whole.head (List.cons_head?_tail minus).symm) (by decide)
  have shape : n.chars ++ rest =
      (if n.negative then ['-'] else []) ++ (n.whole.chars ++ (tailChars n.fraction n.power ++ rest)) := by
    simp [Numeral.chars]
  rw [read?_eq, shape, takeMinus_append n.negative unsigned]
  exact readUnsigned?_append n ends

theorem Numeral.exists_head (n : Numeral) : ∃ c more, n.chars = c :: more ∧ (c = '-' ∨ isDigit c = true) := by
  obtain ⟨first, behind, shape⟩ := List.exists_cons_of_ne_nil n.whole.given
  cases negative : n.negative with
  | true => exact ⟨'-', _, by rw [chars, negative]; rfl, .inl rfl⟩
  | false =>
    refine ⟨first, behind ++ tailChars n.fraction n.power, ?_, .inr (n.whole.digits first (by simp [shape]))⟩
    simp [chars, negative, shape]

/-! ### Integers -/

def continued (significand : Nat) (digits : List Nat) : Nat :=
  digits.foldl (fun value digit => 10 * value + digit) significand

theorem le_continued (significand : Nat) (digits : List Nat) : significand ≤ continued significand digits := by
  induction digits generalizing significand with
  | nil => exact Nat.le_refl _
  | cons digit rest ih =>
    have := ih (10 * significand + digit)
    rw [continued, List.foldl_cons]
    exact Nat.le_trans (by omega) this

/-- All digits are taken in if there is room for them, and else some are left. -/
theorem gather_eq (significand : Nat) (digits : List Nat) (room : significand ≤ maxSignificand) :
    (continued significand digits ≤ maxSignificand → gather significand digits = (continued significand digits, [])) ∧
    (maxSignificand < continued significand digits → (gather significand digits).2 ≠ []) := by
  induction digits generalizing significand with
  | nil => exact ⟨fun _ => rfl, fun large => absurd room (Nat.not_le.mpr large)⟩
  | cons digit rest ih =>
    have next : continued significand (digit :: rest) = continued (10 * significand + digit) rest := rfl
    have grows := le_continued (10 * significand + digit) rest
    rw [next, gather, Nat.mul_comm significand]
    split
    · exact ⟨fun fits => absurd fits (by omega), fun _ => List.cons_ne_nil _ _⟩
    · exact ih _ (by omega)

namespace Numeral

def IsInteger (n : Numeral) : Prop := n.fraction = none ∧ n.power = none

def magnitude (n : Numeral) : Nat := Nat.ofDigitChars 10 n.whole.chars 0

def value (n : Numeral) : Int := if n.negative then -(n.magnitude : Int) else n.magnitude

/-- An integer that fits 64 bits, with or without a sign. A zero has no sign. -/
def IsExact (n : Numeral) : Prop :=
  n.IsInteger ∧ -2 ^ 63 ≤ n.value ∧ n.value < 2 ^ 64 ∧ ¬ (n.negative = true ∧ n.value = 0)

theorem continued_whole (n : Numeral) : continued 0 n.whole.values = n.magnitude := by
  rw [continued, Digits.values, digitValues, List.foldl_map, magnitude, Nat.ofDigitChars_eq_foldl]

theorem gather_whole (n : Numeral) : (n.magnitude < 2 ^ 64 → gather 0 n.whole.values = (n.magnitude, [])) ∧
    (2 ^ 64 ≤ n.magnitude → (gather 0 n.whole.values).2 ≠ []) := by
  have most : maxSignificand = 2 ^ 64 - 1 := rfl
  have taken := gather_eq 0 n.whole.values (Nat.zero_le _)
  rw [continued_whole, most] at taken
  exact ⟨fun fits => taken.1 (by omega), fun large => taken.2 (by omega)⟩

theorem isExact_iff (n : Numeral) : n.IsExact ↔ n.IsInteger ∧
    if n.negative then n.magnitude ≠ 0 ∧ n.magnitude ≤ 2 ^ 63 else n.magnitude < 2 ^ 64 := by
  rw [IsExact, value]
  refine and_congr_right fun _ => ?_
  cases n.negative with
  | false =>
    simp only [Bool.false_eq_true, if_false, false_and, not_false_eq_true, and_true]
    omega
  | true =>
    simp only [if_true, true_and]
    omega

theorem isFloat_parts (n : Numeral) : n.parts.isFloat = false ↔ n.IsInteger := by
  obtain ⟨-, -, -, _ | _, _ | _⟩ := n <;> simp [parts, withTail, Digits.on, Power.on, IsInteger]

theorem whole_parts (n : Numeral) : n.parts.whole = n.whole.values := by
  obtain ⟨-, -, -, _ | _, _ | _⟩ := n <;> rfl

theorem negative_parts (n : Numeral) : n.parts.negative = n.negative := by
  obtain ⟨-, -, -, _ | _, _ | _⟩ := n <;> rfl

theorem toString_value {n : Numeral} (exact : n.IsExact) : toString n.value = String.ofList n.chars := by
  obtain ⟨⟨fraction, power⟩, -, -, signed⟩ := exact
  have digits : toString n.magnitude = String.ofList n.whole.chars := by
    rw [Nat.toString_eq_ofList_toDigits, magnitude,
      toDigits_ofDigitChars n.whole.given n.whole.digits n.unpadded]
  have plain : n.chars = (if n.negative then ['-'] else []) ++ n.whole.chars := by
    simp [chars, tailChars, fraction, power]
  rw [plain, value] at *
  cases negative : n.negative with
  | false => exact digits
  | true =>
    have positive : n.magnitude ≠ 0 := by simpa [negative] using signed
    obtain ⟨k, same⟩ := Nat.exists_eq_succ_of_ne_zero positive
    have written : toString (-(n.magnitude : Int)) = "-" ++ toString n.magnitude := by
      rw [same]
      rfl
    rw [if_pos rfl, if_pos rfl, written, digits, String.ofList_append]

theorem toNode_of_exact {n : Numeral} (exact : n.IsExact) : n.parts.toNode = .int n.value := by
  obtain ⟨whole, room⟩ := n.isExact_iff.mp exact
  have fits : n.magnitude < 2 ^ 64 := by split at room <;> omega
  have gathered : gather 0 n.parts.whole = (n.magnitude, []) := by
    rw [whole_parts]
    exact n.gather_whole.1 fits
  simp only [Parts.toNode, gathered, n.isFloat_parts.mpr whole, negative_parts, value]
  cases negative : n.negative with
  | false => simp
  | true =>
    obtain ⟨positive, small⟩ : n.magnitude ≠ 0 ∧ n.magnitude ≤ 9223372036854775808 := by
      simpa [negative] using room
    simp [positive, small]

/-- Every other number is read as a double, or not at all. -/
theorem toNode_of_not_exact {n : Numeral} (inexact : ¬ n.IsExact) :
    n.parts.toNode = .unreadable ∨ ∃ x, n.parts.toNode = .float x := by
  -- Either way to an integer would make the number exact.
  have never (whole : n.parts.isFloat = false) (all : (gather 0 n.parts.whole).2 = [])
      (signed : n.parts.negative = false ∨
        (gather 0 n.parts.whole).1 ≠ 0 ∧ (gather 0 n.parts.whole).1 ≤ 9223372036854775808) : False := by
    rw [whole_parts] at all signed
    have fits : n.magnitude < 2 ^ 64 := by
      by_contra large
      exact n.gather_whole.2 (Nat.le_of_not_lt large) all
    rw [n.gather_whole.1 fits, negative_parts] at signed
    refine inexact (n.isExact_iff.mpr ⟨n.isFloat_parts.mp whole, ?_⟩)
    split <;> simp_all
  unfold Parts.toNode
  generalize gather 0 n.parts.whole = gathered at never
  dsimp only at never ⊢
  split
  · next unsigned =>
    simp only [Bool.and_eq_true, Bool.not_eq_true', List.isEmpty_iff] at unsigned
    exact absurd (never unsigned.1.1 unsigned.1.2 (.inl unsigned.2)) not_false
  · split
    · next signed =>
      simp only [Bool.and_eq_true, Bool.not_eq_true', List.isEmpty_iff, decide_eq_true_eq] at signed
      exact absurd (never signed.1.1.1 signed.1.1.2 (.inr ⟨signed.1.2, signed.2⟩)) not_false
    · split
      · split
        · exact .inl rfl
        · exact .inr ⟨_, rfl⟩
      · split
        · exact .inr ⟨_, rfl⟩
        · exact .inl rfl

end Numeral

end DeviceConfig.Json
