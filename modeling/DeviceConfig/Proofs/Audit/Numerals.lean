import DeviceConfig.Proofs.Audit.Comparison
import DeviceConfig.Proofs.Json.Numeral

/-!
The texts that read as numbers: blank ones, infinities, integers in a radix that a letter announces, and decimals.
Every other text is no number, so that it is not greater than anything, nor anything than it.
-/

namespace DeviceConfig.Audit

open Decimal Text
open Json (Digits NoDigit Power digitValues signChars)

/-! ### The grammar -/

/-- The radixes besides ten. -/
inductive Radix where
  | hexadecimal
  | octal
  | binary

namespace Radix

def base : Radix → Nat
  | hexadecimal => 16
  | octal => 8
  | binary => 2

/-- The letters that announce a radix. They stand behind a zero. -/
def letters : Radix → List Char
  | hexadecimal => ['x', 'X']
  | octal => ['o', 'O']
  | binary => ['b', 'B']

def digits : Radix → List Char
  | hexadecimal => "0123456789abcdefABCDEF".toList
  | octal => "01234567".toList
  | binary => "01".toList

end Radix

/-- Decimal digits, at least one, with a point somewhere or with none. -/
structure Significand where
  whole : List Char
  /-- What is behind the point, if there is one. -/
  fraction : Option (List Char)
  digits : ∀ c ∈ whole ++ fraction.getD [], isDigit c = true
  given : whole ++ fraction.getD [] ≠ []

def Significand.chars (significand : Significand) : List Char :=
  significand.whole ++ significand.fraction.elim [] ('.' :: ·)

/-- What reads as a number, with no blanks around it. -/
inductive IsNumeral : List Char → Prop
  | blank : IsNumeral []
  | infinity (sign : Option Bool) : IsNumeral (signChars sign ++ "Infinity".toList)
  | announced (radix : Radix) {letter : Char} {digits : List Char} (known : letter ∈ radix.letters)
      (given : digits ≠ []) (fit : ∀ c ∈ digits, c ∈ radix.digits) : IsNumeral ('0' :: letter :: digits)
  | decimal (sign : Option Bool) (significand : Significand) (power : Option Power) :
      IsNumeral (signChars sign ++ (significand.chars ++ power.elim [] Power.chars))

/-! ### Digits in a radix -/

theorem mapM_eq_none_iff {α β : Type} {f : α → Option β} {items : List α} :
    items.mapM f = none ↔ ∃ item ∈ items, f item = none := by
  induction items with
  | nil => simp
  | cons item items ih =>
    simp only [List.mapM_cons, List.mem_cons, exists_eq_or_imp, ← ih]
    cases f item <;> cases items.mapM f <;> simp

theorem le_iff_toNat {c d : Char} : c ≤ d ↔ c.toNat ≤ d.toNat := by
  rw [Char.le_def, UInt32.le_iff_toNat_le]
  rfl

theorem digit?_ne_none_iff {radix : Nat} {c : Char} : digit? radix c ≠ none ↔
    (48 ≤ c.toNat ∧ c.toNat ≤ 57 ∧ c.toNat < radix + 48) ∨
    (97 ≤ c.toNat ∧ c.toNat ≤ 122 ∧ c.toNat < radix + 87) ∨
    (65 ≤ c.toNat ∧ c.toNat ≤ 90 ∧ c.toNat < radix + 55) := by
  have zero : '0'.toNat = 48 := rfl
  have nine : '9'.toNat = 57 := rfl
  have small : 'a'.toNat = 97 ∧ 'z'.toNat = 122 := ⟨rfl, rfl⟩
  have large : 'A'.toNat = 65 ∧ 'Z'.toNat = 90 := ⟨rfl, rfl⟩
  simp only [digit?, isDigit, le_iff_toNat, Bool.and_eq_true, decide_eq_true_eq, ne_eq, ite_eq_right_iff,
    reduceCtorEq, imp_false, not_not]
  split_ifs <;> omega

namespace Radix

/-- The codes of the digits, in one, two or three runs. -/
def codes : Radix → List Nat
  | hexadecimal => List.range' 48 10 ++ (List.range' 97 6 ++ List.range' 65 6)
  | octal => List.range' 48 8
  | binary => List.range' 48 2

theorem mem_digits_iff {radix : Radix} {c : Char} : c ∈ radix.digits ↔ digit? radix.base c ≠ none := by
  have coded : radix.digits.map Char.toNat = radix.codes := by cases radix <;> decide
  have members : c ∈ radix.digits ↔ c.toNat ∈ radix.codes := by
    rw [← coded, List.mem_map]
    simp [Char.toNat_inj]
  rw [members, digit?_ne_none_iff]
  cases radix <;> simp only [codes, base, List.mem_append, List.mem_range'_1] <;> omega

end Radix

theorem getD_eq_notANumber_iff {number : Option Reading} (proper : number ≠ some .notANumber) :
    number.getD .notANumber = .notANumber ↔ number = none := by
  cases number with
  | none => simp
  | some reading => simpa using proper

theorem readRadix?_eq_notANumber_iff {radix : Radix} {cs : List Char} :
    (readRadix? radix.base cs).getD .notANumber = .notANumber ↔ ¬ (cs ≠ [] ∧ ∀ c ∈ cs, c ∈ radix.digits) := by
  have spoiled : cs.mapM (digit? radix.base) = none ↔ ¬ ∀ c ∈ cs, c ∈ radix.digits := by
    simp only [mapM_eq_none_iff, Radix.mem_digits_iff, not_forall, not_not, exists_prop]
  rw [not_and, ← spoiled, readRadix?]
  cases cs with
  | nil => simp
  | cons c cs =>
    cases (c :: cs).mapM (digit? radix.base) with
    | none => simp
    | some values =>
      simp only [List.isEmpty_cons, Bool.false_eq_true, if_false, Option.bind_eq_bind, Option.bind_some]
      split <;> simp

/-! ### Decimals -/

theorem takeSign_eq (cs : List Char) : takeSign cs = Json.takeSign cs := by
  unfold takeSign Json.takeSign
  split <;> simp

theorem noSign_of_digit {c : Char} (digit : isDigit c = true) : c ≠ '+' ∧ c ≠ '-' := by
  constructor <;> rintro rfl <;> exact absurd digit (by decide)

theorem readExponent?_ne_none_iff {cs : List Char} :
    readExponent? cs ≠ none ↔ ∃ sign, ∃ digits : Digits, cs = signChars sign ++ digits.chars := by
  rw [readExponent?, takeSign_eq]
  constructor
  · intro read
    obtain ⟨sign, signed, -⟩ := Json.exists_sign cs
    dsimp only at read
    split at read
    · exact absurd rfl read
    · next values given taken =>
      obtain ⟨digits, shape, -⟩ := Json.digits_of_takeDigits taken fun empty => given empty
      exact ⟨sign, digits, by rw [signed, shape, List.append_nil]⟩
    · exact absurd rfl read
  · rintro ⟨sign, digits, rfl⟩
    have unsigned : ∀ c rest, digits.chars = c :: rest → c ≠ '+' ∧ c ≠ '-' := fun c rest begins =>
      noSign_of_digit (Digits.head ((List.append_nil _).trans begins))
    have taken : takeDigits (digits.chars ++ []) = (digits.values, []) :=
      Json.takeDigits_digits digits (by rintro c rest ⟨⟩)
    rw [List.append_nil] at taken
    rw [Json.takeSign_append sign unsigned]
    dsimp only
    rw [taken]
    split
    · next empty => exact absurd (Prod.mk.inj empty).1 digits.values_ne_nil
    · exact Option.some_ne_none _
    · next other => exact absurd rfl (other _)

/-- A power of ten up to the end, or none. -/
def readPower? : List Char → Option Int
  | [] => some 0
  | c :: rest => if c = 'e' ∨ c = 'E' then readExponent? rest else none

theorem readPower?_ne_none_iff {cs : List Char} :
    readPower? cs ≠ none ↔ ∃ power : Option Power, cs = power.elim [] Power.chars := by
  constructor
  · intro read
    cases cs with
    | nil => exact ⟨none, rfl⟩
    | cons c rest =>
      rw [readPower?] at read
      split at read
      · next known =>
        obtain ⟨sign, digits, rfl⟩ := readExponent?_ne_none_iff.mp read
        exact ⟨some ⟨c, known, sign, digits⟩, rfl⟩
      · exact absurd rfl read
  · rintro ⟨_ | ⟨letter, known, sign, digits⟩, rfl⟩
    · exact Option.some_ne_none _
    · have read := readExponent?_ne_none_iff.mpr ⟨sign, digits, rfl⟩
      simpa [readPower?, Power.chars, known] using read

/-- The digits behind a point, if there is one, and the rest. -/
def takeFraction : List Char → List Nat × List Char
  | '.' :: rest => takeDigits rest
  | rest => ([], rest)

theorem readDecimal?_eq (cs : List Char) :
    readDecimal? cs =
      let whole := takeDigits (Json.takeSign cs).2
      let fraction := takeFraction whole.2
      if whole.1 = [] ∧ fraction.1 = [] then none
      else (readPower? fraction.2).map fun exponent =>
        .ofDecimal (Json.takeSign cs).1 (ofDigits (whole.1 ++ fraction.1)) (exponent - fraction.1.length) := by
  rw [readDecimal?, takeSign_eq]
  -- From here on only the places matter where the digits stop.
  obtain ⟨negative, cs⟩ := Json.takeSign cs
  dsimp only
  obtain ⟨whole, rest⟩ := takeDigits cs
  rcases rest with _ | ⟨c, rest⟩
  · by_cases empty : whole = [] <;> simp [takeFraction, readPower?, empty]
  · by_cases point : c = '.'
    · subst point
      simp only [takeFraction]
      obtain ⟨fraction, rest⟩ := takeDigits rest
      by_cases empty : whole = [] ∧ fraction = []
      · simp [empty]
      · cases rest with
        | nil => simp [readPower?, empty]
        | cons c rest =>
          by_cases known : c = 'e' ∨ c = 'E' <;> simp [readPower?, empty, known, Option.map_eq_bind]
    · by_cases known : c = 'e' ∨ c = 'E' <;> simp [takeFraction, point, readPower?, known, Option.map_eq_bind]

theorem ofDecimal_ne_notANumber (negative : Bool) (significand : Nat) (exponent : Int) :
    Reading.ofDecimal negative significand exponent ≠ .notANumber := by
  unfold Reading.ofDecimal Reading.ofUnits
  dsimp only
  split_ifs <;> exact Reading.noConfusion

theorem begins_power {power : Option Power} {c : Char} {rest : List Char}
    (begins : power.elim [] Power.chars = c :: rest) : c = 'e' ∨ c = 'E' := by
  cases power with
  | none => cases begins
  | some power =>
    obtain ⟨rfl, -⟩ := List.cons.inj begins
    exact power.known

theorem noDigit_power (power : Option Power) : NoDigit (power.elim [] Power.chars) := by
  intro c rest begins
  obtain rfl | rfl := begins_power begins <;> decide

namespace Significand

variable (significand : Significand) (power : Option Power)

theorem takeDigits_append : takeDigits (significand.chars ++ power.elim [] Power.chars) =
    (digitValues significand.whole, significand.fraction.elim [] ('.' :: ·) ++ power.elim [] Power.chars) := by
  have all : ∀ c ∈ significand.whole, isDigit c = true := fun c member =>
    significand.digits c (List.mem_append_left _ member)
  rw [chars, List.append_assoc]
  refine Json.takeDigits_append all ?_
  cases significand.fraction with
  | none => exact noDigit_power power
  | some fraction =>
    intro c rest begins
    obtain ⟨rfl, -⟩ := List.cons.inj begins
    decide

theorem takeFraction_append :
    takeFraction (significand.fraction.elim [] ('.' :: ·) ++ power.elim [] Power.chars) =
      (digitValues (significand.fraction.getD []), power.elim [] Power.chars) := by
  have all : ∀ c ∈ significand.fraction.getD [], isDigit c = true := fun c member =>
    significand.digits c (List.mem_append_right _ member)
  cases present : significand.fraction with
  | none =>
    show takeFraction (power.elim [] Power.chars) = ([], power.elim [] Power.chars)
    unfold takeFraction
    split
    · next point => obtain same | same := begins_power point <;> exact absurd same (by decide)
    · rfl
  | some fraction =>
    rw [present] at all
    exact Json.takeDigits_append all (noDigit_power power)

theorem of_mem_chars {c : Char} (member : c ∈ significand.chars) : isDigit c = true ∨ c = '.' := by
  have all := significand.digits c
  rw [chars, List.mem_append] at member
  obtain inFront | behind := member
  · exact .inl (all (List.mem_append_left _ inFront))
  · cases present : significand.fraction with
    | none => simp [present] at behind
    | some fraction =>
      rw [present, Option.elim_some] at behind
      obtain point | behind := List.mem_cons.mp behind
      · exact .inr point
      · exact .inl (all (List.mem_append_right _ (by rwa [present])))

theorem chars_ne_nil : significand.chars ≠ [] := by
  have given := significand.given
  cases present : significand.fraction with
  | none => simpa [chars, present] using given
  | some fraction => simp [chars, present]

theorem values_ne_nil : ¬ (digitValues significand.whole = [] ∧ digitValues (significand.fraction.getD []) = []) := by
  have given := significand.given
  simpa [digitValues] using given

end Significand

theorem exists_significand (cs : List Char)
    (given : ¬ ((takeDigits cs).1 = [] ∧ (takeFraction (takeDigits cs).2).1 = [])) :
    ∃ significand : Significand, cs = significand.chars ++ (takeFraction (takeDigits cs).2).2 := by
  obtain ⟨whole, shape, values, all⟩ := Json.of_takeDigits (rfl : takeDigits cs = (_, _))
  rw [values] at given
  generalize (takeDigits cs).2 = rest at shape given
  subst shape
  unfold takeFraction at given ⊢
  split at given
  · next more =>
    obtain ⟨fraction, shape, values, others⟩ := Json.of_takeDigits (rfl : takeDigits more = (_, _))
    rw [values] at given
    refine ⟨⟨whole, some fraction, List.forall_mem_append.mpr ⟨all, others⟩, ?_⟩, ?_⟩
    · simpa [digitValues] using given
    · simp [Significand.chars, ← shape]
  · refine ⟨⟨whole, none, ?_, ?_⟩, ?_⟩
    · simpa using all
    · simpa [digitValues] using given
    · simp [Significand.chars]

theorem readDecimal?_ne_none_iff {cs : List Char} :
    readDecimal? cs ≠ none ↔ ∃ sign, ∃ significand : Significand, ∃ power : Option Power,
      cs = signChars sign ++ (significand.chars ++ power.elim [] Power.chars) := by
  rw [readDecimal?_eq]
  dsimp only
  constructor
  · intro read
    obtain ⟨sign, signed, -⟩ := Json.exists_sign cs
    split at read
    · exact absurd rfl read
    · next given =>
      obtain ⟨power, rest⟩ := readPower?_ne_none_iff.mp fun none => read (by rw [none]; rfl)
      obtain ⟨significand, shape⟩ := exists_significand _ given
      exact ⟨sign, significand, power, by rw [← rest, ← shape, ← signed]⟩
  · rintro ⟨sign, significand, power, rfl⟩
    have unsigned : ∀ c rest, significand.chars ++ power.elim [] Power.chars = c :: rest → c ≠ '+' ∧ c ≠ '-' := by
      intro c rest begins
      obtain ⟨first, more, shape⟩ := List.exists_cons_of_ne_nil significand.chars_ne_nil
      rw [shape] at begins
      obtain ⟨rfl, -⟩ := List.cons.inj begins
      obtain digit | rfl := significand.of_mem_chars (shape ▸ List.mem_cons_self)
      · exact noSign_of_digit digit
      · decide
    have read := readPower?_ne_none_iff.mpr ⟨power, rfl⟩
    rw [Json.takeSign_append sign unsigned]
    dsimp only
    rw [significand.takeDigits_append]
    dsimp only
    rw [significand.takeFraction_append, if_neg significand.values_ne_nil]
    simpa using read

theorem readDecimal?_ne_notANumber (cs : List Char) : readDecimal? cs ≠ some .notANumber := by
  rw [readDecimal?_eq]
  dsimp only
  split
  · exact (Option.some_ne_none _).symm
  · intro read
    obtain ⟨exponent, -, same⟩ := Option.map_eq_some_iff.mp read
    exact ofDecimal_ne_notANumber _ _ _ same

/-! ### Texts -/

/-- Decimals are written with these characters. -/
def isDecimalChar (c : Char) : Bool := isDigit c || ['+', '-', '.', 'e', 'E'].contains c

theorem isDecimalChar_of_mem {sign : Option Bool} {significand : Significand} {power : Option Power} {c : Char}
    (member : c ∈ signChars sign ++ (significand.chars ++ power.elim [] Power.chars)) : isDecimalChar c = true := by
  have ofDigit (digit : isDigit c = true) : isDecimalChar c = true := by simp [isDecimalChar, digit]
  have ofSign {sign : Option Bool} (signed : c ∈ signChars sign) : isDecimalChar c = true := by
    obtain _ | _ | _ := sign
    · cases signed
    · obtain rfl := List.mem_singleton.mp signed
      decide
    · obtain rfl := List.mem_singleton.mp signed
      decide
  rw [List.mem_append, List.mem_append] at member
  obtain before | within | behind := member
  · exact ofSign before
  · obtain digit | rfl := significand.of_mem_chars within
    · exact ofDigit digit
    · decide
  · cases power with
    | none => cases behind
    | some power =>
      obtain rfl | behind := List.mem_cons.mp behind
      · obtain known | known := power.known <;> rw [known] <;> decide
      · exact (List.mem_append.mp behind).elim ofSign fun digit => ofDigit (power.digits.digits c digit)

theorem not_isDecimalChar_of_mem_letters {radix : Radix} : ∀ letter ∈ radix.letters, isDecimalChar letter = false := by
  cases radix <;> simp [Radix.letters, isDecimalChar, isDigit]

theorem readNumber_announced {text : String} {radix : Radix} {letter : Char} {digits : List Char}
    (known : letter ∈ radix.letters) (shape : trimChars text.toList = '0' :: letter :: digits) :
    readNumber text = (readRadix? radix.base digits).getD .notANumber := by
  unfold readNumber
  simp only [shape]
  cases radix <;> simp only [Radix.letters, List.mem_cons, List.not_mem_nil, or_false] at known <;>
    obtain rfl | rfl := known <;> rfl

theorem readNumber_decimal {text : String} (given : trimChars text.toList ≠ [])
    (finite : ∀ sign, trimChars text.toList ≠ signChars sign ++ "Infinity".toList)
    (unannounced : ∀ radix : Radix, ∀ letter ∈ radix.letters, ∀ digits,
      trimChars text.toList ≠ '0' :: letter :: digits) :
    readNumber text = (readDecimal? (trimChars text.toList)).getD .notANumber := by
  unfold readNumber
  generalize trimChars text.toList = cs at *
  have plain : ¬ (cs = "Infinity".toList ∨ cs = "+Infinity".toList) :=
    not_or.mpr ⟨finite none, finite (some false)⟩
  have below : ¬ cs = "-Infinity".toList := finite (some true)
  simp only [List.isEmpty_iff, if_neg given, if_neg plain, if_neg below]
  split
  · exact absurd rfl (unannounced .hexadecimal 'x' (by decide) _)
  · exact absurd rfl (unannounced .hexadecimal 'X' (by decide) _)
  · exact absurd rfl (unannounced .octal 'o' (by decide) _)
  · exact absurd rfl (unannounced .octal 'O' (by decide) _)
  · exact absurd rfl (unannounced .binary 'b' (by decide) _)
  · exact absurd rfl (unannounced .binary 'B' (by decide) _)
  · rfl

theorem readNumber_of_isNumeral {text : String} (numeral : IsNumeral (trimChars text.toList)) :
    readNumber text ≠ .notANumber := by
  generalize shape : trimChars text.toList = cs at numeral
  cases numeral with
  | blank => simp [readNumber, shape]
  | infinity sign => obtain _ | _ | _ := sign <;> simp [readNumber, shape, signChars]
  | announced radix known given fit =>
    rw [readNumber_announced known shape]
    exact readRadix?_eq_notANumber_iff.not_left.mpr ⟨given, fit⟩
  | decimal sign significand power =>
    -- A decimal has none of the letters of the other forms.
    have written (c : Char) (member : c ∈ trimChars text.toList) : isDecimalChar c = true :=
      isDecimalChar_of_mem (shape ▸ member)
    have given : trimChars text.toList ≠ [] := by simp [shape, significand.chars_ne_nil]
    have finite : ∀ sign, trimChars text.toList ≠ signChars sign ++ "Infinity".toList := by
      intro sign infinite
      exact absurd (written 'I' (by simp [infinite])) (by decide)
    have unannounced : ∀ radix : Radix, ∀ letter ∈ radix.letters, ∀ digits,
        trimChars text.toList ≠ '0' :: letter :: digits := by
      intro radix letter known digits announced
      have foreign := not_isDecimalChar_of_mem_letters letter known
      exact absurd (written letter (by simp [announced])) (by simp [foreign])
    rw [readNumber_decimal given finite unannounced, ne_eq,
      getD_eq_notANumber_iff (readDecimal?_ne_notANumber _)]
    exact readDecimal?_ne_none_iff.mpr ⟨sign, significand, power, shape⟩

theorem readNumber_eq_notANumber_iff (text : String) :
    readNumber text = .notANumber ↔ ¬ IsNumeral (trimChars text.toList) := by
  refine ⟨fun strange numeral => readNumber_of_isNumeral numeral strange, fun strange => ?_⟩
  by_cases announced : ∃ radix : Radix, ∃ letter ∈ radix.letters, ∃ digits,
      trimChars text.toList = '0' :: letter :: digits
  · obtain ⟨radix, letter, known, digits, shape⟩ := announced
    rw [readNumber_announced known shape, readRadix?_eq_notANumber_iff]
    rintro ⟨given, fit⟩
    exact strange (shape ▸ .announced radix known given fit)
  · -- Neither blank nor infinite, so it would have to be a decimal.
    have given : trimChars text.toList ≠ [] := fun blank => strange (blank ▸ .blank)
    have finite : ∀ sign, trimChars text.toList ≠ signChars sign ++ "Infinity".toList :=
      fun sign infinite => strange (infinite ▸ .infinity sign)
    rw [readNumber_decimal given finite fun radix letter known digits shape =>
      announced ⟨radix, letter, known, digits, shape⟩, getD_eq_notANumber_iff (readDecimal?_ne_notANumber _)]
    by_contra read
    obtain ⟨sign, significand, power, shape⟩ := readDecimal?_ne_none_iff.mp read
    exact strange (shape ▸ .decimal sign significand power)

/-- A text reads as a number just when it is a numeral, blanks around it aside. Any other text is not greater than
anything, nor is anything greater than it. -/
theorem numerals_read [Pattern.Engine] (text : String) :
    (readNumber text = .notANumber ↔ ¬ IsNumeral (trimChars text.toList)) ∧
    (¬ IsNumeral (trimChars text.toList) → ∀ path other,
      (Condition.mk .greaterThan other).apply path (some (.string text)) =
        .ok ⟨false, s!"Expected {path} > {displayed other}"⟩ ∧
      (Condition.mk .greaterThan (some (.string text))).apply path other =
        .ok ⟨false, s!"Expected {path} > {text}"⟩) := by
  refine ⟨readNumber_eq_notANumber_iff text, fun strange path other => ?_⟩
  have read : toNumber (some (.string text)) = .notANumber := (readNumber_eq_notANumber_iff text).mpr strange
  have less : (Reading.notANumber).gt (toNumber other) = false := rfl
  have greater : (toNumber other).gt .notANumber = false := by cases toNumber other <;> rfl
  constructor
  · rw [Condition.apply]
    dsimp only
    rw [read, less]
  · rw [Condition.apply]
    dsimp only
    rw [read, greater]
    rfl

/-- A radix takes no sign. -/
theorem numerals_read_signedRadix : ¬ IsNumeral "-0x10".toList ∧ IsNumeral "0x10".toList ∧
    (Condition.mk .greaterThan (some (.int (-1)))).apply "$.x" (some (.string "-0x10")) =
      .ok ⟨false, "Expected $.x > -1"⟩ := by
  have signed : trimChars "-0x10".toList = "-0x10".toList := by decide
  have unsigned : trimChars "0x10".toList = "0x10".toList := by decide
  obtain ⟨read, compared⟩ := numerals_read "-0x10"
  have strange : ¬ IsNumeral (trimChars "-0x10".toList) := read.mp (by decide +kernel)
  refine ⟨signed ▸ strange, ?_, (compared strange "$.x" _).1⟩
  have plain := (numerals_read "0x10").1.not_left.mp (by decide +kernel)
  rwa [unsigned] at plain

end DeviceConfig.Audit
