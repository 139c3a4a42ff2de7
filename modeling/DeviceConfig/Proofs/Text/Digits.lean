import DeviceConfig.Proofs.Text.Split
import DeviceConfig.Text.Digits

/-!
Numbers written in decimal digits are read back, alone and at the end of a word.
-/

namespace DeviceConfig.Text

theorem isDigit_iff {c : Char} : isDigit c = true ↔ 48 ≤ c.toNat ∧ c.toNat ≤ 57 := by
  simp only [isDigit, Bool.and_eq_true, decide_eq_true_eq, Char.le_def, UInt32.le_iff_toNat_le]
  rfl

theorem isDigit_of_mem_toDigits {n : Nat} {c : Char} (member : c ∈ Nat.toDigits 10 n) :
    isDigit c := by
  have digit := Nat.isDigit_of_mem_toDigits (by decide) (by decide) member
  simp only [Char.isDigit, Bool.and_eq_true, decide_eq_true_eq, ge_iff_le,
    UInt32.le_iff_toNat_le] at digit
  exact isDigit_iff.mpr digit

theorem not_blank_of_isDigit {c : Char} (digit : isDigit c) : isBlank c = false := by
  obtain ⟨least, greatest⟩ := isDigit_iff.mp digit
  simp only [isBlank, blankRanges, List.any_cons, List.any_nil, Bool.or_false, Bool.or_eq_false_iff,
    Bool.and_eq_false_iff, decide_eq_false_iff_not]
  omega

/-- A number has nothing to trim. -/
theorem trimChars_toDigits (n : Nat) : trimChars (Nat.toDigits 10 n) = Nat.toDigits 10 n :=
  trimChars_of_no_blank fun _ member => not_blank_of_isDigit (isDigit_of_mem_toDigits member)

theorem digit?_of_isDigit {c : Char} (digit : isDigit c) :
    digit? 10 c = some (c.toNat - '0'.toNat) := by
  obtain ⟨_, greatest⟩ := isDigit_iff.mp digit
  have small : c.toNat - '0'.toNat < 10 := by
    have zero : '0'.toNat = 48 := rfl
    omega
  simp only [digit?, digit, if_true, small]

theorem foldlM_digits {cs : List Char} (digits : ∀ c ∈ cs, isDigit c) (value : Nat) :
    cs.foldlM (fun value c => (digit? 10 c).map (10 * value + ·)) value =
      some (Nat.ofDigitChars 10 cs value) := by
  induction cs generalizing value with
  | nil => simp
  | cons c cs ih =>
    obtain ⟨digit, digits⟩ := List.forall_mem_cons.mp digits
    rw [List.foldlM_cons, digit?_of_isDigit digit, Nat.ofDigitChars_cons]
    exact ih digits _

/-- Digits alone, with no sign in front. -/
theorem readNat?_of_digits {bound : Nat} {cs : List Char} (given : cs ≠ [])
    (digits : ∀ c ∈ cs, isDigit c) :
    readNat? bound cs = (some (Nat.ofDigitChars 10 cs 0)).filter (· ≤ bound) := by
  obtain ⟨c, rest, rfl⟩ := List.exists_cons_of_ne_nil given
  have unsigned : c ≠ '+' := by
    rintro rfl
    exact absurd (digits _ List.mem_cons_self) (by decide)
  unfold readNat?
  split
  · next plus => exact absurd (List.cons.inj plus).1 unsigned
  · rw [if_neg (by simp), digitsValue?, foldlM_digits digits]

theorem readNat?_toDigits {bound n : Nat} (within : n ≤ bound) :
    readNat? bound (Nat.toDigits 10 n) = some n := by
  rw [readNat?_of_digits Nat.toDigits_ne_nil fun c member => isDigit_of_mem_toDigits member,
    Nat.ofDigitChars_ten_toDigits]
  simp [within]

/-- Two numbers with the same digits are the same. -/
theorem toString_inj {n m : Nat} : toString n = toString m ↔ n = m := by
  constructor
  · intro same
    have digits : Nat.toDigits 10 n = Nat.toDigits 10 m := by
      simpa [← String.toList_inj] using same
    rw [← Nat.ofDigitChars_ten_toDigits (n := n), digits, Nat.ofDigitChars_ten_toDigits]
  · rintro rfl
    rfl

theorem foldlM_strange {radix : Nat} {cs : List Char} {c : Char} (member : c ∈ cs)
    (strange : digit? radix c = none) (value : Nat) :
    cs.foldlM (fun value c => (digit? radix c).map (radix * value + ·)) value = none := by
  induction cs generalizing value with
  | nil => cases member
  | cons first cs ih =>
    rw [List.foldlM_cons]
    rcases List.mem_cons.mp member with rfl | later
    · simp [strange]
    · cases digit? radix first with
      | none => rfl
      | some digit => exact ih later _

/-- A sign apart, a single character that is no digit spoils a number. -/
theorem readNat?_strange {bound : Nat} {cs : List Char} {c : Char} (member : c ∈ cs)
    (unsigned : c ≠ '+') (strange : digit? 10 c = none) : readNat? bound cs = none := by
  have spoiled : ∀ digits : List Char, c ∈ digits → digitsValue? 10 digits = none :=
    fun digits inside => foldlM_strange inside strange 0
  unfold readNat?
  split
  · next rest =>
    have behind : c ∈ rest := (List.mem_cons.mp member).resolve_left unsigned
    simp [spoiled rest behind]
  · simp [spoiled _ member]

theorem readNat?_le {bound n : Nat} {cs : List Char} (read : readNat? bound cs = some n) :
    n ≤ bound := by
  simp only [readNat?, Option.ite_none_left_eq_some, Option.filter_eq_some_iff,
    decide_eq_true_eq] at read
  exact read.2.2

theorem digitChar_of_isDigit {c : Char} (digit : isDigit c) : (c.toNat - '0'.toNat).digitChar = c := by
  obtain ⟨least, greatest⟩ := isDigit_iff.mp digit
  have zero : '0'.toNat = 48 := rfl
  apply Char.toNat_inj.mp
  rw [Nat.toNat_digitChar_of_lt_ten (by omega)]
  omega

/-- Digits without needless zeros in front are those of the number they stand for. -/
theorem toDigits_ofDigitChars {cs : List Char} (given : cs ≠ []) (digits : ∀ c ∈ cs, isDigit c)
    (unpadded : ∀ c rest, cs ≠ '0' :: c :: rest) : Nat.toDigits 10 (Nat.ofDigitChars 10 cs 0) = cs := by
  induction cs using List.reverseRecOn with
  | nil => contradiction
  | append_singleton front c ih =>
    have last : isDigit c := digits c (by simp)
    have small : c.toNat - '0'.toNat < 10 := by
      obtain ⟨-, greatest⟩ := isDigit_iff.mp last
      have zero : '0'.toNat = 48 := rfl
      omega
    rw [Nat.ofDigitChars_append, Nat.ofDigitChars_cons, Nat.ofDigitChars_nil]
    cases front with
    | nil =>
      rw [Nat.ofDigitChars_nil, Nat.mul_zero, Nat.zero_add, Nat.toDigits_of_lt_base small, digitChar_of_isDigit last,
        List.nil_append]
    | cons first more =>
      have own := ih (List.cons_ne_nil _ _) (fun c inside => digits c (List.mem_append_left _ inside)) fun d rest padded =>
        unpadded d (rest ++ [c]) (by rw [padded]; rfl)
      have positive : 0 < Nat.ofDigitChars 10 (first :: more) 0 := by
        by_contra zero
        rw [Nat.eq_zero_of_not_pos zero, Nat.toDigits_zero] at own
        obtain ⟨rfl, rfl⟩ := List.cons.inj own
        exact unpadded c [] rfl
      rw [← Nat.toDigits_append_toDigits (by decide) positive small, own, Nat.toDigits_of_lt_base small,
        digitChar_of_isDigit last]

/-! ### Numbers at the end of words -/

/-- The number that a word ends in, behind the text it begins with. -/
def numberBehind? (front word : String) : Option Nat :=
  match word.toList.dropPrefix? front.toList with
  | some [] => none
  | some digits => digitsValue? 10 digits
  | none => none

theorem digitsValue?_toDigits (n : Nat) : digitsValue? 10 (Nat.toDigits 10 n) = some n := by
  rw [digitsValue?, foldlM_digits fun c member => isDigit_of_mem_toDigits member,
    Nat.ofDigitChars_ten_toDigits]

theorem toList_toString_uInt16 (n : UInt16) : (toString n).toList = Nat.toDigits 10 n.toNat := by
  rw [← String.toList_ofList (l := Nat.toDigits 10 n.toNat), ← Nat.toString_eq_ofList_toDigits]
  rfl

theorem numberBehind?_append (front : String) (n : UInt16) :
    numberBehind? front (front ++ toString n) = some n.toNat := by
  have digits : (front ++ toString n).toList.dropPrefix? front.toList =
      some (Nat.toDigits 10 n.toNat) := by
    rw [String.toList_append, toList_toString_uInt16, List.dropPrefix?_append_of_beq _ (by simp)]
  unfold numberBehind?
  rw [digits]
  split
  · next empty => exact absurd (Option.some.inj empty) Nat.toDigits_ne_nil
  · next found => rw [← Option.some.inj found, digitsValue?_toDigits]
  · next none => cases none

theorem words_number (front : String) (solid : ' ' ∉ front.toList) (n : UInt16) :
    words (front ++ toString n) = [front ++ toString n] := by
  apply words_of_solid
  · rw [String.toList_append, List.mem_append, toList_toString_uInt16]
    rintro (inFront | inDigits)
    · exact solid inFront
    · exact absurd (isDigit_of_mem_toDigits inDigits) (by decide)
  · intro empty
    have digits : front.toList ++ Nat.toDigits 10 n.toNat = [] := by
      rw [← toList_toString_uInt16, ← String.toList_append, empty]
      rfl
    exact Nat.toDigits_ne_nil (List.append_eq_nil_iff.mp digits).2

/-! ### No line breaks -/

theorem isLine_toString (n : Nat) : IsLine (toString n) := by
  intro broken
  have digits : (toString n).toList = Nat.toDigits 10 n := by simp
  rw [digits] at broken
  exact absurd (isDigit_of_mem_toDigits broken) (by decide)

theorem isLine_toString_uInt16 (n : UInt16) : IsLine (toString n) := by
  intro broken
  rw [toList_toString_uInt16] at broken
  exact absurd (isDigit_of_mem_toDigits broken) (by decide)

end DeviceConfig.Text
