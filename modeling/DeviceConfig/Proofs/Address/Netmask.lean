import DeviceConfig.Proofs.Address.Source
import Mathlib.Tactic.IntervalCases

/-!
A mask in dotted form and as the length of a prefix, both read from the same text. The dotted form has as many
ones as the length says, except where a text with two slashes has a length between them. The dotted form goes
by all that stands behind the first slash, which is then no number, and the length by what stands between.
-/

namespace DeviceConfig.Address

open Text

/-! ### Counting ones -/

theorem count_leadingOctet (ones : Nat) :
    (Quad.octetBits (Quad.leadingOctet ones)).count true = min 8 ones := by
  have capped : Quad.leadingOctet ones = Quad.leadingOctet (min 8 ones) := by
    simp [Quad.leadingOctet]
  have few : min 8 ones ≤ 8 := Nat.min_le_left 8 ones
  rw [capped]
  generalize min 8 ones = n at few
  interval_cases n <;> rfl

theorem count_ofPrefix {length : Nat} (within : length ≤ 32) :
    (Quad.ofPrefix length).bits.count true = length := by
  simp only [Quad.bits, Quad.octets, Quad.ofPrefix, List.flatMap_cons, List.flatMap_nil,
    List.count_append, List.count_nil, count_leadingOctet]
  omega

theorem count_bits_le (quad : Quad) : quad.bits.count true ≤ 32 := List.count_le_length

theorem prefixOfMask_text (quad : Quad) : prefixOfMask quad.text = toString (quad.bits.count true) :=
  prefixOfMask_host (solid_text quad) (readQuad?_text quad)

/-! ### Masks made from a length -/

/-- The mask of a length, if one could be read. -/
def maskOfLength (length : Option Nat) : String :=
  (length.map fun length => (Quad.ofPrefix length).text).getD defaultMask

def textOfLength (length : Option Nat) : String := length.elim defaultPrefix toString

theorem prefixOfMask_maskOfLength {length : Option Nat} (within : ∀ n ∈ length, n ≤ 32) :
    prefixOfMask (maskOfLength length) = textOfLength length := by
  cases length with
  | none => decide
  | some length =>
    have counted := count_ofPrefix (within length rfl)
    rw [maskOfLength, Option.map_some, Option.getD_some, prefixOfMask_text, counted]
    rfl

theorem maskOfLength_eq (length : Option Nat) :
    (let dotted := (length.map fun length => (Quad.ofPrefix length).text).getD ""
     if dotted = "" then defaultMask else dotted) = maskOfLength length := by
  cases length with
  | none => rfl
  | some length => simp [maskOfLength, text_ne_empty]

/-! ### Three spellings -/

theorem given?_eq_some {mask : Option String} {text : String} (given : given? mask = some text) :
    IsTight text.toList ∧ text ≠ "" := by
  simp only [given?, Option.filter_eq_some_iff, Option.map_eq_some_iff] at given
  obtain ⟨⟨raw, rfl, rfl⟩, something⟩ := given
  exact ⟨by simpa [trim] using isTight_trimChars raw.toList, by simpa using something⟩

section
variable {mask : Option String} {text : String} (given : given? mask = some text)
include given

section
variable {front behind : List Char} (shape : text.toList = front ++ '/' :: behind)
  (absent : '/' ∉ front)
include shape absent

/-- Behind a slash the dotted form goes by everything that follows. -/
theorem dottedMask_slash : dottedMask mask = maskOfLength (readNat? 32 (trimChars behind)) := by
  obtain ⟨tight, _⟩ := given?_eq_some given
  have slash : text.contains '/' = true := by simp [String.contains_char_eq, shape]
  have read : cidrLength? text = readNat? 32 (trimChars behind) := by
    rw [cidrLength?, trimChars_of_isTight tight, shape, splitOnce?_append absent]
    rfl
  simp only [dottedMask, given, slash, if_true, maskOfCidr, read, maskOfLength_eq]

/-- Behind a slash the length is what stands up to the next one. -/
theorem prefixLength_slash :
    prefixLength mask = textOfLength (readNat? 32 (trimChars (behind.takeWhile (· != '/')))) := by
  obtain ⟨tight, _⟩ := given?_eq_some given
  obtain ⟨pieces, split⟩ := splitOn_eq_cons '/' behind
  have slash : text.contains '/' = true := by simp [String.contains_char_eq, shape]
  have length : prefixOfMask text = String.ofList (trimChars (behind.takeWhile (· != '/'))) := by
    rw [prefixOfMask, trimChars_of_isTight tight, shape, splitOn_append, splitOn_of_not_mem absent,
      split]
    rfl
  simp only [prefixLength, given, slash, Bool.true_or, if_true, length, String.toList_ofList]
  rfl

theorem masks_agree_slash (single : '/' ∉ behind) :
    prefixOfMask (dottedMask mask) = prefixLength mask := by
  rw [dottedMask_slash given shape absent, prefixLength_slash given shape absent,
    takeWhile_of_not_mem single, prefixOfMask_maskOfLength fun _ read => readNat?_le read]

end

section
variable (absent : '/' ∉ text.toList)
include absent

theorem prefixOfMask_dotted : prefixOfMask text =
    ((readQuad? text.toList).map fun quad => toString (quad.bits.count true)).getD "" := by
  rw [prefixOfMask, trimChars_of_isTight (given?_eq_some given).1, splitOn_of_not_mem absent]

/-- Four octets are taken as they stand. -/
theorem dottedMask_dotted (dot : '.' ∈ text.toList) :
    dottedMask mask = if (readQuad? text.toList).isSome then text else defaultMask := by
  obtain ⟨_, something⟩ := given?_eq_some given
  have noSlash : text.contains '/' = false := by simp [String.contains_char_eq, absent]
  have hasDot : text.contains '.' = true := by simp [String.contains_char_eq, dot]
  have length := prefixOfMask_dotted given absent
  cases read : readQuad? text.toList with
  | none => simp [dottedMask, given, noSlash, hasDot, length, read]
  | some quad =>
    simp [dottedMask, given, noSlash, hasDot, length, read, something]

/-- The ones of four octets are counted. -/
theorem prefixLength_dotted (dot : '.' ∈ text.toList) :
    prefixLength mask = textOfLength ((readQuad? text.toList).map (·.bits.count true)) := by
  have noSlash : text.contains '/' = false := by simp [String.contains_char_eq, absent]
  have hasDot : text.contains '.' = true := by simp [String.contains_char_eq, dot]
  have length := prefixOfMask_dotted given absent
  cases read : readQuad? text.toList with
  | none =>
    simp [prefixLength, given, noSlash, hasDot, length, read, readNat?, textOfLength]
  | some quad =>
    have readBack := readNat?_toDigits (count_bits_le quad)
    simp [prefixLength, given, noSlash, hasDot, length, read, readBack, textOfLength]

theorem masks_agree_dotted (dot : '.' ∈ text.toList) :
    prefixOfMask (dottedMask mask) = prefixLength mask := by
  rw [dottedMask_dotted given absent dot, prefixLength_dotted given absent dot]
  cases read : readQuad? text.toList with
  | none => exact (by decide : prefixOfMask defaultMask = defaultPrefix)
  | some quad => simp [prefixOfMask_dotted given absent, read, textOfLength]

/-- A number alone is put behind a slash. -/
theorem dottedMask_bare (noDot : '.' ∉ text.toList) :
    dottedMask mask = maskOfLength (readNat? 32 text.toList) := by
  obtain ⟨tight, something⟩ := given?_eq_some given
  have noSlash : text.contains '/' = false := by simp [String.contains_char_eq, absent]
  have hasNoDot : text.contains '.' = false := by simp [String.contains_char_eq, noDot]
  have shape : ("0.0.0.0/" ++ text).toList = "0.0.0.0".toList ++ '/' :: text.toList := by
    simp
  have whole : IsTight ("0.0.0.0/" ++ text).toList := by
    have last : ("0.0.0.0/" ++ text).toList.getLast? = text.toList.getLast? := by
      rw [String.toList_append, List.getLast?_append_of_ne_nil _ (by simpa using something)]
    refine ⟨by simp; decide, ?_⟩
    rw [last]
    exact tight.2
  have read : cidrLength? ("0.0.0.0/" ++ text) = readNat? 32 text.toList := by
    rw [cidrLength?, trimChars_of_isTight whole, shape, splitOnce?_append (by decide)]
    exact congrArg (readNat? 32) (trimChars_of_isTight tight)
  simp only [dottedMask, given, noSlash, hasNoDot, Bool.false_eq_true, if_false, maskOfCidr, read]
  exact maskOfLength_eq _

theorem prefixLength_bare (noDot : '.' ∉ text.toList) :
    prefixLength mask = textOfLength (readNat? 32 text.toList) := by
  have noSlash : text.contains '/' = false := by simp [String.contains_char_eq, absent]
  have hasNoDot : text.contains '.' = false := by simp [String.contains_char_eq, noDot]
  simp only [prefixLength, given, noSlash, hasNoDot]
  rfl

theorem masks_agree_bare (noDot : '.' ∉ text.toList) :
    prefixOfMask (dottedMask mask) = prefixLength mask := by
  rw [dottedMask_bare given absent noDot, prefixLength_bare given absent noDot,
    prefixOfMask_maskOfLength fun _ read => readNat?_le read]

end

end

/-! ### Both readings -/

/-- What is read between two slashes, if the text has a second one. -/
def lengthBetweenSlashes? (mask : Option String) : Option Nat := do
  let text ← given? mask
  match splitOn '/' text.toList with
  | _ :: between :: _ :: _ => readNat? 32 (trimChars between)
  | _ => none

/-- A second slash hides the length from the dotted form, which is then the default. -/
theorem masks_between_slashes {mask : Option String} {text : String} {front between rest : List Char}
    (given : given? mask = some text)
    (shape : text.toList = front ++ '/' :: (between ++ '/' :: rest)) (absent : '/' ∉ front)
    (single : '/' ∉ between) :
    dottedMask mask = defaultMask ∧
      prefixLength mask = textOfLength (lengthBetweenSlashes? mask) := by
  have kept : '/' ∈ trimChars (between ++ '/' :: rest) := mem_trimChars (by simp) (by decide)
  have spoiled : readNat? 32 (trimChars (between ++ '/' :: rest)) = none :=
    readNat?_strange kept (by decide) (by decide)
  have hidden : lengthBetweenSlashes? mask = readNat? 32 (trimChars between) := by
    obtain ⟨pieces, split⟩ := splitOn_eq_cons '/' rest
    simp [lengthBetweenSlashes?, given, shape, splitOn_append, splitOn_of_not_mem absent,
      splitOn_of_not_mem single, split]
  constructor
  · rw [dottedMask_slash given shape absent, spoiled]
    rfl
  · rw [prefixLength_slash given shape absent, takeWhile_append single, hidden]

/-- The dotted form is always a mask. -/
theorem readQuad?_dottedMask (mask : Option String) :
    ∃ quad, readQuad? (dottedMask mask).toList = some quad ∧
      prefixOfMask (dottedMask mask) = toString (quad.bits.count true) := by
  have default : ∃ quad, readQuad? defaultMask.toList = some quad ∧
      prefixOfMask defaultMask = toString (quad.bits.count true) :=
    ⟨⟨255, 255, 255, 0⟩, by decide, by decide⟩
  have made : ∀ length, ∃ quad, readQuad? (maskOfLength length).toList = some quad ∧
      prefixOfMask (maskOfLength length) = toString (quad.bits.count true) := by
    intro length
    cases length with
    | none => exact default
    | some length => exact ⟨.ofPrefix length, readQuad?_text _, prefixOfMask_text _⟩
  cases given : given? mask with
  | none =>
    have dotted : dottedMask mask = defaultMask := by simp [dottedMask, given]
    rw [dotted]
    exact default
  | some text =>
    by_cases slash : '/' ∈ text.toList
    · obtain ⟨front, behind, shape, absent⟩ := List.eq_append_cons_of_mem slash
      rw [dottedMask_slash given shape absent]
      exact made _
    · by_cases dot : '.' ∈ text.toList
      · rw [dottedMask_dotted given slash dot]
        cases read : readQuad? text.toList with
        | none => exact default
        | some quad => exact ⟨quad, read, by simp [prefixOfMask_dotted given slash, read]⟩
      · rw [dottedMask_bare given slash dot]
        exact made _

/-- The two forms of a mask agree unless a second slash follows a length other than the default. -/
theorem prefixOfMask_dottedMask_iff (mask : Option String) :
    prefixOfMask (dottedMask mask) = prefixLength mask ↔
      ∀ length ∈ lengthBetweenSlashes? mask, length = 24 := by
  cases given : given? mask with
  | none =>
    have dotted : dottedMask mask = defaultMask := by simp [dottedMask, given]
    have length : prefixLength mask = defaultPrefix := by simp [prefixLength, given]
    have agree : prefixOfMask defaultMask = defaultPrefix := by decide
    simp [dotted, length, agree, lengthBetweenSlashes?, given]
  | some text =>
    by_cases slash : '/' ∈ text.toList
    · obtain ⟨front, behind, shape, absent⟩ := List.eq_append_cons_of_mem slash
      by_cases second : '/' ∈ behind
      · obtain ⟨between, rest, rfl, single⟩ := List.eq_append_cons_of_mem second
        obtain ⟨dotted, length⟩ := masks_between_slashes given shape absent single
        have default : prefixOfMask defaultMask = toString 24 := by decide
        rw [dotted, length, default]
        cases lengthBetweenSlashes? mask with
        | none => simpa [textOfLength] using (by decide : toString 24 = defaultPrefix)
        | some n =>
          rw [textOfLength, Option.elim_some, toString_inj]
          simp [eq_comm]
      · have single : lengthBetweenSlashes? mask = none := by
          simp [lengthBetweenSlashes?, given, shape, splitOn_append, splitOn_of_not_mem absent,
            splitOn_of_not_mem second]
        simp [masks_agree_slash given shape absent second, single]
    · have single : lengthBetweenSlashes? mask = none := by
        simp [lengthBetweenSlashes?, given, splitOn_of_not_mem slash]
      by_cases dot : '.' ∈ text.toList
      · simp [masks_agree_dotted given slash dot, single]
      · simp [masks_agree_bare given slash dot, single]

end DeviceConfig.Address
