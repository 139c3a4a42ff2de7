import DeviceConfig.Address.Mask
import DeviceConfig.Proofs.Text.Digits
import DeviceConfig.Proofs.Text.Interpolation
import DeviceConfig.Proofs.Text.Split

/-!
Dotted quads read back, and what a text that reads as a dotted quad looks like.
-/

namespace DeviceConfig.Address

open Text

/-! ### Octets -/

theorem readOctet?_toDigits {n : Nat} (within : n ≤ 255) :
    readOctet? (Nat.toDigits 10 n) = some (UInt8.ofNat n) := by
  have digits : ∀ c ∈ Nat.toDigits 10 n, isDigit c := fun c member => isDigit_of_mem_toDigits member
  rw [readOctet?, trimChars_toDigits, if_pos (List.all_eq_true.mpr digits), readNat?_toDigits within,
    Option.map_some]

theorem toList_toString (octet : UInt8) :
    (toString octet).toList = Nat.toDigits 10 octet.toNat := by
  rw [← String.toList_ofList (l := Nat.toDigits 10 octet.toNat), ← Nat.toString_eq_ofList_toDigits]
  rfl

theorem isDigit_of_mem_toString {octet : UInt8} {c : Char} (member : c ∈ (toString octet).toList) :
    isDigit c := by
  rw [toList_toString] at member
  exact isDigit_of_mem_toDigits member

theorem readOctet?_toString (octet : UInt8) : readOctet? (toString octet).toList = some octet := by
  have small := octet.toNat_lt
  rw [toList_toString, readOctet?_toDigits (by omega), UInt8.ofNat_toNat]

theorem isDigit_of_readOctet? {part : List Char} {octet : UInt8} (read : readOctet? part = some octet)
    {c : Char} (member : c ∈ part) (solid : isBlank c = false) : isDigit c := by
  rw [readOctet?] at read
  split at read
  · next digits => exact List.all_eq_true.mp digits c (mem_trimChars member solid)
  · contradiction

/-! ### Quads -/

theorem splitOn_of_readQuad? {cs : List Char} {quad : Quad} (read : readQuad? cs = some quad) :
    ∃ a b c d, splitOn '.' cs = [a, b, c, d] ∧ readOctet? a = some quad.a ∧
      readOctet? b = some quad.b ∧ readOctet? c = some quad.c ∧ readOctet? d = some quad.d := by
  unfold readQuad? at read
  split at read
  · next a b c d pieces =>
    simp only [Option.bind_eq_bind, Option.bind_eq_some_iff, Option.pure_def, Option.some.injEq] at read
    obtain ⟨_, first, _, second, _, third, _, fourth, rfl⟩ := read
    exact ⟨a, b, c, d, pieces, first, second, third, fourth⟩
  · contradiction

theorem dot_mem_of_readQuad? {cs : List Char} {quad : Quad} (read : readQuad? cs = some quad) :
    '.' ∈ cs := by
  obtain ⟨a, b, c, d, pieces, _⟩ := splitOn_of_readQuad? read
  by_contra absent
  rw [splitOn_of_not_mem absent] at pieces
  simp at pieces

theorem isDigit_of_readQuad? {cs : List Char} {quad : Quad} (read : readQuad? cs = some quad)
    {c : Char} (member : c ∈ cs) (different : c ≠ '.') (solid : isBlank c = false) :
    isDigit c := by
  obtain ⟨_, _, _, _, pieces, first, second, third, fourth⟩ := splitOn_of_readQuad? read
  obtain ⟨piece, found, inside⟩ := mem_splitOn member different
  rw [pieces] at found
  simp only [List.mem_cons, List.not_mem_nil, or_false] at found
  rcases found with rfl | rfl | rfl | rfl
  · exact isDigit_of_readOctet? first inside solid
  · exact isDigit_of_readOctet? second inside solid
  · exact isDigit_of_readOctet? third inside solid
  · exact isDigit_of_readOctet? fourth inside solid

/-- A dotted quad has nothing behind a slash. -/
theorem slash_not_mem {cs : List Char} {quad : Quad} (read : readQuad? cs = some quad) : '/' ∉ cs := by
  intro member
  have digit := isDigit_of_readQuad? read member (by decide) (by decide)
  exact absurd digit (by decide)

theorem prefixOfMask_of_readQuad? {text : String} {quad : Quad}
    (read : readQuad? (trimChars text.toList) = some quad) :
    prefixOfMask text = toString (quad.bits.count true) := by
  rw [prefixOfMask, splitOn_of_not_mem (slash_not_mem read), read]
  rfl

theorem toList_text (quad : Quad) :
    quad.text.toList = (toString quad.a).toList ++ '.' :: ((toString quad.b).toList ++
      '.' :: ((toString quad.c).toList ++ '.' :: (toString quad.d).toList)) := by
  have dot : ".".toList = ['.'] := rfl
  simp [Quad.text, dot]

theorem readQuad?_text (quad : Quad) : readQuad? quad.text.toList = some quad := by
  have noDot : ∀ octet : UInt8, '.' ∉ (toString octet).toList :=
    fun octet member => absurd (isDigit_of_mem_toString member) (by decide)
  simp [readQuad?, toList_text, splitOn_append, splitOn_of_not_mem (noDot _), readOctet?_toString]

theorem solid_text (quad : Quad) : ∀ c ∈ quad.text.toList, isBlank c = false := by
  have solid : ∀ {octet : UInt8} {c : Char}, c ∈ (toString octet).toList → isBlank c = false :=
    fun member => not_blank_of_isDigit (isDigit_of_mem_toString member)
  intro c member
  simp only [toList_text, List.mem_append, List.mem_cons] at member
  rcases member with first | rfl | second | rfl | third | rfl | fourth
  · exact solid first
  · decide
  · exact solid second
  · decide
  · exact solid third
  · decide
  · exact solid fourth

end DeviceConfig.Address
