import DeviceConfig.Address.Netmask
import DeviceConfig.Proofs.Address.Quad

/-!
Sources of traffic: a dotted address, alone or with the length of a prefix behind a slash. Of a prefix every
helper makes the same mask. An address alone has no mask, and where a mask is asked for it is taken for one.
-/

namespace DeviceConfig.Address

open Text

/-- A text that names the address, with the length of a prefix if it gives one. -/
inductive IsSource : List Char → Quad → Option Nat → Prop where
  | host {host : List Char} {address : Quad} (solid : ∀ c ∈ host, isBlank c = false)
      (read : readQuad? host = some address) : IsSource host address none
  | prefixed {host digits : List Char} {address : Quad} {length : Nat}
      (solid : ∀ c ∈ host, isBlank c = false) (read : readQuad? host = some address)
      (decimal : ∀ c ∈ digits, isDigit c) (known : readNat? 32 digits = some length) :
      IsSource (host ++ '/' :: digits) address (some length)

theorem solid_of_isSource {source : List Char} {address : Quad} {length : Option Nat}
    (given : IsSource source address length) : ∀ c ∈ source, isBlank c = false := by
  cases given with
  | host solid => exact solid
  | prefixed solid _ decimal =>
    intro c member
    rcases List.mem_append.mp member with before | behind
    · exact solid c before
    · rcases List.mem_cons.mp behind with rfl | digit
      · decide
      · exact not_blank_of_isDigit (decimal c digit)

theorem ne_empty_of_readQuad? {text : String} {quad : Quad}
    (read : readQuad? text.toList = some quad) : text ≠ "" := by
  rintro rfl
  simp [readQuad?, splitOn] at read

theorem text_ne_empty (quad : Quad) : quad.text ≠ "" := ne_empty_of_readQuad? (readQuad?_text quad)

section
variable {source : String} (solid : ∀ c ∈ source.toList, isBlank c = false)
include solid

theorem trim_of_solid : trim source = source := by
  rw [trim, trimChars_of_no_blank solid, String.ofList_toList]

theorem given?_of_solid (something : source ≠ "") : given? (some source) = some source := by
  simp [given?, trim_of_solid solid, something]

/-! ### Behind a slash -/

section
variable {host digits : List Char} (shape : source.toList = host ++ '/' :: digits)
  (absent : '/' ∉ host)
include shape absent

theorem cidrLength?_prefixed : cidrLength? source = readNat? 32 digits := by
  have behind : ∀ c ∈ digits, isBlank c = false := fun c member => solid c (by simp [shape, member])
  rw [cidrLength?, trimChars_of_no_blank solid, shape, splitOnce?_append absent]
  exact congrArg (readNat? 32) (trimChars_of_no_blank behind)

theorem network_prefixed : network source = String.ofList host := by
  have before : ∀ c ∈ host, isBlank c = false := fun c member => solid c (by simp [shape, member])
  rw [network, shape, takeWhile_append absent, trimChars_of_no_blank before]

variable {length : Nat} (known : readNat? 32 digits = some length)
include known

theorem maskOfCidr_prefixed : maskOfCidr source = (Quad.ofPrefix length).text := by
  rw [maskOfCidr, cidrLength?_prefixed solid shape absent, known]
  rfl

theorem wildcardOfCidr_prefixed : wildcardOfCidr source = (Quad.ofPrefix length).complement.text := by
  rw [wildcardOfCidr, cidrLength?_prefixed solid shape absent, known]
  rfl

theorem dottedMask_prefixed : dottedMask (some source) = (Quad.ofPrefix length).text := by
  have something : source ≠ "" := by
    rintro rfl
    simp at shape
  have slash : source.contains '/' = true := by simp [String.contains_char_eq, shape]
  have mask := maskOfCidr_prefixed solid shape absent known
  simp [dottedMask, given?_of_solid solid something, slash, mask, text_ne_empty]

end

/-! ### An address alone -/

section
variable {address : Quad} (read : readQuad? source.toList = some address)
include read

theorem wildcardOfCidr_host : wildcardOfCidr source = "" := by
  have absent := slash_not_mem read
  rw [wildcardOfCidr, cidrLength?, trimChars_of_no_blank solid, splitOnce?_of_not_mem absent]
  rfl

theorem network_host : network source = source := by
  have absent := slash_not_mem read
  rw [network, takeWhile_of_not_mem absent, trimChars_of_no_blank solid, String.ofList_toList]

theorem prefixOfMask_host : prefixOfMask source = toString (address.bits.count true) :=
  prefixOfMask_of_readQuad? (by rwa [trimChars_of_no_blank solid])

/-- An address is four octets, and so is a mask. -/
theorem dottedMask_host : dottedMask (some source) = source := by
  have absent := slash_not_mem read
  have something := ne_empty_of_readQuad? read
  have noSlash : source.contains '/' = false := by simp [String.contains_char_eq, absent]
  have dot : source.contains '.' = true := by
    simp [String.contains_char_eq, dot_mem_of_readQuad? read]
  have counted : prefixOfMask source ≠ "" := by
    rw [prefixOfMask_host solid read]
    exact Nat.repr_ne_empty
  simp [dottedMask, given?_of_solid solid something, noSlash, dot, counted, something]

end

end

end DeviceConfig.Address
