import DeviceConfig.Proofs.Address.Netmask

/-!
The mask that goes with the subnet of a VLAN. It is meant to be the length behind the slash. A subnet without a slash
is read like any other mask, and one with two slashes has a length for RouterOS only.
-/

namespace DeviceConfig.Address

open Text

/-- The length behind the only slash. -/
def lengthBehindSlash? (subnet : Option String) : Option Nat := do
  let text ← given? subnet
  match splitOn '/' text.toList with
  | [_, behind] => readNat? 32 (trimChars behind)
  | _ => none

/-- What a subnet is taken for. -/
inductive SubnetReading where
  | network (length : Option Nat)
  | between (length : Option Nat)
  | mask (text : String) (ones : Nat)
deriving DecidableEq, Repr

namespace SubnetReading

/-- Only a network has a length that is meant as one. -/
def meant? : SubnetReading → Option Nat
  | network length => length
  | between _ | mask _ _ => none

def dottedMask : SubnetReading → String
  | network length => maskOfLength length
  | between _ => defaultMask
  | mask text _ => text

def prefixLength : SubnetReading → String
  | network length | between length => textOfLength length
  | mask _ ones => toString ones

theorem dottedMask_eq_iff (reading : SubnetReading) :
    reading.dottedMask = maskOfLength reading.meant? ↔
      ∀ text ones, reading = mask text ones → text = defaultMask := by
  cases reading with
  | network length => simp [dottedMask, meant?]
  | between length => simp [dottedMask, meant?, maskOfLength]
  | mask text ones => simp [dottedMask, meant?, maskOfLength]

theorem prefixLength_eq_iff (reading : SubnetReading) :
    reading.prefixLength = textOfLength reading.meant? ↔
      (∀ text ones, reading = mask text ones → ones = 24) ∧
        ∀ n, reading = between (some n) → n = 24 := by
  have default : textOfLength none = toString 24 := by decide
  have told : ∀ n, textOfLength (some n) = toString n := fun _ => rfl
  cases reading with
  | network length => simp [prefixLength, meant?]
  | between length =>
    cases length with
    | none => simp [prefixLength, meant?]
    | some n =>
      rw [prefixLength, meant?, default, told, toString_inj]
      simp
  | mask text ones =>
    rw [prefixLength, meant?, default, toString_inj]
    simp

end SubnetReading

/-- A text without a slash is a mask itself, if it is four octets or a length. -/
def readMask (text : String) : SubnetReading :=
  if '.' ∈ text.toList then
    (readQuad? text.toList).elim (.network none) fun quad => .mask text (quad.bits.count true)
  else (readNat? 32 text.toList).elim (.network none) fun n => .mask (Quad.ofPrefix n).text n

def readSubnet (subnet : Option String) : SubnetReading :=
  match given? subnet with
  | none => .network none
  | some text =>
    match splitOn '/' text.toList with
    | [_, behind] => .network (readNat? 32 (trimChars behind))
    | _ :: between :: _ => .between (readNat? 32 (trimChars between))
    | _ => readMask text

theorem meant?_readMask (text : String) : (readMask text).meant? = none := by
  unfold readMask
  split
  · cases readQuad? text.toList <;> rfl
  · cases readNat? 32 text.toList <;> rfl

theorem meant?_readSubnet (subnet : Option String) :
    (readSubnet subnet).meant? = lengthBehindSlash? subnet := by
  unfold readSubnet lengthBehindSlash?
  cases given? subnet with
  | none => rfl
  | some text =>
    simp only [Option.bind_eq_bind, Option.bind_some]
    match splitOn '/' text.toList with
    | [] | [_] => exact meant?_readMask text
    | [_, _] | _ :: _ :: _ :: _ => rfl

/-! ### Both forms go by what it is taken for -/

theorem masks_readMask {subnet : Option String} {text : String} (given : given? subnet = some text)
    (absent : '/' ∉ text.toList) :
    dottedMask subnet = (readMask text).dottedMask ∧
      prefixLength subnet = (readMask text).prefixLength := by
  unfold readMask
  by_cases dot : '.' ∈ text.toList
  · rw [dottedMask_dotted given absent dot, prefixLength_dotted given absent dot, if_pos dot]
    cases readQuad? text.toList <;> exact ⟨rfl, rfl⟩
  · rw [dottedMask_bare given absent dot, prefixLength_bare given absent dot, if_neg dot]
    cases readNat? 32 text.toList <;> exact ⟨rfl, rfl⟩

theorem masks_readSubnet (subnet : Option String) :
    dottedMask subnet = (readSubnet subnet).dottedMask ∧
      prefixLength subnet = (readSubnet subnet).prefixLength := by
  cases given : given? subnet with
  | none =>
    simp only [dottedMask, prefixLength, readSubnet, given]
    exact ⟨rfl, rfl⟩
  | some text =>
    simp only [readSubnet, given]
    by_cases slash : '/' ∈ text.toList
    · obtain ⟨front, behind, shape, absent⟩ := List.eq_append_cons_of_mem slash
      rw [shape, splitOn_append, splitOn_of_not_mem absent, prefixLength_slash given shape absent]
      by_cases second : '/' ∈ behind
      -- The dotted form reads all that stands behind the first slash, which is then no number.
      · obtain ⟨between, rest, rfl, single⟩ := List.eq_append_cons_of_mem second
        obtain ⟨pieces, split⟩ := splitOn_eq_cons '/' rest
        rw [(masks_between_slashes given shape absent single).1, takeWhile_append single,
          splitOn_append, splitOn_of_not_mem single, split]
        exact ⟨rfl, rfl⟩
      · rw [dottedMask_slash given shape absent, takeWhile_of_not_mem second,
          splitOn_of_not_mem second]
        exact ⟨rfl, rfl⟩
    · rw [splitOn_of_not_mem slash]
      exact masks_readMask given slash

end DeviceConfig.Address
