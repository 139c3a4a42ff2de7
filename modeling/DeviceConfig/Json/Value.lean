import DeviceConfig.Decimal.Shortest
import DeviceConfig.NameMap

/-!
JSON values. An object is a list of members; values that are compared, searched or handed on keep
their members in the order of their names, each name once, which `ofMembers` establishes.
-/

namespace DeviceConfig

open Decimal

/-- A number: an integer of at most 64 bits as it stands, or a finite double. -/
inductive Json.Number where
  | int (value : Int)
  | float (value : Binary64)
deriving DecidableEq, Repr

inductive Json where
  | null
  | bool (value : Bool)
  | number (value : Json.Number)
  | string (text : String)
  | array (items : List Json)
  | object (members : List (String × Json))
deriving Repr, Inhabited

namespace Json

/-- The value as a double; an integer is rounded. -/
def Number.toBinary64 : Number → Binary64
  | .int value => .ofInt value
  | .float value => value

def Number.text : Number → String
  | .int value => toString value
  | .float value => value.text

def int (value : Int) : Json := .number (.int value)

def nat (value : Nat) : Json := .int value

def strings (texts : List String) : Json := .array (texts.map .string)

/-- The object of some members. Of two with one name the later one stays. -/
def ofMembers (members : List (String × Json)) : Json := .object (NameMap.ofList members)

/-- The member of that name, of an object. -/
def member? (name : String) : Json → Option Json
  | .object members => members.lookup name
  | _ => none

/-- A member that is left out when there is no value. -/
def optional (name : String) (value : Option Json) : List (String × Json) :=
  (value.map (name, ·)).toList

/-! ### Equality -/

mutual

/-- Equality as it stands: the order of members and the form of numbers count. -/
def same : Json → Json → Bool
  | .null, .null => true
  | .bool a, .bool b => a == b
  | .number a, .number b => a == b
  | .string a, .string b => a == b
  | .array as, .array bs => sameItems as bs
  | .object as, .object bs => sameMembers as bs
  | _, _ => false

def sameItems : List Json → List Json → Bool
  | [], [] => true
  | a :: as, b :: bs => same a b && sameItems as bs
  | _, _ => false

def sameMembers : List (String × Json) → List (String × Json) → Bool
  | [], [] => true
  | (name, a) :: as, (other, b) :: bs => name == other && same a b && sameMembers as bs
  | _, _ => false

end

mutual

theorem same_iff (a b : Json) : same a b = true ↔ a = b := by
  cases a <;> cases b <;> simp [same, sameItems_iff, sameMembers_iff]

theorem sameItems_iff (as bs : List Json) : sameItems as bs = true ↔ as = bs := by
  cases as <;> cases bs <;> simp [sameItems, same_iff, sameItems_iff]

theorem sameMembers_iff (as bs : List (String × Json)) : sameMembers as bs = true ↔ as = bs := by
  cases as with
  | nil => cases bs <;> simp [sameMembers]
  | cons entry as =>
    obtain ⟨name, a⟩ := entry
    cases bs with
    | nil => simp [sameMembers]
    | cons entry bs =>
      obtain ⟨other, b⟩ := entry
      simp [sameMembers, same_iff, sameMembers_iff]

end

instance : DecidableEq Json := fun a b => decidable_of_iff _ (same_iff a b)

end Json

end DeviceConfig
