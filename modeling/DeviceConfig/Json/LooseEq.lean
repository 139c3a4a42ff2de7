import DeviceConfig.Json.Value

/-!
Equality of values with numbers compared as doubles, so that 2 equals 2.0, and with the order of an
object's members left aside. Values of different kinds are never equal.
-/

namespace DeviceConfig.Json

mutual

def looseEq : Json → Json → Bool
  | .null, .null => true
  | .bool a, .bool b => a == b
  | .number a, .number b => a.toBinary64.value == b.toBinary64.value
  | .string a, .string b => a == b
  | .array as, .array bs => looseEqItems as bs
  | .object as, .object bs => as.length == bs.length && looseEqMembers as bs
  | _, _ => false

/-- Equal item by item. -/
def looseEqItems : List Json → List Json → Bool
  | [], [] => true
  | a :: as, b :: bs => looseEq a b && looseEqItems as bs
  | _, _ => false

/-- Every member on the left has an equal one of its name on the right. -/
def looseEqMembers : List (String × Json) → List (String × Json) → Bool
  | [], _ => true
  | (name, a) :: as, bs =>
    (match bs.lookup name with
      | some b => looseEq a b
      | none => false) && looseEqMembers as bs

end

end DeviceConfig.Json
