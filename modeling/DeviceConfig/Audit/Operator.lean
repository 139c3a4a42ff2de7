import DeviceConfig.Text.Blank
import DeviceConfig.Text.Case

/-!
The operators that a rule can compare a value with, and their spellings.
-/

namespace DeviceConfig.Audit

inductive Operator where
  | equals
  | notEquals
  | contains
  | notContains
  | exists
  | notExists
  | notEmpty
  | empty
  | matches
  | greaterThan
deriving DecidableEq, Repr, Inhabited

namespace Operator

def name : Operator → String
  | .equals => "equals"
  | .notEquals => "notEquals"
  | .contains => "contains"
  | .notContains => "notContains"
  | .exists => "exists"
  | .notExists => "notExists"
  | .notEmpty => "notEmpty"
  | .empty => "empty"
  | .matches => "matches"
  | .greaterThan => "greaterThan"

def all : List Operator :=
  [.equals, .notEquals, .contains, .notContains, .exists, .notExists, .notEmpty, .empty, .matches,
   .greaterThan]

/-- The operator of a spelling: blanks around it, underscores, hyphens and letter case aside. -/
def ofText? (text : String) : Option Operator :=
  let folded := String.ofList ((Text.trimChars text.toList).filter fun c => c != '_' && c != '-')
  all.find? fun operator => Text.sameIgnoringCase operator.name folded

end Operator

end DeviceConfig.Audit
