import DeviceConfig.Document.Spelled
import DeviceConfig.Text.Blank
import DeviceConfig.Text.Case

/-!
How grave a finding is.
-/

namespace DeviceConfig.Audit

inductive Severity where
  | critical
  | high
  | medium
  | low
  | info
deriving DecidableEq, Repr, Inhabited

namespace Severity

def name : Severity → String
  | .critical => "critical"
  | .high => "high"
  | .medium => "medium"
  | .low => "low"
  | .info => "info"

def all : List Severity := [.critical, .high, .medium, .low, .info]

instance : Document.Spelled Severity := { values := all, name }

/-- Findings this grave make an audit fail. -/
def isBlocking : Severity → Bool
  | .critical | .high => true
  | _ => false

/-- The severity a person names: blanks around it and letter case aside. -/
def ofText? (text : String) : Option Severity :=
  all.find? fun severity => Text.sameIgnoringCase severity.name (Text.trim text)

/-- What to say of a name that is none of them. -/
def unknownMessage (text : String) : String := s!"unknown severity '{text}'"

end Severity

end DeviceConfig.Audit
