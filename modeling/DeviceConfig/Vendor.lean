import DeviceConfig.Document.Spelled
import DeviceConfig.Text.Blank
import DeviceConfig.Text.Case

/-!
The vendors whose devices are described.
-/

namespace DeviceConfig

inductive Vendor where
  | cisco
  | mikrotik
  | fortigate
  | generic
deriving DecidableEq, Repr, Inhabited

namespace Vendor

def name : Vendor → String
  | .cisco => "cisco"
  | .mikrotik => "mikrotik"
  | .fortigate => "fortigate"
  | .generic => "generic"

def all : List Vendor := [.cisco, .mikrotik, .fortigate, .generic]

instance : Document.Spelled Vendor := { values := all, name }

/-- The vendor a person names: blanks around it and letter case aside. -/
def ofText? (text : String) : Option Vendor :=
  all.find? fun vendor => Text.sameIgnoringCase vendor.name (Text.trim text)

/-- What to say of a name that is none of them. -/
def unknownMessage (text : String) : String :=
  s!"unknown vendor '{text}' (expected cisco, mikrotik, fortigate or generic)"

end Vendor

end DeviceConfig
