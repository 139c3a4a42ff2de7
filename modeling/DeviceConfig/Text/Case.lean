/-!
Letter case. Only the ASCII letters have case here; every other character stands for itself.
-/

namespace DeviceConfig.Text

def lower (s : String) : String := String.ofList (s.toList.map Char.toLower)

/-- Equal when the case of ASCII letters is not looked at. -/
def sameIgnoringCase (a b : String) : Bool := lower a == lower b

end DeviceConfig.Text
