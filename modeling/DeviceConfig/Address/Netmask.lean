import DeviceConfig.Address.Mask

/-!
The mask of a network as intents give it: dotted, as a prefix length, or behind the slash of an address.
Where nothing usable is given, the mask is that of 24 bits.
-/

namespace DeviceConfig.Address

open Text

def defaultMask : String := "255.255.255.0"

def defaultPrefix : String := "24"

/-- A text if it says anything, blanks around it aside. -/
def given? (text : Option String) : Option String := (text.map trim).filter (!·.isEmpty)

/-- The mask in dotted form. A dotted mask is taken as it stands if it is four octets. -/
def dottedMask (mask : Option String) : String :=
  match given? mask with
  | none => defaultMask
  | some text =>
    let dotted :=
      if text.contains '/' then maskOfCidr text
      else if text.contains '.' then if prefixOfMask text = "" then "" else text
      else maskOfCidr ("0.0.0.0/" ++ text)
    if dotted = "" then defaultMask else dotted

/-- The mask as a prefix length. -/
def prefixLength (mask : Option String) : String :=
  match given? mask with
  | none => defaultPrefix
  | some text =>
    let length := if text.contains '/' || text.contains '.' then prefixOfMask text else text
    (readNat? 32 length.toList).elim defaultPrefix toString

/-- The address in front of a slash, if there is one. -/
def network (address : String) : String :=
  String.ofList (trimChars (address.toList.takeWhile (· != '/')))

/-- The network of a route and what its mask is taken from. A mask of its own wins over one behind the
destination. -/
def routeTarget (destination : String) (mask : Option String) : String × Option String :=
  (network destination,
    given? mask <|> if destination.contains '/' then some (trim destination) else none)

end DeviceConfig.Address
