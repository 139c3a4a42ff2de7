import DeviceConfig.Text.Blank
import DeviceConfig.Text.Digits
import DeviceConfig.Text.Split

/-!
Subnet masks as dotted quads and as prefix lengths. Every conversion is total: what cannot be
converted gives the empty text, and the caller supplies its own default.
-/

namespace DeviceConfig.Address

open Text

/-- Four octets, the most significant first. -/
structure Quad where
  a : UInt8
  b : UInt8
  c : UInt8
  d : UInt8
deriving DecidableEq, Repr

namespace Quad

def octets (q : Quad) : List UInt8 := [q.a, q.b, q.c, q.d]

/-- The bits of an octet, the most significant first. -/
def octetBits (octet : UInt8) : List Bool := (List.range 8).map fun i => octet.toNat.testBit (7 - i)

/-- All thirty-two bits, the most significant first. -/
def bits (q : Quad) : List Bool := q.octets.flatMap octetBits

def complement (q : Quad) : Quad := ⟨~~~q.a, ~~~q.b, ~~~q.c, ~~~q.d⟩

def text (q : Quad) : String := s!"{q.a}.{q.b}.{q.c}.{q.d}"

/-- An octet whose first so many bits are set, at most all eight. -/
def leadingOctet (ones : Nat) : UInt8 := UInt8.ofNat (256 - (1 <<< (8 - min 8 ones)))

/-- The mask whose first so many bits are set. -/
def ofPrefix (length : Nat) : Quad :=
  ⟨leadingOctet length, leadingOctet (length - 8), leadingOctet (length - 16),
   leadingOctet (length - 24)⟩

end Quad

/-- One octet: digits alone, blanks around them aside. -/
def readOctet? (part : List Char) : Option UInt8 :=
  let digits := trimChars part
  if digits.all isDigit then (readNat? 255 digits).map UInt8.ofNat else none

/-- Exactly four octets between dots. -/
def readQuad? (text : List Char) : Option Quad :=
  match splitOn '.' text with
  | [a, b, c, d] => do return ⟨← readOctet? a, ← readOctet? b, ← readOctet? c, ← readOctet? d⟩
  | _ => none

/-- The number behind the first slash, if it is a prefix length. -/
def cidrLength? (cidr : String) : Option Nat := do
  let (_, suffix) ← splitOnce? '/' (trimChars cidr.toList)
  readNat? 32 (trimChars suffix)

/-- The dotted mask of the prefix length behind a slash. -/
def maskOfCidr (cidr : String) : String :=
  ((cidrLength? cidr).map fun length => (Quad.ofPrefix length).text).getD ""

/-- The inverse mask of the prefix length behind a slash, as access lists write it. -/
def wildcardOfCidr (cidr : String) : String :=
  ((cidrLength? cidr).map fun length => (Quad.ofPrefix length).complement.text).getD ""

/-- The prefix length of a dotted mask, counting its bits wherever they stand. Behind a slash the
length is already there, and what stands up to the next slash is taken unchanged. -/
def prefixOfMask (mask : String) : String :=
  let cs := trimChars mask.toList
  match splitOn '/' cs with
  | _ :: suffix :: _ => String.ofList (trimChars suffix)
  | _ => ((readQuad? cs).map fun quad => toString (quad.bits.count true)).getD ""

/-- Do all the ones of a dotted mask come first? -/
def isContiguous (mask : String) : Bool :=
  match readQuad? (trimChars mask.toList) with
  | some quad => (quad.bits.takeWhile id).length = quad.bits.count true
  | none => false

end DeviceConfig.Address
