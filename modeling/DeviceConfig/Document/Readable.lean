import DeviceConfig.Document.Node

/-!
Reading typed values out of documents. Nothing is converted: a number is no text, a text is no
number, and null is read only where a value is optional.
-/

namespace DeviceConfig.Document

class Readable (α : Type) where
  read? : Node → Option α

export Readable (read?)

instance : Readable String where
  read?
    | .string text => some text
    | _ => none

instance : Readable Bool where
  read?
    | .bool value => some value
    | _ => none

/-- A free value. -/
instance : Readable Json where
  read? := Node.toJson?

/-- An integer between two bounds. -/
def readInt? (least greatest : Int) : Node → Option Int
  | .int value => if least ≤ value ∧ value ≤ greatest then some value else none
  | _ => none

instance : Readable UInt8 where
  read? node := (readInt? 0 (UInt8.size - 1) node).map fun n => UInt8.ofNat n.toNat

instance : Readable UInt16 where
  read? node := (readInt? 0 (UInt16.size - 1) node).map fun n => UInt16.ofNat n.toNat

instance : Readable UInt32 where
  read? node := (readInt? 0 (UInt32.size - 1) node).map fun n => UInt32.ofNat n.toNat

instance : Readable UInt64 where
  read? node := (readInt? 0 (UInt64.size - 1) node).map fun n => UInt64.ofNat n.toNat

instance : Readable Int64 where
  read? node := (readInt? Int64.minValue.toInt Int64.maxValue.toInt node).map Int64.ofInt

instance {α : Type} [Readable α] : Readable (Option α) where
  read?
    | .null => some none
    | node => (read? node).map some

instance {α : Type} [Readable α] : Readable (List α) where
  read?
    | .list items => items.mapM read?
    | _ => none

/-- The word a document names one of several alternatives by: the bare word, or a table with the
word as its only name and nothing under it. -/
def readWord? : Node → Option String
  | .string word => some word
  | .table [(word, .null)] => some word
  | .table [(word, .emptyTable)] => some word
  | _ => none

end DeviceConfig.Document
