import DeviceConfig.Document.Readable
import DeviceConfig.Document.Writable

/-!
Values that collectors write in more than one form.
-/

namespace DeviceConfig.Snapshot

open Document

/-- A single text, or a list of texts. -/
inductive StringOrList where
  | one (text : String)
  | many (texts : List String)
deriving DecidableEq, Repr

namespace StringOrList

/-- The texts, however many they are. -/
def toList : StringOrList → List String
  | .one text => [text]
  | .many texts => texts

instance : Readable StringOrList where
  read? node := (read? node).map .one <|> (read? node).map .many

instance : Writable StringOrList where
  toJson
    | .one text => toJson text
    | .many texts => toJson texts

end StringOrList

/-- A number or a text, as devices identify policies and ports. -/
inductive TextOrNumber where
  | number (value : Int64)
  | text (value : String)
deriving DecidableEq, Repr

namespace TextOrNumber

/-- The text of either form. -/
def toText : TextOrNumber → String
  | .number value => toString value.toInt
  | .text value => value

instance : Readable TextOrNumber where
  read? node := (read? node).map .number <|> (read? node).map .text

instance : Writable TextOrNumber where
  toJson
    | .number value => toJson value
    | .text value => toJson value

end TextOrNumber

end DeviceConfig.Snapshot
