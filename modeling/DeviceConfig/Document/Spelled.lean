import DeviceConfig.Document.Readable
import DeviceConfig.Document.Writable

/-!
Types whose values are written as fixed words.
-/

namespace DeviceConfig.Document

class Spelled (α : Type) where
  values : List α
  name : α → String
  /-- Further words a value is read from. -/
  aliases : α → List String := fun _ => []
  /-- What every other word stands for. -/
  otherwise : Option α := none

namespace Spelled

variable {α : Type} [Spelled α]

/-- The value that a word stands for. -/
def ofWord? (word : String) : Option α :=
  ((values : List α).find? fun value => name value == word || (aliases value).contains word)
    <|> otherwise

instance : Readable α := ⟨fun node => do ofWord? (← readWord? node)⟩

instance : Writable α := ⟨fun value => .string (name value)⟩

end Spelled

end DeviceConfig.Document
