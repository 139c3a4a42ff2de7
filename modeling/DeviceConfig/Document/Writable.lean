import DeviceConfig.Json.Value

/-!
Writing typed values as JSON values.
-/

namespace DeviceConfig.Document

class Writable (α : Type) where
  toJson : α → Json

export Writable (toJson)

instance : Writable String := ⟨.string⟩

instance : Writable Bool := ⟨.bool⟩

instance : Writable Json := ⟨id⟩

instance : Writable UInt8 := ⟨fun n => .nat n.toNat⟩

instance : Writable UInt16 := ⟨fun n => .nat n.toNat⟩

instance : Writable UInt32 := ⟨fun n => .nat n.toNat⟩

instance : Writable UInt64 := ⟨fun n => .nat n.toNat⟩

instance : Writable Int64 := ⟨fun n => .int n.toInt⟩

/-- Nothing is written as null. -/
instance {α : Type} [Writable α] : Writable (Option α) := ⟨fun value => value.elim .null toJson⟩

instance {α : Type} [Writable α] : Writable (List α) := ⟨fun items => .array (items.map toJson)⟩

end DeviceConfig.Document
