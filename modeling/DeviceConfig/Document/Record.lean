import DeviceConfig.Document.Readable
import DeviceConfig.Document.Writable

/-!
Records: tables with known fields. The fields of a record are listed once, and the list says both how
the record is read and how it is written.

A record may also be read from the list of its fields in their order. Fields it does not know are
passed over, or kept by the records that have room for them. A field given twice, under one spelling
or two, spoils the record.
-/

namespace DeviceConfig.Document

/-- The name of a field and the other spellings it is read under. -/
structure FieldName where
  name : String
  aliases : List String := []

instance : Coe String FieldName := ⟨fun name => { name }⟩

def FieldName.accepts (field : FieldName) (name : String) : Bool :=
  field.name == name || field.aliases.contains name

/-- The fields a document gives, each under its own name and at most once. -/
abbrev Given := List (String × Node)

/-- Sorts members into known fields and the others. -/
def sortGiven? (fields : List FieldName) :
    List (String × Node) → Option (Given × List (String × Node))
  | [] => some ([], [])
  | (name, node) :: rest => do
    let (known, others) ← sortGiven? fields rest
    match fields.find? (·.accepts name) with
    | some field =>
      if (known.lookup field.name).isSome then none
      else some ((field.name, node) :: known, others)
    | none => some (known, (name, node) :: others)

/-- What a document gives of the fields, with no room for others. -/
def Node.given? (fields : List FieldName) : Node → Option Given
  | .list items =>
    if items.length ≤ fields.length then some ((fields.map FieldName.name).zip items) else none
  | node => do
    let (known, others) ← sortGiven? fields (← node.members?)
    if others.all (·.2.isComplete) then some known else none

/-- What a document gives of the fields, and the other members by their names. Only a table has
others. -/
def Node.givenWithRest? (fields : List FieldName) (node : Node) :
    Option (Given × List (String × Json)) := do
  let (known, others) ← sortGiven? fields (← node.members?)
  return (known, NameMap.ofList (← Node.membersToJson? others))

/-- How one field is read and written. A missing field is `none` on both sides. -/
structure FieldRule (α : Type) where
  field : FieldName
  read? : Option Node → Option α
  write? : α → Option Json

/-- The fields of a record, in order. Their values stand in nested pairs. -/
inductive Fields : Type → Type 1 where
  | done : Fields Unit
  | also {α more : Type} (rule : FieldRule α) (rest : Fields more) : Fields (α × more)

namespace Fields

def names {values : Type} : Fields values → List FieldName
  | .done => []
  | .also rule rest => rule.field :: rest.names

def read? {values : Type} : Fields values → Given → Option values
  | .done, _ => some ()
  | .also rule rest, given => do
    return (← rule.read? (given.lookup rule.field.name), ← rest.read? given)

/-- The members of a record in the order of its fields. -/
def write {values : Type} : Fields values → values → List (String × Json)
  | .done, _ => []
  | .also rule rest, (value, values) =>
    ((rule.write? value).map (rule.field.name, ·)).toList ++ rest.write values

variable {α more : Type} [Readable α] [Writable α]

/-- A field that is always written, with the value it has when it is missing. -/
def plain (field : FieldName) (missing : α) (rest : Fields more) : Fields (α × more) :=
  .also ⟨field, fun node => node.elim (some missing) Document.read?, fun a => some (toJson a)⟩ rest

/-- A field that has to be there. -/
def required (field : FieldName) (rest : Fields more) : Fields (α × more) :=
  .also ⟨field, fun node => node.bind Document.read?, fun a => some (toJson a)⟩ rest

/-- A field that may be missing. -/
def optional (field : FieldName) (rest : Fields more) : Fields (Option α × more) :=
  .also ⟨field, fun node => node.elim (some none) Document.read?, fun a => a.map toJson⟩ rest

/-- A list that is not written when it is empty. -/
def unlessEmpty (field : FieldName) (rest : Fields more) : Fields (List α × more) :=
  .also ⟨field, fun node => node.elim (some []) Document.read?,
    fun items => if items.isEmpty then none else some (toJson items)⟩ rest

/-- A flag that is written only when it is set. -/
def whenSet (field : FieldName) (rest : Fields more) : Fields (Bool × more) :=
  .also ⟨field, fun node => node.elim (some false) Document.read?,
    fun flag => if flag then some (.bool true) else none⟩ rest

end Fields

/-- A type whose values are records. -/
class Recorded (α : Type) where
  Values : Type
  fields : Fields Values
  ofValues : Values → α
  toValues : α → Values

namespace Recorded

variable {α : Type} [Recorded α]

instance (priority := low) : Readable α where
  read? node := do
    let fields : Fields (Values α) := fields
    return ofValues (← fields.read? (← node.given? fields.names))

/-- The members in the order of the fields. -/
def members (record : α) : List (String × Json) := fields.write (toValues record)

instance (priority := low) : Writable α := ⟨fun record => .ofMembers (members record)⟩

end Recorded

/-- A type whose values are records that keep the fields they do not know. -/
class OpenRecorded (α : Type) where
  Values : Type
  fields : Fields Values
  ofValues : Values → List (String × Json) → α
  toValues : α → Values × List (String × Json)

namespace OpenRecorded

variable {α : Type} [OpenRecorded α]

instance (priority := low) : Readable α where
  read? node := do
    let fields : Fields (Values α) := fields
    let (given, others) ← node.givenWithRest? fields.names
    return ofValues (← fields.read? given) others

instance (priority := low) : Writable α where
  toJson record :=
    let (values, others) := toValues record
    .ofMembers (fields.write values ++ others)

end OpenRecorded

end DeviceConfig.Document
