import DeviceConfig.Document.Readable
import DeviceConfig.Document.Writable
import DeviceConfig.Snippet.Action
import DeviceConfig.Text.Digits

/-!
The parameters of a snippet, and the ways in which a script reads one of them.
-/

namespace DeviceConfig.Snippet

open Document

structure Params where
  members : List (String × Json) := []
deriving Repr

instance : Readable Params where
  read? node := match node.toJson? with
    | some (.object members) => some ⟨members⟩
    | _ => none

instance : Writable Params := ⟨fun params => .object params.members⟩

namespace Params

/-- The value of a parameter. Null and the empty text count as missing. -/
def present? (params : Params) (key : String) : Option Json :=
  match params.members.lookup key with
  | none => none
  | some .null => none
  | some (.string text) => if text.isEmpty then none else some (.string text)
  | some value => some value

end Params

/-- A text, or the text of a number or truth value. -/
def scalar? : Json → Option String
  | .string text => some text
  | .number value => some value.text
  | .bool value => some (if value then "true" else "false")
  | _ => none

def readScalar (key : String) (value : Json) : Except SnippetError String :=
  (scalar? value).elim (.error (.invalidParam key "a string")) .ok

/-- A list of scalars. A single scalar is a list of one. -/
def readList (key : String) : Json → Except SnippetError (List String)
  | .array items =>
    (items.mapM scalar?).elim (.error (.invalidParam key "a list of strings")) .ok
  | value => (readScalar key value).map ([·])

/-- The id of a VLAN, as a number or as a text. -/
def vlanId? (value : Json) : Option Nat :=
  let id := match value with
    | .number (.int value) => if 0 ≤ value then some value.toNat else none
    | .string text => Text.readNat? 65535 (Text.trimChars text.toList)
    | _ => none
  id.filter fun id => decide (1 ≤ id ∧ id ≤ 4094)

namespace Params

variable (params : Params) (key : String)

def required : Except SnippetError String :=
  match params.present? key with
  | none => .error (.missingParam key)
  | some value => readScalar key value

def optional : Except SnippetError (Option String) :=
  match params.present? key with
  | none => .ok none
  | some value => (readScalar key value).map some

def withDefault (default : String) : Except SnippetError String := do
  return (← params.optional key).getD default

def vlanId : Except SnippetError Nat :=
  match params.present? key with
  | none => .error (.missingParam key)
  | some value =>
    (vlanId? value).elim (.error (.invalidParam key "a VLAN id between 1 and 4094")) .ok

def list : Except SnippetError (List String) :=
  match params.present? key with
  | none => .error (.missingParam key)
  | some value => readList key value

def optionalList : Except SnippetError (List String) :=
  match params.present? key with
  | none => .ok []
  | some value => readList key value

end Params

end DeviceConfig.Snippet
