import DeviceConfig.Json.Value

/-!
Documents as their text gives them: members keep their order and their repetitions, and what a
document may hold but no value can be is still there, so that a part nobody reads does no harm.
-/

namespace DeviceConfig.Document

open Decimal

inductive Node where
  | null
  | bool (value : Bool)
  | int (value : Int)
  | float (value : Binary64)
  /-- An infinity or a NaN, where the format has them. -/
  | nonFinite
  | string (text : String)
  | list (items : List Node)
  | table (members : List (String × Node))
  /-- An empty table of a format without null, where it also stands for null. -/
  | emptyTable
  /-- Well written, but no value: a number out of range, half of a surrogate pair, or a list or table
  nested too deep. -/
  | unreadable
  /-- The text breaks off or goes wrong here. Nothing follows. -/
  | broken
deriving Repr, Inhabited

namespace Node

/-- The members of a table in either form. -/
def members? : Node → Option (List (String × Node))
  | .table members => some members
  | .emptyTable => some []
  | _ => none

mutual

/-- The free value. Of repeated members the last one counts. -/
def toJson? : Node → Option Json
  | .null => some .null
  | .bool value => some (.bool value)
  | .int value => some (.int value)
  | .float value => some (.number (.float value))
  | .nonFinite => some .null
  | .string text => some (.string text)
  | .list items => (itemsToJson? items).map .array
  | .table members => (membersToJson? members).map .ofMembers
  | .emptyTable => some (.object [])
  | .unreadable => none
  | .broken => none

def itemsToJson? : List Node → Option (List Json)
  | [] => some []
  | item :: rest => do return (← toJson? item) :: (← itemsToJson? rest)

def membersToJson? : List (String × Node) → Option (List (String × Json))
  | [] => some []
  | (name, node) :: rest => do return (name, ← toJson? node) :: (← membersToJson? rest)

end

mutual

/-- Can a reader pass over this part? Only the end of the text stops it. -/
def isComplete : Node → Bool
  | .broken => false
  | .list items => itemsComplete items
  | .table members => membersComplete members
  | _ => true

def itemsComplete : List Node → Bool
  | [] => true
  | item :: rest => isComplete item && itemsComplete rest

def membersComplete : List (String × Node) → Bool
  | [] => true
  | (_, node) :: rest => isComplete node && membersComplete rest

end

mutual

/-- A value as a document. -/
def ofJson : Json → Node
  | .null => .null
  | .bool value => .bool value
  | .number (.int value) => .int value
  | .number (.float value) => .float value
  | .string text => .string text
  | .array items => .list (ofItems items)
  | .object members => .table (ofMembers members)

def ofItems : List Json → List Node
  | [] => []
  | item :: rest => ofJson item :: ofItems rest

def ofMembers : List (String × Json) → List (String × Node)
  | [] => []
  | (name, value) :: rest => (name, ofJson value) :: ofMembers rest

end

end Node

end DeviceConfig.Document
