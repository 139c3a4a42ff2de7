import DeviceConfig.Document.Node

/-!
Tables under construction. A table can be opened step by step: by headers below it, by dotted keys, or
by a header of its own, and how it came about decides what may still be added to it.
-/

namespace DeviceConfig.Toml

open Document

inductive Item where
  /-- A finished value; nothing can be added to it. -/
  | value (node : Node)
  /-- A table. It is implicit as long as it has no header or braces of its own, and dotted if a dotted
  key opened it. -/
  | table (implicit dotted : Bool) (entries : List (String × Item))
  /-- A list of tables that headers in double brackets extend. -/
  | tables (elements : List (List (String × Item)))

abbrev Entries := List (String × Item)

namespace Entries

/-- Puts another item in the place of an entry. -/
def replace (key : String) (item : Item) (entries : Entries) : Entries :=
  entries.map fun entry => if entry.1 = key then (key, item) else entry

def remove (key : String) (entries : Entries) : Entries := entries.filter (·.1 != key)

/-- Changes the table at the end of a path, opening tables on the way. A list of tables stands for the
last one in it. Dotted keys do not lead through tables that have a header. The change is told whether
the table it gets is a dotted one. -/
def within? (dotted : Bool) (change : Bool → Entries → Option Entries) :
    List String → Bool → Entries → Option Entries
  | [], here, entries => change here entries
  | key :: path, _, entries =>
    match entries.lookup key with
    | none => do
      let inner ← within? dotted change path dotted []
      return entries ++ [(key, .table true dotted inner)]
    | some (.value _) => none
    | some (.table implicit byDot inner) =>
      if dotted && !implicit then none
      else do
        let inner ← within? dotted change path byDot inner
        return entries.replace key (.table implicit byDot inner)
    | some (.tables elements) => do
      let last ← elements.getLast?
      let inner ← within? dotted change path false last
      return entries.replace key (.tables (elements.dropLast ++ [inner]))

/-- Adds a value under a dotted key. The tables that the dots open hold nothing else but what dotted
keys put there, and no key comes twice. -/
def insert? (path : List String) (key : String) (node : Node) (entries : Entries) :
    Option Entries :=
  within? true (fun here inner =>
    if here = path.isEmpty then none
    else if (inner.lookup key).isSome then none
    else some (inner ++ [(key, .value node)])) path false entries

/-- Adds a table under a header, filled by `fill`. A table that headers below it opened is taken up
again and moves to the end; any other entry of that name is in the way. -/
def addTable? (path : List String) (key : String) (fill : Entries → Option Entries)
    (entries : Entries) : Option Entries :=
  within? false (fun _ parent => do
    let base ← match parent.lookup key with
      | none => some []
      | some (.table true false inner) => some inner
      | some _ => none
    let filled ← fill base
    return parent.remove key ++ [(key, .table false false filled)]) path false entries

/-- Adds a table to a list of tables. -/
def addElement? (path : List String) (key : String) (fill : Entries → Option Entries)
    (entries : Entries) : Option Entries :=
  within? false (fun _ parent => do
    let element ← fill []
    match parent.lookup key with
    | none => some (parent ++ [(key, .tables [element])])
    | some (.tables elements) => some (parent.replace key (.tables (elements ++ [element])))
    | some _ => none) path false entries

end Entries

mutual

def Item.toNode : Item → Node
  | .value node => node
  | .table _ _ [] => .emptyTable
  | .table _ _ entries => .table (membersOf entries)
  | .tables elements => .list (tablesOf elements)

/-- The members of a table. -/
def membersOf : List (String × Item) → List (String × Node)
  | [] => []
  | (key, item) :: rest => (key, item.toNode) :: membersOf rest

def tablesOf : List (List (String × Item)) → List Node
  | [] => []
  | entries :: rest => (match entries with
      | [] => .emptyTable
      | entries => .table (membersOf entries)) :: tablesOf rest

end

end DeviceConfig.Toml
