import DeviceConfig.Json.NumberText

/-!
JSON text to documents. A text that goes wrong still gives the part before: the fault is a `broken`
node, and nothing follows it.
-/

namespace DeviceConfig.Json.Reader

open Document

/-- Lists and tables stand inside one another at most this deep. -/
def maxDepth : Nat := 127

def isSpace (c : Char) : Bool := c = ' ' || c = '\t' || c = '\n' || c = '\r'

def skipSpace (cs : List Char) : List Char := cs.dropWhile isSpace

/-- A character of a quoted text: itself, or one 16-bit unit of an escape by number. -/
inductive Piece where
  | char (c : Char)
  | unit (value : Nat)

/-- Joins the surrogate pairs. A half without its other half is no text. -/
def joinPieces? : List Piece → Option (List Char)
  | [] => some []
  | .char c :: rest => (joinPieces? rest).map (c :: ·)
  | .unit high :: .unit low :: rest =>
    if 0xD800 ≤ high ∧ high < 0xDC00 then
      if 0xDC00 ≤ low ∧ low < 0xE000 then
        (joinPieces? rest).map
          (Char.ofNat (0x10000 + (high - 0xD800) * 0x400 + (low - 0xDC00)) :: ·)
      else none
    else if 0xDC00 ≤ high ∧ high < 0xE000 then none
    else (joinPieces? (.unit low :: rest)).map (Char.ofNat high :: ·)
  | .unit value :: rest =>
    if 0xD800 ≤ value ∧ value < 0xE000 then none
    else (joinPieces? rest).map (Char.ofNat value :: ·)

private def escaped? : Char → Option Char
  | '"' => some '"'
  | '\\' => some '\\'
  | '/' => some '/'
  | 'b' => some '\x08'
  | 'f' => some '\x0c'
  | 'n' => some '\n'
  | 'r' => some '\r'
  | 't' => some '\t'
  | _ => none

/-- The pieces up to the closing quote, and what follows it. -/
def pieces? : List Char → Option (List Piece × List Char)
  | [] => none
  | '"' :: rest => some ([], rest)
  | '\\' :: 'u' :: a :: b :: c :: d :: rest => do
    let value ← Text.digitsValue? 16 [a, b, c, d]
    let (pieces, rest) ← pieces? rest
    return (.unit value :: pieces, rest)
  | '\\' :: c :: rest => do
    let c ← escaped? c
    let (pieces, rest) ← pieces? rest
    return (.char c :: pieces, rest)
  | c :: rest =>
    if c.toNat < 0x20 then none
    else do
      let (pieces, rest) ← pieces? rest
      return (.char c :: pieces, rest)

/-- What was read, and the rest of the text; no rest when the text went wrong. -/
abbrev Result (α : Type) := α × Option (List Char)

def literal (word : String) (node : Node) (cs : List Char) : Result Node :=
  if word.toList.isPrefixOf cs then (node, some (cs.drop word.length)) else (.broken, none)

/-- A list or table too deep to be read is unreadable as a whole if it is otherwise in order. -/
private def limited (depth : Nat) (result : Result Node) : Result Node :=
  if maxDepth < depth && result.2.isSome then (.unreadable, result.2) else result

mutual

/-- A value, with the number of lists and tables around it. Every call either takes a character or
hands on to a call that does, so the fuel of twice the length lasts. -/
def value : Nat → Nat → List Char → Result Node
  | 0, _, _ => (.broken, none)
  | fuel + 1, depth, cs =>
    match skipSpace cs with
    | '\x7b' :: rest =>
      match skipSpace rest with
      | '\x7d' :: rest => limited (depth + 1) (.table [], some rest)
      | rest =>
        let ((members, readable), after) := members fuel (depth + 1) rest
        let node := if readable then .table members else if after.isSome then .unreadable else .broken
        limited (depth + 1) (node, after)
    | '[' :: rest =>
      match skipSpace rest with
      | ']' :: rest => limited (depth + 1) (.list [], some rest)
      | rest =>
        let (items, after) := items fuel (depth + 1) rest
        limited (depth + 1) (.list items, after)
    | '"' :: rest =>
      match pieces? rest with
      | none => (.broken, none)
      | some (pieces, rest) =>
        match joinPieces? pieces with
        | some text => (.string (String.ofList text), some rest)
        | none => (.unreadable, some rest)
    | 'n' :: rest => literal "null" .null ('n' :: rest)
    | 't' :: rest => literal "true" (.bool true) ('t' :: rest)
    | 'f' :: rest => literal "false" (.bool false) ('f' :: rest)
    | rest =>
      match NumberText.read? rest with
      | some (node, rest) => (node, some rest)
      | none => (.broken, none)

/-- The items from here to the closing bracket; there is at least one. -/
def items : Nat → Nat → List Char → Result (List Node)
  | 0, _, _ => ([.broken], none)
  | fuel + 1, depth, cs =>
    match value fuel depth cs with
    | (item, none) => ([item], none)
    | (item, some rest) =>
      match skipSpace rest with
      | ',' :: rest =>
        let (more, after) := items fuel depth rest
        (item :: more, after)
      | ']' :: rest => ([item], some rest)
      | _ => ([item, .broken], none)

/-- The members from here to the closing brace, and whether every name is readable; there is at least
one member. -/
def members : Nat → Nat → List Char → Result (List (String × Node) × Bool)
  | 0, _, _ => (([("", .broken)], true), none)
  | fuel + 1, depth, cs =>
    match skipSpace cs with
    | '"' :: rest =>
      match pieces? rest with
      | none => (([("", .broken)], true), none)
      | some (pieces, rest) =>
        let name := joinPieces? pieces
        let key := String.ofList (name.getD [])
        match skipSpace rest with
        | ':' :: rest =>
          match value fuel depth rest with
          | (node, none) => (([(key, node)], name.isSome), none)
          | (node, some rest) =>
            match skipSpace rest with
            | ',' :: rest =>
              let ((more, readable), after) := members fuel depth rest
              (((key, node) :: more, name.isSome && readable), after)
            | '\x7d' :: rest => (([(key, node)], name.isSome), some rest)
            | _ => (([(key, node), ("", .broken)], name.isSome), none)
        | _ => (([("", .broken)], true), none)
    | _ => (([("", .broken)], true), none)

end

/-- The document, and whether the whole text is one. -/
def read (text : String) : Node × Bool :=
  let cs := text.toList
  match value (2 * cs.length + 2) 0 cs with
  | (node, some rest) => (node, (skipSpace rest).isEmpty)
  | (node, none) => (node, false)

/-- The value a JSON text stands for. -/
def parse? (text : String) : Option Json :=
  match read text with
  | (node, true) => node.toJson?
  | (_, false) => none

end DeviceConfig.Json.Reader
