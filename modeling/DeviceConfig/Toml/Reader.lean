import DeviceConfig.Toml.Scalar
import DeviceConfig.Toml.Table

/-!
TOML text to documents. A text is a table: first its own keys, then sections, each under the header of
a table or of an element of a list of tables. A text that is not well formed gives nothing.
-/

namespace DeviceConfig.Toml

open Document

/-- Lists and inline tables stand inside one another, and the parts of a dotted key in a row, less
often than this. -/
def nestingLimit : Nat := 80

/-! ### Keys and line ends -/

private def isBareChar (c : Char) : Bool := c.isAlphanum || c = '_' || c = '-'

/-- One part of a key: a bare word, or a quoted text on one line. -/
private def keyPart? (cs : List Char) : Option (String × List Char) :=
  match cs with
  | [] => none
  | c :: _ =>
    if isBareChar c then
      some (String.ofList (cs.takeWhile isBareChar), cs.dropWhile isBareChar)
    else quotedLine? cs

/-- The parts of a dotted key, blanks around them left out. -/
private def keyParts? : Nat → List Char → Option (List String × List Char)
  | 0, _ => none
  | fuel + 1, cs => do
    let (part, rest) ← keyPart? (skipSpace cs)
    match skipSpace rest with
    | '.' :: rest =>
      let (more, rest) ← keyParts? fuel rest
      return (part :: more, rest)
    | rest => return ([part], rest)

/-- A dotted key as the path before its last part, and that part. -/
private def key? (cs : List Char) : Option ((List String × String) × List Char) := do
  let (parts, rest) ← keyParts? (nestingLimit - 1) cs
  return ((parts.dropLast, ← parts.getLast?), rest)

/-- A comment off the front, if there is one. -/
private def skipComment? (cs : List Char) : Option (List Char) :=
  match cs with
  | '#' :: rest =>
    let after := rest.dropWhile isPlain
    if after.isEmpty then some []
    else (newline? after).map fun _ => after
  | _ => some cs

/-- The rest of a line: blanks, a comment, and a line break or the end of the text. -/
private def lineEnd? (cs : List Char) : Option (List Char) := do
  let rest ← skipComment? (skipSpace cs)
  if rest.isEmpty then some [] else newline? rest

/-- Blanks, line breaks and comments between the items of a list. -/
private def skipGaps? : Nat → List Char → Option (List Char)
  | 0, _ => none
  | fuel + 1, cs => do
    let rest ← skipComment? (skipSpace cs)
    match newline? rest with
    | some rest => skipGaps? fuel rest
    | none => some rest

/-! ### Values -/

mutual

/-- A value, with the number of lists and inline tables around it. Every call takes a character or
hands on to a call that does, so the fuel of twice the length lasts. -/
private def value? : Nat → Nat → List Char → Option (Node × List Char)
  | 0, _, _ => none
  | fuel + 1, depth, cs =>
    match cs with
    | '[' :: rest =>
      if nestingLimit ≤ depth + 1 then none
      else do
        let (items, rest) ← items? fuel (depth + 1) (← skipGaps? (rest.length + 1) rest)
        return (.list items, rest)
    | '\x7b' :: rest =>
      if nestingLimit ≤ depth + 1 then none
      else do
        match skipSpace rest with
        | '\x7d' :: rest => return (.emptyTable, rest)
        | rest =>
          let (entries, rest) ← pairs? fuel (depth + 1) [] rest
          return ((Item.table false false entries).toNode, rest)
    | c :: _ =>
      if c = '"' ∨ c = '\'' then (quoted? cs).map fun (text, rest) => (.string text, rest)
      else word? cs
    | [] => none

/-- The items from here to the closing bracket. A comma may stand behind the last one. -/
private def items? : Nat → Nat → List Char → Option (List Node × List Char)
  | 0, _, _ => none
  | fuel + 1, depth, cs =>
    match cs with
    | ']' :: rest => some ([], rest)
    | cs => do
      let (item, rest) ← value? fuel depth cs
      match ← skipGaps? (rest.length + 1) rest with
      | ',' :: rest =>
        let (more, rest) ← items? fuel depth (← skipGaps? (rest.length + 1) rest)
        return (item :: more, rest)
      | ']' :: rest => return ([item], rest)
      | _ => none

/-- The pairs of an inline table from here to the closing brace; there is at least one. -/
private def pairs? : Nat → Nat → Entries → List Char → Option (Entries × List Char)
  | 0, _, _, _ => none
  | fuel + 1, depth, entries, cs => do
    let ((path, key), rest) ← key? cs
    match rest with
    | '=' :: rest =>
      let (node, rest) ← value? fuel depth (skipSpace rest)
      let entries ← entries.insert? path key node
      match skipSpace rest with
      | ',' :: rest => pairs? fuel depth entries rest
      | '\x7d' :: rest => return (entries, rest)
      | _ => none
    | _ => none

end

/-! ### Lines -/

/-- What a line says. -/
private inductive Line where
  | pair (path : List String) (key : String) (node : Node)
  | table (path : List String) (key : String)
  | element (path : List String) (key : String)

private def line? (cs : List Char) : Option (Line × List Char) := do
  match cs with
  | '[' :: '[' :: rest =>
    let ((path, key), rest) ← key? rest
    match rest with
    | ']' :: ']' :: rest => return (.element path key, ← lineEnd? rest)
    | _ => none
  | '[' :: rest =>
    let ((path, key), rest) ← key? rest
    match rest with
    | ']' :: rest => return (.table path key, ← lineEnd? rest)
    | _ => none
  | cs =>
    let ((path, key), rest) ← key? cs
    match rest with
    | '=' :: rest =>
      let (node, rest) ← value? (2 * rest.length + 2) 0 (skipSpace rest)
      return (.pair path key node, ← lineEnd? rest)
    | _ => none

/-- All lines that say something. -/
private def lines? : Nat → List Char → Option (List Line)
  | 0, _ => none
  | fuel + 1, cs =>
    let cs := skipSpace cs
    if cs.isEmpty then some []
    else match lineEnd? cs with
      | some rest => lines? fuel rest
      | none => do
        let (line, rest) ← line? cs
        return line :: (← lines? fuel rest)

/-- The pairs up to the next header, and the rest. -/
private def takePairs : List Line → List (List String × String × Node) × List Line
  | .pair path key node :: rest =>
    let (pairs, rest) := takePairs rest
    ((path, key, node) :: pairs, rest)
  | rest => ([], rest)

private def fill? (pairs : List (List String × String × Node)) (entries : Entries) :
    Option Entries :=
  pairs.foldlM (fun entries (path, key, node) => entries.insert? path key node) entries

/-- Adds section after section. The fuel is the number of lines. -/
private def sections? : Nat → List Line → Entries → Option Entries
  | _, [], entries => some entries
  | 0, _, _ => none
  | fuel + 1, line :: rest, entries => do
    let (pairs, rest) := takePairs rest
    let entries ← match line with
      | .table path key => entries.addTable? path key (fill? pairs)
      | .element path key => entries.addElement? path key (fill? pairs)
      | .pair path key node => fill? ((path, key, node) :: pairs) entries
    sections? fuel rest entries

/-- The document of a text that is given by its characters; a mark of the byte order may stand in
front. -/
def readChars? (cs : List Char) : Option Node := do
  let cs := match cs with
    | '\uFEFF' :: rest => rest
    | cs => cs
  let lines ← lines? (cs.length + 1) cs
  let entries ← sections? (lines.length + 1) lines []
  return .table (membersOf entries)

def read? (text : String) : Option Node := readChars? text.toList

end DeviceConfig.Toml
