import DeviceConfig.Text.Blank
import DeviceConfig.Text.Digits
import DeviceConfig.Text.Split

/-!
Paths into a document: fields separated by dots, each followed by any number of bracketed indexes.
A dollar sign, alone or with a dot, may stand in front for the document itself.
-/

namespace DeviceConfig

/-- One step down: to a field, to an item, or to all items at once. -/
inductive Path.Step where
  | field (name : String)
  | index (position : Nat)
  | all
deriving DecidableEq, Repr

/-- A path and the text it was read from, without the blanks around it. -/
structure Path where
  raw : String
  steps : List Path.Step
deriving DecidableEq, Repr

inductive PathError where
  | empty
  | emptySegment (path : String)
  | unclosedBracket (path : String)
  | badIndex (path : String) (index : String)
deriving DecidableEq, Repr

def PathError.message : PathError → String
  | .empty => "path is empty"
  | .emptySegment path => s!"path '{path}' has an empty segment"
  | .unclosedBracket path => s!"path '{path}' has an unclosed '['"
  | .badIndex path index =>
    s!"path '{path}' has invalid index '{index}' (expected a number or '*')"

namespace Path

open Text

/-- Positions are 64-bit numbers. -/
def maxIndex : Nat := UInt64.size - 1

/-- What stands between two brackets, blanks aside. -/
def readIndex (path : String) (inner : List Char) : Except PathError Step :=
  let index := trimChars inner
  if index = ['*'] then .ok .all
  else match readNat? maxIndex index with
    | some position => .ok (.index position)
    | none => .error (.badIndex path (String.ofList index))

mutual

/-- Bracket groups, one right behind the other. -/
def readGroups (path : String) : List Char → Except PathError (List Step)
  | [] => .ok []
  | c :: rest => if c = '[' then readGroup path [] rest else .error (.emptySegment path)

/-- The rest of an open group; what has been seen of it is kept in reverse. -/
def readGroup (path : String) (seen : List Char) : List Char → Except PathError (List Step)
  | [] => .error (.unclosedBracket path)
  | c :: rest =>
    if c = ']' then do
      let step ← readIndex path seen.reverse
      return step :: (← readGroups path rest)
    else readGroup path (c :: seen) rest

end

/-- What stands between two dots: a name, bracket groups, or both. -/
def readPart (path : String) (part : List Char) : Except PathError (List Step) := do
  let name := trimChars (part.takeWhile (· != '['))
  let groups := part.dropWhile (· != '[')
  if name.isEmpty && groups.isEmpty then throw (.emptySegment path)
  let steps ← readGroups path groups
  return if name.isEmpty then steps else .field (String.ofList name) :: steps

/-- The path without the sign for the document itself. -/
def body : List Char → List Char
  | '$' :: '.' :: rest => rest
  | '$' :: rest => rest
  | cs => cs

def parse (text : String) : Except PathError Path := do
  let cs := trimChars text.toList
  if cs.isEmpty then throw .empty
  let raw := String.ofList cs
  let rest := body cs
  if rest.isEmpty then return ⟨raw, []⟩
  let steps ← (splitOn '.' rest).mapM (readPart raw)
  return ⟨raw, steps.flatten⟩

end Path

end DeviceConfig
