/-!
Cutting texts at a separator, joining them again, and looking for one text inside another.
-/

namespace DeviceConfig.Text

/-- The pieces between the separators: one more than there are separators. -/
def splitOn (sep : Char) : List Char → List (List Char)
  | [] => [[]]
  | c :: rest =>
    if c = sep then [] :: splitOn sep rest
    else match splitOn sep rest with
      | [] => [[c]]
      | piece :: pieces => (c :: piece) :: pieces

/-- What stands before and after the first separator. -/
def splitOnce? (sep : Char) (cs : List Char) : Option (List Char × List Char) :=
  match cs.span (· != sep) with
  | (_, []) => none
  | (before, _ :: after) => some (before, after)

/-- One text inside another, at any place; the empty text is inside every text. -/
def hasInfix (needle : List Char) : List Char → Bool
  | [] => needle.isEmpty
  | c :: rest => needle.isPrefixOf (c :: rest) || hasInfix needle rest

def contains (text needle : String) : Bool := hasInfix needle.toList text.toList

def join (sep : String) : List String → String
  | [] => ""
  | [line] => line
  | line :: lines => line ++ sep ++ join sep lines

/-- Lines one under the other, with no line break after the last. -/
def unlines (lines : List String) : String := join "\n" lines

end DeviceConfig.Text
