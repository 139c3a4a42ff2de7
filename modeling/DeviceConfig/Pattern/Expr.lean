import DeviceConfig.Pattern.CharSet

/-!
Patterns: what a regular expression asks for, with its flags worked in. Only whether a text matches is
asked of them, so greed has no place here; groups are kept because they count towards the size.
-/

namespace DeviceConfig.Pattern

/-- A condition on a place between two characters. -/
inductive Look where
  | textStart
  | textEnd
  | lineStart
  | lineEnd
  /-- Lines that may end in a carriage return, a line feed, or the two together. -/
  | anyLineStart
  | anyLineEnd
  | wordBoundary (ascii : Bool)
  | noWordBoundary (ascii : Bool)
  | wordStart (ascii : Bool)
  | wordEnd (ascii : Bool)
  /-- No word character before. -/
  | wordStartHalf (ascii : Bool)
  /-- No word character after. -/
  | wordEndHalf (ascii : Bool)
deriving DecidableEq, Repr

inductive Expr where
  | empty
  | look (condition : Look)
  /-- One character of a set. -/
  | chars (set : CharSet)
  /-- At least `least` times, and at most `most` times if there is a limit. -/
  | repeated (least : Nat) (most : Option Nat) (expr : Expr)
  | group (expr : Expr)
  | sequence (exprs : List Expr)
  | choice (exprs : List Expr)
deriving Repr, Inhabited

namespace Expr

private def charSets? : List Expr → Option (List CharSet)
  | [] => some []
  | .chars set :: rest => (charSets? rest).map (set :: ·)
  | _ :: _ => none

/-- A choice between single characters is a set. -/
def choose (exprs : List Expr) : Expr :=
  match charSets? exprs with
  | some sets => .chars (.ofRanges (sets.flatMap CharSet.ranges))
  | none => .choice exprs

mutual

/-- Can the expression match the empty text only? -/
def isEmptyOnly : Expr → Bool
  | .empty => true
  | .look _ => true
  | .chars _ => false
  | .repeated _ most expr => most == some 0 || isEmptyOnly expr
  | .group expr => isEmptyOnly expr
  | .sequence exprs => allEmptyOnly exprs
  | .choice exprs => allEmptyOnly exprs

def allEmptyOnly : List Expr → Bool
  | [] => true
  | expr :: rest => isEmptyOnly expr && allEmptyOnly rest

end

mutual

/-- Does every match take at least one character? -/
def isNeverEmpty : Expr → Bool
  | .empty => false
  | .look _ => false
  | .chars _ => true
  | .repeated least _ expr => 0 < least && isNeverEmpty expr
  | .group expr => isNeverEmpty expr
  | .sequence exprs => someNeverEmpty exprs
  | .choice exprs => allNeverEmpty exprs

def someNeverEmpty : List Expr → Bool
  | [] => false
  | expr :: rest => isNeverEmpty expr || someNeverEmpty rest

def allNeverEmpty : List Expr → Bool
  | [] => true
  | expr :: rest => isNeverEmpty expr && allNeverEmpty rest

end

/-- A repetition. What only matches the empty text need not be repeated. -/
def times (least : Nat) (most : Option Nat) (expr : Expr) : Expr :=
  let (least, most) :=
    if expr.isEmptyOnly then (min least 1, some (min (most.getD 1) 1)) else (least, most)
  if most = some 0 then .empty
  else if least = 1 ∧ most = some 1 then expr
  else .repeated least most expr

end Expr

end DeviceConfig.Pattern
