/-!
Sets of characters as lists of ranges of code points, in order and apart from one another.
-/

namespace DeviceConfig.Pattern

/-- Ranges, both ends included, each ending below the start of the next. -/
structure CharSet where
  ranges : List (Nat × Nat)
deriving Repr, Inhabited, DecidableEq

namespace CharSet

def maxCode : Nat := 0x10FFFF

def empty : CharSet := ⟨[]⟩

def any : CharSet := ⟨[(0, maxCode)]⟩

def range (first last : Nat) : CharSet := ⟨[(first, last)]⟩

def single (c : Char) : CharSet := range c.toNat c.toNat

def mem (set : CharSet) (code : Nat) : Bool :=
  set.ranges.any fun r => r.1 ≤ code && code ≤ r.2

/-- Joins ranges that touch or overlap, given in the order of their starts. -/
def joinRanges : List (Nat × Nat) → List (Nat × Nat)
  | [] => []
  | (lo, hi) :: rest =>
    match joinRanges rest with
    | [] => [(lo, hi)]
    | (lo', hi') :: more =>
      if lo' ≤ hi + 1 then (lo, max hi hi') :: more else (lo, hi) :: (lo', hi') :: more

def ofRanges (ranges : List (Nat × Nat)) : CharSet :=
  ⟨joinRanges (ranges.mergeSort fun a b => a.1 ≤ b.1)⟩

def union (a b : CharSet) : CharSet := ofRanges (a.ranges ++ b.ranges)

/-- The gaps from a code point on. -/
def gaps (start : Nat) : List (Nat × Nat) → List (Nat × Nat)
  | [] => if start ≤ maxCode then [(start, maxCode)] else []
  | (lo, hi) :: rest =>
    if start < lo then (start, lo - 1) :: gaps (hi + 1) rest else gaps (hi + 1) rest

def complement (set : CharSet) : CharSet := ⟨gaps 0 set.ranges⟩

def inter (a b : CharSet) : CharSet := (a.complement.union b.complement).complement

def diff (a b : CharSet) : CharSet := a.inter b.complement

def symmDiff (a b : CharSet) : CharSet := (a.union b).diff (a.inter b)

/-- Does the set hold ASCII characters only? -/
def isAscii (set : CharSet) : Bool := set.ranges.all (·.2 ≤ 0x7F)

end CharSet

end DeviceConfig.Pattern
