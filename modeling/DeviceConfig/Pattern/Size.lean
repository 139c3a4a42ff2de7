import DeviceConfig.Pattern.Reader
import DeviceConfig.Pattern.Utf8

/-!
The size limit on patterns. A pattern is refused when the automaton for it, or the one that reads
backwards, would take more than ten mebibytes; a short pattern with large counts can do that.
-/

namespace DeviceConfig.Pattern

/-- What an automaton takes: its states, and the bytes of their lists of transitions. -/
structure Cost where
  states : Nat
  bytes : Nat

namespace Cost

instance : Add Cost := ⟨fun a b => ⟨a.states + b.states, a.bytes + b.bytes⟩⟩

def times (n : Nat) (cost : Cost) : Cost := ⟨n * cost.states, n * cost.bytes⟩

def zero : Cost := ⟨0, 0⟩

/-- A state without a list. -/
def state : Cost := ⟨1, 0⟩

/-- A state that branches so many ways. -/
def branch (ways : Nat) : Cost := ⟨1, 4 * ways⟩

/-- A state with so many transitions on bytes. -/
def sparse (transitions : Nat) : Cost := ⟨1, 8 * transitions⟩

/-- A state takes 32 bytes and its lists. -/
def total (cost : Cost) : Nat := 32 * cost.states + cost.bytes

end Cost

/-- A set of characters: the bytes of a single one, the ranges of an ASCII set side by side, and else
an automaton of its own. -/
def CharSet.cost (backwards : Bool) (set : CharSet) : Cost :=
  match set.ranges with
  | [(lo, hi)] =>
    if lo = hi then ⟨(Utf8.encode lo).length, 0⟩ else wide
  | _ => wide
where
  wide : Cost :=
    if set.isAscii then .state + .sparse set.ranges.length
    else if backwards then
      let (states, branches) := Utf8.backwardSize set
      .state + .branch branches + ⟨states, 0⟩
    else
      let (states, transitions) := Utf8.forwardSize set
      .state + ⟨states, 8 * transitions⟩

namespace Expr

mutual

/-- Groups are recorded forwards only. -/
def cost (backwards : Bool) : Expr → Cost
  | .empty => .state
  | .look _ => .state
  | .chars set => set.cost backwards
  | .repeated least most expr =>
    let one := expr.cost backwards
    match least, most with
    | 0, some 1 => .branch 2 + one + .state
    | 0, none =>
      if expr.isNeverEmpty then .branch 2 + one else .branch 2 + .branch 2 + .state + one
    | least, none => .times least one + .branch 2
    | least, some most =>
      let required := if least = 0 then .state else .times least one
      if least = most then required
      else required + .state + .times (most - least) (.branch 2 + one)
  | .group expr => (if backwards then .zero else .times 2 .state) + expr.cost backwards
  | .sequence exprs => sumCost backwards exprs
  | .choice exprs => .branch exprs.length + .state + sumCost backwards exprs

def sumCost (backwards : Bool) : List Expr → Cost
  | [] => .zero
  | expr :: rest => expr.cost backwards + sumCost backwards rest

end

def sizeLimit : Nat := 10 * (1 <<< 20)

/-- Do both automata stay within the limit? Each has a few states of its own around the pattern. -/
def fits (expr : Expr) : Bool :=
  let around : Cost := .times 6 .state + .branch 2 + .sparse 1
  (expr.cost false + around).total ≤ sizeLimit && (expr.cost true + around).total ≤ sizeLimit

/-- The pattern that a regular expression stands for, unless it is malformed or too large. -/
def compile? (text : String) : Option Expr := (ofText? text).filter fits

end Expr

end DeviceConfig.Pattern
