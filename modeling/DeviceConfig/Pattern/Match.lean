import DeviceConfig.Pattern.Expr
import DeviceConfig.Pattern.Unicode.Lookup

/-!
Matching: the set of places where a match can end, computed from the set of places where it may start.

Sets of places are numbers: bit `i` is the place before the `i`-th character. A pattern is first laid
over the text, so that each condition and each set of characters becomes the set of places where it
holds; from there on a step is a mask and a shift, and no place is tried twice.
-/

namespace DeviceConfig.Pattern

/-- A pattern laid over a text. -/
inductive Laid where
  | empty
  /-- Only at these places. -/
  | look (places : Nat)
  /-- One character on, from these places. -/
  | step (places : Nat)
  | repeated (least : Nat) (most : Option Nat) (laid : Laid)
  | sequence (items : List Laid)
  | choice (items : List Laid)

/-- The places at which a test holds, of the places given with the characters around them. -/
private def placesWhere (test : Option Char → Option Char → Bool) :
    Option Char → List Char → Nat → Nat
  | before, [], bit => if test before none then bit else 0
  | before, c :: rest, bit =>
    (if test before (some c) then bit else 0) ||| placesWhere test (some c) rest (bit <<< 1)

private def asciiWord (c : Char) : Bool := c.isAlphanum || c = '_'

namespace Look

/-- Does the condition hold between two characters? A missing one is the end of the text. -/
def holds (isWord : Char → Bool) (condition : Look) (before after : Option Char) : Bool :=
  let word (ascii : Bool) (c : Option Char) : Bool :=
    c.any fun c => if ascii then asciiWord c else isWord c
  match condition with
  | .textStart => before.isNone
  | .textEnd => after.isNone
  | .lineStart => before.all (· = '\n')
  | .lineEnd => after.all (· = '\n')
  | .anyLineStart => before.all fun c => c = '\n' || (c = '\r' && after != some '\n')
  | .anyLineEnd => after.all fun c => c = '\r' || (c = '\n' && before != some '\r')
  | .wordBoundary ascii => word ascii before != word ascii after
  | .noWordBoundary ascii => word ascii before == word ascii after
  | .wordStart ascii => !word ascii before && word ascii after
  | .wordEnd ascii => word ascii before && !word ascii after
  | .wordStartHalf ascii => !word ascii before
  | .wordEndHalf ascii => !word ascii after

end Look

namespace Expr

mutual

def lay (isWord : Char → Bool) (text : List Char) : Expr → Laid
  | .empty => .empty
  | .look condition => .look (placesWhere (condition.holds isWord) none text 1)
  | .chars set =>
    .step (placesWhere (fun _ after => after.any fun c => set.mem c.toNat) none text 1)
  | .repeated least most expr => .repeated least most (expr.lay isWord text)
  | .group expr => expr.lay isWord text
  | .sequence exprs => .sequence (layAll isWord text exprs)
  | .choice exprs => .choice (layAll isWord text exprs)

def layAll (isWord : Char → Bool) (text : List Char) : List Expr → List Laid
  | [] => []
  | expr :: rest => expr.lay isWord text :: layAll isWord text rest

end

end Expr

/-- Repeats a step a number of times; with no places left there is nothing more to do. -/
def iterate (step : Nat → Nat) : Nat → Nat → Nat
  | 0, places => places
  | n + 1, places => if places = 0 then 0 else iterate step n (step places)

/-- The places reached by at most so many steps; it stops as soon as no new one is reached. -/
def reach (step : Nat → Nat) : Nat → Nat → Nat
  | 0, places => places
  | n + 1, places =>
    let more := places ||| step places
    if more = places then places else reach step n more

namespace Laid

mutual

/-- Where a match can end that starts at one of the given places, in a text of so many characters. A
repetition without a limit reaches every place it can within as many steps as there are places. -/
def ends (length : Nat) : Laid → Nat → Nat
  | .empty, places => places
  | .look allowed, places => places &&& allowed
  | .step allowed, places => (places &&& allowed) <<< 1
  | .repeated least most laid, places =>
    let further := match most with
      | some most => most - least
      | none => length + 1
    reach (ends length laid) further (iterate (ends length laid) least places)
  | .sequence items, places => endsOfSequence length items places
  | .choice items, places => endsOfChoice length items places

def endsOfSequence (length : Nat) : List Laid → Nat → Nat
  | [], places => places
  | item :: rest, places => endsOfSequence length rest (ends length item places)

def endsOfChoice (length : Nat) : List Laid → Nat → Nat
  | [], _ => 0
  | item :: rest, places => ends length item places ||| endsOfChoice length rest places

end

end Laid

/-- Does the pattern match anywhere in the text? -/
def Expr.matches (expr : Expr) (text : String) : Bool :=
  let cs := text.toList
  let word := Unicode.wordChars
  let laid := expr.lay (fun c => word.mem c.toNat) cs
  laid.ends cs.length ((1 <<< (cs.length + 1)) - 1) != 0

end DeviceConfig.Pattern
