import DeviceConfig.Pattern.CharSet

/-!
Character sets as byte sequences: the UTF-8 encodings of a range of code points, as sequences of byte
ranges, and the number of automaton states that it takes to recognise them in either direction.
-/

namespace DeviceConfig.Pattern.Utf8

/-- The encoding of a code point, the first byte first. -/
def encode (code : Nat) : List Nat :=
  if code < 0x80 then [code]
  else if code < 0x800 then [0xC0 + code / 0x40, 0x80 + code % 0x40]
  else if code < 0x10000 then
    [0xE0 + code / 0x1000, 0x80 + code / 0x40 % 0x40, 0x80 + code % 0x40]
  else [0xF0 + code / 0x40000, 0x80 + code / 0x1000 % 0x40, 0x80 + code / 0x40 % 0x40,
    0x80 + code % 0x40]

/-- A range of one byte. -/
abbrev ByteRange := Nat × Nat

/-- Where a range has to be cut: around the surrogates, between encodings of different length, and
where a lower part of the encoding would not run through all its values. -/
private def cut? (lo hi : Nat) : Option Nat :=
  if lo < 0xE000 ∧ 0xD7FF < hi then
    if lo < 0xD800 then some 0xD800 else if 0xDFFF < hi then some 0xE000 else none
  else match [0x80, 0x800, 0x10000].find? fun limit => lo < limit ∧ limit ≤ hi with
    | some limit => some limit
    | none =>
      if hi < 0x80 then none
      else [0x40, 0x1000, 0x40000].findSome? fun block =>
        if lo / block = hi / block then none
        else if lo % block ≠ 0 then some ((lo / block + 1) * block)
        else if hi % block ≠ block - 1 then some (hi / block * block)
        else none

/-- The byte sequences of a range of code points, in order. A range is cut at most a dozen times on
the way to any of them. -/
def sequences : Nat → Nat → Nat → List (List ByteRange)
  | 0, _, _ => []
  | fuel + 1, lo, hi =>
    match cut? lo hi with
    | some middle => sequences fuel lo (middle - 1) ++ sequences fuel middle hi
    | none => if 0xD800 ≤ lo ∧ hi ≤ 0xDFFF then [] else [(encode lo).zip (encode hi)]

def sequencesOf (set : CharSet) : List (List ByteRange) :=
  set.ranges.flatMap fun (lo, hi) => sequences 24 lo hi

/-- Groups neighbouring sequences by their first range. -/
private def byFirst : List (List ByteRange) → List (ByteRange × List (List ByteRange))
  | [] => []
  | [] :: rest => byFirst rest
  | (first :: tail) :: rest =>
    match byFirst rest with
    | (other, tails) :: groups =>
      if other = first then (first, tail :: tails) :: groups
      else (first, [tail]) :: (other, tails) :: groups
    | [] => [(first, [tail])]

/-- A state of the automaton that reads sequences forwards: its transitions. -/
inductive State where
  | mk (next : List (ByteRange × State))
deriving BEq, Repr

/-- The state that reads these sequences; none are longer than the fuel. -/
def State.ofSequences : Nat → List (List ByteRange) → State
  | 0, _ => ⟨[]⟩
  | fuel + 1, seqs => ⟨(byFirst seqs).map fun (first, tails) => (first, ofSequences fuel tails)⟩

private def State.next : State → List (ByteRange × State)
  | .mk next => next

/-- All different states below the given ones, level by level. -/
private def levels : Nat → List State → List State
  | 0, _ => []
  | fuel + 1, states =>
    let states := states.eraseDups.filter (!·.next.isEmpty)
    if states.isEmpty then []
    else states ++ levels fuel (states.flatMap fun state => state.next.map (·.2))

/-- The states and transitions that it takes to read a set forwards, with like states shared. States
of different levels differ in the length of what they read. -/
def forwardSize (set : CharSet) : Nat × Nat :=
  let states := levels 5 [State.ofSequences 5 (sequencesOf set)]
  (states.length, states.foldl (fun n state => n + state.next.length) 0)

/-- How often the entry changes along a list, the first one included. -/
private def runs : List (List ByteRange) → Nat
  | [] => 0
  | [_] => 1
  | a :: b :: rest => (if a = b then 0 else 1) + runs (b :: rest)

/-- The byte states and the branches that it takes to read a set backwards, with like beginnings
shared. In order, like beginnings stand side by side. -/
def backwardSize (set : CharSet) : Nat × Nat :=
  let seqs := sequencesOf set
  let beginnings (n : Nat) := (seqs.filter (n ≤ ·.length)).map (·.take n)
  (([1, 2, 3, 4].map fun n => runs (beginnings n)).foldl (· + ·) 0, seqs.length)

end DeviceConfig.Pattern.Utf8
