import DeviceConfig.Pattern.Expr
import DeviceConfig.Pattern.Unicode.Lookup
import DeviceConfig.Text.Blank

/-!
Reading regular expressions: alternatives, groups with flags, counted repetitions, bracketed classes
with set operations, Unicode properties and word boundaries. There are no back references and no
looking around. Outside of Unicode mode only what can match ASCII is accepted, since a text is made of
whole characters.
-/

namespace DeviceConfig.Pattern

open Text

structure Flags where
  ignoreCase : Bool := false
  multiLine : Bool := false
  dotAll : Bool := false
  unicode : Bool := true
  anyLineEnd : Bool := false
  /-- Blanks and comments in the pattern mean nothing. -/
  verbose : Bool := false

namespace Reader

/-- Groups, repetitions, sequences, choices and classes stand inside one another at most this deep. -/
def maxNesting : Nat := 250

/-- The pattern behind blanks and comments, where those mean nothing. -/
def skip (flags : Flags) (cs : List Char) : List Char :=
  if flags.verbose then go false cs else cs
where
  go : Bool → List Char → List Char
    | _, [] => []
    | true, c :: rest => go (c != '\n') rest
    | false, c :: rest =>
      if isBlank c then go false rest else if c = '#' then go true rest else c :: rest

/-! ### Single characters and escapes -/

/-- What an escape or a single character stands for. -/
inductive Atom where
  /-- A character; `byte` if it was written as a two-digit escape, which outside of Unicode mode means
  a byte. -/
  | literal (c : Char) (byte : Bool)
  | set (set : CharSet)
  | look (condition : Look)

private def isMeta (c : Char) : Bool := "\\.+*?()|[]\x7b\x7d^$#&-~".toList.contains c

/-- May a backslash stand in front of the character though it changes nothing? -/
private def isEscapable (c : Char) : Bool :=
  isMeta c || (c.toNat ≤ 0x7F && !c.isAlphanum && c ≠ '<' && c ≠ '>')

/-- A character by its number in hexadecimal. -/
private def charOfHex? (digits : List Char) : Option Char := do
  if digits.isEmpty then none
  let code ← digitsValue? 16 digits
  if code < 0xD800 ∨ (0xE000 ≤ code ∧ code ≤ 0x10FFFF) then some (Char.ofNat code) else none

/-- So many hexadecimal digits. -/
private def hexDigits? (flags : Flags) : Nat → List Char → Option (List Char × List Char)
  | 0, cs => some ([], cs)
  | n + 1, cs =>
    match skip flags cs with
    | [] => none
    | c :: rest => do
      let _ ← digit? 16 c
      let (digits, rest) ← hexDigits? flags n rest
      return (c :: digits, rest)

/-- Everything up to a closing brace, blanks left out where they mean nothing. The fuel is the length
of the pattern. -/
private def braced? (flags : Flags) : Nat → List Char → Option (List Char × List Char)
  | 0, _ => none
  | fuel + 1, cs =>
    match skip flags cs with
    | [] => none
    | c :: rest =>
      if c = '\x7d' then some ([], rest)
      else do
        let (inner, rest) ← braced? flags fuel rest
        return (c :: inner, rest)

/-- A character by number: in braces, or in so many digits. -/
private def hexEscape? (flags : Flags) (size : Nat) (cs : List Char) :
    Option (Char × List Char) := do
  match skip flags cs with
  | '\x7b' :: rest =>
    let (digits, rest) ← braced? flags rest.length.succ rest
    return (← charOfHex? digits, rest)
  | cs =>
    let (digits, rest) ← hexDigits? flags size cs
    return (← charOfHex? digits, rest)

private def asciiDigits : CharSet := ⟨[(0x30, 0x39)]⟩
private def asciiBlanks : CharSet := ⟨[(0x09, 0x0D), (0x20, 0x20)]⟩
private def asciiWords : CharSet := ⟨[(0x30, 0x39), (0x41, 0x5A), (0x5F, 0x5F), (0x61, 0x7A)]⟩

/-- A set under the flags. -/
def caseless (flags : Flags) (set : CharSet) : CharSet :=
  if !flags.ignoreCase then set
  else if flags.unicode then Unicode.foldSet set
  else
    let shifted (lo hi : Nat) (up : Bool) := (set.inter (.range lo hi)).ranges.map fun (a, b) =>
      if up then (a + 0x20, b + 0x20) else (a - 0x20, b - 0x20)
    .ofRanges (set.ranges ++ shifted 0x41 0x5A true ++ shifted 0x61 0x7A false)

def negate (flags : Flags) (negated : Bool) (set : CharSet) : CharSet :=
  if !negated then set
  else if flags.unicode then set.complement
  else set.complement.inter (.range 0 0xFF)

/-- Outside of Unicode mode a set must not reach beyond ASCII. -/
def allowed? (flags : Flags) (set : CharSet) : Option CharSet :=
  if flags.unicode || set.isAscii then some set else none

/-- The digits, blanks and word characters, and their opposites. -/
private def shorthand? (flags : Flags) (c : Char) : Option CharSet := do
  let (inUnicode, inAscii) ←
    if c.toLower = 'd' then some (Unicode.digitChars, asciiDigits)
    else if c.toLower = 's' then some (Unicode.blankChars, asciiBlanks)
    else if c.toLower = 'w' then some (Unicode.wordChars, asciiWords)
    else none
  allowed? flags (negate flags c.isUpper (if flags.unicode then inUnicode else inAscii))

/-- A Unicode property: one letter, or a name or a name and a value in braces. -/
private def property? (flags : Flags) (negated : Bool) (cs : List Char) :
    Option (CharSet × List Char) := do
  if !flags.unicode then none
  let (set, rest) ← match skip flags cs with
    | [] => none
    | '\x7b' :: rest => do
      let (inner, rest) ← braced? flags rest.length.succ rest
      let set ← match findUnequal [] inner with
        | some (name, value) => Unicode.valued? name value
        | none => match splitOnce? ':' inner with
          | some (name, value) => Unicode.valued? name value
          | none => match splitOnce? '=' inner with
            | some (name, value) => Unicode.valued? name value
            | none => Unicode.named? inner
      some (set, rest)
    | c :: rest => do
      if c = '\\' then none
      some (← Unicode.named? [c], rest)
  return (negate flags negated (caseless flags set), rest)
where
  /-- What stands before and after the first unequal sign. -/
  findUnequal (seen : List Char) : List Char → Option (List Char × List Char)
    | [] => none
    | '!' :: '=' :: rest => some (seen.reverse, rest)
    | c :: rest => findUnequal (c :: seen) rest

private def isBoundaryName (c : Char) : Bool := c.isAlpha || c = '-'

/-- The letters and hyphens of a boundary's name, blanks left out where they mean nothing. -/
private def boundaryName (flags : Flags) : Nat → List Char → List Char × List Char
  | 0, cs => ([], cs)
  | fuel + 1, cs =>
    match skip flags cs with
    | [] => ([], [])
    | c :: rest =>
      if isBoundaryName c then
        let (name, rest) := boundaryName flags fuel rest
        (c :: name, rest)
      else ([], c :: rest)

/-- A word boundary, with the special ones that are named in braces. Other braces are left to the
counted repetition. -/
private def boundary? (flags : Flags) (cs : List Char) : Option (Atom × List Char) :=
  let ascii := !flags.unicode
  match cs with
  | '\x7b' :: rest =>
    match skip flags rest with
    | [] => none
    | c :: _ =>
      if !isBoundaryName c then some (.look (.wordBoundary ascii), cs)
      else
        match boundaryName flags rest.length.succ rest with
        | (name, '\x7d' :: rest) =>
          match String.ofList name with
          | "start" => some (.look (.wordStart ascii), rest)
          | "end" => some (.look (.wordEnd ascii), rest)
          | "start-half" => some (.look (.wordStartHalf ascii), rest)
          | "end-half" => some (.look (.wordEndHalf ascii), rest)
          | _ => none
        | _ => none
  | _ => some (.look (.wordBoundary ascii), cs)

/-- What follows a backslash. -/
def escape? (flags : Flags) : List Char → Option (Atom × List Char)
  | [] => none
  | c :: rest =>
    let ascii := !flags.unicode
    let literal (c : Char) := some (Atom.literal c false, rest)
    match c with
    | 'x' =>
      match skip flags rest with
      | '\x7b' :: _ => (hexEscape? flags 2 rest).map fun (c, rest) => (.literal c false, rest)
      | _ => (hexEscape? flags 2 rest).map fun (c, rest) => (.literal c true, rest)
    | 'u' => (hexEscape? flags 4 rest).map fun (c, rest) => (.literal c false, rest)
    | 'U' => (hexEscape? flags 8 rest).map fun (c, rest) => (.literal c false, rest)
    | 'p' => (property? flags false rest).map fun (set, rest) => (.set set, rest)
    | 'P' => (property? flags true rest).map fun (set, rest) => (.set set, rest)
    | 'a' => literal '\x07'
    | 'f' => literal '\x0c'
    | 't' => literal '\t'
    | 'n' => literal '\n'
    | 'r' => literal '\r'
    | 'v' => literal '\x0b'
    | 'A' => some (.look .textStart, rest)
    | 'z' => some (.look .textEnd, rest)
    | 'b' => boundary? flags rest
    | 'B' => some (.look (.noWordBoundary ascii), rest)
    | '<' => some (.look (.wordStart ascii), rest)
    | '>' => some (.look (.wordEnd ascii), rest)
    | _ =>
      if ['d', 's', 'w', 'D', 'S', 'W'].contains c then
        (shorthand? flags c).map fun set => (.set set, rest)
      else if isEscapable c then literal c
      else none

/-- The set of a single literal, which outside of Unicode mode must not be a byte beyond ASCII. -/
def literalSet? (flags : Flags) (c : Char) (byte : Bool) : Option CharSet :=
  if !flags.unicode && byte && 0x7F < c.toNat then none else some (caseless flags (.single c))

/-! ### Bracketed classes -/

/-- The classes that are named between colons. -/
private def namedClasses : List (String × List (Nat × Nat)) := [
  ("alnum", [(0x30, 0x39), (0x41, 0x5A), (0x61, 0x7A)]),
  ("alpha", [(0x41, 0x5A), (0x61, 0x7A)]),
  ("ascii", [(0x00, 0x7F)]),
  ("blank", [(0x09, 0x09), (0x20, 0x20)]),
  ("cntrl", [(0x00, 0x1F), (0x7F, 0x7F)]),
  ("digit", [(0x30, 0x39)]),
  ("graph", [(0x21, 0x7E)]),
  ("lower", [(0x61, 0x7A)]),
  ("print", [(0x20, 0x7E)]),
  ("punct", [(0x21, 0x2F), (0x3A, 0x40), (0x5B, 0x60), (0x7B, 0x7E)]),
  ("space", [(0x09, 0x0D), (0x20, 0x20)]),
  ("upper", [(0x41, 0x5A)]),
  ("word", [(0x30, 0x39), (0x41, 0x5A), (0x5F, 0x5F), (0x61, 0x7A)]),
  ("xdigit", [(0x30, 0x39), (0x41, 0x46), (0x61, 0x66)])]

/-- A named class, from its opening bracket on. What looks like one and is none is read as a class
within the class. -/
private def namedClass? (flags : Flags) (cs : List Char) : Option (CharSet × List Char) := do
  let rest ← match cs with
    | '[' :: ':' :: rest => some rest
    | _ => none
  let (negated, rest) := match rest with
    | '^' :: rest => (true, rest)
    | rest => (false, rest)
  let name := rest.takeWhile (· != ':')
  let rest ← match rest.dropWhile (· != ':') with
    | ':' :: ']' :: rest => some rest
    | _ => none
  let ranges ← namedClasses.lookup (String.ofList name)
  return (negate flags negated (caseless flags ⟨ranges⟩), rest)

/-- The operations on classes. -/
inductive SetOp where
  | inter
  | diff
  | symmDiff

def SetOp.apply : SetOp → CharSet → CharSet → CharSet
  | .inter => CharSet.inter
  | .diff => CharSet.diff
  | .symmDiff => CharSet.symmDiff

/-- A class that has been read up to some point. -/
structure OpenClass where
  negated : Bool
  /-- The operand and operator that wait for their right side. -/
  pending : Option (SetOp × CharSet) := none
  items : CharSet := .empty
  count : Nat := 0
  depth : Nat := 0

namespace OpenClass

def add (cls : OpenClass) (set : CharSet) (depth : Nat) : OpenClass :=
  { cls with items := cls.items.union set, count := cls.count + 1, depth := max cls.depth depth }

/-- All that has been read so far, with the operator that waits for it. -/
def operand (flags : Flags) (cls : OpenClass) : CharSet :=
  match cls.pending with
  | none => cls.items
  | some (op, left) => op.apply (caseless flags left) (caseless flags cls.items)

def operator (flags : Flags) (cls : OpenClass) (op : SetOp) : OpenClass :=
  { cls with
    pending := some (op, cls.operand flags)
    items := .empty
    count := 0
    depth := cls.depth + 1 }

end OpenClass

/-- A character or a class inside brackets. -/
private def classAtom? (flags : Flags) : List Char → Option (Atom × List Char)
  | [] => none
  | '\\' :: rest => escape? flags rest
  | c :: rest => some (.literal c false, rest)

/-- A literal in a class; outside of Unicode mode it has to be ASCII. -/
private def classCode? (flags : Flags) : Atom → Option Nat
  | .literal c _ => if !flags.unicode && 0x7F < c.toNat then none else some c.toNat
  | _ => none

/-- A range, or a single item. A hyphen before the closing bracket or another hyphen makes no
range. -/
private def classRange? (flags : Flags) (cs : List Char) : Option (CharSet × List Char) := do
  let (first, rest) ← classAtom? flags cs
  let single : Option (CharSet × List Char) := match first with
    | .literal _ _ => (classCode? flags first).map fun code => (.range code code, skip flags rest)
    | .set set => some (set, skip flags rest)
    | .look _ => none
  match skip flags rest with
  | [] => none
  | '-' :: after =>
    match skip flags after with
    | ']' :: _ => single
    | '-' :: _ => single
    | [] => none
    | after => do
      let (last, rest) ← classAtom? flags after
      let lo ← classCode? flags first
      let hi ← classCode? flags last
      if lo ≤ hi then some (.range lo hi, rest) else none
  | _ => single

/-- The start of a class behind its bracket: a sign for its opposite, hyphens, and a closing bracket
that is an item because it comes first. -/
private def openClass? (flags : Flags) (cs : List Char) : Option (OpenClass × List Char) :=
  let cs := skip flags cs
  let (negated, cs) := match cs with
    | '^' :: rest => (true, skip flags rest)
    | cs => (false, cs)
  let (cls, rest) := hyphens { negated } cs.length cs
  match rest with
  | [] => none
  | ']' :: after =>
    if cls.count = 0 then
      match skip flags after with
      | [] => none
      | after => some (cls.add (.single ']') 0, after)
    else some (cls, rest)
  | _ => some (cls, rest)
where
  hyphens (cls : OpenClass) : Nat → List Char → OpenClass × List Char
    | fuel + 1, '-' :: rest => hyphens (cls.add (.single '-') 0) fuel (skip flags rest)
    | _, cs => (cls, cs)

/-- Reads classes to the closing bracket of the outermost one; `outer` holds the classes around the
innermost. The fuel is the length of the pattern, since every step takes a character. -/
private def classBody? (flags : Flags) :
    Nat → List OpenClass → OpenClass → List Char → Option (CharSet × Nat × List Char)
  | 0, _, _, _ => none
  | fuel + 1, outer, cls, cs =>
    match skip flags cs with
    | [] => none
    | '[' :: rest =>
      match namedClass? flags ('[' :: rest) with
      | some (set, rest) => do
        classBody? flags fuel outer (cls.add (← allowed? flags set) 0) rest
      | none => do
        let (inner, rest) ← openClass? flags rest
        classBody? flags fuel (cls :: outer) inner rest
    | ']' :: rest => do
      let set ← allowed? flags (negate flags cls.negated (caseless flags (cls.operand flags)))
      let depth := cls.depth + (if 2 ≤ cls.count then 2 else 1)
      match outer with
      | [] => some (set, depth, rest)
      | parent :: outer => classBody? flags fuel outer (parent.add set depth) rest
    | '&' :: '&' :: rest => classBody? flags fuel outer (cls.operator flags .inter) rest
    | '-' :: '-' :: rest => classBody? flags fuel outer (cls.operator flags .diff) rest
    | '~' :: '~' :: rest => classBody? flags fuel outer (cls.operator flags .symmDiff) rest
    | cs => do
      let (set, rest) ← classRange? flags cs
      classBody? flags fuel outer (cls.add set 0) rest

/-- A class, behind its opening bracket. -/
def class? (flags : Flags) (cs : List Char) : Option (CharSet × Nat × List Char) := do
  let (cls, rest) ← openClass? flags cs
  classBody? flags (cs.length + 1) [] cls rest

/-! ### Repetition -/

private def maxCount : Nat := UInt32.size - 1

/-- A decimal number with blanks around it. -/
private def count? (flags : Flags) (cs : List Char) : Option Nat × List Char :=
  let (digits, rest) := digits cs.length (cs.dropWhile isBlank)
  let rest := rest.dropWhile isBlank
  ((if digits.isEmpty then none else digitsValue? 10 digits).filter (· ≤ maxCount),
    skip flags rest)
where
  digits : Nat → List Char → List Char × List Char
    | fuel + 1, c :: rest =>
      if isDigit c then
        let (more, rest) := digits fuel (skip flags rest)
        (c :: more, rest)
      else ([], c :: rest)
    | _, cs => ([], cs)

/-- The bounds of a counted repetition, behind its opening brace. -/
private def bounds? (flags : Flags) (cs : List Char) :
    Option (Nat × Option Nat × List Char) := do
  let (least, rest) := count? flags (skip flags cs)
  let least ← least
  match rest with
  | '\x7d' :: rest => some (least, some least, rest)
  | ',' :: rest =>
    match skip flags rest with
    | '\x7d' :: rest => some (least, none, rest)
    | rest =>
      let (most, rest) := count? flags rest
      let most ← most
      match rest with
      | '\x7d' :: rest => if least ≤ most then some (least, some most, rest) else none
      | _ => none
  | _ => none

/-- A question mark behind a repetition turns its greed around, which changes no match. -/
private def skipGreed (cs : List Char) : List Char :=
  match cs with
  | '?' :: rest => rest
  | cs => cs

/-! ### Groups and alternatives -/

/-- A part of a sequence. -/
structure Item where
  expr : Expr
  depth : Nat
  /-- A setting of flags, which cannot be repeated. -/
  isFlags : Bool := false

private def deepest (items : List Item) : Nat := items.foldl (fun depth item => max depth item.depth) 0

/-- A sequence; the items come in reverse. -/
private def sequence (items : List Item) : Item :=
  match items with
  | [] => ⟨.empty, 0, false⟩
  | [item] => ⟨item.expr, item.depth, false⟩
  | items => ⟨.sequence (items.reverse.map (·.expr)), deepest items + 1, false⟩

/-- The alternatives of a group, the last one given apart. -/
private def alternatives (done : List Item) (items : List Item) : Item :=
  if done.isEmpty then sequence items
  else
    let branches := sequence items :: done
    ⟨.choose (branches.reverse.map (·.expr)), deepest branches + 1, false⟩

/-- A flag by its letter, switched on or off. -/
private def setFlag? (flags : Flags) (on : Bool) : Char → Option Flags
  | 'i' => some { flags with ignoreCase := on }
  | 'm' => some { flags with multiLine := on }
  | 's' => some { flags with dotAll := on }
  | 'u' => some { flags with unicode := on }
  | 'R' => some { flags with anyLineEnd := on }
  | 'x' => some { flags with verbose := on }
  | 'U' => some flags
  | _ => none

/-- Flags up to a colon or a closing parenthesis. No letter comes twice, there is at most one minus,
and it is not the last sign. Also gives what has been seen. -/
private def flags? (flags : Flags) (seen : List Char) :
    List Char → Option (Flags × List Char × List Char)
  | [] => none
  | c :: rest =>
    if c = ':' ∨ c = ')' then
      if seen.head? = some '-' then none else some (flags, seen, c :: rest)
    else if seen.contains c then none
    else if c = '-' then flags? flags (c :: seen) rest
    else do flags? (← setFlag? flags (!seen.contains '-') c) (c :: seen) rest

private def isLetter (c : Char) : Bool := ((Unicode.property? "alphabetic").getD .empty).mem c.toNat

private def isNumber (c : Char) : Bool := (Unicode.ofCategories ["nd", "nl", "no"]).mem c.toNat

/-- The name of a group, up to its closing angle bracket. -/
private def groupName? (names : List (List Char)) (cs : List Char) :
    Option (List Char × List Char) := do
  let name := cs.takeWhile (· != '>')
  let rest ← match cs.dropWhile (· != '>') with
    | '>' :: rest => some rest
    | _ => none
  let first ← name.head?
  let ok := (first = '_' || isLetter first)
    && name.tail.all fun c => ['_', '.', '[', ']'].contains c || isLetter c || isNumber c
  if ok && !names.contains name then some (name, rest) else none

/-- What an opening parenthesis opens. -/
private inductive Opening where
  | flags (flags : Flags)
  | capture (name : Option (List Char))
  | plain (flags : Flags)

private def opening? (flags : Flags) (names : List (List Char)) (cs : List Char) :
    Option (Opening × List Char) :=
  match skip flags cs with
  | '?' :: '=' :: _ => none
  | '?' :: '!' :: _ => none
  | '?' :: '<' :: '=' :: _ => none
  | '?' :: '<' :: '!' :: _ => none
  | '?' :: 'P' :: '<' :: rest =>
    (groupName? names rest).map fun (name, rest) => (.capture (some name), rest)
  | '?' :: '<' :: rest =>
    (groupName? names rest).map fun (name, rest) => (.capture (some name), rest)
  | '?' :: rest => do
    let (inner, seen, rest) ← flags? flags [] rest
    match rest with
    | ')' :: rest => if seen.isEmpty then none else some (.flags inner, rest)
    | _ :: rest => some (.plain inner, rest)
    | [] => none
  | rest => some (.capture none, rest)

/-- A repetition of the last item. -/
private def repeatLast? (least : Nat) (most : Option Nat) : List Item → Option (List Item)
  | [] => none
  | item :: rest =>
    if item.isFlags then none
    else some (⟨.times least most item.expr, item.depth + 1, false⟩ :: rest)

private def atomItem? (flags : Flags) : Atom → Option Item
  | .literal c byte => (literalSet? flags c byte).map fun set => ⟨.chars set, 0, false⟩
  | .set set => some ⟨.chars set, 0, false⟩
  | .look condition => some ⟨.look condition, 0, false⟩

private def dot? (flags : Flags) : Option Item :=
  if !flags.unicode then none
  else
    let excluded : CharSet :=
      if flags.dotAll then .empty
      else if flags.anyLineEnd then .ofRanges [(0x0A, 0x0A), (0x0D, 0x0D)]
      else .single '\n'
    some ⟨.chars excluded.complement, 0, false⟩

private def lineStart (flags : Flags) : Look :=
  if !flags.multiLine then .textStart else if flags.anyLineEnd then .anyLineStart else .lineStart

private def lineEnd (flags : Flags) : Look :=
  if !flags.multiLine then .textEnd else if flags.anyLineEnd then .anyLineEnd else .lineEnd

/-- A group that has been opened: what stood before it, with the flags to go back to. -/
private structure Outer where
  flags : Flags
  done : List Item
  items : List Item
  captures : Bool

/-- Reads alternatives to the end of the pattern. `done` and `items` are the finished alternatives and
the current one, in reverse, and `outer` holds the groups around them. The fuel is the length of the
pattern, since every step takes a character. -/
private def body? : Nat → List Outer → List (List Char) → Flags → List Item → List Item →
    List Char → Option Item
  | 0, _, _, _, _, _, _ => none
  | fuel + 1, outer, names, flags, done, items, cs =>
    match skip flags cs with
    | [] => if outer.isEmpty then some (alternatives done items) else none
    | '(' :: rest => do
      match ← opening? flags names rest with
      | (.flags inner, rest) =>
        body? fuel outer names inner done (⟨.empty, 0, true⟩ :: items) rest
      | (.capture name, rest) =>
        body? fuel (⟨flags, done, items, true⟩ :: outer) (name.toList ++ names) flags [] [] rest
      | (.plain inner, rest) =>
        body? fuel (⟨flags, done, items, false⟩ :: outer) names inner [] [] rest
    | ')' :: rest =>
      match outer with
      | [] => none
      | before :: outer =>
        let inner := alternatives done items
        let expr := if before.captures then .group inner.expr else inner.expr
        body? fuel outer names before.flags before.done
          (⟨expr, inner.depth + 1, false⟩ :: before.items) rest
    | '|' :: rest => body? fuel outer names flags (sequence items :: done) [] rest
    | '[' :: rest => do
      let (set, depth, rest) ← class? flags rest
      body? fuel outer names flags done (⟨.chars set, depth, false⟩ :: items) rest
    | '?' :: rest => do
      body? fuel outer names flags done (← repeatLast? 0 (some 1) items) (skipGreed rest)
    | '*' :: rest => do
      body? fuel outer names flags done (← repeatLast? 0 none items) (skipGreed rest)
    | '+' :: rest => do
      body? fuel outer names flags done (← repeatLast? 1 none items) (skipGreed rest)
    | '\x7b' :: rest => do
      let (least, most, rest) ← bounds? flags rest
      body? fuel outer names flags done (← repeatLast? least most items)
        (skipGreed (skip flags rest))
    | '\\' :: rest => do
      let (atom, rest) ← escape? flags rest
      body? fuel outer names flags done ((← atomItem? flags atom) :: items) rest
    | '.' :: rest => do body? fuel outer names flags done ((← dot? flags) :: items) rest
    | '^' :: rest =>
      body? fuel outer names flags done (⟨.look (lineStart flags), 0, false⟩ :: items) rest
    | '$' :: rest =>
      body? fuel outer names flags done (⟨.look (lineEnd flags), 0, false⟩ :: items) rest
    | c :: rest => do
      body? fuel outer names flags done ((← atomItem? flags (.literal c false)) :: items) rest

end Reader

/-- The pattern that a regular expression stands for. -/
def Expr.ofText? (text : String) : Option Expr := do
  let cs := text.toList
  let item ← Reader.body? (cs.length + 1) [] [] {} [] [] cs
  if item.depth ≤ Reader.maxNesting then some item.expr else none

end DeviceConfig.Pattern
