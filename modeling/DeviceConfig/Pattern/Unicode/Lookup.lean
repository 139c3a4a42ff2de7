import DeviceConfig.Pattern.CharSet
import DeviceConfig.Pattern.Unicode.CaseFold
import DeviceConfig.Pattern.Unicode.Category
import DeviceConfig.Pattern.Unicode.Property
import DeviceConfig.Pattern.Unicode.Script
import DeviceConfig.Text.Digits
import DeviceConfig.Text.Split

/-!
Character sets by the names of Unicode properties. Names are looked up with letter case, blanks,
hyphens, underscores and a leading "is" left aside.
-/

namespace DeviceConfig.Pattern.Unicode

open Text

/-- A range in hexadecimal: two code points around a hyphen, or one alone. -/
private def readRange (cs : List Char) : Nat × Nat :=
  match splitOn '-' cs with
  | [one] => let n := (digitsValue? 16 one).getD 0; (n, n)
  | first :: last :: _ => ((digitsValue? 16 first).getD 0, (digitsValue? 16 last).getD 0)
  | [] => (0, 0)

/-- The set that a table entry spells out. -/
def ofTable (entry : String) : CharSet :=
  if entry.isEmpty then .empty else ⟨(splitOn ' ' entry.toList).map readRange⟩

private def unionAll (sets : List CharSet) : CharSet := .ofRanges (sets.flatMap CharSet.ranges)

/-- The categories with these short names, together. -/
def ofCategories (shorts : List String) : CharSet :=
  unionAll ((categories.filter fun c => shorts.contains c.short).map fun c => ofTable c.ranges)

def Property.chars (p : Property) : CharSet :=
  ((ofCategories p.categories).union (ofTable p.also)).diff (ofTable p.except)

/-- Letters, marks, decimal digits, connecting punctuation and the joiners. -/
def wordChars : CharSet :=
  ((properties.find? (·.names.contains "alphabetic")).elim .empty Property.chars).union
    ((ofCategories ["mn", "mc", "me", "nd", "pc"]).union (.range 0x200C 0x200D))

def digitChars : CharSet := ofCategories ["nd"]

def blankChars : CharSet := (ofCategories ["zs", "zl", "zp"]).union ⟨[(0x9, 0xD), (0x85, 0x85)]⟩

/-- Groups of categories by their first letter, and the cased letters. -/
private def categoryGroups : List (List String × List String) := [
  (["l", "letter"], ["lu", "ll", "lt", "lm", "lo"]),
  (["lc", "casedletter"], ["lu", "ll", "lt"]),
  (["m", "mark", "combiningmark"], ["mn", "mc", "me"]),
  (["n", "number"], ["nd", "nl", "no"]),
  (["p", "punctuation", "punct"], ["pc", "pd", "ps", "pe", "pi", "pf", "po"]),
  (["s", "symbol"], ["sm", "sc", "sk", "so"]),
  (["z", "separator"], ["zs", "zl", "zp"])]

private def assigned : CharSet := unionAll (categories.map fun c => ofTable c.ranges)

/-- A general category or a group of them, and the three sets that are named like one. -/
def category? (name : String) : Option CharSet :=
  if name = "any" then some .any
  else if name = "assigned" then some assigned
  else if name = "ascii" then some (.range 0 0x7F)
  else if ["cn", "unassigned"].contains name then some assigned.complement
  else if ["c", "other"].contains name then
    some (assigned.complement.union (ofCategories ["cc", "cf", "co"]))
  else match categoryGroups.find? (·.1.contains name) with
    | some (_, shorts) => some (ofCategories shorts)
    | none =>
      (categories.find? fun c => c.short == name || c.names.contains name).map
        fun c => ofTable c.ranges

def script? (name : String) : Option CharSet :=
  (scripts.find? (·.names.contains name)).map fun s => ofTable s.ranges

/-- A script with the characters that other scripts share with it. Shared characters are counted under
the scripts that use them, and no longer as common or inherited. -/
def scriptExtensions? (name : String) : Option CharSet :=
  (scripts.find? (·.names.contains name)).map fun s =>
    let own := ofTable s.ranges
    if s.names.contains "common" || s.names.contains "inherited" then
      own.diff (unionAll (scripts.map fun s => ofTable s.shared))
    else own.union (ofTable s.shared)

/-- A yes-or-no property. -/
def property? (name : String) : Option CharSet :=
  (properties.find? (·.names.contains name)).map Property.chars

/-- The form in which names are looked up. -/
def looseName (name : List Char) : String :=
  let (is, rest) := match name with
    | a :: b :: rest => if a.toLower = 'i' ∧ b.toLower = 's' then (true, rest) else (false, name)
    | _ => (false, name)
  let kept := rest.filter fun c => c.toNat ≤ 0x7F && c ≠ ' ' && c ≠ '_' && c ≠ '-'
  let loose := String.ofList (kept.map Char.toLower)
  if is ∧ loose = "c" then "isc" else loose

/-- The set behind a single name: a property, a category or a script. The three short names that
could also mean a property mean the category. -/
def named? (name : List Char) : Option CharSet :=
  let loose := looseName name
  let property := if ["cf", "sc", "lc"].contains loose then none else property? loose
  property <|> category? loose <|> script? loose

/-- The set behind a property and its value. -/
def valued? (property value : List Char) : Option CharSet :=
  let property := looseName property
  if ["gc", "generalcategory"].contains property then category? (looseName value)
  else if ["sc", "script"].contains property then script? (looseName value)
  else if ["scx", "scriptextensions"].contains property then scriptExtensions? (looseName value)
  else none

/-! ### Case -/

/-- Every character that folds to another one, with what it folds to. -/
def foldPairs : List (Nat × Nat) :=
  foldRuns.flatMap fun (lo, hi, step, delta) =>
    (List.range ((hi - lo) / step + 1)).map fun i =>
      let code := lo + i * step
      (code, (code + delta).toNat)

/-- Adds to a set every character that differs from a member only in case. -/
def foldSet (set : CharSet) : CharSet :=
  let reached := foldPairs.filter fun (code, folded) => set.mem code || set.mem folded
  let targets := CharSet.ofRanges (reached.map fun (_, folded) => (folded, folded))
  let sources := foldPairs.filter fun (_, folded) => targets.mem folded
  set.union (targets.union (.ofRanges (sources.map fun (code, _) => (code, code))))

end DeviceConfig.Pattern.Unicode
