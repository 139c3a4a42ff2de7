import DeviceConfig.Proofs.Audit.Comparison
import DeviceConfig.Proofs.Path.Extended
import DeviceConfig.Proofs.Path.Resolve

/-!
Lists and their items. A list that a path leads to contains a value just when one of its items, which the same path
with a position behind it leads to, equals the value.
-/

namespace DeviceConfig.Audit

open Text

section
variable {root : Json} {text : String} {path : Path} {items : List Json} (tight : IsTight text.toList)
  (read : Path.parse text = .ok path) (single : .all ∉ path.steps)
  (found : Path.resolve root path.steps = some (.array items))
include tight read single found

/-- What a position behind the path leads to. -/
theorem resolve_position {position : Nat} (small : position < UInt64.size) :
    ∃ itemPath, Path.parse (text ++ "[" ++ toString position ++ "]") = .ok itemPath ∧
      Path.resolve root itemPath.steps = items[position]? :=
  ⟨_, Path.parse_index tight read small, Path.resolve_item single found position⟩

/-- A list contains a value just when the value equals what is found behind the path of the list with one of the
positions in brackets. Positions are numbers of 64 bits, and no list is longer than there are positions. -/
theorem contains_iff_item_equals [Pattern.Engine] (addressable : items.length ≤ UInt64.size) (expected : Json) :
    (Condition.mk .contains (some expected)).IsMet text (Path.resolve root path.steps) ↔
      ∃ position < items.length, ∃ itemPath item,
        Path.parse (text ++ "[" ++ toString position ++ "]") = .ok itemPath ∧
        Path.resolve root itemPath.steps = some item ∧
        (Condition.mk .equals (some expected)).IsMet (text ++ "[" ++ toString position ++ "]")
          (some item) := by
  rw [found, isMet_contains_iff, containsValue, Option.any_some, List.any_eq_true]
  constructor
  · rintro ⟨item, member, equal⟩
    obtain ⟨position, within, rfl⟩ := List.mem_iff_getElem.mp member
    have small := Nat.lt_of_lt_of_le within addressable
    obtain ⟨itemPath, parsed, resolved⟩ := resolve_position tight read single found small
    rw [List.getElem?_eq_getElem within] at resolved
    exact ⟨position, within, itemPath, _, parsed, resolved, isMet_equals_iff.mpr equal⟩
  · rintro ⟨position, within, itemPath, item, parsed, resolved, met⟩
    have small := Nat.lt_of_lt_of_le within addressable
    obtain ⟨samePath, again, leads⟩ := resolve_position tight read single found small
    obtain rfl : itemPath = samePath := Except.ok.inj (parsed.symm.trans again)
    have member : item ∈ items := List.mem_of_getElem? (leads.symm.trans resolved)
    exact ⟨item, member, isMet_equals_iff.mp met⟩

end

/-- A list behind a member that is called `length`, and an item that is equal as a number only. -/
theorem contains_iff_item_equals_lengths :
    let root : Json := .object [("cables", .object [("length", .array [.null, .array [.int 30]])])]
    let expected : Json := .array [.number (.float (.ofInt 30))]
    let items : List Json := [.null, .array [.int 30]]
    let path : Path := ⟨"$. cables.length", [.field "cables", .field "length"]⟩
    IsTight "$. cables.length".toList ∧ Path.parse "$. cables.length" = .ok path ∧
      .all ∉ path.steps ∧ Path.resolve root path.steps = some (.array items) ∧
      items.length ≤ UInt64.size ∧
      (Condition.mk .contains (some expected)).IsMet "$. cables.length"
        (Path.resolve root path.steps) := by
  intro root expected items path
  have tight : IsTight "$. cables.length".toList := by
    simp [IsTight]
    decide
  have read : Path.parse "$. cables.length" = .ok path := by decide +kernel
  have single : .all ∉ path.steps := by decide
  have found : Path.resolve root path.steps = some (.array items) := by decide
  have addressable : items.length ≤ UInt64.size := by decide
  have itemRead : Path.parse ("$. cables.length" ++ "[" ++ toString 1 ++ "]") =
      .ok ⟨"$. cables.length[1]", path.steps ++ [.index 1]⟩ := by
    decide +kernel
  have itemFound : Path.resolve root (path.steps ++ [.index 1]) = some (.array [.int 30]) := by
    decide
  have equal : (Json.array [.int 30]).looseEq expected = true := by decide +kernel
  refine ⟨tight, read, single, found, addressable, ?_⟩
  exact (contains_iff_item_equals tight read single found addressable expected).mpr
    ⟨1, by decide, _, _, itemRead, itemFound, isMet_equals_iff.mpr equal⟩

end DeviceConfig.Audit
