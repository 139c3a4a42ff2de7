import DeviceConfig.Audit.Comparison
import DeviceConfig.Pattern.Standard
import DeviceConfig.Proofs.Json.LooseEq

/-!
Comparing values for equality. Whether a value equals what is expected, and whether a list contains it, depends on
normal forms only, so both go along with replacing a value by an equal one.
-/

namespace DeviceConfig.Audit

open Json (Unambiguous)

section
variable [Pattern.Engine]

/-- The comparison with what was found at a path, if anything was, comes to an answer, and it is yes. -/
def Condition.IsMet (path : String) (actual : Option Json) (condition : Condition) : Prop :=
  ∃ comparison, condition.apply path actual = .ok comparison ∧ comparison.passed = true

variable {path : String} {actual expected : Option Json}

theorem isMet_equals_iff :
    (Condition.mk .equals expected).IsMet path actual ↔ sameValue actual expected = true := by
  simp [Condition.IsMet, Condition.apply]

theorem isMet_notEquals_iff :
    (Condition.mk .notEquals expected).IsMet path actual ↔ ¬ sameValue actual expected = true := by
  simp [Condition.IsMet, Condition.apply]

theorem isMet_greaterThan_iff :
    (Condition.mk .greaterThan expected).IsMet path actual ↔
      (toNumber actual).gt (toNumber expected) = true := by
  simp [Condition.IsMet, Condition.apply]

theorem isMet_contains_iff :
    (Condition.mk .contains expected).IsMet path actual ↔ containsValue actual expected = true := by
  simp [Condition.IsMet, Condition.apply]

end

theorem sameValue_iff_normal (actual expected : Option Unambiguous) :
    sameValue (actual.map (·.1)) (expected.map (·.1)) = true ↔
      actual.map (·.1.normal) = expected.map (·.1.normal) := by
  cases actual <;> cases expected <;> simp [sameValue, Unambiguous.looseEq_iff]

theorem containsValue_iff_normal (items : List Unambiguous) (expected : Unambiguous) :
    containsValue (some (.array (items.map (·.1)))) (some expected.1) = true ↔
      expected.1.normal ∈ items.map (·.1.normal) := by
  simp only [containsValue, Option.any_some, List.any_map, List.any_eq_true, Function.comp_apply,
    Unambiguous.looseEq_iff, List.mem_map]

/-- Having the same image is an equivalence. -/
theorem equivalence_of_image {α β : Type} {relation : α → α → Prop} {image : α → β}
    (same : ∀ a b, relation a b ↔ image a = image b) : Equivalence relation where
  refl a := (same a a).mpr rfl
  symm related := (same _ _).mpr ((same _ _).mp related).symm
  trans first second := (same _ _).mpr (((same _ _).mp first).trans ((same _ _).mp second))

/-- Values are loosely equal when they are the same but for the form of numbers and the order of members. This is
an equivalence, also between values that may be missing, and lists of equal items contain equal values. -/
theorem equality_is_equivalence [Pattern.Engine] :
    (∀ left right : Unambiguous,
      left.1.looseEq right.1 = true ↔ left.1.normal = right.1.normal) ∧
    Equivalence (fun left right : Unambiguous => left.1.looseEq right.1 = true) ∧
    (∀ path, Equivalence fun actual expected : Option Unambiguous =>
      (Condition.mk .equals (expected.map (·.1))).IsMet path (actual.map (·.1))) ∧
    (∀ path (items : List Unambiguous) (expected : Unambiguous),
      (Condition.mk .contains (some expected.1)).IsMet path (some (.array (items.map (·.1)))) ↔
        expected.1.normal ∈ items.map (·.1.normal)) ∧
    ∀ path (items others : List Unambiguous) (expected wanted : Unambiguous),
      (Json.array (items.map (·.1))).looseEq (.array (others.map (·.1))) = true →
      expected.1.looseEq wanted.1 = true →
      ((Condition.mk .contains (some expected.1)).IsMet path (some (.array (items.map (·.1)))) ↔
        (Condition.mk .contains (some wanted.1)).IsMet path (some (.array (others.map (·.1))))) := by
  refine ⟨Unambiguous.looseEq_iff, equivalence_of_image Unambiguous.looseEq_iff, fun path => ?_,
    fun path items expected => ?_, fun path items others expected wanted sameItems same => ?_⟩
  · exact equivalence_of_image fun actual expected =>
      isMet_equals_iff.trans (sameValue_iff_normal actual expected)
  · rw [isMet_contains_iff, containsValue_iff_normal]
  · have listed (values : List Unambiguous) : (Json.array (values.map (·.1))).IsUnambiguous := by
      simp only [Json.isUnambiguous_array, List.forall_mem_map]
      exact fun value _ => value.2
    rw [Json.looseEq_iff_normal _ _ (listed items) (listed others)] at sameItems
    simp only [Json.normal, Json.normalItems_eq_map, List.map_map, Json.array.injEq] at sameItems
    rw [Unambiguous.looseEq_iff] at same
    rw [isMet_contains_iff, isMet_contains_iff, containsValue_iff_normal, containsValue_iff_normal,
      same]
    exact iff_of_eq (congrArg (wanted.1.normal ∈ ·) sameItems)

/-- Numbers in other forms, one of them a zero with a sign, and members in another order. -/
theorem equality_is_equivalence_limits :
    let left : Json := .object [("mtu", .int 1500), ("loss", .array [.number (.float ⟨true, 0⟩)])]
    let right : Json := .object [("loss", .array [.int 0]), ("mtu", .number (.float (.ofInt 1500)))]
    left.IsUnambiguous ∧ right.IsUnambiguous ∧ left ≠ right ∧ left.looseEq right = true ∧
      (Json.array [.null, left]).looseEq (.array [.null, right]) = true ∧
      (Condition.mk .contains (some left)).IsMet "$.limits" (some (.array [.null, left])) ∧
      (Condition.mk .contains (some right)).IsMet "$.limits" (some (.array [.null, right])) := by
  intro left right
  have leftFine : left.IsUnambiguous := by
    simp [left, Json.isUnambiguous_object, Json.isUnambiguous_array, Json.isUnambiguous_number,
      Json.int]
  have rightFine : right.IsUnambiguous := by
    simp [right, Json.isUnambiguous_object, Json.isUnambiguous_array, Json.isUnambiguous_number,
      Json.int]
  let nothing : Unambiguous := ⟨.null, Json.isUnambiguous_null⟩
  let first : Unambiguous := ⟨left, leftFine⟩
  let second : Unambiguous := ⟨right, rightFine⟩
  obtain ⟨normal, -, -, contained, replaced⟩ := equality_is_equivalence
  have form : left.normal = right.normal := by decide +kernel
  have same : left.looseEq right = true := (normal first second).mpr form
  have sameItems : (Json.array [.null, left]).looseEq (.array [.null, right]) = true := by
    simp [Json.looseEq, Json.looseEqItems, same]
  have here := (contained "$.limits" [nothing, first] first).mpr (by simp)
  have there :=
    (replaced "$.limits" [nothing, first] [nothing, second] first second sameItems same).mp here
  exact ⟨leftFine, rightFine, by decide +kernel, same, sameItems, here, there⟩

end DeviceConfig.Audit
