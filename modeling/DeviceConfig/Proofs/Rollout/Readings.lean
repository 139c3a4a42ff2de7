import DeviceConfig.Proofs.Text.Interpolation
import DeviceConfig.Rollout.Plan
import Mathlib.Data.List.Basic

/-!
What a reader of single lines finds in the commands of a plan, part by part of the plan.
-/

namespace DeviceConfig.Rollout

section
variable {α β : Type} {read? : String → Option β}

/-- Everything that is found, line by line. -/
def Plan.readings (read? : String → Option β) (plan : Plan) : List β :=
  (plan.flatMap (·.commands)).filterMap read?

@[simp] theorem readings_nil : Plan.readings read? [] = [] := rfl

@[simp] theorem readings_cons {mutation : Mutation} {plan : Plan} :
    Plan.readings read? (mutation :: plan) =
      mutation.commands.filterMap read? ++ plan.readings read? := by
  simp [Plan.readings]

@[simp] theorem readings_append {left right : Plan} :
    Plan.readings read? (left ++ right) = left.readings read? ++ right.readings read? := by
  simp [Plan.readings]

theorem readings_map {change : α → Mutation} {items : List α} :
    Plan.readings read? (items.map change) =
      items.flatMap fun item => (change item).commands.filterMap read? := by
  induction items with
  | nil => rfl
  | cons item items ih => rw [List.map_cons, readings_cons, ih, List.flatMap_cons]

theorem readings_flatMap {changes : α → Plan} {items : List α} :
    Plan.readings read? (items.flatMap changes) =
      items.flatMap fun item => (changes item).readings read? := by
  induction items with
  | nil => rfl
  | cons item items ih => rw [List.flatMap_cons, readings_append, ih, List.flatMap_cons]

theorem readings_optional {change : α → Mutation} {item : Option α} :
    Plan.readings read? (item.map change).toList =
      item.toList.flatMap fun item => (change item).commands.filterMap read? := by
  cases item <;> simp

/-- Nothing is found in changes that say nothing on any line. -/
theorem readings_eq_nil {plan : Plan}
    (silent : ∀ mutation ∈ plan, ∀ line ∈ mutation.commands, read? line = none) :
    plan.readings read? = [] := by
  rw [Plan.readings, List.filterMap_eq_nil_iff]
  intro line member
  obtain ⟨mutation, planned, member⟩ := List.mem_flatMap.mp member
  exact silent mutation planned line member

theorem readings_mapIdx_eq_nil {change : Nat → α → Mutation} {items : List α}
    (silent : ∀ place item, (change place item).commands.filterMap read? = []) :
    Plan.readings read? (items.mapIdx change) = [] := by
  apply readings_eq_nil
  intro mutation member line inside
  obtain ⟨place, _, rfl⟩ := List.mem_mapIdx.mp member
  exact List.filterMap_eq_nil_iff.mp (silent place _) line inside

theorem filterMap_line (line : String) (rest : List String) :
    (line :: rest).filterMap read? = (read? line).toList ++ rest.filterMap read? := by
  cases found : read? line <;> simp [found]

end

end DeviceConfig.Rollout
