import Mathlib.Data.List.Forall2

/-!
What a computation that may fail has come to, read off its parts.
-/

namespace DeviceConfig

section
variable {ε α β : Type} {result : Except ε α} {cause : ε} {final : β}

theorem bind_eq_ok {next : α → Except ε β} :
    (result >>= next) = .ok final ↔ ∃ value, result = .ok value ∧ next value = .ok final := by
  cases result <;> simp [bind, Except.bind]

theorem bind_eq_error {next : α → Except ε β} : (result >>= next) = .error cause ↔
    result = .error cause ∨ ∃ value, result = .ok value ∧ next value = .error cause := by
  cases result <;> simp [bind, Except.bind]

theorem map_eq_ok {f : α → β} :
    result.map f = .ok final ↔ ∃ value, result = .ok value ∧ f value = final := by
  cases result <;> simp [Except.map]

theorem map_eq_error {f : α → β} : result.map f = .error cause ↔ result = .error cause := by
  cases result <;> simp [Except.map]

theorem mapError_eq_ok {δ : Type} {f : ε → δ} {value : α} :
    result.mapError f = .ok value ↔ result = .ok value := by
  cases result <;> simp [Except.mapError]

theorem toOption_eq_some {value : α} : result.toOption = some value ↔ result = .ok value := by
  cases result <;> simp [Except.toOption]

/-- A list can be gone through if every item can, and what comes of it is what comes of the items. -/
theorem mapM_eq_ok {f : α → Except ε β} {items : List α} {found : List β} :
    items.mapM f = .ok found ↔ List.Forall₂ (fun item value => f item = .ok value) items found := by
  induction items generalizing found with
  | nil => cases found <;> simp [pure, Except.pure]
  | cons item items ih =>
    rw [List.mapM_cons, List.forall₂_cons_left_iff, bind_eq_ok]
    constructor
    · rintro ⟨value, first, rest⟩
      obtain ⟨values, others, made⟩ := bind_eq_ok.mp rest
      exact ⟨value, values, first, ih.mp others, (Except.ok.inj made).symm⟩
    · rintro ⟨value, values, first, others, rfl⟩
      exact ⟨value, first, bind_eq_ok.mpr ⟨values, ih.mpr others, rfl⟩⟩

theorem exists_of_mem_mapM {f : α → Except ε β} {items : List α} {found : List β} {value : β}
    (made : items.mapM f = .ok found) (member : value ∈ found) : ∃ item ∈ items, f item = .ok value := by
  induction mapM_eq_ok.mp made with
  | nil => cases member
  | cons first others ih =>
    rcases List.mem_cons.mp member with rfl | later
    · exact ⟨_, List.mem_cons_self, first⟩
    · obtain ⟨item, inside, given⟩ := ih (mapM_eq_ok.mpr others) later
      exact ⟨item, List.mem_cons_of_mem _ inside, given⟩

end

end DeviceConfig
