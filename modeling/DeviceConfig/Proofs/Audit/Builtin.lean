import DeviceConfig.Audit.Builtin
import DeviceConfig.Proofs.NameMap
import DeviceConfig.Proofs.Text.Split

/-!
When the built-in predicates hold, and that each is found under its name.
-/

namespace DeviceConfig.Audit

open Snapshot Text

/-! ### Outcomes -/

@[simp] theorem passed_ofViolations (violations : List String) :
    (Outcome.ofViolations violations).passed = violations.isEmpty := by
  cases violations <;> rfl

/-! ### The registry -/

theorem entries_register_foldl (predicates : List Builtin) (registry : Registry) :
    (predicates.foldl (fun registry predicate =>
      registry.register predicate.name fun snapshot => some (predicate.check snapshot))
        registry).entries =
      (predicates.map fun predicate => (predicate.name,
        (fun snapshot => some (predicate.check snapshot) : Predicate))).foldl
        (fun sorted entry => NameMap.insert entry.1 entry.2 sorted) registry.entries := by
  induction predicates generalizing registry with
  | nil => rfl
  | cons predicate predicates ih =>
    rw [List.foldl_cons, ih]
    rfl

/-- A name for everything, blanks around it and letter case aside. -/
def NamesAny (text : String) : Prop := lower (trim text) = "any" ∨ lower (trim text) = "all"

end DeviceConfig.Audit
