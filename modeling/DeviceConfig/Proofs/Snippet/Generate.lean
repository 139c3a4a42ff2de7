import DeviceConfig.Proofs.FortiOs.Snippet
import DeviceConfig.Proofs.Ios.Snippet
import DeviceConfig.Proofs.RouterOs.Snippet
import DeviceConfig.Snippet.Generate

/-!
Snippets by templates. What is made of a request is a filled template, whatever script makes it.
-/

namespace DeviceConfig.Snippet

/-- The template for an action, if the vendor has templates. -/
def templateOf? (vendor : Vendor) (action : Action) : Option Template :=
  match vendor with
  | .cisco => some (Ios.template action)
  | .mikrotik => some (RouterOs.template action)
  | .fortigate => some (FortiOs.template action)
  | .generic => none

theorem generate_eq (request : Request) : request.generate =
    match templateOf? request.vendor request.action with
    | some template => (template.fill request.params).map joinLines
    | none => .error (.unsupportedVendor request.vendor) := by
  obtain ⟨vendor, action, params⟩ := request
  cases vendor with
  | cisco =>
    simp only [Request.generate, templateOf?, Template.fill, (Ios.fills_script action).output]
    cases (Ios.template action).parameters.read params <;> rfl
  | mikrotik =>
    simp only [Request.generate, templateOf?, Template.fill, (RouterOs.fills_script action).output]
    cases (RouterOs.template action).parameters.read params <;> rfl
  | fortigate =>
    simp only [Request.generate, templateOf?, FortiOs.snippetLines_eq]
    cases (FortiOs.template action).fill params <;> rfl
  | generic => rfl

end DeviceConfig.Snippet
