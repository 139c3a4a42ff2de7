import DeviceConfig.Proofs.FortiOs.Wording
import DeviceConfig.Proofs.Ios.Wording
import DeviceConfig.Proofs.RouterOs.Wording

/-!
Looking at a rollout changes nothing. Whatever the texts of an intent, they come behind the words of a command, so no
command that changes the device, and none that takes a change back, is one of those for looking.
-/

namespace DeviceConfig.Rollout

variable {intent : Intent} {vendor : Vendor}

/-- Every language has a wording that its plans keep to and its commands for looking as well. -/
theorem exists_wording {language : CommandLanguage} (known : languageOf vendor = .ok language) (intent : Intent) :
    ∃ wording : Wording, (language.plan intent).KeepsTo wording ∧
      ∀ command ∈ language.verify intent, wording.looks command := by
  cases vendor with
  | cisco =>
    obtain rfl := Except.ok.inj known
    exact ⟨Ios.wording, Ios.keepsTo_plan intent, Ios.looks_verify intent⟩
  | mikrotik =>
    obtain rfl := Except.ok.inj known
    exact ⟨RouterOs.wording, RouterOs.keepsTo_plan intent, RouterOs.looks_verify intent⟩
  | fortigate =>
    obtain rfl := Except.ok.inj known
    exact ⟨FortiOs.wording, FortiOs.keepsTo_plan intent, FortiOs.looks_verify intent⟩
  | generic => cases known

/-- The commands for looking at a rollout are neither among those that change the device nor among those that take
the changes back. -/
theorem looking_changes_nothing (accepted : fault? intent = none) (named : vendor ≠ .generic) :
    ∃ rollout, render intent vendor = .ok rollout ∧
      ∀ command ∈ rollout.verify, command ∉ rollout.rollback ∧ command ∉ rollout.commands := by
  obtain ⟨language, known⟩ : ∃ language, languageOf vendor = .ok language := by
    cases vendor with
    | generic => contradiction
    | _ => exact ⟨_, rfl⟩
  have rendered := render_eq_ok_iff.mpr ⟨language, known, accepted, rfl⟩
  obtain ⟨wording, keeps, looks⟩ := exists_wording known intent
  refine ⟨_, rendered, fun command listed => ?_⟩
  have apart := wording.not_changes_of_looks (looks command listed)
  constructor
  · intro undone
    rw [← List.mem_reverse, rollback_of_render rendered known] at undone
    obtain ⟨mutation, planned, rfl⟩ := List.mem_map.mp undone
    exact Bool.eq_false_iff.mp apart (keeps mutation planned).2
  · intro applied
    rw [commands_of_render rendered known] at applied
    obtain ⟨mutation, planned, member⟩ := List.mem_flatMap.mp applied
    exact Bool.eq_false_iff.mp apart ((keeps mutation planned).1 command member)

/-- The texts of this intent are commands that only look, or the ends of such. -/
def lookalike : Intent where
  hostname := some "show ip route"
  interfaces := [{ name := "vlan print", description := some "\nshow vlan brief", enabled := some false }]
  firewall := { enabled := true }

theorem looking_changes_nothing_lookalike : fault? lookalike = none ∧ Vendor.mikrotik ≠ .generic ∧
    ∃ rollout, render lookalike .mikrotik = .ok rollout ∧
      "/interface vlan print" ∈ rollout.verify ∧ "/interface disable vlan print" ∈ rollout.commands ∧
      ∀ command ∈ rollout.verify, command ∉ rollout.rollback ∧ command ∉ rollout.commands := by
  have accepted : fault? lookalike = none := by decide
  have named : Vendor.mikrotik ≠ .generic := by decide
  obtain ⟨rollout, rendered, apart⟩ := looking_changes_nothing accepted named
  have commands := commands_of_render rendered rfl
  obtain ⟨_, known, _, same⟩ := render_eq_ok_iff.mp rendered
  cases known
  refine ⟨accepted, named, rollout, rendered, ?_, ?_, apart⟩
  · rw [same]
    decide
  · rw [commands]
    decide

end DeviceConfig.Rollout
