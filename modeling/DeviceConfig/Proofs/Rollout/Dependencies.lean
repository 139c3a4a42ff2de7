import DeviceConfig.Proofs.FortiOs.Order
import DeviceConfig.Proofs.Ios.Order
import DeviceConfig.Proofs.RouterOs.Order

/-!
Definitions before uses. An intent that is not refused is rolled out in an order that every device can follow,
and taken back in the opposite one.
-/

namespace DeviceConfig.Rollout

/-- Every vendor has its own things to bring in order. -/
theorem definitions_precede_uses {intent : Intent} (accepted : fault? intent = none) :
    (∃ rollout, render intent .cisco = .ok rollout ∧ Ios.InOrder intent rollout) ∧
    (∃ rollout, render intent .fortigate = .ok rollout ∧ FortiOs.InOrder intent rollout) ∧
    ∃ rollout, render intent .mikrotik = .ok rollout ∧ RouterOs.InOrder intent rollout := by
  have renders (vendor : Vendor) {language : CommandLanguage}
      (known : languageOf vendor = .ok language) : ∃ rollout, render intent vendor = .ok rollout :=
    ⟨_, render_eq_ok_iff.mpr ⟨language, known, accepted, rfl⟩⟩
  obtain ⟨ios, onIos⟩ := renders .cisco rfl
  obtain ⟨fortiOs, onFortiOs⟩ := renders .fortigate rfl
  obtain ⟨routerOs, onRouterOs⟩ := renders .mikrotik rfl
  exact ⟨⟨ios, onIos, Ios.inOrder_of_render onIos⟩,
    ⟨fortiOs, onFortiOs, FortiOs.inOrder_of_render onFortiOs⟩,
    routerOs, onRouterOs, RouterOs.inOrder_of_render onRouterOs⟩

/-- A site with two VLANs, one of them routed, an access port and a source for management. -/
def branchOffice : Intent where
  vlans := [{ id := 10 }, { id := 20, gateway := some "10.0.20.1", subnet := some "10.0.20.0/24" }]
  interfaces := [{ name := "ether2", role := .access, vlanId := some 20 }]
  firewall := { enabled := true, allowMgmtFrom := some "10.0.100.0/24" }

theorem definitions_precede_uses_branchOffice : fault? branchOffice = none ∧
    (∃ rollout, render branchOffice .cisco = .ok rollout ∧ Ios.InOrder branchOffice rollout) ∧
    (∃ rollout, render branchOffice .fortigate = .ok rollout ∧
      FortiOs.InOrder branchOffice rollout) ∧
    ∃ rollout, render branchOffice .mikrotik = .ok rollout ∧
      RouterOs.InOrder branchOffice rollout := by
  have accepted : fault? branchOffice = none := by decide
  exact ⟨accepted, definitions_precede_uses accepted⟩

end DeviceConfig.Rollout
