import DeviceConfig.Proofs.Address.Subnet
import DeviceConfig.Proofs.Rollout.Masks

/-!
The masks of gateways. A gateway is set with the length behind the slash of its VLAN's subnet, or else with that of 24
bits, unless the subnet has no slash and is taken for a mask, or has two slashes and a length between them.
-/

namespace DeviceConfig.Rollout

open Address

/-- What the vendors set a gateway with, and when it is the length that was meant. -/
theorem gateway_masks_iff {intent : Intent} {vlan : Intent.Vlan} {address : String}
    (member : vlan ∈ intent.vlans) (given : vlan.gateway = some address) :
    let item : Addressed := .gateway vlan address
    let reading := readSubnet vlan.subnet
    let meant := lengthBehindSlash? vlan.subnet
    (∀ ios, render intent .cisco = .ok ios →
      (item.onIos reading.dottedMask).IsIn .cisco ios.commands) ∧
    (∀ fortios, render intent .fortigate = .ok fortios →
      (item.onFortiOs reading.dottedMask).IsIn .fortigate fortios.commands) ∧
    (∀ routeros, render intent .mikrotik = .ok routeros →
      (item.onRouterOs reading.prefixLength).IsIn .mikrotik routeros.commands) ∧
    (reading.dottedMask = maskOfLength meant ↔
      ∀ text ones, reading = .mask text ones → text = defaultMask) ∧
    (reading.prefixLength = textOfLength meant ↔
      (∀ text ones, reading = .mask text ones → ones = 24) ∧
        ∀ n, reading = .between (some n) → n = 24) := by
  intro item reading meant
  have inIntent : item.Given intent := .gateway member given
  have same : reading.meant? = meant := meant?_readSubnet vlan.subnet
  obtain ⟨dotted, length⟩ : dottedMask item.mask = reading.dottedMask ∧
      prefixLength item.mask = reading.prefixLength := masks_readSubnet vlan.subnet
  rw [← dotted, ← length, ← same]
  refine ⟨fun _ => onIos_isIn inIntent, fun _ => onFortiOs_isIn inIntent,
    fun _ => onRouterOs_isIn inIntent, ?_, ?_⟩
  · rw [dotted, reading.dottedMask_eq_iff]
  · rw [length, reading.prefixLength_eq_iff]

/-- An intent for the gateway of one VLAN only. -/
def gatewayIn (subnet : String) : Intent :=
  { vlans := [{ id := 10, subnet := some subnet, gateway := some "10.10.0.1" }] }

theorem renders_gatewayIn (subnet : String) :
    (∃ ios, render (gatewayIn subnet) .cisco = .ok ios) ∧
      (∃ routeros, render (gatewayIn subnet) .mikrotik = .ok routeros) ∧
      ∃ fortios, render (gatewayIn subnet) .fortigate = .ok fortios :=
  ⟨⟨_, render_eq_ok_iff.mpr ⟨_, rfl, rfl, rfl⟩⟩, ⟨_, render_eq_ok_iff.mpr ⟨_, rfl, rfl, rfl⟩⟩,
    ⟨_, render_eq_ok_iff.mpr ⟨_, rfl, rfl, rfl⟩⟩⟩

theorem gateway_masks_one_slash :
    ∃ ios routeros fortios, render (gatewayIn "10.10.0.0/23") .cisco = .ok ios ∧
      render (gatewayIn "10.10.0.0/23") .mikrotik = .ok routeros ∧
      render (gatewayIn "10.10.0.0/23") .fortigate = .ok fortios ∧
      lengthBehindSlash? (some "10.10.0.0/23") = some 23 ∧
      Setting.IsIn ⟨["interface Vlan10"], " ip address 10.10.0.1 255.255.254.0"⟩ .cisco ios.commands ∧
      Setting.IsIn ⟨["config system interface", "    edit \"vlan10\""],
        "        set ip 10.10.0.1 255.255.254.0"⟩ .fortigate fortios.commands ∧
      Setting.IsIn ⟨[], "/ip address add address=10.10.0.1/23 interface=vlan10"⟩ .mikrotik
        routeros.commands := by
  obtain ⟨⟨ios, onIos⟩, ⟨routeros, onRouterOs⟩, ⟨fortios, onFortiOs⟩⟩ :=
    renders_gatewayIn "10.10.0.0/23"
  have reading : readSubnet (some "10.10.0.0/23") = .network (some 23) := by decide
  have meant : lengthBehindSlash? (some "10.10.0.0/23") = some 23 := by decide
  have member : _ ∈ (gatewayIn "10.10.0.0/23").vlans := List.mem_cons_self
  obtain ⟨cisco, fortigate, mikrotik, isMeant, isMeantLength⟩ := gateway_masks_iff member rfl
  have dotted := isMeant.mpr (by simp [reading])
  have length := isMeantLength.mpr (by simp [reading])
  have cisco := cisco ios onIos
  have fortigate := fortigate fortios onFortiOs
  have mikrotik := mikrotik routeros onRouterOs
  rw [dotted, meant] at cisco fortigate
  rw [length, meant] at mikrotik
  exact ⟨ios, routeros, fortios, onIos, onRouterOs, onFortiOs, meant, cisco, fortigate, mikrotik⟩

theorem commands_gatewayIn {subnet : String} {ios : Rollout}
    (rendered : render (gatewayIn subnet) .cisco = .ok ios) :
    ios.commands = ["vlan 10", " name VLAN10", "interface Vlan10",
      " ip address " ++ "10.10.0.1" ++ " " ++ dottedMask (some subnet), " no shutdown", "no ip http server"] := by
  obtain rfl := Except.ok.inj rendered
  -- The numbers in the texts are written out only so.
  with_unfolding_all rfl

/-- A network that has no length: IOS gets its address for a mask. -/
theorem gateway_masks_bare_network :
    lengthBehindSlash? (some "10.10.0.0") = none ∧ maskOfLength none = "255.255.255.0" ∧
    ∃ ios, render (gatewayIn "10.10.0.0") .cisco = .ok ios ∧
      ios.commands = ["vlan 10", " name VLAN10", "interface Vlan10", " ip address 10.10.0.1 10.10.0.0",
        " no shutdown", "no ip http server"] := by
  obtain ⟨⟨ios, onIos⟩, -, -⟩ := renders_gatewayIn "10.10.0.0"
  have dotted : dottedMask (some "10.10.0.0") = "10.10.0.0" :=
    (masks_readSubnet _).1.trans (by decide)
  refine ⟨by decide, by decide, ios, onIos, ?_⟩
  rw [commands_gatewayIn onIos, dotted]
  rfl

end DeviceConfig.Rollout
