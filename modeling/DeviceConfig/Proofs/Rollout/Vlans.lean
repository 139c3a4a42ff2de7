import DeviceConfig.Proofs.FortiOs.Vlans
import DeviceConfig.Proofs.Ios.Vlans
import DeviceConfig.Proofs.Rollout.Rollback
import DeviceConfig.Proofs.RouterOs.Vlans

/-!
The VLANs of a rollout. Those of the intent are named by the commands of every vendor, and all of them are in
range. An interface brings its VLAN unchecked, so the commands name nothing out of range exactly where no
interface does.
-/

namespace DeviceConfig.Rollout

open Text

/-- VLANs that can be used. -/
def ValidVlan (id : Nat) : Prop := 1 ≤ id ∧ id ≤ 4094

instance (id : Nat) : Decidable (ValidVlan id) := inferInstanceAs (Decidable (1 ≤ id ∧ id ≤ 4094))

/-- The VLAN that a line names in the words of its vendor. -/
def vlanIn? : Vendor → String → Option Nat
  | .cisco => Ios.vlanIn?
  | .mikrotik => RouterOs.vlanIn?
  | .fortigate => FortiOs.vlanIn?
  | .generic => fun _ => none

/-- All VLANs that the commands name. -/
def vlans (rollout : Rollout) : List Nat := rollout.commands.filterMap (vlanIn? rollout.vendor)

/-- The VLANs that come to a vendor's commands with an interface. -/
def portVlans : Vendor → Intent.Interface → List Nat
  | .cisco => Ios.portVlans
  | .mikrotik => RouterOs.portVlans
  | _ => fun _ => []

theorem firstFault?_eq_none {α : Type} {fault? : Nat → α → Option RolloutError} {items : List α}
    (faultless : firstFault? fault? items = none) :
    ∀ item ∈ items, ∃ place, fault? place item = none := by
  intro item member
  obtain ⟨place, bound, rfl⟩ := List.getElem_of_mem member
  exact ⟨place, List.findSome?_eq_none_iff.mp faultless _ (List.mem_mapIdx.mpr ⟨place, bound, rfl⟩)⟩

/-- An intent without fault has no VLAN of its own that is out of range. -/
theorem valid_of_faultless {intent : Intent} (faultless : fault? intent = none) :
    ∀ vlan ∈ intent.vlans, ValidVlan vlan.id.toNat := by
  intro vlan member
  have vlans : firstFault? vlanFault? intent.vlans = none := by
    unfold fault? at faultless
    cases ports : firstFault? interfaceFault? intent.interfaces with
    | some fault => simp [ports] at faultless
    | none =>
      cases vlans : firstFault? vlanFault? intent.vlans with
      | some fault => simp [ports, vlans] at faultless
      | none => rfl
  obtain ⟨place, fine⟩ := firstFault?_eq_none vlans vlan member
  simp only [vlanFault?, ite_eq_left_iff, reduceCtorEq, imp_false, not_not] at fine
  simpa [ValidVlan, UInt16.le_iff_toNat_le] using fine

variable {intent : Intent} {vendor : Vendor} {rollout : Rollout}

/-- The VLANs of the commands are those of the intent, and what comes with its interfaces. -/
theorem mem_vlans_iff (rendered : render intent vendor = .ok rollout) {id : Nat} :
    id ∈ rollout.vlans ↔ (∃ vlan ∈ intent.vlans, vlan.id.toNat = id) ∨
      ∃ iface ∈ intent.interfaces, id ∈ portVlans vendor iface := by
  obtain ⟨language, known, _, rfl⟩ := render_eq_ok_iff.mp rendered
  have named : Rollout.vlans ((language.plan intent).finish vendor (language.verify intent)) =
      (language.plan intent).readings (vlanIn? vendor) := by
    rw [Rollout.vlans, commands_of_render rendered known]
    rfl
  rw [named]
  cases vendor with
  | cisco =>
    cases known
    have twice : (∃ vlan ∈ intent.vlans, vlan.id.toNat = id) ∨
        (∃ vlan ∈ intent.vlans.filter (·.gateway.isSome), vlan.id.toNat = id) ↔
        ∃ vlan ∈ intent.vlans, vlan.id.toNat = id := by
      constructor
      · rintro (made | ⟨vlan, member, same⟩)
        · exact made
        · exact ⟨vlan, List.mem_of_mem_filter member, same⟩
      · exact .inl
    simp only [vlanIn?, Ios.vlans_plan, List.mem_append, List.mem_map, List.mem_flatMap, portVlans,
      twice]
  | mikrotik =>
    cases known
    simp only [vlanIn?, RouterOs.vlans_plan, List.mem_append, List.mem_map, List.mem_flatMap,
      portVlans]
  | fortigate =>
    cases known
    simp [vlanIn?, FortiOs.vlans_plan, portVlans]
  | generic => cases known

/-- Every VLAN of the intent is named by the commands and is in range. All that they name is in range exactly
where no interface brings a VLAN that is not. -/
theorem vlan_ids_valid_iff (rendered : render intent vendor = .ok rollout) :
    (∀ vlan ∈ intent.vlans, vlan.id.toNat ∈ rollout.vlans ∧ ValidVlan vlan.id.toNat) ∧
    ((∀ id ∈ rollout.vlans, ValidVlan id) ↔
      ∀ iface ∈ intent.interfaces, ∀ id ∈ portVlans vendor iface, ValidVlan id) := by
  obtain ⟨_, _, faultless, _⟩ := render_eq_ok_iff.mp rendered
  have own := valid_of_faultless faultless
  refine ⟨?_, ?_, ?_⟩
  · intro vlan member
    exact ⟨(mem_vlans_iff rendered).mpr (.inl ⟨vlan, member, rfl⟩), own vlan member⟩
  · intro valid iface member id brought
    exact valid id ((mem_vlans_iff rendered).mpr (.inr ⟨iface, member, brought⟩))
  · intro ports id named
    rcases (mem_vlans_iff rendered).mp named with ⟨vlan, member, rfl⟩ | ⟨iface, member, brought⟩
    · exact own vlan member
    · exact ports iface member id brought

/-- A VLAN and an access port. -/
def accessPort (id : UInt16) : Intent :=
  { vlans := [{ id := 10 }], interfaces := [{ name := "Gi0/1", vlanId := some id }] }

theorem renders_accessPort (id : UInt16) :
    ∃ rollout, render (accessPort id) .cisco = .ok rollout := by
  have name : isBlankText "Gi0/1" = false := by decide
  have faultless : fault? (accessPort id) = none := by
    simp [fault?, firstFault?, accessPort, interfaceFault?, vlanFault?, name]
  exact ⟨_, render_eq_ok_iff.mpr ⟨_, rfl, faultless, rfl⟩⟩

theorem portVlans_accessPort (id : UInt16) :
    ∀ iface ∈ (accessPort id).interfaces, portVlans .cisco iface = [id.toNat] := by
  have name : Ios.vlanNamed? "Gi0/1" = none := by decide
  simp [accessPort, portVlans, Ios.portVlans, Intent.Interface.accessVlan?, name]

theorem vlan_ids_valid_port_20 :
    ∃ rollout, render (accessPort 20) .cisco = .ok rollout ∧ 10 ∈ rollout.vlans ∧
      ∀ id ∈ rollout.vlans, ValidVlan id := by
  obtain ⟨rollout, rendered⟩ := renders_accessPort 20
  obtain ⟨made, valid⟩ := vlan_ids_valid_iff rendered
  refine ⟨rollout, rendered, (made { id := 10 } (by simp [accessPort])).1, valid.mpr ?_⟩
  intro iface member id brought
  rw [portVlans_accessPort 20 iface member, List.mem_singleton] at brought
  rw [brought]
  decide

/-- The VLAN of a port is not looked at, whatever it is. -/
theorem vlan_ids_invalid_port_5000 :
    ∃ rollout, render (accessPort 5000) .cisco = .ok rollout ∧
      " switchport access vlan 5000" ∈ rollout.commands ∧ 5000 ∈ rollout.vlans ∧ ¬ValidVlan 5000 := by
  obtain ⟨rollout, rendered⟩ := renders_accessPort 5000
  have port : { name := "Gi0/1", vlanId := some 5000 } ∈ (accessPort 5000).interfaces := by
    simp [accessPort]
  have brought := portVlans_accessPort 5000 _ port
  have command : " switchport access vlan 5000" ∈ rollout.commands := by
    rw [commands_of_render rendered rfl]
    refine List.mem_flatMap.mpr ⟨Ios.interface { name := "Gi0/1", vlanId := some 5000 }, ?_, ?_⟩
    · simp [Ios.plan, accessPort]
    · decide
  exact ⟨rollout, rendered, command,
    (mem_vlans_iff rendered).mpr (.inr ⟨_, port, by rw [brought]; decide⟩), by decide⟩

end DeviceConfig.Rollout
