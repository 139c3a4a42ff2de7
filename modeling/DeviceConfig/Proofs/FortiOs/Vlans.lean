import DeviceConfig.Proofs.FortiOs.Rollout
import DeviceConfig.Proofs.Rollout.Readings
import DeviceConfig.Proofs.Text.Digits

/-!
VLANs in the commands of FortiOS: those of the intent. A VLAN is named by a setting, at whatever depth of tables
and entries it stands.
-/

namespace DeviceConfig.FortiOs

open Rollout Text

/-- The VLAN that a setting names. -/
def vlanIn? (line : String) : Option Nat :=
  match words line with
  | ["set", "vlanid", id] => numberBehind? "" id
  | _ => none

/-! ### Blocks -/

theorem words_indented (depth : Nat) (line : String) : words (indented depth line) = words line := by
  have blanks (n : Nat) : (splitOn ' ' (List.replicate n ' ' ++ line.toList)).filter (!·.isEmpty) =
      (splitOn ' ' line.toList).filter (!·.isEmpty) := by
    induction n with
    | zero => rfl
    | succ n ih => simp [List.replicate_succ, splitOn, ih]
  simp only [words, indented, String.toList_append, String.toList_ofList, blanks]

theorem vlanIn?_indented (depth : Nat) (line : String) :
    vlanIn? (indented depth line) = vlanIn? line := by
  rw [vlanIn?, words_indented, vlanIn?]

theorem vlanIn?_opening (text : String) :
    vlanIn? ("config " ++ text) = none ∧ vlanIn? ("edit " ++ text) = none := by
  simp [vlanIn?, words, splitOn]

theorem vlanIn?_closing : vlanIn? "end" = none ∧ vlanIn? "next" = none := by decide

/-- Neither the depth of a line nor the lines around a table make a difference. -/
theorem vlans_block (path : String) (lines : List String) :
    (block path lines).filterMap vlanIn? = lines.filterMap vlanIn? := by
  simp [block, vlanIn?_indented, vlanIn?_opening, vlanIn?_closing]

theorem vlans_entryBlock (path name : String) (settings : List String) :
    (entryBlock path name settings).filterMap vlanIn? = settings.filterMap vlanIn? := by
  rw [entryBlock, vlans_block]
  simp [vlanIn?_indented, vlanIn?_opening, vlanIn?_closing]

/-! ### Changes -/

theorem commands_change (target : Section) (lines undo : List String) :
    (change target lines undo).commands = lines := rfl

theorem vlanIn?_id (id : UInt16) : vlanIn? ("set vlanid " ++ toString id) = some id.toNat := by
  have words : words ("set vlanid " ++ toString id) = ["set", "vlanid", "" ++ toString id] := by
    rw [← words_number "" (by decide)]
    simp [Text.words, splitOn]
  rw [vlanIn?, words]
  exact numberBehind?_append "" id

theorem vlanIn?_address (address mask : String) :
    vlanIn? ("set ip " ++ address ++ " " ++ mask) = none := by
  simp [vlanIn?, words, splitOn]

theorem vlanIn?_label (text : String) : vlanIn? ("set alias \"" ++ text ++ "\"") = none := by
  simp [vlanIn?, words, splitOn]

theorem vlanIn?_server (server : String) : vlanIn? ("set server \"" ++ server ++ "\"") = none := by
  simp [vlanIn?, words, splitOn]

theorem vlans_settings (target : Section) (path : String) (commands undo : List String) :
    (changeSettings target path commands undo).commands.filterMap vlanIn? = commands.filterMap vlanIn? :=
  vlans_block path commands

theorem vlans_vlan (parent : String) (vlan : Intent.Vlan) :
    (FortiOs.vlan parent vlan).commands.filterMap vlanIn? = [vlan.id.toNat] := by
  have vdom : vlanIn? "set vdom \"root\"" = none := by decide
  have type : vlanIn? "set type vlan" = none := by decide
  have access : vlanIn? "set allowaccess ping" = none := by decide
  have interface : vlanIn? ("set interface \"" ++ parent ++ "\"") = none := by
    simp [vlanIn?, words, splitOn]
  rw [FortiOs.vlan, commands_change, vlans_entryBlock]
  cases vlan.gateway <;> cases vlan.name <;>
    simp [vlanIn?_id, vlanIn?_address, vlanIn?_label, vdom, type, access, interface]

theorem vlans_interface (iface : Intent.Interface) :
    (FortiOs.interface iface).commands.filterMap vlanIn? = [] := by
  have role (text : String) : vlanIn? ("set role " ++ text) = none := by
    simp [vlanIn?, words, splitOn]
  have down : vlanIn? "set status down" = none := by decide
  rw [FortiOs.interface, commands_change, vlans_entryBlock, interfaceSettings]
  cases iface.description <;> cases iface.ipAddress <;> cases iface.isEnabled <;>
    simp [vlanIn?_address, vlanIn?_label, role, down]

theorem vlans_route (place : Nat) (route : Intent.Route) :
    (FortiOs.route place route).commands.filterMap vlanIn? = [] := by
  rw [FortiOs.route, commands_change, vlans_entryBlock]
  simp [vlanIn?, words, splitOn]

theorem vlans_syslog (place : Nat) (server : String) :
    (FortiOs.syslog place server).commands.filterMap vlanIn? = [] := by
  have enable : vlanIn? "set status enable" = none := by decide
  rw [FortiOs.syslog, vlans_settings]
  simp [enable, vlanIn?_server]

theorem vlans_ntpLines (servers : List String) : (ntpLines servers).filterMap vlanIn? = [] := by
  have entry (place : Nat) (server : String) : (∀ line ∈ [s!"    edit {place + 1}",
      s!"        set server \"{server}\"", "    next"], vlanIn? line = none) ↔ True := by
    simp [vlanIn?, words, splitOn]
  rw [List.filterMap_eq_nil_iff, forall_mem_ntpLines entry]
  simp [vlanIn?, words, splitOn]

theorem vlans_services (services : Intent.Services) :
    (FortiOs.services services).readings vlanIn? = [] := by
  simp only [FortiOs.services, readings_append, List.append_eq_nil_iff]
  refine ⟨⟨⟨?_, ?_⟩, ?_⟩, readings_mapIdx_eq_nil vlans_syslog⟩
  · split
    · rfl
    · simp only [readings_cons, vlans_settings]
      split <;> decide
  · split
    · rfl
    · simp [readings_cons, vlans_settings, vlans_ntpLines]
  · split
    · rfl
    · rename_i primary others _
      cases others <;> simp [readings_cons, vlans_settings, vlanIn?, words, splitOn]

theorem vlans_firewall (firewall : Intent.Firewall) :
    (FortiOs.firewall firewall).readings vlanIn? = [] := by
  unfold FortiOs.firewall
  split
  · simp only [readings_cons, commands_change, vlans_entryBlock, vlans_settings, localInPolicy]
    simp [vlanIn?, words, splitOn]
  · rfl

theorem vlans_plan (intent : Intent) :
    (plan intent).readings vlanIn? = intent.vlans.map (·.id.toNat) := by
  have base : (base intent).readings vlanIn? = [] := by
    unfold FortiOs.base
    cases intent.givenHostname? with
    | none => rfl
    | some hostname =>
      simp [vlans_settings, vlanIn?, words, splitOn]
  have made : Plan.readings vlanIn? (intent.vlans.map (vlan (vlanParent intent))) =
      intent.vlans.map (·.id.toNat) := by
    rw [readings_map, List.map_eq_flatMap]
    exact List.flatMap_congr fun vlan _ => vlans_vlan _ vlan
  have ports : Plan.readings vlanIn? (intent.interfaces.map interface) = [] := by
    rw [readings_map, List.flatMap_eq_nil_iff]
    exact fun iface _ => vlans_interface iface
  have routes : Plan.readings vlanIn? (intent.routing.staticRoutes.mapIdx route) = [] :=
    readings_mapIdx_eq_nil vlans_route
  simp only [plan, readings_append, base, made, ports, routes, vlans_services, vlans_firewall,
    List.nil_append, List.append_nil]

end DeviceConfig.FortiOs
