import DeviceConfig.Ios.Rollout
import DeviceConfig.Proofs.Rollout.Readings
import DeviceConfig.Proofs.Text.Digits

/-!
VLANs in the commands of IOS: those of the intent, once more for each gateway, and those that come with an
interface, by its name or as an access port.
-/

namespace DeviceConfig.Ios

open Rollout Text

/-- The VLAN whose own interface has the name. -/
def vlanNamed? (name : String) : Option Nat :=
  match words name with
  | [word] => numberBehind? "Vlan" word
  | _ => none

/-- The VLAN that a line makes, gives an interface, or assigns to a port. -/
def vlanIn? (line : String) : Option Nat :=
  match words line with
  | ["vlan", id] => numberBehind? "" id
  | ["interface", name] => numberBehind? "Vlan" name
  | ["switchport", "access", "vlan", id] => numberBehind? "" id
  | _ => none

def portVlans (iface : Intent.Interface) : List Nat :=
  (vlanNamed? iface.name).toList ++ iface.accessVlan?.toList.map (·.toNat)

/-! ### Lines that name a VLAN -/

theorem vlanIn?_vlan (id : UInt16) : vlanIn? s!"vlan {id}" = some id.toNat := by
  have words : words s!"vlan {id}" = ["vlan", "" ++ toString id] := by
    rw [← words_number "" (by decide)]
    simp [Text.words, splitOn]
  rw [vlanIn?, words]
  exact numberBehind?_append "" id

theorem vlanIn?_interface (name : String) : vlanIn? s!"interface {name}" = vlanNamed? name := by
  have words : words s!"interface {name}" = "interface" :: words name := by
    simp [Text.words, splitOn]
  rw [vlanIn?, words, vlanNamed?]
  split <;> simp_all

theorem vlanIn?_gateway (id : UInt16) : vlanIn? s!"interface Vlan{id}" = some id.toNat := by
  have words : words s!"interface Vlan{id}" = ["interface", "Vlan" ++ toString id] := by
    rw [← words_number "Vlan" (by decide)]
    simp [Text.words, splitOn]
  rw [vlanIn?, words]
  exact numberBehind?_append "Vlan" id

theorem vlanIn?_access (id : UInt16) :
    vlanIn? (" switchport access vlan " ++ toString id) = some id.toNat := by
  have words : words (" switchport access vlan " ++ toString id) =
      ["switchport", "access", "vlan", "" ++ toString id] := by
    rw [← words_number "" (by decide)]
    simp [Text.words, splitOn]
  rw [vlanIn?, words]
  exact numberBehind?_append "" id

theorem vlanIn?_address (address mask : String) :
    vlanIn? (" ip address " ++ address ++ " " ++ mask) = none := by
  simp [vlanIn?, words, splitOn]

/-! ### Changes -/

theorem vlans_vlan (vlan : Intent.Vlan) :
    (Ios.vlan vlan).commands.filterMap vlanIn? = [vlan.id.toNat] := by
  have name : ∀ name : String, vlanIn? s!" name {name}" = none := by
    intro name
    simp [vlanIn?, words, splitOn]
  simp only [Ios.vlan, List.filterMap_cons, vlanIn?_vlan, name, List.filterMap_nil]

theorem vlans_gateway {vlan : Intent.Vlan} {mutation : Mutation}
    (made : gateway? vlan = some mutation) :
    mutation.commands.filterMap vlanIn? = [vlan.id.toNat] := by
  have address : ∀ address mask : String, vlanIn? s!" ip address {address} {mask}" = none :=
    vlanIn?_address
  have up : vlanIn? " no shutdown" = none := by decide
  obtain ⟨gateway, _, rfl⟩ := Option.map_eq_some_iff.mp made
  simp only [List.filterMap_cons, vlanIn?_gateway, address, up, List.filterMap_nil]

theorem vlans_gateways (vlans : List Intent.Vlan) :
    Plan.readings vlanIn? (vlans.filterMap gateway?) =
      (vlans.filter (·.gateway.isSome)).map (·.id.toNat) := by
  induction vlans with
  | nil => rfl
  | cons vlan vlans ih =>
    cases made : gateway? vlan with
    | none =>
      have absent : vlan.gateway = none := by simpa [gateway?] using made
      simp [made, absent, ih]
    | some mutation =>
      obtain ⟨gateway, given, _⟩ := Option.map_eq_some_iff.mp made
      simp [made, given, ih, vlans_gateway made]

theorem vlans_interface (iface : Intent.Interface) :
    (Ios.interface iface).commands.filterMap vlanIn? = portVlans iface := by
  have description : ∀ text : String, vlanIn? (" description " ++ text) = none := by
    intro text
    simp [vlanIn?, words, splitOn]
  have mode : vlanIn? " switchport mode access" = none := by decide
  have state : vlanIn? (if iface.isEnabled then " no shutdown" else " shutdown") = none := by
    split <;> decide
  rw [portVlans, Ios.interface, List.cons_append, List.cons_append, List.cons_append,
    filterMap_line, vlanIn?_interface]
  congr 1
  simp only [List.filterMap_append, filterMap_line, state]
  cases iface.description <;> cases iface.accessVlan? <;> cases iface.ipAddress <;>
    simp [description, vlanIn?_address, mode, vlanIn?_access]

theorem vlans_services (intent : Intent) : (services intent).readings vlanIn? = [] := by
  simp only [services, readings_append, List.append_eq_nil_iff, readings_map]
  refine ⟨⟨⟨⟨?_, ?_⟩, ?_⟩, ?_⟩, ?_⟩
  · split <;> decide
  · decide
  · simp [line, vlanIn?, words, splitOn]
  · simp [line, vlanIn?, words, splitOn]
  · split
    · rfl
    · simp [line, vlanIn?, words, splitOn, readings_map]

theorem vlans_firewall (firewall : Intent.Firewall) :
    (Ios.firewall firewall).readings vlanIn? = [] := by
  unfold Ios.firewall
  split
  · split
    · decide
    · simp only [readings_cons, readings_nil, List.append_nil, List.append_eq_nil_iff]
      constructor
      · split <;> simp [vlanIn?, words, splitOn]
      · decide
  · rfl

theorem vlans_plan (intent : Intent) :
    (plan intent).readings vlanIn? =
      intent.vlans.map (·.id.toNat) ++ (intent.vlans.filter (·.gateway.isSome)).map (·.id.toNat) ++
        intent.interfaces.flatMap portVlans := by
  have base : (base intent).readings vlanIn? = [] := by
    unfold Ios.base
    cases intent.givenHostname? with
    | none => rfl
    | some hostname => simp [vlanIn?, words, splitOn]
  have made : Plan.readings vlanIn? (intent.vlans.map vlan) = intent.vlans.map (·.id.toNat) := by
    rw [readings_map, List.map_eq_flatMap]
    exact List.flatMap_congr fun vlan _ => vlans_vlan vlan
  have ports : Plan.readings vlanIn? (intent.interfaces.map interface) =
      intent.interfaces.flatMap portVlans := by
    rw [readings_map]
    exact List.flatMap_congr fun iface _ => vlans_interface iface
  have routes : Plan.readings vlanIn? (intent.routing.staticRoutes.map route) = [] := by
    simp [readings_map, Ios.route, vlanIn?, words, splitOn]
  simp only [plan, readings_append, base, made, vlans_gateways, ports, routes, vlans_services,
    vlans_firewall, List.nil_append, List.append_nil]

end DeviceConfig.Ios
