import DeviceConfig.Ios.Rollout
import DeviceConfig.Proofs.Rollout.Blocks
import DeviceConfig.Proofs.Rollout.Layout

/-!
Changes for IOS. Each is one command at the margin with the commands of its mode below, and a plan brings them
section by section.
-/

namespace DeviceConfig.Ios

open Rollout

variable {target : Section}

theorem fits_margin {header : String} {body : List String} {undo : String}
    (margin : isIndented header = false) (indented : ∀ inner ∈ body, isIndented inner) :
    Mutation.Fits .cisco target ⟨target, header :: body, undo⟩ :=
  ⟨rfl, header, body, rfl, margin, indented⟩

theorem vlan_fits (vlan : Intent.Vlan) : (Ios.vlan vlan).Fits .cisco .vlan :=
  fits_margin (by simp [isIndented]) (by simp [isIndented])

theorem gateway_fits {vlan : Intent.Vlan} {mutation : Mutation} (made : gateway? vlan = some mutation) :
    mutation.Fits .cisco .interfaces := by
  obtain ⟨gateway, _, rfl⟩ := Option.map_eq_some_iff.mp made
  exact fits_margin (by simp [isIndented]) (by simp [isIndented])

/-- The lines that may stand below the name of an interface. -/
inductive InterfaceSetting : String → Prop
  | description (text : String) : InterfaceSetting s!" description {text}"
  | access : InterfaceSetting " switchport mode access"
  | vlan (id : UInt16) : InterfaceSetting s!" switchport access vlan {id}"
  | address (ip mask : String) : InterfaceSetting s!" ip address {ip} {mask}"
  | enabled : InterfaceSetting " no shutdown"
  | disabled : InterfaceSetting " shutdown"

theorem interface_commands (iface : Intent.Interface) :
    ∃ settings, (Ios.interface iface).commands = s!"interface {iface.name}" :: settings ∧
      ∀ setting ∈ settings, InterfaceSetting setting := by
  refine ⟨_, rfl, fun setting member => ?_⟩
  simp only [List.append_eq, List.mem_append, Option.mem_toList, Option.map_eq_some_iff,
    List.mem_singleton] at member
  rcases member with ((⟨text, _, rfl⟩ | access) | ⟨ip, _, rfl⟩) | rfl
  · exact .description text
  · cases given : iface.accessVlan? <;> simp [given] at access
    rcases access with rfl | rfl
    · exact .access
    · exact .vlan _
  · exact .address ip _
  · split
    · exact .enabled
    · exact .disabled

theorem interface_fits (iface : Intent.Interface) :
    (Ios.interface iface).Fits .cisco .interfaces := by
  obtain ⟨settings, same, each⟩ := interface_commands iface
  refine ⟨rfl, s!"interface {iface.name}", settings, same, by simp [isIndented], fun inner member => ?_⟩
  cases each inner member <;> simp [isIndented]

theorem route_fits (route : Intent.Route) : (Ios.route route).Fits .cisco .routing :=
  fits_margin (by simp [isIndented]) (by simp)

theorem services_fits (intent : Intent) : (services intent).Fits .cisco .services := by
  have single : ∀ command undo, isIndented command = false →
      Mutation.Fits .cisco .services ⟨.services, [command], undo⟩ :=
    fun command undo margin => fits_margin margin (by simp)
  have servers : ∀ (word : String → String) (names : List String), (∀ name, isIndented (word name) = false) →
      Plan.Fits .cisco .services (names.map fun name => line .services (word name)) :=
    fun word names margin => fits_map fun name => single _ _ (margin name)
  simp only [services, fits_append]
  refine ⟨⟨⟨⟨?_, ?_⟩, ?_⟩, ?_⟩, ?_⟩
  · split
    · simp only [fits_cons, fits_nil, and_true]
      exact ⟨single _ _ (by decide), fits_margin (by decide) (by decide)⟩
    · exact fits_nil
  · simp only [fits_cons, fits_nil, and_true]
    exact single _ _ (by decide)
  · exact servers _ _ fun name => by simp [isIndented]
  · exact servers _ _ fun name => by simp [isIndented]
  · split
    · exact fits_nil
    · simp only [fits_append, fits_cons, fits_nil, and_true]
      exact ⟨servers _ _ fun name => by simp [isIndented], single _ _ (by decide)⟩

theorem firewall_fits (firewall : Intent.Firewall) :
    (Ios.firewall firewall).Fits .cisco .firewall := by
  have header : isIndented s!"ip access-list extended {mgmtAcl}" = false := by simp [isIndented]
  unfold Ios.firewall
  split
  · split
    · simp only [fits_cons, fits_nil, and_true]
      exact fits_margin header (by decide)
    · simp only [fits_cons, fits_nil, and_true]
      refine ⟨fits_margin header ?_, fits_margin (by decide) (by simp [isIndented])⟩
      intro inner member
      simp only [List.mem_cons, List.not_mem_nil, or_false] at member
      rcases member with rfl | rfl
      · split <;> simp [isIndented]
      · decide
  · exact fits_nil

/-- The changes of each section. -/
def part (intent : Intent) : Section → Plan
  | .base => base intent
  | .vlan => intent.vlans.map vlan
  | .interfaces => intent.vlans.filterMap gateway? ++ intent.interfaces.map interface
  | .routing => intent.routing.staticRoutes.map route
  | .services => services intent
  | .firewall => firewall intent.firewall

theorem plan_eq_ofParts (intent : Intent) : plan intent = .ofParts (part intent) := by
  simp [plan, Plan.ofParts, Section.all, part]

theorem part_fits (intent : Intent) (target : Section) :
    (part intent target).Fits .cisco target := by
  cases target with
  | base => exact fits_optional fun _ => fits_margin (by simp [isIndented]) (by simp)
  | vlan => exact fits_map vlan_fits
  | interfaces =>
    refine fits_append.mpr ⟨?_, fits_map interface_fits⟩
    intro mutation member
    obtain ⟨vlan, _, made⟩ := List.mem_filterMap.mp member
    exact gateway_fits made
  | routing => exact fits_map route_fits
  | services => exact services_fits intent
  | firewall => exact firewall_fits intent.firewall

end DeviceConfig.Ios
