import DeviceConfig.RouterOs.Rollout
import DeviceConfig.Proofs.Rollout.Blocks
import DeviceConfig.Proofs.Rollout.Layout

/-!
Changes for RouterOS. Each is a single command, and a plan brings them section by section.
-/

namespace DeviceConfig.RouterOs

open Rollout

theorem change_fits (target : Section) (command undo : String) :
    (change target command undo).Fits .mikrotik target := ⟨rfl, command, rfl⟩

theorem base_fits (intent : Intent) : (base intent).Fits .mikrotik .base := by
  refine fits_append.mpr ⟨fits_optional fun _ => change_fits _ _ _, ?_⟩
  split
  · simp [change_fits]
  · exact fits_nil

theorem vlan_fits (vlan : Intent.Vlan) : (RouterOs.vlan vlan).Fits .mikrotik .vlan :=
  fits_cons.mpr ⟨change_fits _ _ _, fits_optional fun _ => change_fits _ _ _⟩

theorem interface_fits (iface : Intent.Interface) :
    (RouterOs.interface iface).Fits .mikrotik .interfaces := by
  simp only [RouterOs.interface, fits_append]
  refine ⟨⟨⟨?_, ?_⟩, ?_⟩, ?_⟩
  · exact fits_optional fun _ => change_fits _ _ _
  · exact fits_optional fun _ => change_fits _ _ _
  · exact fits_optional fun _ => change_fits _ _ _
  · split
    · exact fits_nil
    · simp [change_fits]

theorem services_fits (services : Intent.Services) :
    (RouterOs.services services).Fits .mikrotik .services := by
  simp only [RouterOs.services, fits_append]
  refine ⟨⟨⟨?_, ?_⟩, ?_⟩, ?_⟩
  · split
    · exact fits_nil
    · simp [change_fits]
  · exact fits_optional fun _ => change_fits _ _ _
  · split
    · exact fits_nil
    · simp [change_fits]
  · split
    · exact fits_nil
    · simp [change_fits]

theorem firewall_fits (firewall : Intent.Firewall) :
    (RouterOs.firewall firewall).Fits .mikrotik .firewall := by
  unfold RouterOs.firewall
  split
  · simp [filterRule, change_fits]
  · exact fits_nil

/-- The changes of each section. -/
def part (intent : Intent) : Section → Plan
  | .base => base intent
  | .vlan => intent.vlans.flatMap vlan
  | .interfaces => intent.interfaces.flatMap interface
  | .routing => intent.routing.staticRoutes.map route
  | .services => services intent.services
  | .firewall => firewall intent.firewall

theorem plan_eq_ofParts (intent : Intent) : plan intent = .ofParts (part intent) := by
  simp [plan, Plan.ofParts, Section.all, part]

theorem part_fits (intent : Intent) (target : Section) :
    (part intent target).Fits .mikrotik target := by
  cases target with
  | base => exact base_fits intent
  | vlan => exact fits_flatMap vlan_fits
  | interfaces => exact fits_flatMap interface_fits
  | routing => exact fits_map fun _ => change_fits _ _ _
  | services => exact services_fits intent.services
  | firewall => exact firewall_fits intent.firewall

end DeviceConfig.RouterOs
