import DeviceConfig.Ios.Rollout
import DeviceConfig.Proofs.Rollout.Spliced

/-!
What IOS is told in words of the intent.
-/

namespace DeviceConfig.Ios

open Address Intent Rollout Text

def firewallTexts (firewall : Firewall) : List String :=
  if firewall.enabled then firewall.allowMgmtFrom.toList.map network else []

/-- The texts that the commands hold. -/
def spliced (intent : Intent) : List String :=
  intent.givenHostname?.toList ++ intent.vlans.flatMap (·.name.toList) ++ intent.vlans.flatMap (·.dotted) ++
    intent.interfaces.flatMap (fun iface => [iface.name] ++ iface.description.toList ++ iface.dotted) ++
    intent.routing.staticRoutes.flatMap (·.dotted) ++ intent.services.texts ++
    firewallTexts intent.firewall

theorem vlan_carries (vlan : Vlan) : (Ios.vlan vlan).Carries vlan.name.toList := by
  cases given : vlan.name <;>
    simp +decide [Mutation.Carries, Ios.vlan, given, isLine_toString_uInt16]

theorem gateway_carries (vlan : Vlan) : Plan.Carries (gateway? vlan).toList vlan.dotted := by
  refine carries_optional (fun gateway => ?_) vlan.gateway
  simp +decide [Mutation.Carries, isLine_toString_uInt16]

theorem interface_carries (iface : Interface) :
    (Ios.interface iface).Carries ([iface.name] ++ iface.description.toList ++ iface.dotted) := by
  have state : IsLine (if iface.isEnabled then " no shutdown" else " shutdown") := by
    split <;> decide
  unfold Mutation.Carries Ios.interface Interface.dotted
  cases iface.description <;> cases iface.accessVlan? <;> cases iface.ipAddress <;>
    simp +decide [state, isLine_toString_uInt16]

theorem route_carries (route : Route) : (Ios.route route).Carries route.dotted := by
  simp +decide [Mutation.Carries, Ios.route, Route.dotted, routeTarget, and_assoc]

theorem servers_carry {word : String → String} (same : ∀ name, IsLine (word name) ↔ IsLine name)
    (names : List String) : Plan.Carries (names.map fun name => line .services (word name)) names := by
  have each : ∀ name, (line .services (word name)).Carries [name] := by
    intro name
    simp [Mutation.Carries, line, same]
  have whole := carries_map each names
  rwa [List.flatMap_singleton'] at whole

theorem services_carries (intent : Intent) :
    (Ios.services intent).Carries intent.services.texts := by
  change (Ios.services intent).Carries ([] ++ [] ++ intent.services.ntpServers ++
    intent.services.dnsServers ++ intent.services.syslogServers)
  refine carries_append (carries_append (carries_append (carries_append ?_ ?_) ?_) ?_) ?_
  · apply carries_of_lines
    split <;> decide
  · exact carries_of_lines (by decide)
  · exact servers_carry (fun name => by simp +decide) _
  · exact servers_carry (fun name => by simp +decide) _
  · split
    · next empty =>
      rw [List.isEmpty_iff.mp empty]
      exact carries_nil
    · exact carries_append_lines (servers_carry (fun name => by simp +decide) _) (by decide)

theorem firewall_carries (firewall : Firewall) :
    (Ios.firewall firewall).Carries (firewallTexts firewall) := by
  unfold Ios.firewall firewallTexts
  refine carries_ite ?_ carries_nil
  cases firewall.allowMgmtFrom with
  | none => exact carries_of_lines (by decide)
  | some source =>
    have wildcard := isLine_wildcardOfCidr source
    have permit : IsLine (if wildcardOfCidr source = "" then " permit ip host " ++ network source ++ " any"
        else " permit ip " ++ network source ++ " " ++ wildcardOfCidr source ++ " any") ↔
          IsLine (network source) := by
      split <;> simp +decide [wildcard]
    simp +decide [Plan.Carries, permit]

theorem plan_carries (intent : Intent) : (plan intent).Carries (spliced intent) := by
  have base : (base intent).Carries intent.givenHostname?.toList := by
    refine carries_given (fun hostname => ?_) intent.givenHostname?
    simp +decide [Mutation.Carries]
  have gateways : Plan.Carries (intent.vlans.filterMap gateway?) (intent.vlans.flatMap (·.dotted)) := by
    rw [List.filterMap_eq_flatMap_toList]
    exact carries_flatMap gateway_carries intent.vlans
  refine carries_append (carries_append (carries_append (carries_append (carries_append
    (carries_append base ?_) gateways) ?_) ?_) (services_carries intent)) (firewall_carries _)
  · exact carries_map vlan_carries intent.vlans
  · exact carries_map interface_carries intent.interfaces
  · exact carries_map route_carries intent.routing.staticRoutes

theorem lines_spliced {intent : Intent} (whole : ∀ text ∈ intent.texts, IsLine text) :
    ∀ text ∈ spliced intent, IsLine text := by
  obtain ⟨hostname, interfaces, vlans, routes, services, source⟩ := lines_intent whole
  simp only [spliced, List.forall_mem_append, List.forall_mem_flatMap, List.forall_mem_singleton,
    Option.mem_toList]
  refine ⟨⟨⟨⟨⟨⟨hostname, ?_⟩, ?_⟩, ?_⟩, ?_⟩, services⟩, ?_⟩
  · exact fun vlan member => (lines_vlan (vlans vlan member)).1
  · exact fun vlan member => (lines_vlan (vlans vlan member)).2.2
  · intro iface member
    obtain ⟨name, _, description, dotted⟩ := lines_interface (interfaces iface member)
    exact ⟨⟨name, description⟩, dotted⟩
  · exact fun route member => (lines_route (routes route member)).2.2
  · intro text member
    unfold firewallTexts at member
    split at member
    · obtain ⟨raw, given, rfl⟩ := List.mem_map.mp member
      exact isLine_network (source raw (Option.mem_toList.mp given))
    · cases member

end DeviceConfig.Ios
