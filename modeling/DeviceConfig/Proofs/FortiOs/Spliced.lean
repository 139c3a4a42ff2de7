import DeviceConfig.Proofs.FortiOs.Rollout
import DeviceConfig.Proofs.Rollout.Spliced

/-!
What FortiOS is told in words of the intent.
-/

namespace DeviceConfig.FortiOs

open Address Intent Rollout Text

/-! ### Blocks -/

/-- The path and the lines of a table, whatever their depth. -/
theorem isLine_block {path : String} {lines : List String} :
    (∀ line ∈ block path lines, IsLine line) ↔ ∀ part ∈ path :: lines, IsLine part := by
  simp +decide [block, isLine_indented, or_imp, forall_and]

theorem isLine_entryBlock {path name : String} {settings : List String} :
    (∀ line ∈ entryBlock path name settings, IsLine line) ↔ ∀ part ∈ path :: name :: settings, IsLine part := by
  rw [entryBlock, isLine_block]
  simp +decide [isLine_indented, or_imp, forall_and]

theorem change_carries {target : Section} {lines undo texts : List String}
    (same : (∀ line ∈ lines, IsLine line) ↔ ∀ text ∈ texts, IsLine text) :
    (change target lines undo).Carries texts := same

/-- The texts about the VLANs. They name the interface under them. -/
def vlanTexts (parent : String) (vlan : Vlan) : List String :=
  [parent] ++ vlan.dotted ++ vlan.name.toList

/-- So many servers of each kind can be set. -/
def servicesTexts (services : Services) : List String :=
  services.ntpServers ++ services.dnsServers.take 2 ++ services.syslogServers.take maxSyslogServers

def firewallTexts (firewall : Firewall) : List String :=
  if firewall.enabled then
    firewall.allowMgmtFrom.toList.flatMap fun source => [network source, dottedMask (some source)]
  else []

/-- The texts that the commands hold. -/
def spliced (intent : Intent) : List String :=
  intent.givenHostname?.toList ++ intent.vlans.flatMap (vlanTexts (vlanParent intent)) ++
    intent.interfaces.flatMap (fun iface => [iface.name] ++ iface.description.toList ++ iface.dotted) ++
    intent.routing.staticRoutes.flatMap (·.dotted) ++ servicesTexts intent.services ++
    firewallTexts intent.firewall

theorem vlan_carries (parent : String) (vlan : Vlan) :
    (FortiOs.vlan parent vlan).Carries (vlanTexts parent vlan) := by
  apply change_carries
  rw [isLine_entryBlock, vlanTexts, Vlan.dotted]
  cases vlan.gateway <;> cases vlan.name <;> simp +decide [quote, isLine_toString_uInt16, and_assoc]

theorem interface_carries (iface : Interface) :
    (FortiOs.interface iface).Carries ([iface.name] ++ iface.description.toList ++ iface.dotted) := by
  apply change_carries
  rw [isLine_entryBlock, interfaceSettings, Interface.dotted]
  cases iface.role <;> cases iface.description <;> cases iface.ipAddress <;> cases iface.isEnabled <;>
    simp +decide [quote]

theorem route_carries (place : Nat) (route : Route) :
    (FortiOs.route place route).Carries route.dotted := by
  apply change_carries
  have number : IsLine (place + 1).repr := isLine_toString (place + 1)
  rw [isLine_entryBlock]
  simp +decide [Route.dotted, routeTarget, number, and_assoc]

theorem syslog_carries (place : Nat) (server : String) : (syslog place server).Carries [server] := by
  have number : IsLine (place + 1).repr := isLine_toString (place + 1)
  have path : IsLine (syslogPath place) := by
    unfold syslogPath
    split <;> simp +decide [number]
  apply change_carries
  rw [isLine_block]
  simp +decide [path]

theorem isLine_ntpLines {servers : List String} :
    (∀ line ∈ ntpLines servers, IsLine line) ↔ ∀ server ∈ servers, IsLine server := by
  have number (place : Nat) : IsLine (place + 1).repr := isLine_toString (place + 1)
  have entry (place : Nat) (server : String) : (∀ line ∈ [s!"    edit {place + 1}",
      s!"        set server \"{server}\"", "    next"], IsLine line) ↔ IsLine server := by
    simp +decide [number]
  rw [forall_mem_ntpLines entry]
  simp +decide

theorem services_carries (services : Services) :
    (FortiOs.services services).Carries (servicesTexts services) := by
  change (FortiOs.services services).Carries ([] ++ services.ntpServers ++ services.dnsServers.take 2 ++
    services.syslogServers.take maxSyslogServers)
  refine carries_append (carries_append (carries_append ?_ ?_) ?_) ?_
  · apply carries_of_lines
    cases services.ssh with
    | none => simp
    | some ssh => cases given : ssh.allowPassword <;> simp +decide [given]
  · split
    · next empty =>
      rw [List.isEmpty_iff.mp empty]
      exact carries_nil
    · refine carries_single (change_carries ?_)
      rw [isLine_block, List.forall_mem_cons, isLine_ntpLines]
      simp +decide
  · rcases services.dnsServers with _ | ⟨primary, _ | ⟨secondary, others⟩⟩
    · exact carries_nil
    · refine carries_single (change_carries ?_)
      rw [isLine_block]
      simp +decide
    · refine carries_single (change_carries ?_)
      rw [isLine_block]
      simp +decide
  · have whole := carries_mapIdx syslog_carries (services.syslogServers.take maxSyslogServers)
    rwa [List.flatMap_singleton'] at whole

theorem firewall_carries (firewall : Firewall) :
    (FortiOs.firewall firewall).Carries (firewallTexts firewall) := by
  unfold FortiOs.firewall firewallTexts
  cases firewall.enabled with
  | false => exact carries_nil
  | true =>
    cases firewall.allowMgmtFrom with
    | none => exact carries_nil
    | some source =>
      refine carries_cons (change_carries ?_) (carries_of_lines ?_)
      · rw [isLine_entryBlock]
        simp +decide [quote]
      · decide

theorem plan_carries (intent : Intent) : (plan intent).Carries (spliced intent) := by
  have base : (base intent).Carries intent.givenHostname?.toList := by
    refine carries_given (fun hostname => change_carries ?_) intent.givenHostname?
    rw [isLine_block]
    simp +decide
  refine carries_append (carries_append (carries_append (carries_append
    (carries_append base ?_) ?_) ?_) (services_carries _)) (firewall_carries _)
  · exact carries_map (vlan_carries (vlanParent intent)) intent.vlans
  · exact carries_map interface_carries intent.interfaces
  · exact carries_mapIdx route_carries intent.routing.staticRoutes

theorem lines_spliced {intent : Intent} (whole : ∀ text ∈ intent.texts, IsLine text) :
    ∀ text ∈ spliced intent, IsLine text := by
  obtain ⟨hostname, interfaces, vlans, routes, services, source⟩ := lines_intent whole
  simp only [Services.texts, List.forall_mem_append] at services
  obtain ⟨⟨ntp, dns⟩, syslog⟩ := services
  have parent : IsLine (vlanParent intent) := by
    unfold vlanParent
    cases found : intent.interfaces.find? (·.role == .access) with
    | none => decide
    | some iface => exact (lines_interface (interfaces iface (List.mem_of_find?_eq_some found))).1
  simp only [spliced, vlanTexts, servicesTexts, List.forall_mem_append, List.forall_mem_flatMap,
    List.forall_mem_singleton, Option.mem_toList]
  refine ⟨⟨⟨⟨⟨hostname, ?_⟩, ?_⟩, ?_⟩, ⟨ntp, ?_⟩, ?_⟩, ?_⟩
  · intro vlan member
    obtain ⟨name, _, dotted⟩ := lines_vlan (vlans vlan member)
    exact ⟨⟨parent, dotted⟩, name⟩
  · intro iface member
    obtain ⟨name, _, description, dotted⟩ := lines_interface (interfaces iface member)
    exact ⟨⟨name, description⟩, dotted⟩
  · exact fun route member => (lines_route (routes route member)).2.2
  · exact fun text member => dns text (List.mem_of_mem_take member)
  · exact fun text member => syslog text (List.mem_of_mem_take member)
  · intro text member
    unfold firewallTexts at member
    split at member
    · obtain ⟨raw, given, inside⟩ := List.mem_flatMap.mp member
      have line := source raw (Option.mem_toList.mp given)
      have masked : IsLine (dottedMask (some raw)) := isLine_dottedMask (by simpa using line)
      rcases List.mem_cons.mp inside with rfl | inside
      · exact isLine_network line
      · rwa [List.mem_singleton.mp inside]
    · cases member

end DeviceConfig.FortiOs
