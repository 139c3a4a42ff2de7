import DeviceConfig.Proofs.Rollout.Spliced
import DeviceConfig.RouterOs.Rollout

/-!
What RouterOS is told in words of the intent.
-/

namespace DeviceConfig.RouterOs

open Address Intent Rollout Text

def interfaceTexts (iface : Interface) : List String :=
  iface.ipAddress.toList.flatMap (fun ip => [ip, iface.name]) ++
    iface.accessVlan?.toList.flatMap (fun _ => [iface.name]) ++
    iface.description.toList.flatMap (fun text => [iface.name, text]) ++
    if iface.isEnabled then [] else [iface.name]

/-- A device has at most two time servers and one syslog server. -/
def servicesTexts (services : Services) : List String :=
  services.ntpServers.take 2 ++ services.dnsServers ++ services.syslogServers.take 1

def firewallTexts (firewall : Firewall) : List String :=
  if firewall.enabled then firewall.allowMgmtFrom.toList else []

/-- The texts that the commands hold. -/
def spliced (intent : Intent) : List String :=
  intent.givenHostname?.toList ++
    intent.vlans.flatMap (fun vlan => vlan.name.toList ++ vlan.gateway.toList) ++
    intent.interfaces.flatMap interfaceTexts ++
    intent.routing.staticRoutes.flatMap (fun route => [network route.destination, route.nextHop]) ++
    servicesTexts intent.services ++ firewallTexts intent.firewall

theorem change_carries {target : Section} {command undo : String} {texts : List String}
    (same : IsLine command ↔ ∀ text ∈ texts, IsLine text) :
    (change target command undo).Carries texts := by
  rw [Mutation.Carries, change, List.forall_mem_singleton, same]

theorem base_carries (intent : Intent) : (base intent).Carries intent.givenHostname?.toList := by
  refine carries_append_lines (carries_given (fun hostname => change_carries ?_) _) ?_
  · simp +decide
  · split <;> decide

theorem vlan_carries (vlan : Vlan) :
    (RouterOs.vlan vlan).Carries (vlan.name.toList ++ vlan.gateway.toList) := by
  have number := isLine_toString_uInt16 vlan.id
  have length := isLine_prefixLength vlan.subnet
  refine carries_cons (change_carries ?_) (carries_given (fun gateway => change_carries ?_) vlan.gateway)
  · cases vlan.name <;> simp +decide [number]
  · simp +decide [number, length]

theorem interface_carries (iface : Interface) :
    (RouterOs.interface iface).Carries (interfaceTexts iface) := by
  have length := isLine_prefixLength iface.subnetMask
  refine carries_append (carries_append (carries_append ?_ ?_) ?_) ?_
  · refine carries_optional (fun ip => change_carries ?_) iface.ipAddress
    simp +decide [length]
  · refine carries_optional (fun id => change_carries ?_) iface.accessVlan?
    simp +decide [isLine_toString_uInt16]
  · refine carries_optional (fun text => change_carries ?_) iface.description
    simp +decide
  · refine carries_ite carries_nil (carries_single (change_carries ?_))
    simp +decide

theorem route_carries (route : Route) :
    (RouterOs.route route).Carries [network route.destination, route.nextHop] := by
  apply change_carries
  simp +decide [isLine_prefixLength]

theorem services_carries (services : Services) :
    (RouterOs.services services).Carries (servicesTexts services) := by
  change (RouterOs.services services).Carries ([] ++ services.ntpServers.take 2 ++ services.dnsServers ++
    services.syslogServers.take 1)
  refine carries_append (carries_append (carries_append ?_ ?_) ?_) ?_
  · apply carries_of_lines
    cases services.ssh with
    | none => decide
    | some ssh => cases given : ssh.enabled <;> simp +decide [given, change]
  · rcases services.ntpServers with _ | ⟨primary, _ | ⟨secondary, others⟩⟩
    · exact carries_nil
    · exact carries_single (change_carries (by simp +decide))
    · exact carries_single (change_carries (by simp +decide))
  · split
    · next empty =>
      rw [List.isEmpty_iff.mp empty]
      exact carries_nil
    · have comma : IsLine "," := by decide
      exact carries_single (change_carries (by simp +decide [isLine_join comma]))
  · rcases services.syslogServers with _ | ⟨remote, others⟩
    · exact carries_nil
    · change Plan.Carries _ ([remote] ++ [])
      refine carries_cons (change_carries ?_) (carries_of_lines ?_)
      · simp +decide
      · decide

theorem filterRule_carries {tag body : String} {texts : List String} (tagged : IsLine tag)
    (same : IsLine body ↔ ∀ text ∈ texts, IsLine text) : (filterRule tag body).Carries texts := by
  apply change_carries
  simp +decide [tagged, same]

theorem firewall_carries (firewall : Firewall) :
    (RouterOs.firewall firewall).Carries (firewallTexts firewall) := by
  have fixed : ∀ tag body, IsLine tag → IsLine body → (filterRule tag body).Carries [] :=
    fun tag body tagged whole => filterRule_carries tagged (iff_of_true whole (by simp))
  have established := fixed "netcfg-established" "connection-state=established,related action=accept"
    (by decide) (by decide)
  have invalid := fixed "netcfg-invalid" "connection-state=invalid action=drop" (by decide) (by decide)
  have drop := fixed "netcfg-drop" "action=drop" (by decide) (by decide)
  unfold RouterOs.firewall firewallTexts
  refine carries_ite ?_ carries_nil
  cases firewall.allowMgmtFrom with
  | none =>
    have mgmt := fixed "netcfg-mgmt" "in-interface=ether1 action=accept" (by decide) (by decide)
    exact carries_cons established (carries_cons invalid (carries_cons mgmt (carries_single drop)))
  | some source =>
    have mgmt : (filterRule "netcfg-mgmt" s!"src-address={source} action=accept").Carries [source] :=
      filterRule_carries (by decide) (by simp +decide)
    exact carries_cons established (carries_cons invalid (carries_cons mgmt (carries_single drop)))

theorem plan_carries (intent : Intent) : (plan intent).Carries (spliced intent) := by
  refine carries_append (carries_append (carries_append (carries_append
    (carries_append (base_carries intent) ?_) ?_) ?_) (services_carries _)) (firewall_carries _)
  · exact carries_flatMap vlan_carries intent.vlans
  · exact carries_flatMap interface_carries intent.interfaces
  · exact carries_map route_carries intent.routing.staticRoutes

theorem lines_spliced {intent : Intent} (whole : ∀ text ∈ intent.texts, IsLine text) :
    ∀ text ∈ spliced intent, IsLine text := by
  obtain ⟨hostname, interfaces, vlans, routes, services, source⟩ := lines_intent whole
  simp only [Services.texts, List.forall_mem_append] at services
  obtain ⟨⟨ntp, dns⟩, syslog⟩ := services
  simp only [spliced, servicesTexts, List.forall_mem_append, List.forall_mem_flatMap, Option.mem_toList]
  refine ⟨⟨⟨⟨⟨hostname, ?_⟩, ?_⟩, ?_⟩, ⟨?_, dns⟩, ?_⟩, ?_⟩
  · intro vlan member
    obtain ⟨name, gateway, _⟩ := lines_vlan (vlans vlan member)
    exact ⟨name, gateway⟩
  · intro iface member
    obtain ⟨name, ip, description, _⟩ := lines_interface (interfaces iface member)
    simp only [interfaceTexts, List.forall_mem_append, List.forall_mem_flatMap, Option.mem_toList]
    refine ⟨⟨⟨?_, ?_⟩, ?_⟩, ?_⟩
    · exact fun text given => by simp [ip text given, name]
    · exact fun _ _ => by simp [name]
    · exact fun text given => by simp [description text given, name]
    · split <;> simp [name]
  · intro route member
    obtain ⟨target, nextHop, _⟩ := lines_route (routes route member)
    simp [target, nextHop]
  · exact fun text member => ntp text (List.mem_of_mem_take member)
  · exact fun text member => syslog text (List.mem_of_mem_take member)
  · intro text member
    unfold firewallTexts at member
    split at member
    · exact source text (Option.mem_toList.mp member)
    · cases member

end DeviceConfig.RouterOs
