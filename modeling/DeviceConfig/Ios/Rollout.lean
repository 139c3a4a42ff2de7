import DeviceConfig.Address.Netmask
import DeviceConfig.Intent.Basic
import DeviceConfig.Rollout.Plan

/-!
Intents in the commands of IOS. A change is one command at the margin with the commands of its block,
which are indented by a space.
-/

namespace DeviceConfig.Ios

open Address Intent Rollout

def mgmtAcl : String := "MGMT-IN"

def base (intent : Intent) : Plan :=
  (intent.givenHostname?.map fun hostname =>
    ⟨.base, [s!"hostname {hostname}"], "no hostname"⟩).toList

def vlan (vlan : Vlan) : Mutation :=
  let name := vlan.name.getD s!"VLAN{vlan.id}"
  ⟨.vlan, [s!"vlan {vlan.id}", s!" name {name}"], s!"no vlan {vlan.id}"⟩

/-- The interface that makes the device the gateway of a VLAN. -/
def gateway? (vlan : Vlan) : Option Mutation :=
  vlan.gateway.map fun gateway =>
    let mask := dottedMask vlan.subnet
    ⟨.interfaces,
      [s!"interface Vlan{vlan.id}", s!" ip address {gateway} {mask}", " no shutdown"],
      s!"no interface Vlan{vlan.id}"⟩

def interface (iface : Interface) : Mutation :=
  let mask := dottedMask iface.subnetMask
  let description := iface.description.map fun text => s!" description {text}"
  let access := iface.accessVlan?.map fun id =>
    [" switchport mode access", s!" switchport access vlan {id}"]
  let address := iface.ipAddress.map fun ip => s!" ip address {ip} {mask}"
  ⟨.interfaces,
    s!"interface {iface.name}" :: description.toList ++ access.getD [] ++ address.toList ++
      [if iface.isEnabled then " no shutdown" else " shutdown"],
    s!"default interface {iface.name}"⟩

def route (route : Route) : Mutation :=
  let (net, maskSource) := routeTarget route.destination route.netmask
  let mask := dottedMask maskSource
  let line := s!"ip route {net} {mask} {route.nextHop}"
  ⟨.routing, [line], s!"no {line}"⟩

/-- A command that is taken back by the same command after `no`. -/
def line (target : Section) (command : String) : Mutation := ⟨target, [command], s!"no {command}"⟩

def services (intent : Intent) : Plan :=
  let services := intent.services
  let ssh : Plan :=
    if intent.sshEnabled then
      [⟨.services, ["ip ssh version 2"], "no ip ssh version"⟩,
       ⟨.services, ["line vty 0 4", " transport input ssh"],
        "line vty 0 4\n transport input telnet"⟩]
    else []
  let syslog : Plan :=
    if services.syslogServers.isEmpty then []
    else services.syslogServers.map (fun server => line .services s!"logging host {server}") ++
      [⟨.services, ["logging trap informational"], "no logging trap"⟩]
  ssh ++ [⟨.services, ["no ip http server"], "ip http server"⟩] ++
    services.ntpServers.map (fun server => line .services s!"ntp server {server}") ++
    services.dnsServers.map (fun server => line .services s!"ip name-server {server}") ++ syslog

/-- The access list for management, and its use on the terminal lines. Without a source network the
list lets everything through and is not used. -/
def firewall (firewall : Firewall) : Plan :=
  if firewall.enabled then
    let header := s!"ip access-list extended {mgmtAcl}"
    match firewall.allowMgmtFrom with
    | none => [⟨.firewall, [header, " permit ip any any"], s!"no {header}"⟩]
    | some source =>
      let net := network source
      let wildcard := wildcardOfCidr source
      let permit :=
        if wildcard = "" then s!" permit ip host {net} any"
        else s!" permit ip {net} {wildcard} any"
      [⟨.firewall, [header, permit, " deny ip any any log"], s!"no {header}"⟩,
       ⟨.firewall, ["line vty 0 4", s!" access-class {mgmtAcl} in"],
        s!"line vty 0 4\n no access-class {mgmtAcl} in"⟩]
  else []

def plan (intent : Intent) : Plan :=
  base intent ++ intent.vlans.map vlan ++ intent.vlans.filterMap gateway? ++
    intent.interfaces.map interface ++ intent.routing.staticRoutes.map route ++
    services intent ++ firewall intent.firewall

def verify (intent : Intent) : List String :=
  ["show vlan brief", "show ip interface brief", "show ip route"] ++
    (if intent.sshEnabled then ["show ip ssh"] else []) ++
    (if intent.firewall.enabled then [s!"show access-lists {mgmtAcl}"] else [])

end DeviceConfig.Ios
