import DeviceConfig.Address.Netmask
import DeviceConfig.Intent.Basic
import DeviceConfig.Rollout.Plan

/-!
Intents in the commands of RouterOS. Every change is a single command.
-/

namespace DeviceConfig.RouterOs

open Address Intent Rollout

def bridge : String := "br0"

/-- The name of a device that was never given one. -/
def defaultIdentity : String := "MikroTik"

/-- Where management comes in when no source network is given. -/
def fallbackMgmtInterface : String := "ether1"

/-- A change of one command. -/
def change (target : Section) (command undo : String) : Mutation := ⟨target, [command], undo⟩

/-- VLANs and access ports hang off a bridge. -/
def needsBridge (intent : Intent) : Bool :=
  !intent.vlans.isEmpty || intent.interfaces.any (·.accessVlan?.isSome)

def base (intent : Intent) : Plan :=
  (intent.givenHostname?.map fun hostname =>
    change .base s!"/system identity set name={hostname}"
      s!"/system identity set name={defaultIdentity}").toList ++
  if needsBridge intent then
    [change .base s!"/interface bridge add name={bridge} vlan-filtering=yes"
      s!"/interface bridge remove [find name={bridge}]"]
  else []

/-- A VLAN comes before the address on it, so a rollback takes the address away first. -/
def vlan (vlan : Vlan) : Plan :=
  let name := s!"vlan{vlan.id}"
  let comment := vlan.name.elim "" fun text => s!" comment=\"{text}\""
  change .vlan s!"/interface vlan add name={name} vlan-id={vlan.id} interface={bridge}{comment}"
      s!"/interface vlan remove [find name={name}]" ::
    (vlan.gateway.map fun gateway =>
      let length := prefixLength vlan.subnet
      change .vlan s!"/ip address add address={gateway}/{length} interface={name}"
        s!"/ip address remove [find interface={name}]").toList

def interface (iface : Interface) : Plan :=
  let name := iface.name
  let address := iface.ipAddress.map fun ip =>
    let address := s!"{ip}/" ++ prefixLength iface.subnetMask
    change .interfaces s!"/ip address add address={address} interface={name}"
      s!"/ip address remove [find address=\"{address}\" interface={name}]"
  let access := iface.accessVlan?.map fun id =>
    change .interfaces s!"/interface bridge port add bridge={bridge} interface={name} pvid={id}"
      s!"/interface bridge port remove [find interface={name}]"
  let comment := iface.description.map fun text =>
    change .interfaces s!"/interface set [find name={name}] comment=\"{text}\""
      s!"/interface set [find name={name}] comment=\"\""
  let disable : Plan :=
    if iface.isEnabled then []
    else [change .interfaces s!"/interface disable {name}" s!"/interface enable {name}"]
  address.toList ++ access.toList ++ comment.toList ++ disable

def route (route : Route) : Mutation :=
  let (net, maskSource) := routeTarget route.destination route.netmask
  let target := s!"{net}/" ++ prefixLength maskSource
  change .routing s!"/ip route add dst-address={target} gateway={route.nextHop}"
    s!"/ip route remove [find dst-address={target} gateway={route.nextHop}]"

/-- The command that sets the one or two time servers a device can have. -/
def ntpClient? : List String → Option String
  | [] => none
  | [primary] => some s!"/system ntp client set enabled=yes primary-ntp={primary}"
  | primary :: secondary :: _ =>
    some s!"/system ntp client set enabled=yes primary-ntp={primary} secondary-ntp={secondary}"

def services (services : Services) : Plan :=
  let ssh : Plan := match services.ssh with
    | none => []
    | some ssh =>
      let (now, before) := if ssh.enabled then ("no", "yes") else ("yes", "no")
      [change .services s!"/ip service set ssh disabled={now}"
        s!"/ip service set ssh disabled={before}",
       change .services "/ip service set telnet disabled=yes"
        "/ip service set telnet disabled=no"]
  let ntp := (ntpClient? services.ntpServers).map fun command =>
    change .services command "/system ntp client set enabled=no"
  let dns : Plan :=
    if services.dnsServers.isEmpty then []
    else [change .services ("/ip dns set servers=" ++ Text.join "," services.dnsServers)
      "/ip dns set servers=\"\""]
  let syslog : Plan := match services.syslogServers with
    | [] => []
    | remote :: _ =>
      [change .services s!"/system logging action set remote remote={remote}"
        "/system logging action set remote remote=0.0.0.0",
       change .services "/system logging add topics=info action=remote"
        "/system logging remove [find topics=info action=remote]"]
  ssh ++ ntp.toList ++ dns ++ syslog

/-- A filter rule, marked by a comment so that it can be removed alone. -/
def filterRule (tag body : String) : Mutation :=
  change .firewall s!"/ip firewall filter add chain=input {body} comment={tag}"
    s!"/ip firewall filter remove [find comment={tag}]"

def firewall (firewall : Firewall) : Plan :=
  if firewall.enabled then
    let source := match firewall.allowMgmtFrom with
      | some source => s!"src-address={source}"
      | none => s!"in-interface={fallbackMgmtInterface}"
    [filterRule "netcfg-established" "connection-state=established,related action=accept",
     filterRule "netcfg-invalid" "connection-state=invalid action=drop",
     filterRule "netcfg-mgmt" s!"{source} action=accept",
     filterRule "netcfg-drop" "action=drop"]
  else []

def plan (intent : Intent) : Plan :=
  base intent ++ intent.vlans.flatMap vlan ++ intent.interfaces.flatMap interface ++
    intent.routing.staticRoutes.map route ++ services intent.services ++ firewall intent.firewall

def verify (intent : Intent) : List String :=
  ["/interface vlan print", "/ip address print", "/ip route print"] ++
    if intent.firewall.enabled then ["/ip firewall filter print"] else []

end DeviceConfig.RouterOs
