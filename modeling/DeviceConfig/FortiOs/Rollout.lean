import DeviceConfig.Address.Netmask
import DeviceConfig.FortiOs.Block
import DeviceConfig.Intent.Basic
import DeviceConfig.Rollout.Plan

/-!
Intents in the commands of FortiOS. A change is a block at the margin, and a block of the same table takes
it back.
-/

namespace DeviceConfig.FortiOs

open Address Intent Rollout

def mgmtAddress : String := "NETCFG-MGMT"

/-- The interface under the VLANs when no access interface is asked for. -/
def defaultVlanParent : String := "internal"

/-- A device can report to this many servers. -/
def maxSyslogServers : Nat := 4

def change (target : Section) (block undo : List String) : Mutation :=
  ⟨target, block, Text.unlines undo⟩

/-- A change of the settings of a table. -/
def changeSettings (target : Section) (path : String) (commands undo : List String) : Mutation :=
  change target (block path commands) (block path undo)

def quote (text : String) : String := s!"\"{text}\""

def base (intent : Intent) : Plan :=
  (intent.givenHostname?.map fun hostname =>
    changeSettings .base "system global" [s!"set hostname \"{hostname}\""]
      ["unset hostname"]).toList

/-- VLANs hang off the first access interface. -/
def vlanParent (intent : Intent) : String :=
  ((intent.interfaces.find? (·.role == .access)).map (·.name)).getD defaultVlanParent

def vlan (parent : String) (vlan : Vlan) : Mutation :=
  let name := quote s!"vlan{vlan.id}"
  let mask := dottedMask vlan.subnet
  let gateway := vlan.gateway.map fun gateway =>
    [s!"set ip {gateway} {mask}", "set allowaccess ping"]
  let label := vlan.name.map fun text => s!"set alias \"{text}\""
  change .vlan
    (entryBlock "system interface" name
      (["set vdom \"root\"", "set type vlan", s!"set vlanid {vlan.id}",
        s!"set interface \"{parent}\""] ++ gateway.getD [] ++ label.toList))
    (block "system interface" [s!"delete {name}"])

/-- The settings of an interface, each with the command that takes it back. -/
def interfaceSettings (iface : Interface) : List (String × String) :=
  let mask := dottedMask iface.subnetMask
  let role := match iface.role with
    | .uplink => "wan"
    | .access => "lan"
  (iface.description.map fun text => (s!"set alias \"{text}\"", "unset alias")).toList ++
    (iface.ipAddress.map fun ip => (s!"set ip {ip} {mask}", "unset ip")).toList ++
    [(s!"set role {role}", "unset role")] ++
    if iface.isEnabled then [] else [("set status down", "set status up")]

def interface (iface : Interface) : Mutation :=
  let settings := interfaceSettings iface
  change .interfaces
    (entryBlock "system interface" (quote iface.name) (settings.map (·.1)))
    (entryBlock "system interface" (quote iface.name) (settings.map (·.2)))

/-- The route at a place, counted from zero. -/
def route (place : Nat) (route : Route) : Mutation :=
  let number := place + 1
  let (net, maskSource) := routeTarget route.destination route.netmask
  let mask := dottedMask maskSource
  change .routing
    (entryBlock "router static" (toString number)
      [s!"set dst {net} {mask}", s!"set gateway {route.nextHop}"])
    (block "router static" [s!"delete {number}"])

/-- The table of the syslog server at a place, counted from zero. -/
def syslogPath (place : Nat) : String :=
  if place = 0 then "log syslogd setting" else s!"log syslogd{place + 1} setting"

def syslog (place : Nat) (server : String) : Mutation :=
  changeSettings .services (syslogPath place)
    ["set status enable", s!"set server \"{server}\""] ["set status disable"]

/-- The settings of the time servers, with an entry for each server. -/
def ntpLines (servers : List String) : List String :=
  ["set ntpsync enable", "set type custom", "config ntpserver"] ++
    (servers.mapIdx fun place server =>
      [s!"    edit {place + 1}", s!"        set server \"{server}\"", "    next"]).flatten ++
    ["end"]

def services (services : Services) : Plan :=
  let ssh : Plan := match services.ssh with
    | none => []
    | some ssh =>
      let password := if ssh.allowPassword then "enable" else "disable"
      [changeSettings .services "system global"
        ["set admin-ssh-port 22", s!"set admin-ssh-password {password}"]
        ["unset admin-ssh-port", "unset admin-ssh-password"],
       changeSettings .services "system global" ["set admin-telnet disable"]
        ["unset admin-telnet"]]
  let ntp : Plan :=
    if services.ntpServers.isEmpty then []
    else [changeSettings .services "system ntp" (ntpLines services.ntpServers) ["set type fortiguard"]]
  let dns : Plan := match services.dnsServers with
    | [] => []
    | primary :: others =>
      let secondary := others.head?
      [changeSettings .services "system dns"
        ([s!"set primary {primary}"] ++ (secondary.map fun server => s!"set secondary {server}").toList)
        (["unset primary"] ++ (secondary.map fun _ => "unset secondary").toList)]
  ssh ++ ntp ++ dns ++ (services.syslogServers.take maxSyslogServers).mapIdx syslog

/-- A policy for traffic to the device itself. -/
def localInPolicy (number : Nat) (source action : String) : List String :=
  [s!"edit {number}",
   "    set intf \"any\"",
   s!"    set srcaddr {source}",
   "    set dstaddr \"all\"",
   s!"    set action {action}",
   "    set service \"SSH\" \"HTTPS\"",
   "    set schedule \"always\"",
   "next"]

/-- Management is let in from one network and kept out from everywhere else. Without a source network
nothing is changed. -/
def firewall (firewall : Firewall) : Plan :=
  match firewall.enabled, firewall.allowMgmtFrom with
  | true, some source =>
    let address := quote mgmtAddress
    let net := network source
    let mask := dottedMask (some source)
    [change .firewall
      (entryBlock "firewall address" address [s!"set subnet {net} {mask}"])
      (block "firewall address" [s!"delete {address}"]),
     changeSettings .firewall "firewall local-in-policy"
      (localInPolicy 1 address "accept" ++ localInPolicy 2 (quote "all") "deny")
      ["delete 1", "delete 2"]]
  | _, _ => []

def plan (intent : Intent) : Plan :=
  base intent ++ intent.vlans.map (vlan (vlanParent intent)) ++
    intent.interfaces.map interface ++ intent.routing.staticRoutes.mapIdx route ++
    services intent.services ++ firewall intent.firewall

def verify (intent : Intent) : List String :=
  ["get system status", "show system interface", "get router info routing-table all"] ++
    if intent.firewall.enabled && intent.firewall.allowMgmtFrom.isSome then
      ["show firewall local-in-policy"]
    else []

end DeviceConfig.FortiOs
