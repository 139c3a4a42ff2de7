import DeviceConfig.FortiOs.Writer
import DeviceConfig.Snippet.Params
import DeviceConfig.Snippet.Script
import DeviceConfig.Text.Split

/-!
Scripts of FortiOS commands: calls of the writer of blocks.
-/

namespace DeviceConfig.FortiOs

open Snippet

def dnsScript (servers : List String) : Script Call Unit := do
  if let some primary := servers[0]? then
    emit (.config "system dns")
    emit (.set s!"primary {primary}")
    if let some secondary := servers[1]? then
      emit (.set s!"secondary {secondary}")
    emit .close

def ntpScript (servers : List String) : Script Call Unit := do
  unless servers.isEmpty do
    emitAll [.config "system ntp", .set "ntpsync enable", .set "type custom", .config "ntpserver"]
    for (server, place) in servers.zipIdx do
      emitAll [.edit (toString (place + 1)), .set s!"server \"{server}\"", .next]
    emitAll [.close, .close]

def policyScript (number : Nat) (source target address action : String) (nat : Bool) :
    Script Call Unit := do
  emitAll
    [.config "firewall policy",
     .edit (toString number),
     .set s!"srcintf \"{source}\"",
     .set s!"dstintf \"{target}\"",
     .set s!"srcaddr {address}",
     .set s!"dstaddr {address}",
     .set s!"action {action}",
     .set "schedule \"always\"",
     .set "service \"ALL\""]
  if nat then
    emit (.set "nat enable")
  emitAll [.next, .close]

def baselineScript (params : Params) : Script Call Unit := do
  let hostname ← params.required "hostname"
  let timezone ← params.withDefault "timezone" "04"
  let dns ← params.optionalList "dnsServers"
  let ntp ← params.optionalList "ntpServers"
  emitAll
    [.config "system global",
     .set s!"hostname \"{hostname}\"",
     .set s!"timezone {timezone}",
     .close]
  dnsScript dns
  ntpScript ntp

def wanUplinkScript (params : Params) : Script Call Unit := do
  let interface ← params.required "interface"
  let ip ← params.required "ip"
  let mask ← params.required "mask"
  let gateway ← params.required "gateway"
  emitAll
    [.config "system interface",
     .edit s!"\"{interface}\"",
     .set s!"ip {ip} {mask}",
     .set "allowaccess ping https ssh",
     .next,
     .close]
  emitAll
    [.config "router static",
     .edit "1",
     .set "dst 0.0.0.0 0.0.0.0",
     .set s!"gateway {gateway}",
     .set s!"device \"{interface}\"",
     .next,
     .close]

def lanVlanScript (params : Params) : Script Call Unit := do
  let id ← params.vlanId "vlanId"
  let interface ← params.required "interface"
  let name ← params.withDefault "name" s!"vlan{id}"
  let ip ← params.required "ip"
  let mask ← params.required "mask"
  emitAll
    [.config "system interface",
     .edit s!"\"{name}\"",
     .set "vdom \"root\"",
     .set s!"interface \"{interface}\"",
     .set s!"vlanid {id}",
     .set s!"ip {ip} {mask}",
     .set "allowaccess ping",
     .next,
     .close]

def dhcpServerScript (params : Params) : Script Call Unit := do
  let interface ← params.required "interface"
  let first ← params.required "start"
  let last ← params.required "end"
  let gateway ← params.required "gateway"
  let dns ← params.optionalList "dnsServers"
  emitAll
    [.config "system dhcp server",
     .edit "1",
     .set s!"interface \"{interface}\"",
     .set s!"default-gateway {gateway}"]
  if let some server := dns[0]? then
    emit (.set s!"dns-server1 {server}")
  emitAll
    [.config "ip-range",
     .edit "1",
     .set s!"start-ip {first}",
     .set s!"end-ip {last}",
     .next,
     .close,
     .next,
     .close]

def staticRouteScript (params : Params) : Script Call Unit := do
  let network ← params.required "network"
  let mask ← params.required "mask"
  let nextHop ← params.required "nextHop"
  let device ← params.optional "device"
  emitAll
    [.config "router static",
     .edit "0",
     .set s!"dst {network} {mask}",
     .set s!"gateway {nextHop}"]
  if let some device := device then
    emit (.set s!"device \"{device}\"")
  emitAll [.next, .close]

def ospfScript (params : Params) : Script Call Unit := do
  let routerId ← params.withDefault "routerId" "1.1.1.1"
  let area ← params.withDefault "area" "0.0.0.0"
  let networks ← params.list "networks"
  emitAll [.config "router ospf", .set s!"router-id {routerId}"]
  unless networks.isEmpty do
    emit (.config "network")
    for (network, place) in networks.zipIdx do
      emitAll
        [.edit (toString (place + 1)), .set s!"prefix {network}", .set s!"area \"{area}\"", .next]
    emit .close
  emit .close

def natOverloadScript (params : Params) : Script Call Unit := do
  let source ← params.withDefault "srcintf" "lan"
  let target ← params.withDefault "dstintf" "wan"
  policyScript 0 source target "\"all\"" "accept" true

def firewallBasicScript (params : Params) : Script Call Unit := do
  let inside ← params.withDefault "srcintf" "lan"
  let outside ← params.withDefault "dstintf" "wan"
  policyScript 1 inside outside "\"all\"" "accept" true
  policyScript 2 outside inside "\"all\"" "deny" false

def loadBalancingScript (params : Params) : Script Call Unit := do
  let gateway1 ← params.required "gateway1"
  let gateway2 ← params.required "gateway2"
  let device1 ← params.withDefault "dstintf1" "wan1"
  let device2 ← params.withDefault "dstintf2" "wan2"
  emit (.config "router static")
  for (number, gateway, device, distance) in
      [(1, gateway1, device1, 10), (2, gateway2, device2, 20)] do
    emitAll
      [.edit (toString number),
       .set "dst 0.0.0.0 0.0.0.0",
       .set s!"gateway {gateway}",
       .set s!"device \"{device}\"",
       .set s!"distance {distance}",
       .next]
  emit .close

def bridgeScript (params : Params) : Script Call Unit := do
  let name ← params.withDefault "name" "br0"
  let ports ← params.list "ports"
  emitAll
    [.config "system interface",
     .edit s!"\"{name}\"",
     .set "type bridge",
     .next,
     .close]
  emitAll [.config "system switch-interface", .edit s!"\"{name}\""]
  let members := ports.map fun name => s!"\"{name}\""
  emitAll [.set ("member " ++ Text.join " " members), .next, .close]

def secureBaselineScript (params : Params) : Script Call Unit := do
  let hostname ← params.withDefault "hostname" "FGT-01"
  let password ← params.required "adminPassword"
  let syslog ← params.withDefault "syslog" "10.0.200.10"
  let ntp ← params.optionalList "ntpServers"
  let subnet ← params.withDefault "mgmtSubnet" "10.0.100.0 255.255.255.0"
  let mgmt ← params.withDefault "mgmtInterface" "mgmt"
  let wan ← params.withDefault "wanInterface" "wan1"
  emitAll
    [.config "system global",
     .set s!"hostname \"{hostname}\"",
     .set "admin-https disable",
     .set "admin-scp enable",
     .set "admin-ssh-port 22",
     .set "admin-lockout-threshold 3",
     .set "admin-lockout-duration 300",
     .close]
  emitAll
    [.config "system admin",
     .edit "\"admin\"",
     .set s!"password \"{password}\"",
     .next,
     .close]
  ntpScript ntp
  emitAll
    [.config "log syslogd setting",
     .set "status enable",
     .set s!"server \"{syslog}\"",
     .set "facility local7",
     .close]
  emitAll
    [.config "firewall address",
     .edit "\"MGMT_NET\"",
     .set s!"subnet {subnet}",
     .next,
     .close]
  emitAll
    [.config "firewall policy",
     .edit "10",
     .set s!"srcintf \"{mgmt}\"",
     .set s!"dstintf \"{wan}\"",
     .set "srcaddr \"MGMT_NET\"",
     .set "dstaddr \"all\"",
     .set "action accept",
     .set "schedule \"always\"",
     .set "service \"ALL\"",
     .set "logtraffic all",
     .next,
     .close]

def script : Action → Params → Script Call Unit
  | .baseline => baselineScript
  | .wanUplink => wanUplinkScript
  | .lanVlan => lanVlanScript
  | .dhcpServer => dhcpServerScript
  | .staticRoute => staticRouteScript
  | .ospf => ospfScript
  | .natOverload => natOverloadScript
  | .firewallBasic => firewallBasicScript
  | .loadBalancing => loadBalancingScript
  | .bridge => bridgeScript
  | .secureBaseline => secureBaselineScript

/-- The lines that the calls of a script write. -/
def snippetLines (action : Action) (params : Params) : Except SnippetError (List String) := do
  return ((← (script action params).output).foldl Writer.call {}).lines

end DeviceConfig.FortiOs
