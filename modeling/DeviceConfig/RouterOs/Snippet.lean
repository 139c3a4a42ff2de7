import DeviceConfig.Snippet.Params
import DeviceConfig.Snippet.Script
import DeviceConfig.Text.Split

/-!
Scripts of RouterOS commands, one to a line.
-/

namespace DeviceConfig.RouterOs

open Snippet

def filter (rule : String) : String := "/ip firewall filter add " ++ rule

/-- Rules that let go on what has begun, and drop what makes no sense. -/
def connectionRules (chain : String) : List String :=
  [filter s!"chain={chain} action=accept connection-state=established,related",
   filter s!"chain={chain} action=drop connection-state=invalid"]

def baselineScript (params : Params) : Script String Unit := do
  let hostname ← params.required "hostname"
  let dns ← params.optionalList "dnsServers"
  let ntp ← params.optionalList "ntpServers"
  emit s!"/system identity set name={hostname}"
  unless dns.isEmpty do
    let servers := Text.join "," dns
    emit s!"/ip dns set servers={servers} allow-remote-requests=yes"
  if let some primary := ntp[0]? then
    let also := ntp[1]?.elim "" fun secondary => s!" secondary-ntp={secondary}"
    emit (s!"/system ntp client set enabled=yes primary-ntp={primary}" ++ also)
  emit "/system logging add topics=firewall action=memory"

def wanUplinkScript (params : Params) : Script String Unit := do
  let interface ← params.required "interface"
  let cidr ← params.required "cidr"
  let gateway ← params.required "gateway"
  emitAll
    [s!"/ip address add address={cidr} interface={interface} comment=\"WAN\"",
     s!"/ip route add dst-address=0.0.0.0/0 gateway={gateway}"]

def lanVlanScript (params : Params) : Script String Unit := do
  let id ← params.vlanId "vlanId"
  let interface ← params.required "interface"
  let name ← params.withDefault "name" s!"vlan{id}"
  let cidr ← params.required "cidr"
  emitAll
    [s!"/interface vlan add name={name} vlan-id={id} interface={interface}",
     s!"/ip address add address={cidr} interface={name}"]

/-- The gateway stands in for a network or a name server that is not given. -/
def dhcpServerScript (params : Params) : Script String Unit := do
  let interface ← params.required "interface"
  let pool ← params.withDefault "pool" "dhcp_pool"
  let first ← params.required "start"
  let last ← params.required "end"
  let gateway ← params.required "gateway"
  let network ← params.withDefault "network" gateway
  let dns ← params.optionalList "dnsServers"
  let server := dns.headD gateway
  emitAll
    [s!"/ip pool add name={pool} ranges={first}-{last}",
     s!"/ip dhcp-server network add address={network} gateway={gateway} dns-server={server}",
     s!"/ip dhcp-server add name=dhcp1 interface={interface} address-pool={pool}" ++
       " lease-time=1d disabled=no"]

def staticRouteScript (params : Params) : Script String Unit := do
  let target ← params.required "dst"
  let gateway ← params.required "gateway"
  emit s!"/ip route add dst-address={target} gateway={gateway}"

def ospfScript (params : Params) : Script String Unit := do
  let area ← params.withDefault "area" "backbone"
  let networks ← params.list "networks"
  emit s!"/routing ospf area add name={area}"
  emitAll (networks.map fun network => s!"/routing ospf network add network={network} area={area}")

def natOverloadScript (params : Params) : Script String Unit := do
  let interface ← params.required "outInterface"
  emit s!"/ip firewall nat add chain=srcnat out-interface={interface} action=masquerade"

def firewallBasicScript (params : Params) : Script String Unit := do
  let lan ← params.withDefault "lanInterface" "lan"
  let wan ← params.withDefault "wanInterface" "WAN"
  emitAll (connectionRules "input")
  emit (filter "chain=input protocol=tcp dst-port=22,80,443 action=accept")
  emit (filter s!"chain=input in-interface=!{lan} action=drop")
  emitAll (connectionRules "forward")
  emit (filter ("chain=forward action=accept connection-state=new" ++
    s!" in-interface={lan} out-interface={wan}"))
  emit (filter "chain=forward action=drop")

def mangle (rule : String) : String := "/ip firewall mangle add chain=prerouting " ++ rule

def loadBalancingScript (params : Params) : Script String Unit := do
  let first ← params.required "gateway1"
  let second ← params.required "gateway2"
  emit s!"/ip route add dst-address=0.0.0.0/0 gateway={first},{second} check-gateway=ping"
  for (mark, place) in [("WAN1", 0), ("WAN2", 1)] do
    emit (mangle ("dst-address-type=!local action=mark-connection" ++
      s!" new-connection-mark={mark} passthrough=yes" ++
      s!" per-connection-classifier=src-address:2/{place}"))
  for mark in ["WAN1", "WAN2"] do
    emit (mangle (s!"connection-mark={mark} action=mark-routing" ++
      s!" new-routing-mark=to_{mark} passthrough=yes"))
  for (gateway, mark) in [(first, "WAN1"), (second, "WAN2")] do
    emit (s!"/ip route add dst-address=0.0.0.0/0 gateway={gateway} routing-mark=to_{mark}" ++
      " check-gateway=ping")

def bridgeScript (params : Params) : Script String Unit := do
  let name ← params.withDefault "name" "bridge1"
  let ports ← params.list "ports"
  emit s!"/interface bridge add name={name} comment=\"LAN bridge\""
  emitAll (ports.map fun member => s!"/interface bridge port add bridge={name} interface={member}")

def secureBaselineScript (params : Params) : Script String Unit := do
  let hostname ← params.withDefault "hostname" "RB-01"
  let syslog ← params.withDefault "syslog" "10.0.200.10"
  let mgmt ← params.withDefault "mgmtCidr" "10.0.100.0/24"
  let ntp ← params.optionalList "ntpServers"
  let server := ntp.headD "pool.ntp.org"
  emitAll
    [s!"/system identity set name={hostname}",
     s!"/system ntp client set enabled=yes primary-ntp={server}",
     s!"/system logging action add name=remote target=remote remote={syslog} remote-port=514",
     "/system logging add topics=info action=remote"]
  emitAll (["www", "telnet", "ftp", "api", "api-ssl"].map fun service =>
    s!"/ip service set {service} disabled=yes")
  emit s!"/ip service set ssh address={mgmt}"
  emitAll (connectionRules "input")
  emit (filter s!"chain=input src-address={mgmt} action=accept")
  emit (filter "chain=input in-interface=!mgmt action=drop")
  emitAll (connectionRules "forward")
  emit (filter "chain=forward action=drop connection-state=new in-interface=!lan")

def script : Action → Params → Script String Unit
  | .baseline => baselineScript
  | .wanUplink => wanUplinkScript
  | .lanVlan => lanVlanScript
  | .dhcpServer => dhcpServerScript
  | .staticRoute => staticRouteScript
  | .ospf => ospfScript
  | .natOverload => natOverloadScript
  | .firewallBasic => firewallBasicScript
  | .loadBalancing => loadBalancingScript
  | .bridge => bridgeScript
  | .secureBaseline => secureBaselineScript

end DeviceConfig.RouterOs
