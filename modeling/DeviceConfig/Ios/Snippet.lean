import DeviceConfig.Snippet.Params
import DeviceConfig.Snippet.Script
import DeviceConfig.Text.Split

/-!
Scripts of IOS commands. Every snippet enters the configuration mode and leaves it again.
-/

namespace DeviceConfig.Ios

open Snippet

def baselineScript (params : Params) : Script String Unit := do
  let hostname ← params.required "hostname"
  let domain ← params.withDefault "domain" "local"
  let dns ← params.optionalList "dnsServers"
  emit s!"hostname {hostname}"
  emit s!"ip domain-name {domain}"
  unless dns.isEmpty do
    emit ("ip name-server " ++ Text.join " " dns)
  emitAll ((← params.optionalList "ntpServers").map fun server => s!"ntp server {server}")
  emitAll
    ["service timestamps debug datetime msec",
     "service timestamps log datetime msec",
     "no ip domain-lookup",
     "line con 0",
     " logging synchronous",
     " exec-timeout 10 0",
     " privilege level 15",
     "line vty 0 4",
     " transport input ssh",
     " login local",
     " exec-timeout 10 0"]

def wanUplinkScript (params : Params) : Script String Unit := do
  let interface ← params.required "interface"
  let ip ← params.required "ip"
  let mask ← params.required "mask"
  let gateway ← params.required "gateway"
  emit s!"interface {interface}"
  if let some description ← params.optional "description" then
    emit s!" description {description}"
  emit s!" ip address {ip} {mask}"
  emit " no shutdown"
  emit "exit"
  emit s!"ip route 0.0.0.0 0.0.0.0 {gateway}"

def lanVlanScript (params : Params) : Script String Unit := do
  let id ← params.vlanId "vlanId"
  let name ← params.optional "name"
  let ip ← params.required "ip"
  let mask ← params.required "mask"
  emit s!"vlan {id}"
  if let some name := name then
    emit s!" name {name}"
  emit "exit"
  emit s!"interface Vlan{id}"
  emit s!" ip address {ip} {mask}"
  emit " no shutdown"
  emit "exit"

def dhcpServerScript (params : Params) : Script String Unit := do
  let pool ← params.required "pool"
  let network ← params.required "network"
  let mask ← params.required "mask"
  let gateway ← params.required "gateway"
  let dns ← params.optionalList "dnsServers"
  emit s!"ip dhcp pool {pool}"
  emit s!" network {network} {mask}"
  emit s!" default-router {gateway}"
  unless dns.isEmpty do
    emit (" dns-server " ++ Text.join " " dns)
  emit "exit"

def staticRouteScript (params : Params) : Script String Unit := do
  let network ← params.required "network"
  let mask ← params.required "mask"
  let nextHop ← params.required "nextHop"
  emit s!"ip route {network} {mask} {nextHop}"

def ospfScript (params : Params) : Script String Unit := do
  let processId ← params.withDefault "processId" "1"
  let area ← params.withDefault "area" "0"
  let networks ← params.list "networks"
  emit s!"router ospf {processId}"
  emitAll (networks.map fun network => s!" network {network} area {area}")
  emit "exit"

def natOverloadScript (params : Params) : Script String Unit := do
  let inside ← params.list "insideInterfaces"
  let outside ← params.required "outsideInterface"
  let acl ← params.withDefault "aclName" "NAT_INSIDE"
  let networks ← params.list "insideNetworks"
  emitAll (networks.map fun network => s!"access-list {acl} permit {network}")
  for interface in inside do
    emit s!"interface {interface}"
    emit " ip nat inside"
  emit s!"interface {outside}"
  emit " ip nat outside"
  emit s!"ip nat inside source list {acl} interface {outside} overload"

def firewallBasicScript (params : Params) : Script String Unit := do
  let outside ← params.required "outsideInterface"
  let inside ← params.required "insideInterface"
  let acl ← params.withDefault "insideAcl" "INSIDE-IN"
  let mgmtHost ← params.optional "mgmtHost"
  emit s!"interface {inside}"
  emit s!" ip access-group {acl} in"
  emit s!"ip access-list extended {acl}"
  emit " permit ip any any"
  emit "exit"
  emit s!"interface {outside}"
  emit " ip access-group OUTSIDE-IN in"
  emit "ip access-list extended OUTSIDE-IN"
  emit " permit icmp any any"
  if let some host := mgmtHost then
    emit s!" permit tcp any host {host} eq 22"
  emit " deny   ip any any log"
  emit "exit"

def loadBalancingScript (params : Params) : Script String Unit := do
  let first ← params.required "gateway1"
  let second ← params.required "gateway2"
  emit s!"ip route 0.0.0.0 0.0.0.0 {first} 1"
  emit s!"ip route 0.0.0.0 0.0.0.0 {second} 2"

def bridgeScript (params : Params) : Script String Unit := do
  let id ← params.vlanId "vlanId"
  let ports ← params.list "ports"
  emit s!"vlan {id}"
  for name in ports do
    emit s!"interface {name}"
    emit s!" switchport access vlan {id}"
    emit " switchport mode access"

def secureBaselineScript (params : Params) : Script String Unit := do
  let hostname ← params.withDefault "hostname" "CORE-01"
  let acl ← params.withDefault "mgmtAcl" "MGMT-ACL"
  let network ← params.withDefault "mgmtNetwork" "10.0.100.0 0.0.0.255"
  let syslog ← params.withDefault "syslog" "10.0.200.10"
  let user ← params.withDefault "snmpUser" "secops"
  let secret ← params.required "adminSecret"
  let auth ← params.required "snmpAuth"
  let priv ← params.required "snmpPriv"
  let ntp ← params.optionalList "ntpServers"
  emit s!"hostname {hostname}"
  emitAll
    ["no ip http server",
     "no ip http secure-server",
     "ip ssh version 2",
     "service password-encryption",
     "aaa new-model"]
  emit s!"username admin privilege 15 secret {secret}"
  emit s!"ip access-list standard {acl}"
  emit s!" permit {network}"
  emit " deny any log"
  emit "line vty 0 4"
  emit s!" access-class {acl} in"
  emitAll [" transport input ssh", " login local", " exec-timeout 10 0"]
  emitAll (ntp.map fun server => s!"ntp server {server}")
  emit s!"logging host {syslog}"
  emit "logging trap warnings"
  emit "snmp-server group SECOPS v3 priv"
  emit s!"snmp-server user {user} SECOPS v3 auth sha {auth} priv aes 128 {priv}"
  emitAll
    ["snmp-server enable traps syslog",
     "ip tcp synwait-time 10",
     "ip ssh time-out 60",
     "ip ssh authentication-retries 2"]

/-- What comes between entering and leaving the configuration mode. -/
def bodyScript : Action → Params → Script String Unit
  | .baseline => baselineScript
  | .wanUplink => wanUplinkScript
  | .lanVlan => lanVlanScript
  | .dhcpServer => dhcpServerScript
  | .staticRoute => staticRouteScript
  | .ospf => ospfScript
  | .natOverload => natOverloadScript
  | .firewallBasic => firewallBasicScript
  | .loadBalancing => loadBalancingScript
  | .bridge => bridgeScript
  | .secureBaseline => secureBaselineScript

def script (action : Action) (params : Params) : Script String Unit := do
  emit "configure terminal"
  bodyScript action params
  emit "end"

end DeviceConfig.Ios
