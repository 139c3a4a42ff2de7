import DeviceConfig.Ios.Snippet
import DeviceConfig.Proofs.Snippet.Template

/-!
The templates that the scripts of IOS commands fill.
-/

namespace DeviceConfig.Ios

open Snippet

/-- A line with the list side by side, if there is anything in the list. -/
def joinedLine (before : String) (items : List String) : List String :=
  if items.isEmpty then [] else [before ++ Text.join " " items]

def ntpLines (servers : List String) : List String :=
  servers.map fun server => s!"ntp server {server}"

def baselineTemplate : Template where
  parameters :=
    .required "hostname" <|
    .withDefault "domain" "local" <|
    .optionalList "dnsServers" <|
    .optionalList "ntpServers" <|
    .done
  lines := fun (hostname, domain, dns, ntp, _) =>
    [s!"hostname {hostname}", s!"ip domain-name {domain}"] ++ joinedLine "ip name-server " dns ++
    ntpLines ntp ++
    ["service timestamps debug datetime msec",
     "service timestamps log datetime msec",
     "no ip domain-lookup",
     "line con 0",
     " logging synchronous",
     " exec-timeout 10 0",
     " privilege level 15",
     "line vty 0 4",
     " transport input ssh",
     " login local",
     " exec-timeout 10 0"]

def wanUplinkTemplate : Template where
  parameters :=
    .required "interface" <|
    .required "ip" <|
    .required "mask" <|
    .required "gateway" <|
    .optional "description" <|
    .done
  lines := fun (interface, ip, mask, gateway, description, _) =>
    [s!"interface {interface}"] ++
    (description.map fun text => s!" description {text}").toList ++
    [s!" ip address {ip} {mask}",
     " no shutdown",
     "exit",
     s!"ip route 0.0.0.0 0.0.0.0 {gateway}"]

def lanVlanTemplate : Template where
  parameters :=
    .vlanId "vlanId" <|
    .optional "name" <|
    .required "ip" <|
    .required "mask" <|
    .done
  lines := fun (id, name, ip, mask, _) =>
    [s!"vlan {id}"] ++ (name.map fun text => s!" name {text}").toList ++
    ["exit",
     s!"interface Vlan{id}",
     s!" ip address {ip} {mask}",
     " no shutdown",
     "exit"]

def dhcpServerTemplate : Template where
  parameters :=
    .required "pool" <|
    .required "network" <|
    .required "mask" <|
    .required "gateway" <|
    .optionalList "dnsServers" <|
    .done
  lines := fun (pool, network, mask, gateway, dns, _) =>
    [s!"ip dhcp pool {pool}", s!" network {network} {mask}", s!" default-router {gateway}"] ++
    joinedLine " dns-server " dns ++ ["exit"]

def staticRouteTemplate : Template where
  parameters :=
    .required "network" <|
    .required "mask" <|
    .required "nextHop" <|
    .done
  lines := fun (network, mask, nextHop, _) => [s!"ip route {network} {mask} {nextHop}"]

def ospfTemplate : Template where
  parameters :=
    .withDefault "processId" "1" <|
    .withDefault "area" "0" <|
    .list "networks" <|
    .done
  lines := fun (processId, area, networks, _) =>
    [s!"router ospf {processId}"] ++
    networks.map (fun network => s!" network {network} area {area}") ++ ["exit"]

def natOverloadTemplate : Template where
  parameters :=
    .list "insideInterfaces" <|
    .required "outsideInterface" <|
    .withDefault "aclName" "NAT_INSIDE" <|
    .list "insideNetworks" <|
    .done
  lines := fun (inside, outside, acl, networks, _) =>
    networks.map (fun network => s!"access-list {acl} permit {network}") ++
    inside.flatMap (fun interface => [s!"interface {interface}", " ip nat inside"]) ++
    [s!"interface {outside}",
     " ip nat outside",
     s!"ip nat inside source list {acl} interface {outside} overload"]

def firewallBasicTemplate : Template where
  parameters :=
    .required "outsideInterface" <|
    .required "insideInterface" <|
    .withDefault "insideAcl" "INSIDE-IN" <|
    .optional "mgmtHost" <|
    .done
  lines := fun (outside, inside, acl, mgmtHost, _) =>
    [s!"interface {inside}",
     s!" ip access-group {acl} in",
     s!"ip access-list extended {acl}",
     " permit ip any any",
     "exit",
     s!"interface {outside}",
     " ip access-group OUTSIDE-IN in",
     "ip access-list extended OUTSIDE-IN",
     " permit icmp any any"] ++
    (mgmtHost.map fun host => s!" permit tcp any host {host} eq 22").toList ++
    [" deny   ip any any log", "exit"]

def loadBalancingTemplate : Template where
  parameters :=
    .required "gateway1" <|
    .required "gateway2" <|
    .done
  lines := fun (first, second, _) =>
    [s!"ip route 0.0.0.0 0.0.0.0 {first} 1", s!"ip route 0.0.0.0 0.0.0.0 {second} 2"]

def bridgeTemplate : Template where
  parameters :=
    .vlanId "vlanId" <|
    .list "ports" <|
    .done
  lines := fun (id, ports, _) =>
    [s!"vlan {id}"] ++ ports.flatMap fun name =>
      [s!"interface {name}", s!" switchport access vlan {id}", " switchport mode access"]

def secureBaselineTemplate : Template where
  parameters :=
    .withDefault "hostname" "CORE-01" <|
    .withDefault "mgmtAcl" "MGMT-ACL" <|
    .withDefault "mgmtNetwork" "10.0.100.0 0.0.0.255" <|
    .withDefault "syslog" "10.0.200.10" <|
    .withDefault "snmpUser" "secops" <|
    .required "adminSecret" <|
    .required "snmpAuth" <|
    .required "snmpPriv" <|
    .optionalList "ntpServers" <|
    .done
  lines := fun (hostname, acl, network, syslog, user, secret, auth, priv, ntp, _) =>
    [s!"hostname {hostname}",
     "no ip http server",
     "no ip http secure-server",
     "ip ssh version 2",
     "service password-encryption",
     "aaa new-model",
     s!"username admin privilege 15 secret {secret}",
     s!"ip access-list standard {acl}",
     s!" permit {network}",
     " deny any log",
     "line vty 0 4",
     s!" access-class {acl} in",
     " transport input ssh",
     " login local",
     " exec-timeout 10 0"] ++
    ntpLines ntp ++
    [s!"logging host {syslog}",
     "logging trap warnings",
     "snmp-server group SECOPS v3 priv",
     s!"snmp-server user {user} SECOPS v3 auth sha {auth} priv aes 128 {priv}",
     "snmp-server enable traps syslog",
     "ip tcp synwait-time 10",
     "ip ssh time-out 60",
     "ip ssh authentication-retries 2"]

def body : Action → Template
  | .baseline => baselineTemplate
  | .wanUplink => wanUplinkTemplate
  | .lanVlan => lanVlanTemplate
  | .dhcpServer => dhcpServerTemplate
  | .staticRoute => staticRouteTemplate
  | .ospf => ospfTemplate
  | .natOverload => natOverloadTemplate
  | .firewallBasic => firewallBasicTemplate
  | .loadBalancing => loadBalancingTemplate
  | .bridge => bridgeTemplate
  | .secureBaseline => secureBaselineTemplate

def template (action : Action) : Template :=
  { (body action) with
    lines := fun values => ["configure terminal"] ++ (body action).lines values ++ ["end"] }

/-! ### Scripts -/

section
variable (before : List String)

theorem run_insides (interfaces : List String) :
    (forIn interfaces PUnit.unit fun interface _ => do
      emit s!"interface {interface}"
      emit " ip nat inside"
      pure (.yield PUnit.unit) : Script String PUnit).run before =
    pure (⟨⟩, before ++ interfaces.flatMap fun interface => [s!"interface {interface}", " ip nat inside"]) :=
  run_for (fun _ _ => by simp) interfaces before

theorem run_ports (id : Nat) (ports : List String) :
    (forIn ports PUnit.unit fun name _ => do
      emit s!"interface {name}"
      emit s!" switchport access vlan {id}"
      emit " switchport mode access"
      pure (.yield PUnit.unit) : Script String PUnit).run before =
    pure (⟨⟩, before ++ ports.flatMap fun name =>
      [s!"interface {name}", s!" switchport access vlan {id}", " switchport mode access"]) :=
  run_for (fun _ _ => by simp) ports before

end

/-- Where a line depends on what is given, the values read up to there are named. -/
theorem fills_body (action : Action) : Fills (bodyScript action) (body action).parameters (body action).lines := by
  intro params before
  cases action with
  | baseline =>
    simp only [bodyScript, body, baselineScript, baselineTemplate, StateT.run_bind, StateT.run_monadLift,
      monadLift_self, run_emit, pure_bind, bind_assoc, Parameters.read_required, Parameters.read_withDefault,
      Parameters.read_optionalList, Parameters.read_done]
    refine bind_congr fun hostname => bind_congr fun domain => bind_congr fun dns => ?_
    cases dns <;> simp [joinedLine, ntpLines]
  | wanUplink =>
    simp only [bodyScript, body, wanUplinkScript, wanUplinkTemplate, StateT.run_bind, StateT.run_monadLift,
      monadLift_self, run_emit, pure_bind, bind_assoc, Parameters.read_required, Parameters.read_optional,
      Parameters.read_done]
    refine bind_congr fun interface => bind_congr fun ip => bind_congr fun mask => bind_congr fun gateway =>
      bind_congr fun description => ?_
    cases description <;> simp
  | lanVlan =>
    simp only [bodyScript, body, lanVlanScript, lanVlanTemplate, StateT.run_bind, StateT.run_monadLift,
      monadLift_self, run_emit, pure_bind, bind_assoc, Parameters.read_vlanId, Parameters.read_required,
      Parameters.read_optional, Parameters.read_done]
    refine bind_congr fun id => bind_congr fun name => bind_congr fun ip => bind_congr fun mask => ?_
    cases name <;> simp
  | dhcpServer =>
    simp only [bodyScript, body, dhcpServerScript, dhcpServerTemplate, StateT.run_bind, StateT.run_monadLift,
      monadLift_self, run_emit, pure_bind, bind_assoc, Parameters.read_required, Parameters.read_optionalList,
      Parameters.read_done]
    refine bind_congr fun pool => bind_congr fun network => bind_congr fun mask => bind_congr fun gateway =>
      bind_congr fun dns => ?_
    cases dns <;> simp [joinedLine]
  | staticRoute => simp [bodyScript, body, staticRouteScript, staticRouteTemplate]
  | ospf => simp [bodyScript, body, ospfScript, ospfTemplate]
  | natOverload =>
    simp only [bodyScript, body, natOverloadScript, natOverloadTemplate, StateT.run_bind, StateT.run_monadLift,
      monadLift_self, run_emit, run_emitAll, run_insides, pure_bind, bind_assoc, Parameters.read_list,
      Parameters.read_required, Parameters.read_withDefault, Parameters.read_done]
    simp
  | firewallBasic =>
    simp only [bodyScript, body, firewallBasicScript, firewallBasicTemplate, StateT.run_bind, StateT.run_monadLift,
      monadLift_self, run_emit, pure_bind, bind_assoc, Parameters.read_required, Parameters.read_withDefault,
      Parameters.read_optional, Parameters.read_done]
    refine bind_congr fun outside => bind_congr fun inside => bind_congr fun acl => bind_congr fun host => ?_
    cases host <;> simp
  | loadBalancing => simp [bodyScript, body, loadBalancingScript, loadBalancingTemplate]
  | bridge =>
    simp only [bodyScript, body, bridgeScript, bridgeTemplate, StateT.run_bind, StateT.run_monadLift, monadLift_self,
      run_emit, run_ports, pure_bind, bind_assoc, Parameters.read_vlanId, Parameters.read_list, Parameters.read_done]
    simp
  | secureBaseline => simp [bodyScript, body, secureBaselineScript, secureBaselineTemplate, ntpLines]

theorem fills_script (action : Action) :
    Fills (script action) (template action).parameters (template action).lines := by
  intro params before
  have inner := fills_body action params (before ++ ["configure terminal"])
  simp [script, template, inner]

end DeviceConfig.Ios
