import DeviceConfig.Proofs.Snippet.Template
import DeviceConfig.RouterOs.Rollout
import DeviceConfig.RouterOs.Snippet

/-!
The templates that the scripts of RouterOS commands fill.
-/

namespace DeviceConfig.RouterOs

open Snippet

def baselineTemplate : Template where
  parameters :=
    .required "hostname" <|
    .optionalList "dnsServers" <|
    .optionalList "ntpServers" <|
    .done
  lines := fun (hostname, dns, ntp, _) =>
    let servers := Text.join "," dns
    [s!"/system identity set name={hostname}"] ++
    (if dns.isEmpty then [] else [s!"/ip dns set servers={servers} allow-remote-requests=yes"]) ++
    (ntpClient? ntp).toList ++
    ["/system logging add topics=firewall action=memory"]

def wanUplinkTemplate : Template where
  parameters :=
    .required "interface" <|
    .required "cidr" <|
    .required "gateway" <|
    .done
  lines := fun (interface, cidr, gateway, _) =>
    [s!"/ip address add address={cidr} interface={interface} comment=\"WAN\"",
     s!"/ip route add dst-address=0.0.0.0/0 gateway={gateway}"]

def lanVlanTemplate : Template where
  parameters :=
    .vlanId "vlanId" <|
    .required "interface" <|
    .optional "name" <|
    .required "cidr" <|
    .done
  lines := fun (id, interface, name, cidr, _) =>
    let name := name.getD s!"vlan{id}"
    [s!"/interface vlan add name={name} vlan-id={id} interface={interface}",
     s!"/ip address add address={cidr} interface={name}"]

/-- The gateway stands in for a network or a name server that is not given. -/
def dhcpServerTemplate : Template where
  parameters :=
    .required "interface" <|
    .withDefault "pool" "dhcp_pool" <|
    .required "start" <|
    .required "end" <|
    .required "gateway" <|
    .optional "network" <|
    .optionalList "dnsServers" <|
    .done
  lines := fun (interface, pool, first, last, gateway, network, dns, _) =>
    let network := network.getD gateway
    let server := dns.headD gateway
    [s!"/ip pool add name={pool} ranges={first}-{last}",
     s!"/ip dhcp-server network add address={network} gateway={gateway} dns-server={server}",
     s!"/ip dhcp-server add name=dhcp1 interface={interface} address-pool={pool}" ++
       " lease-time=1d disabled=no"]

def staticRouteTemplate : Template where
  parameters :=
    .required "dst" <|
    .required "gateway" <|
    .done
  lines := fun (target, gateway, _) => [s!"/ip route add dst-address={target} gateway={gateway}"]

def ospfTemplate : Template where
  parameters :=
    .withDefault "area" "backbone" <|
    .list "networks" <|
    .done
  lines := fun (area, networks, _) =>
    [s!"/routing ospf area add name={area}"] ++
    networks.map fun network => s!"/routing ospf network add network={network} area={area}"

def natOverloadTemplate : Template where
  parameters := .required "outInterface" .done
  lines := fun (interface, _) =>
    [s!"/ip firewall nat add chain=srcnat out-interface={interface} action=masquerade"]

def firewallBasicTemplate : Template where
  parameters :=
    .withDefault "lanInterface" "lan" <|
    .withDefault "wanInterface" "WAN" <|
    .done
  lines := fun (lan, wan, _) =>
    connectionRules "input" ++
    [filter "chain=input protocol=tcp dst-port=22,80,443 action=accept",
     filter s!"chain=input in-interface=!{lan} action=drop"] ++
    connectionRules "forward" ++
    [filter ("chain=forward action=accept connection-state=new" ++
       s!" in-interface={lan} out-interface={wan}"),
     filter "chain=forward action=drop"]

/-- The marks of connections and routes over two uplinks. -/
def uplinkMarks : List String := ["WAN1", "WAN2"]

def loadBalancingTemplate : Template where
  parameters :=
    .required "gateway1" <|
    .required "gateway2" <|
    .done
  lines := fun (first, second, _) =>
    [s!"/ip route add dst-address=0.0.0.0/0 gateway={first},{second} check-gateway=ping"] ++
    uplinkMarks.mapIdx (fun place mark =>
      mangle ("dst-address-type=!local action=mark-connection" ++
        s!" new-connection-mark={mark} passthrough=yes" ++
        s!" per-connection-classifier=src-address:2/{place}")) ++
    uplinkMarks.map (fun mark =>
      mangle (s!"connection-mark={mark} action=mark-routing" ++
        s!" new-routing-mark=to_{mark} passthrough=yes")) ++
    [first, second].zipWith (fun gateway mark =>
      s!"/ip route add dst-address=0.0.0.0/0 gateway={gateway} routing-mark=to_{mark}" ++
        " check-gateway=ping") uplinkMarks

def bridgeTemplate : Template where
  parameters :=
    .withDefault "name" "bridge1" <|
    .list "ports" <|
    .done
  lines := fun (name, ports, _) =>
    [s!"/interface bridge add name={name} comment=\"LAN bridge\""] ++
    ports.map fun member => s!"/interface bridge port add bridge={name} interface={member}"

def secureBaselineTemplate : Template where
  parameters :=
    .withDefault "hostname" "RB-01" <|
    .withDefault "syslog" "10.0.200.10" <|
    .withDefault "mgmtCidr" "10.0.100.0/24" <|
    .optionalList "ntpServers" <|
    .done
  lines := fun (hostname, syslog, mgmt, ntp, _) =>
    let server := ntp.headD "pool.ntp.org"
    [s!"/system identity set name={hostname}",
     s!"/system ntp client set enabled=yes primary-ntp={server}",
     s!"/system logging action add name=remote target=remote remote={syslog} remote-port=514",
     "/system logging add topics=info action=remote"] ++
    ["www", "telnet", "ftp", "api", "api-ssl"].map
      (fun service => s!"/ip service set {service} disabled=yes") ++
    [s!"/ip service set ssh address={mgmt}"] ++
    connectionRules "input" ++
    [filter s!"chain=input src-address={mgmt} action=accept",
     filter "chain=input in-interface=!mgmt action=drop"] ++
    connectionRules "forward" ++
    [filter "chain=forward action=drop connection-state=new in-interface=!lan"]

def template : Action → Template
  | .baseline => baselineTemplate
  | .wanUplink => wanUplinkTemplate
  | .lanVlan => lanVlanTemplate
  | .dhcpServer => dhcpServerTemplate
  | .staticRoute => staticRouteTemplate
  | .ospf => ospfTemplate
  | .natOverload => natOverloadTemplate
  | .firewallBasic => firewallBasicTemplate
  | .loadBalancing => loadBalancingTemplate
  | .bridge => bridgeTemplate
  | .secureBaseline => secureBaselineTemplate

/-! ### Scripts -/

/-- The client of the time servers is told in two places, with the same words. -/
theorem ntpClient?_eq (servers : List String) : ntpClient? servers = servers[0]?.map fun primary =>
    s!"/system ntp client set enabled=yes primary-ntp={primary}" ++
      servers[1]?.elim "" fun secondary => s!" secondary-ntp={secondary}" := by
  rcases servers with _ | ⟨primary, _ | ⟨secondary, others⟩⟩
  · rfl
  · simp [ntpClient?]
  · simp [ntpClient?, String.append_assoc]

theorem fills_script (action : Action) :
    Fills (script action) (template action).parameters (template action).lines := by
  intro params before
  cases action with
  | baseline =>
    simp only [script, template, baselineScript, baselineTemplate, StateT.run_bind, StateT.run_monadLift,
      monadLift_self, run_emit, pure_bind, bind_assoc, Parameters.read_required, Parameters.read_optionalList,
      Parameters.read_done]
    refine bind_congr fun hostname => bind_congr fun dns => bind_congr fun ntp => ?_
    rw [ntpClient?_eq]
    cases dns <;> cases ntp <;> simp
  | wanUplink => simp [script, template, wanUplinkScript, wanUplinkTemplate]
  | lanVlan => simp [script, template, lanVlanScript, lanVlanTemplate, Params.withDefault]
  | dhcpServer => simp [script, template, dhcpServerScript, dhcpServerTemplate, Params.withDefault]
  | staticRoute => simp [script, template, staticRouteScript, staticRouteTemplate]
  | ospf => simp [script, template, ospfScript, ospfTemplate]
  | natOverload => simp [script, template, natOverloadScript, natOverloadTemplate]
  | firewallBasic => simp [script, template, firewallBasicScript, firewallBasicTemplate]
  | loadBalancing => simp [script, template, loadBalancingScript, loadBalancingTemplate, uplinkMarks]
  | bridge => simp [script, template, bridgeScript, bridgeTemplate]
  | secureBaseline => simp [script, template, secureBaselineScript, secureBaselineTemplate]

end DeviceConfig.RouterOs
