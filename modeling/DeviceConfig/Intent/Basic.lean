import DeviceConfig.Document.Record
import DeviceConfig.Document.Spelled
import DeviceConfig.Text.Blank

/-!
Intents: what is to be configured on a device, the same for all vendors. Everything is optional, so an
intent can ask for a single VLAN without restating the device.
-/

namespace DeviceConfig

open Document

namespace Intent

inductive InterfaceRole where
  | uplink
  | access
deriving DecidableEq, Repr

instance : Spelled InterfaceRole where
  values := [.uplink, .access]
  name
    | .uplink => "uplink"
    | .access => "access"

structure Interface where
  name : String := ""
  role : InterfaceRole := .access
  ipAddress : Option String := none
  subnetMask : Option String := none
  vlanId : Option UInt16 := none
  description : Option String := none
  /-- Left as it is, which is on, unless the intent says otherwise. -/
  enabled : Option Bool := none
deriving Repr

instance : Recorded Interface where
  Values := String × InterfaceRole × Option String × Option String × Option UInt16 ×
    Option String × Option Bool × Unit
  fields :=
    .plain "name" "" <|
    .plain "role" .access <|
    .optional "ipAddress" <|
    .optional "subnetMask" <|
    .optional "vlanId" <|
    .optional "description" <|
    .optional "enabled" <|
    .done
  ofValues := fun (name, role, ipAddress, subnetMask, vlanId, description, enabled, _) =>
    { name, role, ipAddress, subnetMask, vlanId, description, enabled }
  toValues iface := (iface.name, iface.role, iface.ipAddress, iface.subnetMask, iface.vlanId,
    iface.description, iface.enabled, ())

def Interface.isEnabled (iface : Interface) : Bool := iface.enabled != some false

/-- The VLAN of an access interface. The VLAN of an uplink is not looked at. -/
def Interface.accessVlan? (iface : Interface) : Option UInt16 :=
  if iface.role = .access then iface.vlanId else none

structure Vlan where
  id : UInt16 := 0
  name : Option String := none
  /-- A network address and a prefix length, as in `10.10.0.0/24`. -/
  subnet : Option String := none
  gateway : Option String := none
deriving Repr

instance : Recorded Vlan where
  Values := UInt16 × Option String × Option String × Option String × Unit
  fields :=
    .plain "id" 0 <|
    .optional "name" <|
    .optional "subnet" <|
    .optional "gateway" <|
    .done
  ofValues := fun (id, name, subnet, gateway, _) => { id, name, subnet, gateway }
  toValues vlan := (vlan.id, vlan.name, vlan.subnet, vlan.gateway, ())

structure Route where
  destination : String := ""
  /-- A dotted mask or a prefix length. -/
  netmask : Option String := none
  nextHop : String := ""
deriving Repr

instance : Recorded Route where
  Values := String × Option String × String × Unit
  fields :=
    .plain "destination" "" <|
    .optional "netmask" <|
    .plain "nextHop" "" <|
    .done
  ofValues := fun (destination, netmask, nextHop, _) => { destination, netmask, nextHop }
  toValues route := (route.destination, route.netmask, route.nextHop, ())

structure Routing where
  staticRoutes : List Route := []
deriving Repr

instance : Recorded Routing where
  Values := List Route × Unit
  fields := .plain "staticRoutes" [] .done
  ofValues := fun (staticRoutes, _) => { staticRoutes }
  toValues routing := (routing.staticRoutes, ())

structure Ssh where
  enabled : Bool := false
  version : Option UInt8 := none
  allowPassword : Bool := false
deriving Repr

/-- A version that is not asked for is written as null. -/
instance : Recorded Ssh where
  Values := Bool × Option UInt8 × Bool × Unit
  fields :=
    .plain "enabled" false <|
    .plain "version" none <|
    .plain "allowPassword" false <|
    .done
  ofValues := fun (enabled, version, allowPassword, _) => { enabled, version, allowPassword }
  toValues ssh := (ssh.enabled, ssh.version, ssh.allowPassword, ())

structure Services where
  ssh : Option Ssh := none
  ntpServers : List String := []
  dnsServers : List String := []
  syslogServers : List String := []
deriving Repr

instance : Recorded Services where
  Values := Option Ssh × List String × List String × List String × Unit
  fields :=
    .optional "ssh" <|
    .plain "ntpServers" [] <|
    .plain "dnsServers" [] <|
    .plain "syslogServers" [] <|
    .done
  ofValues := fun (ssh, ntpServers, dnsServers, syslogServers, _) =>
    { ssh, ntpServers, dnsServers, syslogServers }
  toValues services := (services.ssh, services.ntpServers, services.dnsServers,
    services.syslogServers, ())

structure Firewall where
  enabled : Bool := false
  /-- The network that management comes from. -/
  allowMgmtFrom : Option String := none
deriving Repr

instance : Recorded Firewall where
  Values := Bool × Option String × Unit
  fields :=
    .plain "enabled" false <|
    .optional "allowMgmtFrom" <|
    .done
  ofValues := fun (enabled, allowMgmtFrom, _) => { enabled, allowMgmtFrom }
  toValues firewall := (firewall.enabled, firewall.allowMgmtFrom, ())

inductive Environment where
  | dev
  | staging
  | prod
deriving DecidableEq, Repr

instance : Spelled Environment where
  values := [.dev, .staging, .prod]
  name
    | .dev => "dev"
    | .staging => "staging"
    | .prod => "prod"

structure Metadata where
  environment : Option Environment := none
deriving Repr

instance : Recorded Metadata where
  Values := Option Environment × Unit
  fields := .optional "environment" .done
  ofValues := fun (environment, _) => { environment }
  toValues metadata := (metadata.environment, ())

end Intent

open Intent in
structure Intent where
  hostname : Option String := none
  interfaces : List Interface := []
  vlans : List Vlan := []
  routing : Routing := {}
  services : Services := {}
  firewall : Firewall := {}
  metadata : Metadata := {}
deriving Repr

namespace Intent

instance : Recorded Intent where
  Values := Option String × List Interface × List Vlan × Routing × Services × Firewall ×
    Metadata × Unit
  fields :=
    .optional "hostname" <|
    .plain "interfaces" [] <|
    .plain "vlans" [] <|
    .plain "routing" {} <|
    .plain "services" {} <|
    .plain "firewall" {} <|
    .plain "metadata" {} <|
    .done
  ofValues := fun (hostname, interfaces, vlans, routing, services, firewall, metadata, _) =>
    { hostname, interfaces, vlans, routing, services, firewall, metadata }
  toValues intent := (intent.hostname, intent.interfaces, intent.vlans, intent.routing,
    intent.services, intent.firewall, intent.metadata, ())

def sshEnabled (intent : Intent) : Bool := intent.services.ssh.any (·.enabled)

/-- The host name, unless it is blank. -/
def givenHostname? (intent : Intent) : Option String := Text.nonBlank? intent.hostname

end Intent

end DeviceConfig
