import DeviceConfig.Document.Record
import DeviceConfig.Document.Spelled

/-!
Interfaces and VLANs as a device has them.
-/

namespace DeviceConfig.Snapshot

open Document

inductive InterfaceKind where
  | physical
  | vlan
  | loopback
  | tunnel
  | aggregate
  | bridge
  | virtual
deriving DecidableEq, Repr

instance : Spelled InterfaceKind where
  values := [.physical, .vlan, .loopback, .tunnel, .aggregate, .bridge, .virtual]
  name
    | .physical => "physical"
    | .vlan => "vlan"
    | .loopback => "loopback"
    | .tunnel => "tunnel"
    | .aggregate => "aggregate"
    | .bridge => "bridge"
    | .virtual => "virtual"

inductive VlanMode where
  | access
  | trunk
  | hybrid
deriving DecidableEq, Repr

instance : Spelled VlanMode where
  values := [.access, .trunk, .hybrid]
  name
    | .access => "access"
    | .trunk => "trunk"
    | .hybrid => "hybrid"

inductive IpFamily where
  | ipv4
  | ipv6
deriving DecidableEq, Repr

instance : Spelled IpFamily where
  values := [.ipv4, .ipv6]
  name
    | .ipv4 => "ipv4"
    | .ipv6 => "ipv6"

structure IpAssignment where
  address : String := ""
  prefixLength : UInt8 := 0
  family : IpFamily := .ipv4
  secondary : Bool := false
deriving Repr

instance : Recorded IpAssignment where
  Values := String × UInt8 × IpFamily × Bool × Unit
  fields :=
    .plain "address" "" <|
    .plain "prefix" 0 <|
    .plain "type" .ipv4 <|
    .whenSet "secondary" <|
    .done
  ofValues := fun (address, prefixLength, family, secondary, _) =>
    { address, prefixLength, family, secondary }
  toValues ip := (ip.address, ip.prefixLength, ip.family, ip.secondary, ())

structure Interface where
  name : String := ""
  kind : InterfaceKind := .physical
  adminUp : Bool := true
  ips : List IpAssignment := []
  vlanMode : Option VlanMode := none
  accessVlan : Option UInt16 := none
  /-- Where older collectors report the access VLAN. -/
  vlan : Option UInt16 := none
  trunkVlans : List UInt16 := []
  nativeVlan : Option UInt16 := none
  description : Option String := none
  zone : Option String := none
  mtu : Option UInt32 := none
  extensions : List (String × Json) := []
deriving Repr

instance : OpenRecorded Interface where
  Values := String × InterfaceKind × Bool × List IpAssignment × Option VlanMode × Option UInt16 ×
    Option UInt16 × List UInt16 × Option UInt16 × Option String × Option String × Option UInt32 ×
    Unit
  fields :=
    .plain "name" "" <|
    .plain "type" .physical <|
    .plain "adminUp" true <|
    .plain "ips" [] <|
    .optional "vlanMode" <|
    .optional "accessVlan" <|
    .optional "vlan" <|
    .unlessEmpty "trunkVlans" <|
    .optional "nativeVlan" <|
    .optional "description" <|
    .optional "zone" <|
    .optional "mtu" <|
    .done
  ofValues := fun (name, kind, adminUp, ips, vlanMode, accessVlan, vlan, trunkVlans, nativeVlan,
      description, zone, mtu, _) extensions =>
    { name, kind, adminUp, ips, vlanMode, accessVlan, vlan, trunkVlans, nativeVlan, description,
      zone, mtu, extensions }
  toValues iface :=
    ((iface.name, iface.kind, iface.adminUp, iface.ips, iface.vlanMode, iface.accessVlan, iface.vlan,
      iface.trunkVlans, iface.nativeVlan, iface.description, iface.zone, iface.mtu, ()),
      iface.extensions)

/-- Is VLAN 1 the access VLAN, wherever that is reported? -/
def Interface.usesVlan1 (iface : Interface) : Bool :=
  iface.vlan == some 1 || iface.accessVlan == some 1

structure Vlan where
  id : UInt16 := 0
  name : Option String := none
  gatewayIps : List String := []
  description : Option String := none
deriving Repr

instance : Recorded Vlan where
  Values := UInt16 × Option String × List String × Option String × Unit
  fields :=
    .plain "id" 0 <|
    .optional "name" <|
    .plain "l3GatewayIps" [] <|
    .optional "description" <|
    .done
  ofValues := fun (id, name, gatewayIps, description, _) => { id, name, gatewayIps, description }
  toValues vlan := (vlan.id, vlan.name, vlan.gatewayIps, vlan.description, ())

end DeviceConfig.Snapshot
