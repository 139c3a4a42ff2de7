import DeviceConfig.Snapshot.Interface
import DeviceConfig.Snapshot.Management
import DeviceConfig.Snapshot.Security
import DeviceConfig.Vendor

/-!
Snapshots: the configuration in effect on a device, in a form common to all vendors. Everything in a
snapshot may be missing from the document it is read from. The snapshot, its device and its interfaces
keep what else the document says of them.
-/

namespace DeviceConfig

open Document

namespace Snapshot

structure Device where
  vendor : Vendor := .generic
  hostname : String := ""
  mgmtIp : Option String := none
  osVersion : Option String := none
  model : Option String := none
  domain : Option String := none
  extensions : List (String × Json) := []
deriving Repr

instance : OpenRecorded Device where
  Values := Vendor × String × Option String × Option String × Option String × Option String × Unit
  fields :=
    .plain "vendor" .generic <|
    .plain "hostname" "" <|
    .optional "mgmtIp" <|
    .optional "osVersion" <|
    .optional "model" <|
    .optional "domain" <|
    .done
  ofValues := fun (vendor, hostname, mgmtIp, osVersion, model, domain, _) extensions =>
    { vendor, hostname, mgmtIp, osVersion, model, domain, extensions }
  toValues device := ((device.vendor, device.hostname, device.mgmtIp, device.osVersion,
    device.model, device.domain, ()), device.extensions)

structure StaticRoute where
  destination : String := ""
  prefixLength : UInt8 := 0
  nextHop : Option String := none
  interface : Option String := none
  metric : Option UInt32 := none
deriving Repr

instance : Recorded StaticRoute where
  Values := String × UInt8 × Option String × Option String × Option UInt32 × Unit
  fields :=
    .plain "destination" "" <|
    .plain "prefix" 0 <|
    .optional "nextHop" <|
    .optional "interface" <|
    .optional "metric" <|
    .done
  ofValues := fun (destination, prefixLength, nextHop, interface, metric, _) =>
    { destination, prefixLength, nextHop, interface, metric }
  toValues route := (route.destination, route.prefixLength, route.nextHop, route.interface,
    route.metric, ())

structure Routing where
  staticRoutes : List StaticRoute := []
  defaultGateway : Option String := none
deriving Repr

instance : Recorded Routing where
  Values := List StaticRoute × Option String × Unit
  fields :=
    .plain "staticRoutes" [] <|
    .optional "defaultGateway" <|
    .done
  ofValues := fun (staticRoutes, defaultGateway, _) => { staticRoutes, defaultGateway }
  toValues routing := (routing.staticRoutes, routing.defaultGateway, ())

structure Metadata where
  parserVersion : Option String := none
  warnings : List String := []
deriving Repr

instance : Recorded Metadata where
  Values := Option String × List String × Unit
  fields :=
    .optional "parserVersion" <|
    .unlessEmpty "warnings" <|
    .done
  ofValues := fun (parserVersion, warnings, _) => { parserVersion, warnings }
  toValues metadata := (metadata.parserVersion, metadata.warnings, ())

/-- The version of the form that snapshots have here. -/
def currentSchema : String := "1.0.0"

end Snapshot

open Snapshot in
structure Snapshot where
  schemaVersion : String := currentSchema
  device : Device := {}
  interfaces : List Interface := []
  vlans : List Vlan := []
  routing : Routing := {}
  security : Security := {}
  mgmt : Management := {}
  metadata : Metadata := {}
  extensions : List (String × Json) := []
deriving Repr

namespace Snapshot

instance : OpenRecorded Snapshot where
  Values := String × Device × List Interface × List Vlan × Routing × Security × Management ×
    Metadata × Unit
  fields :=
    .plain "schemaVersion" currentSchema <|
    .plain "device" {} <|
    .plain "interfaces" [] <|
    .plain "vlans" [] <|
    .plain "routing" {} <|
    .plain "security" {} <|
    .plain "mgmt" {} <|
    .plain "metadata" {} <|
    .done
  ofValues := fun (schemaVersion, device, interfaces, vlans, routing, security, mgmt, metadata, _)
      extensions =>
    { schemaVersion, device, interfaces, vlans, routing, security, mgmt, metadata, extensions }
  toValues snapshot := ((snapshot.schemaVersion, snapshot.device, snapshot.interfaces,
    snapshot.vlans, snapshot.routing, snapshot.security, snapshot.mgmt, snapshot.metadata, ()),
    snapshot.extensions)

def vendor (snapshot : Snapshot) : Vendor := snapshot.device.vendor

/-- A device of which only vendor and host name are known. -/
def ofDevice (vendor : Vendor) (hostname : String) : Snapshot := { device := { vendor, hostname } }

/-- The value in which paths are looked up. -/
def view (snapshot : Snapshot) : Json := toJson snapshot

end Snapshot

end DeviceConfig
