import DeviceConfig.Document.Record
import DeviceConfig.Document.Spelled

/-!
How a device is managed: the ways to log in, and the servers it reports to and takes the time from.
-/

namespace DeviceConfig.Snapshot

open Document

structure Ssh where
  enabled : Bool := false
  portNumber : Option UInt16 := none
  version : Option UInt8 := none
  allowedSources : List String := []
deriving Repr

instance : Recorded Ssh where
  Values := Bool × Option UInt16 × Option UInt8 × List String × Unit
  fields :=
    .plain "enabled" false <|
    .optional "port" <|
    .optional "version" <|
    .unlessEmpty "allowedSources" <|
    .done
  ofValues := fun (enabled, portNumber, version, allowedSources, _) =>
    { enabled, portNumber, version, allowedSources }
  toValues ssh := (ssh.enabled, ssh.portNumber, ssh.version, ssh.allowedSources, ())

structure Telnet where
  enabled : Bool := false
  portNumber : Option UInt16 := none
deriving Repr

instance : Recorded Telnet where
  Values := Bool × Option UInt16 × Unit
  fields :=
    .plain "enabled" false <|
    .optional "port" <|
    .done
  ofValues := fun (enabled, portNumber, _) => { enabled, portNumber }
  toValues telnet := (telnet.enabled, telnet.portNumber, ())

inductive SnmpVersion where
  | v1
  | v2c
  | v3
deriving DecidableEq, Repr

instance : Spelled SnmpVersion where
  values := [.v1, .v2c, .v3]
  name
    | .v1 => "v1"
    | .v2c => "v2c"
    | .v3 => "v3"

structure Snmp where
  enabled : Bool := false
  version : Option SnmpVersion := none
  /-- Only how many there are says anything; the names are blacked out. -/
  communities : List String := []
  users : List String := []
deriving Repr

instance : Recorded Snmp where
  Values := Bool × Option SnmpVersion × List String × List String × Unit
  fields :=
    .plain "enabled" false <|
    .optional "version" <|
    .plain "communities" [] <|
    .plain "users" [] <|
    .done
  ofValues := fun (enabled, version, communities, users, _) =>
    { enabled, version, communities, users }
  toValues snmp := (snmp.enabled, snmp.version, snmp.communities, snmp.users, ())

/-! ### Servers -/

/-- Reads a server: its address alone, or a table, of which every part has to be readable. -/
def readServer? {α : Type} (ofAddress : String → α) (readTable? : Node → Option α) :
    Node → Option α
  | .string address => some (ofAddress address)
  | .list _ => none
  | node => do
    let _ ← node.toJson?
    readTable? node

inductive TransportProtocol where
  | udp
  | tcp
  | tls
deriving DecidableEq, Repr

instance : Spelled TransportProtocol where
  values := [.udp, .tcp, .tls]
  name
    | .udp => "udp"
    | .tcp => "tcp"
    | .tls => "tls"

/-- An empty table does not stand for null here. -/
instance : Readable TransportProtocol where
  read?
    | .string word => Spelled.ofWord? word
    | .table [(word, .null)] => Spelled.ofWord? word
    | _ => none

structure SyslogServer where
  address : String := ""
  portNumber : Option UInt16 := none
  protocol : Option TransportProtocol := none
deriving Repr

instance : Recorded SyslogServer where
  Values := String × Option UInt16 × Option TransportProtocol × Unit
  fields :=
    .required "address" <|
    .optional "port" <|
    .optional "protocol" <|
    .done
  ofValues := fun (address, portNumber, protocol, _) => { address, portNumber, protocol }
  toValues server := (server.address, server.portNumber, server.protocol, ())

instance : Readable SyslogServer := ⟨readServer? ({ address := · }) read?⟩

structure Syslog where
  enabled : Bool := false
  servers : List SyslogServer := []
deriving Repr

instance : Recorded Syslog where
  Values := Bool × List SyslogServer × Unit
  fields :=
    .plain "enabled" false <|
    .plain "servers" [] <|
    .done
  ofValues := fun (enabled, servers, _) => { enabled, servers }
  toValues syslog := (syslog.enabled, syslog.servers, ())

structure NtpServer where
  address : String := ""
  prefer : Bool := false
deriving Repr

instance : Recorded NtpServer where
  Values := String × Bool × Unit
  fields :=
    .required "address" <|
    .whenSet "prefer" <|
    .done
  ofValues := fun (address, prefer, _) => { address, prefer }
  toValues server := (server.address, server.prefer, ())

instance : Readable NtpServer := ⟨readServer? ({ address := · }) read?⟩

structure Ntp where
  enabled : Bool := false
  servers : List NtpServer := []
  timezone : Option String := none
deriving Repr

instance : Recorded Ntp where
  Values := Bool × List NtpServer × Option String × Unit
  fields :=
    .plain "enabled" false <|
    .plain "servers" [] <|
    .optional "timezone" <|
    .done
  ofValues := fun (enabled, servers, timezone, _) => { enabled, servers, timezone }
  toValues ntp := (ntp.enabled, ntp.servers, ntp.timezone, ())

structure Management where
  ssh : Ssh := {}
  telnet : Telnet := {}
  snmp : Snmp := {}
  syslog : Syslog := {}
  ntp : Ntp := {}
deriving Repr

instance : Recorded Management where
  Values := Ssh × Telnet × Snmp × Syslog × Ntp × Unit
  fields :=
    .plain "ssh" {} <|
    .plain "telnet" {} <|
    .plain "snmp" {} <|
    .plain "syslog" {} <|
    .plain "ntp" {} <|
    .done
  ofValues := fun (ssh, telnet, snmp, syslog, ntp, _) => { ssh, telnet, snmp, syslog, ntp }
  toValues mgmt := (mgmt.ssh, mgmt.telnet, mgmt.snmp, mgmt.syslog, mgmt.ntp, ())

end DeviceConfig.Snapshot
