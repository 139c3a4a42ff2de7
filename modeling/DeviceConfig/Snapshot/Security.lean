import DeviceConfig.Document.Record
import DeviceConfig.Document.Spelled
import DeviceConfig.Snapshot.Flexible

/-!
What a device lets through: access lists, firewall policies, NAT rules, VPN tunnels, and
the users who may log in.
-/

namespace DeviceConfig.Snapshot

open Document

/-! ### Access lists -/

inductive AclKind where
  | standard
  | extended
  | named
deriving DecidableEq, Repr

instance : Spelled AclKind where
  values := [.standard, .extended, .named]
  name
    | .standard => "standard"
    | .extended => "extended"
    | .named => "named"

inductive AclAction where
  | permit
  | deny
  | drop
  | reject
  | other
deriving DecidableEq, Repr

instance : Spelled AclAction where
  values := [.permit, .deny, .drop, .reject, .other]
  name
    | .permit => "permit"
    | .deny => "deny"
    | .drop => "drop"
    | .reject => "reject"
    | .other => "other"
  aliases
    | .permit => ["accept", "allow"]
    | _ => []
  otherwise := some .other

/-- Does the action end a list with a refusal? -/
def AclAction.isTerminalDeny : AclAction → Bool
  | .deny | .drop => true
  | _ => false

structure AclEntry where
  sequence : Option UInt32 := none
  action : AclAction := .permit
  protocol : Option String := none
  source : Option String := none
  sourcePort : Option String := none
  destination : Option String := none
  destinationPort : Option String := none
  log : Option Bool := none
deriving Repr

instance : Recorded AclEntry where
  Values := Option UInt32 × AclAction × Option String × Option String × Option String ×
    Option String × Option String × Option Bool × Unit
  fields :=
    .optional "sequence" <|
    .plain "action" .permit <|
    .optional "protocol" <|
    .optional "source" <|
    .optional "sourcePort" <|
    .optional "destination" <|
    .optional "destinationPort" <|
    .optional "log" <|
    .done
  ofValues := fun (sequence, action, protocol, source, sourcePort, destination, destinationPort,
      log, _) =>
    { sequence, action, protocol, source, sourcePort, destination, destinationPort, log }
  toValues entry := (entry.sequence, entry.action, entry.protocol, entry.source,
    entry.sourcePort, entry.destination, entry.destinationPort, entry.log, ())

structure Acl where
  name : String := ""
  kind : Option AclKind := none
  entries : List AclEntry := []
deriving Repr

instance : Recorded Acl where
  Values := String × Option AclKind × List AclEntry × Unit
  fields :=
    .plain "name" "" <|
    .optional "type" <|
    .plain { name := "entries", aliases := ["rules"] } [] <|
    .done
  ofValues := fun (name, kind, entries, _) => { name, kind, entries }
  toValues acl := (acl.name, acl.kind, acl.entries, ())

/-! ### Firewall policies -/

inductive PolicyAction where
  | accept
  | deny
  | drop
  | reject
  | other
deriving DecidableEq, Repr

instance : Spelled PolicyAction where
  values := [.accept, .deny, .drop, .reject, .other]
  name
    | .accept => "accept"
    | .deny => "deny"
    | .drop => "drop"
    | .reject => "reject"
    | .other => "other"
  aliases
    | .accept => ["allow", "permit"]
    | _ => []
  otherwise := some .other

structure FirewallPolicy where
  id : TextOrNumber := .text ""
  name : Option String := none
  srcZone : StringOrList := .many []
  dstZone : StringOrList := .many []
  srcAddr : StringOrList := .many []
  dstAddr : StringOrList := .many []
  service : StringOrList := .many []
  action : PolicyAction := .accept
  nat : Option Bool := none
  log : Bool := false
  enabled : Bool := true
  schedule : Option String := none
  comment : Option String := none
deriving Repr

instance : Recorded FirewallPolicy where
  Values := TextOrNumber × Option String × StringOrList × StringOrList × StringOrList ×
    StringOrList × StringOrList × PolicyAction × Option Bool × Bool × Bool × Option String ×
    Option String × Unit
  fields :=
    .plain "id" (.text "") <|
    .optional "name" <|
    .plain "srcZone" (.many []) <|
    .plain "dstZone" (.many []) <|
    .plain "srcAddr" (.many []) <|
    .plain "dstAddr" (.many []) <|
    .plain "service" (.many []) <|
    .plain "action" .accept <|
    .optional "nat" <|
    .plain "log" false <|
    .plain "enabled" true <|
    .optional "schedule" <|
    .optional "comment" <|
    .done
  ofValues := fun (id, name, srcZone, dstZone, srcAddr, dstAddr, service, action, nat, log,
      enabled, schedule, comment, _) =>
    { id, name, srcZone, dstZone, srcAddr, dstAddr, service, action, nat, log, enabled, schedule,
      comment }
  toValues policy := (policy.id, policy.name, policy.srcZone, policy.dstZone, policy.srcAddr,
    policy.dstAddr, policy.service, policy.action, policy.nat, policy.log, policy.enabled,
    policy.schedule, policy.comment, ())

/-! ### NAT rules -/

inductive NatKind where
  | snat
  | dnat
  | static
  | masquerade
  | pat
deriving DecidableEq, Repr

instance : Spelled NatKind where
  values := [.snat, .dnat, .static, .masquerade, .pat]
  name
    | .snat => "snat"
    | .dnat => "dnat"
    | .static => "static"
    | .masquerade => "masquerade"
    | .pat => "pat"

structure NatRule where
  id : TextOrNumber := .text ""
  name : Option String := none
  kind : NatKind := .snat
  srcAddr : Option String := none
  dstAddr : Option String := none
  translatedAddr : Option String := none
  srcPort : Option TextOrNumber := none
  dstPort : Option TextOrNumber := none
  translatedPort : Option TextOrNumber := none
  interface : Option String := none
  enabled : Bool := true
deriving Repr

instance : Recorded NatRule where
  Values := TextOrNumber × Option String × NatKind × Option String × Option String ×
    Option String × Option TextOrNumber × Option TextOrNumber × Option TextOrNumber ×
    Option String × Bool × Unit
  fields :=
    .plain "id" (.text "") <|
    .optional "name" <|
    .plain "type" .snat <|
    .optional "srcAddr" <|
    .optional "dstAddr" <|
    .optional "translatedAddr" <|
    .optional "srcPort" <|
    .optional "dstPort" <|
    .optional "translatedPort" <|
    .optional "interface" <|
    .plain "enabled" true <|
    .done
  ofValues := fun (id, name, kind, srcAddr, dstAddr, translatedAddr, srcPort, dstPort,
      translatedPort, interface, enabled, _) =>
    { id, name, kind, srcAddr, dstAddr, translatedAddr, srcPort, dstPort, translatedPort,
      interface, enabled }
  toValues rule := (rule.id, rule.name, rule.kind, rule.srcAddr, rule.dstAddr,
    rule.translatedAddr, rule.srcPort, rule.dstPort, rule.translatedPort, rule.interface,
    rule.enabled, ())

/-! ### VPN tunnels -/

inductive VpnKind where
  | ipsec
  | ssl
  | gre
  | l2tp
  | wireguard
deriving DecidableEq, Repr

instance : Spelled VpnKind where
  values := [.ipsec, .ssl, .gre, .l2tp, .wireguard]
  name
    | .ipsec => "ipsec"
    | .ssl => "ssl"
    | .gre => "gre"
    | .l2tp => "l2tp"
    | .wireguard => "wireguard"

/-- What is proposed for one phase of the key exchange. -/
structure VpnPhase where
  encryption : List String := []
  hash : List String := []
  dhGroup : List UInt32 := []
  pfs : Option String := none
  lifetime : Option UInt64 := none
deriving Repr

instance : Recorded VpnPhase where
  Values := List String × List String × List UInt32 × Option String × Option UInt64 × Unit
  fields :=
    .plain "encryption" [] <|
    .plain "hash" [] <|
    .unlessEmpty "dhGroup" <|
    .optional "pfs" <|
    .optional "lifetime" <|
    .done
  ofValues := fun (encryption, hash, dhGroup, pfs, lifetime, _) =>
    { encryption, hash, dhGroup, pfs, lifetime }
  toValues phase := (phase.encryption, phase.hash, phase.dhGroup, phase.pfs, phase.lifetime, ())

structure VpnTunnel where
  name : String := ""
  kind : Option VpnKind := none
  localEndpoint : Option String := none
  remoteEndpoint : Option String := none
  phase1 : Option VpnPhase := none
  phase2 : Option VpnPhase := none
deriving Repr

instance : Recorded VpnTunnel where
  Values := String × Option VpnKind × Option String × Option String × Option VpnPhase ×
    Option VpnPhase × Unit
  fields :=
    .plain "name" "" <|
    .optional "type" <|
    .optional "localEndpoint" <|
    .optional "remoteEndpoint" <|
    .optional "phase1" <|
    .optional "phase2" <|
    .done
  ofValues := fun (name, kind, localEndpoint, remoteEndpoint, phase1, phase2, _) =>
    { name, kind, localEndpoint, remoteEndpoint, phase1, phase2 }
  toValues tunnel := (tunnel.name, tunnel.kind, tunnel.localEndpoint, tunnel.remoteEndpoint,
    tunnel.phase1, tunnel.phase2, ())

/-! ### Users -/

structure LocalUser where
  name : String := ""
  role : Option String := none
  privilege : Option UInt8 := none
deriving Repr

instance : Recorded LocalUser where
  Values := String × Option String × Option UInt8 × Unit
  fields :=
    .plain "name" "" <|
    .optional "role" <|
    .optional "privilege" <|
    .done
  ofValues := fun (name, role, privilege, _) => { name, role, privilege }
  toValues user := (user.name, user.role, user.privilege, ())

structure Security where
  acls : List Acl := []
  firewallPolicies : List FirewallPolicy := []
  natRules : List NatRule := []
  vpnTunnels : List VpnTunnel := []
  users : List LocalUser := []
deriving Repr

instance : Recorded Security where
  Values := List Acl × List FirewallPolicy × List NatRule × List VpnTunnel × List LocalUser × Unit
  fields :=
    .plain "acls" [] <|
    .plain "firewallPolicies" [] <|
    .plain "natRules" [] <|
    .plain "vpnTunnels" [] <|
    .plain "users" [] <|
    .done
  ofValues := fun (acls, firewallPolicies, natRules, vpnTunnels, users, _) =>
    { acls, firewallPolicies, natRules, vpnTunnels, users }
  toValues security := (security.acls, security.firewallPolicies, security.natRules,
    security.vpnTunnels, security.users, ())

end DeviceConfig.Snapshot
