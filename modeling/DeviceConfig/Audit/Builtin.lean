import DeviceConfig.Audit.Predicate
import DeviceConfig.Text.Blank
import DeviceConfig.Text.Case
import DeviceConfig.Text.Split

/-!
The predicates that are always at hand.
-/

namespace DeviceConfig.Audit

open Snapshot Text

/-! ### Management -/

/-- Community names are blacked out, so below version 3 there is nothing to tell good ones by. -/
def snmpCommunityNotDefault (snapshot : Snapshot) : Outcome :=
  let snmp := snapshot.mgmt.snmp
  if !snmp.enabled then .pass
  else if snmp.version == some .v3 && !snmp.users.isEmpty then .pass
  else
    { Outcome.verdict (snmp.version == some .v3)
        "SNMP v1/v2c detected - ensure non-default community strings are used" with
      path := some "$.mgmt.snmp" }

def snmpV3Only (snapshot : Snapshot) : Outcome :=
  .verdict (snapshot.mgmt.snmp.version == some .v3) "SNMP not v3"

def sshEnabled (snapshot : Snapshot) : Outcome :=
  .verdict snapshot.mgmt.ssh.enabled "SSH not enabled"

/-- The number of servers is told in any case. -/
def multipleNtpServers (snapshot : Snapshot) : Outcome :=
  let count := snapshot.mgmt.ntp.servers.length
  { passed := decide (2 ≤ count), message := some s!"NTP servers: {count}" }

/-- A reminder: a snapshot does not tell how the secret is kept. -/
def ciscoEnableEncrypted (snapshot : Snapshot) : Outcome :=
  if snapshot.vendor = .cisco then
    { passed := true
      message := some "Enable secret encryption check requires raw config analysis" }
  else .pass

/-! ### Access -/

/-- Fails with the names of the items that offend, if there are any. -/
def refuseAll (message path : String) (names : List String) : Outcome :=
  if names.isEmpty then .pass
  else { message := some message, path := some path, value := some (.strings names) }

def noVlan1Traffic (snapshot : Snapshot) : Outcome :=
  refuseAll "Interface uses VLAN 1" "$.interfaces"
    ((snapshot.interfaces.filter (·.usesVlan1)).map (·.name))

/-- Does a list end by refusing? One without entries does not. -/
def endsWithDeny (acl : Acl) : Bool := acl.entries.getLast?.any (·.action.isTerminalDeny)

def aclHasExplicitDeny (snapshot : Snapshot) : Outcome :=
  refuseAll "ACL missing explicit deny" "$.security.acls"
    ((snapshot.security.acls.filter (!endsWithDeny ·)).map (·.name))

/-! ### Firewall policies -/

def isAnyService (service : String) : Bool :=
  let service := trim service
  sameIgnoringCase service "any" || sameIgnoringCase service "all"

def isAnyAddress (address : String) : Bool :=
  isAnyService address || trim address == "0.0.0.0/0"

/-- Any source, any destination and any service. Of a list one member is enough. -/
def isAnyToAny (policy : FirewallPolicy) : Bool :=
  policy.srcAddr.toList.any isAnyAddress && policy.dstAddr.toList.any isAnyAddress &&
    policy.service.toList.any isAnyService

/-- Refuses some policies of a FortiGate. Other devices pass. -/
def refusePolicies (offends : FirewallPolicy → Bool) (what : String) (snapshot : Snapshot) :
    Outcome :=
  if snapshot.vendor = .fortigate then
    let offenders := snapshot.security.firewallPolicies.filter offends
    let outcome := Outcome.ofViolations
      (offenders.map fun policy => s!"Policy {policy.id.toText}: {what}")
    if outcome.passed then outcome
    else { outcome with path := some "$.security.firewallPolicies" }
  else .pass

def anyToAnyIsLogged : Snapshot → Outcome :=
  refusePolicies (fun policy => isAnyToAny policy && !policy.log) "any-any without logging"

def acceptAllIsRestricted : Snapshot → Outcome :=
  refusePolicies (fun policy => policy.action == .accept && isAnyToAny policy)
    "accept policy is overly permissive"

/-! ### NAT rules -/

/-- Do two rules select the same traffic? Only rules with equal fields are seen to, so networks may
still overlap. -/
def natOverlaps (a b : NatRule) : Bool :=
  a.kind == b.kind && match a.kind with
    | .dnat => a.dstAddr == b.dstAddr && a.dstPort == b.dstPort
    | .snat => a.srcAddr == b.srcAddr && a.translatedAddr == b.translatedAddr
    | _ => false

/-- A message for each two rules that overlap. -/
def natViolations : List NatRule → List String
  | [] => []
  | rule :: rest =>
    ((rest.filter (natOverlaps rule)).map fun other =>
      s!"NAT rules {rule.id.toText} and {other.id.toText} may overlap") ++ natViolations rest

def natNoOverlap (snapshot : Snapshot) : Outcome :=
  .ofViolations (natViolations snapshot.security.natRules)

/-! ### VPN tunnels -/

/-- Parts of names that tell weak algorithms. -/
def weakAlgorithms : List String := ["des", "3des", "md5"]

def isWeak (algorithm : String) : Bool := weakAlgorithms.any (contains (lower algorithm) ·)

def tunnelViolations (tunnel : VpnTunnel) : List String :=
  match tunnel.phase1 with
  | none => []
  | some phase =>
    ((phase.encryption.filter isWeak).map fun name =>
      s!"VPN {tunnel.name}: weak encryption {name}") ++
    ((phase.hash.filter isWeak).map fun name => s!"VPN {tunnel.name}: weak hash {name}")

def vpnStrongCrypto (snapshot : Snapshot) : Outcome :=
  .ofViolations (snapshot.security.vpnTunnels.flatMap tunnelViolations)

/-! ### All of them -/

structure Builtin where
  name : String
  description : String
  check : Snapshot → Outcome

/-- The built-in predicates in the order of their names. -/
def builtins : List Builtin :=
  [{ name := "aclHasExplicitDeny"
     description := "Every ACL ends with a deny or drop entry"
     check := aclHasExplicitDeny },
   { name := "cisco_enable_encrypted"
     description := "Enable secret encryption (advisory; needs raw config)"
     check := ciscoEnableEncrypted },
   { name := "fortigate_accept_all_restricted"
     description := "FortiGate accept policies are not any/any/any"
     check := acceptAllIsRestricted },
   { name := "fortigate_any_any_has_logging"
     description := "FortiGate any/any policies log traffic"
     check := anyToAnyIsLogged },
   { name := "multipleNtpServers"
     description := "At least two NTP servers are configured"
     check := multipleNtpServers },
   { name := "nat_no_overlap"
     description := "No two NAT rules select the same traffic"
     check := natNoOverlap },
   { name := "noVlan1Traffic"
     description := "No interface carries VLAN 1 untagged"
     check := noVlan1Traffic },
   { name := "snmpV3Only"
     description := "SNMP version is v3"
     check := snmpV3Only },
   { name := "snmp_community_not_default"
     description := "SNMP is disabled, or runs v3 with configured users"
     check := snmpCommunityNotDefault },
   { name := "sshEnabled"
     description := "SSH management access is enabled"
     check := sshEnabled },
   { name := "vpn_strong_crypto"
     description := "VPN phase-1 proposals avoid DES, 3DES and MD5"
     check := vpnStrongCrypto }]

/-- The registry with all built-in predicates. -/
def Registry.builtin : Registry :=
  builtins.foldl (fun registry predicate =>
    registry.register predicate.name fun snapshot => some (predicate.check snapshot)) {}

end DeviceConfig.Audit
