import DeviceConfig.Audit.Pack

/-!
The rule pack that is always at hand, and which pack an audit uses.
-/

namespace DeviceConfig.Audit

/-- Basic rules for the management and security of any device. -/
def Pack.baseline : Pack where
  id := "baseline"
  name := "Baseline management and security"
  version := "1.0.0"
  description := some
    "Management-plane hardening and common security hygiene for every vendor."
  rules :=
    [{ id := "NET-HOST-001"
       title := "Hostname configured"
       severity := .medium
       check := .compare "$.device.hostname" ⟨.notEmpty, none⟩
       remediation := some
         "Set a unique hostname so logs and inventory can identify the device." },
     { id := "MGT-SSH-001"
       title := "SSH enabled"
       description := some "Remote management must use SSH."
       severity := .high
       check := .predicate "sshEnabled"
       remediation := some "Enable the SSH server and generate host keys." },
     { id := "MGT-SSH-002"
       title := "SSH version 2"
       severity := .high
       vendorScope := [.cisco, .mikrotik]
       check := .compare "$.mgmt.ssh.version" ⟨.equals, some (.int 2)⟩
       remediation := some "Force SSH protocol version 2." },
     { id := "MGT-SNMP-001"
       title := "SNMP community not default"
       description := some "SNMP v1/v2c relies on community strings; prefer v3 with users."
       severity := .high
       check := .predicate "snmp_community_not_default"
       remediation := some "Migrate to SNMPv3 with authPriv users, or disable SNMP." },
     { id := "MGT-NTP-001"
       title := "Redundant NTP servers"
       severity := .low
       check := .predicate "multipleNtpServers"
       remediation := some "Configure at least two NTP servers." },
     { id := "SEC-VLAN-001"
       title := "No traffic on VLAN 1"
       severity := .medium
       check := .predicate "noVlan1Traffic"
       remediation := some "Move access ports off the default VLAN." },
     { id := "SEC-ACL-001"
       title := "ACLs end with explicit deny"
       severity := .medium
       check := .predicate "aclHasExplicitDeny"
       remediation := some "Terminate every ACL with a logged deny entry." },
     { id := "FW-LOG-001"
       title := "Any/any policies log traffic"
       severity := .high
       vendorScope := [.fortigate]
       check := .predicate "fortigate_any_any_has_logging"
       remediation := some "Enable logtraffic on any/any policies or narrow them." },
     { id := "FW-ACC-001"
       title := "Accept policies are restricted"
       severity := .high
       vendorScope := [.fortigate]
       check := .predicate "fortigate_accept_all_restricted"
       remediation := some "Restrict source, destination or service on accept policies." },
     { id := "NAT-001"
       title := "NAT rules do not overlap"
       severity := .medium
       check := .predicate "nat_no_overlap"
       remediation := some "Merge or reorder overlapping NAT rules." },
     { id := "VPN-001"
       title := "VPN uses strong crypto"
       severity := .high
       check := .predicate "vpn_strong_crypto"
       remediation := some
         "Use AES-GCM or AES-256 with SHA-256 or better for phase 1." }]

/-- Where the pack of an audit is looked for. -/
structure PackChoice where
  /-- A file that has to be there. -/
  rules : Option String := none
  /-- A directory with a file for each pack. -/
  rulesDir : Option String := none
  pack : String := "baseline"

namespace PackChoice

/-- The file of the pack in a directory. -/
def fileIn (choice : PackChoice) (directory : String) : String :=
  Files.join directory (choice.pack ++ ".toml")

/-- The file that the pack is read from, if it is read from one. -/
def file? (choice : PackChoice) : Option String :=
  choice.rules <|> choice.rulesDir.map choice.fileIn

/-- The pack for an audit, and its source. A named file must be usable. In a directory the pack may be
missing or broken, and then the baseline takes its place. -/
def resolve (reader : Files.Reader) (choice : PackChoice) : Except PackError (Pack × String) := do
  match choice.rules, choice.rulesDir with
  | some file, _ => return (← Pack.load reader file, s!"file:{file}")
  | none, some directory =>
    let file := choice.fileIn directory
    match Pack.load reader file with
    | .ok pack => return (pack, s!"file:{file}")
    | .error _ => return (.baseline, "embedded")
  | none, none =>
    if choice.pack = "baseline" then return (.baseline, "embedded")
    else throw (.unknownPack choice.pack)

end PackChoice

end DeviceConfig.Audit
