import DeviceConfig.Audit.Baseline

/-!
The text that comes with the program reads as the baseline pack, whatever its source is called.
-/

namespace DeviceConfig.Audit

def Pack.baselineText : String :=
  "id = \"baseline\"
name = \"Baseline management and security\"
version = \"1.0.0\"
description = \"Management-plane hardening and common security hygiene for every vendor.\"

[[rules]]
id = \"NET-HOST-001\"
title = \"Hostname configured\"
severity = \"medium\"
type = \"match\"
path = \"$.device.hostname\"
condition = \x7b operator = \"notEmpty\" \x7d
remediation = \"Set a unique hostname so logs and inventory can identify the device.\"

[[rules]]
id = \"MGT-SSH-001\"
title = \"SSH enabled\"
description = \"Remote management must use SSH.\"
severity = \"high\"
type = \"custom\"
predicateName = \"sshEnabled\"
remediation = \"Enable the SSH server and generate host keys.\"

[[rules]]
id = \"MGT-SSH-002\"
title = \"SSH version 2\"
severity = \"high\"
vendorScope = [\"cisco\", \"mikrotik\"]
type = \"match\"
path = \"$.mgmt.ssh.version\"
condition = \x7b operator = \"equals\", value = 2 \x7d
remediation = \"Force SSH protocol version 2.\"

[[rules]]
id = \"MGT-SNMP-001\"
title = \"SNMP community not default\"
description = \"SNMP v1/v2c relies on community strings; prefer v3 with users.\"
severity = \"high\"
type = \"custom\"
predicateName = \"snmp_community_not_default\"
remediation = \"Migrate to SNMPv3 with authPriv users, or disable SNMP.\"

[[rules]]
id = \"MGT-NTP-001\"
title = \"Redundant NTP servers\"
severity = \"low\"
type = \"custom\"
predicateName = \"multipleNtpServers\"
remediation = \"Configure at least two NTP servers.\"

[[rules]]
id = \"SEC-VLAN-001\"
title = \"No traffic on VLAN 1\"
severity = \"medium\"
type = \"custom\"
predicateName = \"noVlan1Traffic\"
remediation = \"Move access ports off the default VLAN.\"

[[rules]]
id = \"SEC-ACL-001\"
title = \"ACLs end with explicit deny\"
severity = \"medium\"
type = \"custom\"
predicateName = \"aclHasExplicitDeny\"
remediation = \"Terminate every ACL with a logged deny entry.\"

[[rules]]
id = \"FW-LOG-001\"
title = \"Any/any policies log traffic\"
severity = \"high\"
vendorScope = [\"fortigate\"]
type = \"custom\"
predicateName = \"fortigate_any_any_has_logging\"
remediation = \"Enable logtraffic on any/any policies or narrow them.\"

[[rules]]
id = \"FW-ACC-001\"
title = \"Accept policies are restricted\"
severity = \"high\"
vendorScope = [\"fortigate\"]
type = \"custom\"
predicateName = \"fortigate_accept_all_restricted\"
remediation = \"Restrict source, destination or service on accept policies.\"

[[rules]]
id = \"NAT-001\"
title = \"NAT rules do not overlap\"
severity = \"medium\"
type = \"custom\"
predicateName = \"nat_no_overlap\"
remediation = \"Merge or reorder overlapping NAT rules.\"

[[rules]]
id = \"VPN-001\"
title = \"VPN uses strong crypto\"
severity = \"high\"
type = \"custom\"
predicateName = \"vpn_strong_crypto\"
remediation = \"Use AES-GCM or AES-256 with SHA-256 or better for phase 1.\"
"

set_option maxRecDepth 20000 in
theorem read_baselineText :
    ((Toml.read? Pack.baselineText).bind fun node => (Pack.read node).toOption) =
      some Pack.baseline := by
  -- The literal is its list of characters, which need not be decoded.
  have chars : Pack.baselineText.toList = _ := String.toList_ofList
  rw [Toml.read?, chars]
  decide +kernel

theorem finish_baseline (source : String) : Pack.baseline.finish source = .ok Pack.baseline := by
  have named : Text.isBlankText Pack.baseline.id = false := by decide
  have titled : Text.isBlankText Pack.baseline.name = false := by decide
  have distinct : firstRepeated? [] (Pack.baseline.rules.map (·.id)) = none := by decide
  have unscoped : Pack.baseline.rules.map (Pack.scopeRule Pack.baseline.vendorScope) =
      Pack.baseline.rules := by decide
  simp only [Pack.finish, named, titled, distinct, unscoped]
  rfl

theorem parse_of_read {text source : String} {pack : Pack}
    (read : ((Toml.read? text).bind fun node => (Pack.read node).toOption) = some pack)
    (ready : pack.finish source = .ok pack) : Pack.parse .toml source text = .ok pack := by
  obtain ⟨node, parsed, found⟩ := Option.bind_eq_some_iff.mp read
  have loaded : Pack.read node = .ok pack := by
    cases result : Pack.read node with
    | error cause => simp [result, Except.toOption] at found
    | ok other => simpa [result, Except.toOption] using found
  have opened : Document.Format.toml.load .malformed Pack.read text = .ok pack := by
    simp [Document.Format.load, Document.Format.read, parsed, loaded]
  rw [Pack.parse, opened]
  exact ready

theorem parse_baselineText (source : String) :
    Pack.parse .toml source Pack.baselineText = .ok Pack.baseline :=
  parse_of_read read_baselineText (finish_baseline source)

end DeviceConfig.Audit
