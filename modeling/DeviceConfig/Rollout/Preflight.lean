import DeviceConfig.Audit.Finding
import DeviceConfig.Rollout.Render

/-!
Checks of an intent before it is rolled out. What they find keeps nothing from being rendered.
-/

namespace DeviceConfig.Rollout

open Audit

/-- A finding about a field of the intent. -/
def preflightFinding (id name : String) (severity : Severity)
    (field message remediation : String) : Finding :=
  { id := Finding.noId
    ruleId := id
    ruleName := name
    severity
    message
    path := some field
    remediation := some remediation }

def ciscoSshRequired : Finding :=
  preflightFinding "ssh-required" "SSH required" .high "services.ssh.enabled"
    "SSH must be enabled on Cisco IOS." "Enable SSH and enforce v2."

def ciscoSshVersion : Finding :=
  preflightFinding "ssh-v2" "SSH version 2" .medium "services.ssh.version"
    "Cisco requires SSH v2." "Set SSH version to 2."

def mikrotikSshEnabled : Finding :=
  preflightFinding "ssh-enabled" "SSH enabled" .medium "services.ssh.enabled"
    "SSH service should be enabled on RouterOS." "Enable SSH or ensure remote access policy."

def fortigateSshEnabled : Finding :=
  preflightFinding "ssh-enabled" "SSH enabled" .medium "services.ssh.enabled"
    "SSH administrative access should be enabled on FortiOS."
    "Enable SSH admin access on the management interface."

def fortigateMgmtSource : Finding :=
  preflightFinding "mgmt-source" "Management source restricted" .medium "firewall.allowMgmtFrom"
    "Firewall is enabled but no management source network is set."
    "Set allowMgmtFrom so local-in policies can restrict admin access."

def prodSshPassword : Finding :=
  preflightFinding "prod-ssh-password" "No SSH passwords in production" .medium
    "services.ssh.allowPassword"
    "Production devices should not allow SSH password authentication."
    "Disable password authentication and use keys."

/-- A list with the item if the condition holds. -/
def itemIf {α : Type} (condition : Bool) (item : α) : List α := if condition then [item] else []

/-- What the vendor's devices ask for. -/
def vendorFindings (intent : Intent) (vendor : Vendor) : Except RolloutError (List Finding) :=
  let ssh := intent.services.ssh
  let sshOff := ssh.any fun ssh => !ssh.enabled
  match vendor with
  | .cisco => .ok (itemIf (!intent.sshEnabled) ciscoSshRequired ++
      itemIf (ssh.bind (·.version) != some 2) ciscoSshVersion)
  | .mikrotik => .ok (itemIf sshOff mikrotikSshEnabled)
  | .fortigate => .ok (itemIf sshOff fortigateSshEnabled ++
      itemIf (intent.firewall.enabled && intent.firewall.allowMgmtFrom.isNone)
        fortigateMgmtSource)
  | .generic => .error (.unsupportedVendor vendor)

/-- All findings, those about production devices last. -/
def preflight (intent : Intent) (vendor : Vendor) : Except RolloutError (List Finding) := do
  let findings ← vendorFindings intent vendor
  return findings ++ itemIf
    (intent.metadata.environment == some .prod && intent.services.ssh.any (·.allowPassword))
    prodSshPassword

end DeviceConfig.Rollout
