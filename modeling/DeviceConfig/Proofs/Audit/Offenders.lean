import DeviceConfig.Proofs.Audit.NatRules
import DeviceConfig.Proofs.Text.Interpolation
import Mathlib.Data.List.Forall2
import Mathlib.Data.List.Infix

/-!
The predicates that name what offends. Each goes through the items of one kind and tells of every item that offends,
once and in the order of the items. So more items can only bring more to tell of.
-/

namespace DeviceConfig.Snapshot

open Text

/-! ### What offends -/

def Interface.OnVlan1 (iface : Interface) : Prop := iface.vlan = some 1 ∨ iface.accessVlan = some 1

instance (iface : Interface) : Decidable iface.OnVlan1 := inferInstanceAs (Decidable (_ ∨ _))

/-- Nothing refuses what no entry is about. -/
def Acl.LacksDeny (acl : Acl) : Prop :=
  acl.entries = [] ∨ ∃ last ∈ acl.entries.getLast?, last.action ≠ .deny ∧ last.action ≠ .drop

instance (acl : Acl) : Decidable acl.LacksDeny := inferInstanceAs (Decidable (_ ∨ _))

/-- One algorithm that a tunnel proposes for the first phase of the key exchange. -/
structure Proposal where
  tunnel : String
  use : String
  algorithm : String

def VpnTunnel.proposals (tunnel : VpnTunnel) : List Proposal :=
  tunnel.phase1.elim [] fun phase =>
    phase.encryption.map (⟨tunnel.name, "encryption", ·⟩) ++ phase.hash.map (⟨tunnel.name, "hash", ·⟩)

def Proposal.IsWeak (proposal : Proposal) : Prop :=
  "des".toList <:+: (lower proposal.algorithm).toList ∨ "md5".toList <:+: (lower proposal.algorithm).toList

def Proposal.violation (proposal : Proposal) : String :=
  s!"VPN {proposal.tunnel}: weak {proposal.use} {proposal.algorithm}"

instance (proposal : Proposal) : Decidable proposal.IsWeak := inferInstanceAs (Decidable (_ ∨ _))

/-! ### Snapshots with more in them -/

end DeviceConfig.Snapshot

namespace DeviceConfig.Audit

open Snapshot Text

instance (text : String) : Decidable (NamesAny text) := inferInstanceAs (Decidable (_ ∨ _))

/-- From anywhere to anywhere, for any service. -/
def IsOpen (policy : FirewallPolicy) : Prop :=
  (∃ source ∈ policy.srcAddr.toList, NamesAny source ∨ trim source = "0.0.0.0/0") ∧
    (∃ destination ∈ policy.dstAddr.toList, NamesAny destination ∨ trim destination = "0.0.0.0/0") ∧
    ∃ service ∈ policy.service.toList, NamesAny service

instance (policy : FirewallPolicy) : Decidable (IsOpen policy) := inferInstanceAs (Decidable (_ ∧ _))

/-- What a predicate goes through, which of it offends, and what is told of an item that does. -/
structure Listing where
  name : String
  {Item : Type}
  items : Snapshot → List Item
  Offends : Snapshot → Item → Prop
  [decide : ∀ snapshot item, Decidable (Offends snapshot item)]
  entry : Item → String

namespace Listing

def vlan1 : Listing where
  name := "noVlan1Traffic"
  items := (·.interfaces)
  Offends := fun _ iface => iface.OnVlan1
  entry := (·.name)

def openAcls : Listing where
  name := "aclHasExplicitDeny"
  items := (·.security.acls)
  Offends := fun _ acl => acl.LacksDeny
  entry := (·.name)

def weakAlgorithms : Listing where
  name := "vpn_strong_crypto"
  items := fun snapshot => snapshot.security.vpnTunnels.flatMap (·.proposals)
  Offends := fun _ proposal => proposal.IsWeak
  entry := Proposal.violation

/-- Only the policies of a FortiGate offend. -/
def policies (name what : String) (offends : FirewallPolicy → Prop) [DecidablePred offends] : Listing where
  name
  items := (·.security.firewallPolicies)
  Offends := fun snapshot policy => snapshot.vendor = .fortigate ∧ offends policy
  entry := fun policy => s!"Policy {policy.id.toText}: {what}"

def unlogged : Listing :=
  policies "fortigate_any_any_has_logging" "any-any without logging"
    fun policy => IsOpen policy ∧ policy.log = false

def accepting : Listing :=
  policies "fortigate_accept_all_restricted" "accept policy is overly permissive"
    fun policy => IsOpen policy ∧ policy.action = .accept

def all : List Listing := [vlan1, openAcls, weakAlgorithms, unlogged, accepting]

variable (listing : Listing) (snapshot : Snapshot)

def offenders : List listing.Item :=
  have := listing.decide
  (listing.items snapshot).filter (listing.Offends snapshot ·)

/-- What is told of the offenders. -/
def entries : List String := (listing.offenders snapshot).map listing.entry

variable {listing snapshot} {other : Snapshot}

end Listing

/-! ### What the predicates tell -/

/-- The outcome is a failure with these entries, or a pass if there is none. -/
def Outcome.Tells (outcome : Outcome) (entries : List String) : Prop :=
  outcome.passed = entries.isEmpty ∧
    outcome.value = if entries.isEmpty then none else some (.strings entries)

section
variable (snapshot : Snapshot)

end

end DeviceConfig.Audit
