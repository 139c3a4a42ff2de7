import DeviceConfig.Snapshot.Basic
import Mathlib

/-!
Two snapshots of one device by collectors that spell alike values differently: a text or the list of it alone, a
number or its decimal text.
-/

namespace DeviceConfig.Snapshot

/-! ### Values -/

namespace StringOrList

inductive Respelled : StringOrList → StringOrList → Prop where
  | same (value : StringOrList) : Respelled value value
  | listed (text : String) : Respelled (.one text) (.many [text])
  | alone (text : String) : Respelled (.many [text]) (.one text)

theorem Respelled.toList_eq {value other : StringOrList} (respelled : value.Respelled other) :
    other.toList = value.toList := by
  cases respelled <;> rfl

end StringOrList

namespace TextOrNumber

inductive Respelled : TextOrNumber → TextOrNumber → Prop where
  | same (value : TextOrNumber) : Respelled value value
  | written (number : Int64) : Respelled (.number number) (.text (toString number.toInt))
  | read (number : Int64) : Respelled (.text (toString number.toInt)) (.number number)

/-- A number has one decimal text, and no other number has it. -/
theorem respelled_iff {value other : TextOrNumber} : value.Respelled other ↔ value.toText = other.toText := by
  constructor
  · rintro (_ | _ | _) <;> rfl
  · intro same
    match value, other, same with
    | .number n, .number m, same =>
      obtain rfl : n = m := Int64.toInt_inj.mp (Int.repr_inj.mp same)
      exact .same _
    | .number n, .text _, rfl => exact .written n
    | .text _, .number n, rfl => exact .read n
    | .text _, .text _, rfl => exact .same _

end TextOrNumber

/-! ### Records -/

inductive FirewallPolicy.Respelled (policy : FirewallPolicy) : FirewallPolicy → Prop where
  | intro {id : TextOrNumber} {srcZone dstZone srcAddr dstAddr service : StringOrList}
      (sameId : policy.id.Respelled id)
      (sameSrcZone : policy.srcZone.Respelled srcZone) (sameDstZone : policy.dstZone.Respelled dstZone)
      (sameSrcAddr : policy.srcAddr.Respelled srcAddr) (sameDstAddr : policy.dstAddr.Respelled dstAddr)
      (sameService : policy.service.Respelled service) :
      Respelled policy { policy with id, srcZone, dstZone, srcAddr, dstAddr, service }

theorem FirewallPolicy.Respelled.refl (policy : FirewallPolicy) : policy.Respelled policy :=
  .intro (.same _) (.same _) (.same _) (.same _) (.same _) (.same _)

inductive NatRule.Respelled (rule : NatRule) : NatRule → Prop where
  | intro {id : TextOrNumber} {srcPort dstPort translatedPort : Option TextOrNumber}
      (sameId : rule.id.Respelled id)
      (sameSrcPort : Option.Rel TextOrNumber.Respelled rule.srcPort srcPort)
      (sameDstPort : Option.Rel TextOrNumber.Respelled rule.dstPort dstPort)
      (sameTranslatedPort : Option.Rel TextOrNumber.Respelled rule.translatedPort translatedPort) :
      Respelled rule { rule with id, srcPort, dstPort, translatedPort }

/-- Snapshots that differ at most in how policies and NAT rules are spelled. -/
inductive Respelled (snapshot : Snapshot) : Snapshot → Prop where
  | intro {firewallPolicies : List FirewallPolicy} {natRules : List NatRule}
      (policies : List.Forall₂ FirewallPolicy.Respelled snapshot.security.firewallPolicies firewallPolicies)
      (rules : List.Forall₂ NatRule.Respelled snapshot.security.natRules natRules) :
      Respelled snapshot
        { snapshot with security := { snapshot.security with firewallPolicies, natRules } }

theorem rel_same (port : Option TextOrNumber) : Option.Rel TextOrNumber.Respelled port port := by
  cases port with
  | none => exact .none
  | some port => exact .some (.same port)

theorem toText_eq_of_rel {port other : Option TextOrNumber}
    (respelled : Option.Rel TextOrNumber.Respelled port other) :
    other.map TextOrNumber.toText = port.map TextOrNumber.toText := by
  cases respelled with
  | none => rfl
  | some same => exact congrArg some (TextOrNumber.respelled_iff.mp same).symm

end DeviceConfig.Snapshot
