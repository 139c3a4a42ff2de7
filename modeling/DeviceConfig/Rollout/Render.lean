import DeviceConfig.FortiOs.Rollout
import DeviceConfig.Ios.Rollout
import DeviceConfig.RouterOs.Rollout

/-!
From intents to rollouts. An intent that no vendor could express is refused.
-/

namespace DeviceConfig.Rollout

inductive RolloutError where
  | unsupportedVendor (vendor : Vendor)
  | missingField (field : String)
  | invalidField (field reason : String)
deriving DecidableEq, Repr

def RolloutError.message : RolloutError → String
  | .unsupportedVendor vendor => s!"vendor '{vendor.name}' has no renderer"
  | .missingField field => s!"missing required field {field}"
  | .invalidField field reason => s!"invalid field {field}: {reason}"

def interfaceFault? (place : Nat) (iface : Intent.Interface) : Option RolloutError :=
  if Text.isBlankText iface.name then some (.missingField s!"interfaces[{place}].name") else none

def vlanFault? (place : Nat) (vlan : Intent.Vlan) : Option RolloutError :=
  if 1 ≤ vlan.id ∧ vlan.id ≤ 4094 then none
  else some (.invalidField s!"vlans[{place}].id" s!"{vlan.id} is outside 1-4094")

def routeFault? (place : Nat) (route : Intent.Route) : Option RolloutError :=
  if Text.isBlankText route.destination then
    some (.missingField s!"routing.staticRoutes[{place}].destination")
  else if Text.isBlankText route.nextHop then
    some (.missingField s!"routing.staticRoutes[{place}].nextHop")
  else none

/-- The first fault among items that are told apart by their places. -/
def firstFault? {α : Type} (fault? : Nat → α → Option RolloutError) (items : List α) :
    Option RolloutError :=
  (items.mapIdx fault?).findSome? id

/-- Interfaces are looked at first, then VLANs, then routes. -/
def fault? (intent : Intent) : Option RolloutError :=
  firstFault? interfaceFault? intent.interfaces <|>
    firstFault? vlanFault? intent.vlans <|>
    firstFault? routeFault? intent.routing.staticRoutes

/-- How the devices of a vendor are configured. -/
structure CommandLanguage where
  plan : Intent → Plan
  /-- Commands that only look. -/
  verify : Intent → List String

def languageOf (vendor : Vendor) : Except RolloutError CommandLanguage :=
  match vendor with
  | .cisco => .ok ⟨Ios.plan, Ios.verify⟩
  | .mikrotik => .ok ⟨RouterOs.plan, RouterOs.verify⟩
  | .fortigate => .ok ⟨FortiOs.plan, FortiOs.verify⟩
  | .generic => .error (.unsupportedVendor vendor)

def render (intent : Intent) (vendor : Vendor) : Except RolloutError Rollout := do
  let language ← languageOf vendor
  match fault? intent with
  | some fault => throw fault
  | none => return (language.plan intent).finish vendor (language.verify intent)

end DeviceConfig.Rollout
