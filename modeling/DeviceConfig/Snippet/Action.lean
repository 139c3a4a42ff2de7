import DeviceConfig.Document.Spelled
import DeviceConfig.Text.Blank
import DeviceConfig.Text.Case
import DeviceConfig.Vendor

/-!
What a snippet of commands can be for.
-/

namespace DeviceConfig.Snippet

inductive Action where
  | baseline
  | wanUplink
  | lanVlan
  | dhcpServer
  | staticRoute
  | ospf
  | natOverload
  | firewallBasic
  | loadBalancing
  | bridge
  | secureBaseline
deriving DecidableEq, Repr

namespace Action

def name : Action → String
  | .baseline => "baseline"
  | .wanUplink => "wan_uplink"
  | .lanVlan => "lan_vlan"
  | .dhcpServer => "dhcp_server"
  | .staticRoute => "static_route"
  | .ospf => "ospf"
  | .natOverload => "nat_overload"
  | .firewallBasic => "firewall_basic"
  | .loadBalancing => "load_balancing"
  | .bridge => "bridge"
  | .secureBaseline => "secure_baseline"

def all : List Action :=
  [.baseline, .wanUplink, .lanVlan, .dhcpServer, .staticRoute, .ospf, .natOverload,
   .firewallBasic, .loadBalancing, .bridge, .secureBaseline]

instance : Document.Spelled Action := { values := all, name }

/-- The action a person names: blanks around it and letter case aside. -/
def ofText? (text : String) : Option Action :=
  all.find? fun action => Text.sameIgnoringCase action.name (Text.trim text)

end Action

inductive SnippetError where
  | missingParam (key : String)
  | invalidParam (key expected : String)
  | unknownAction (text : String)
  | unsupportedVendor (vendor : Vendor)
deriving DecidableEq, Repr

def SnippetError.message : SnippetError → String
  | .missingParam key => s!"missing param: {key}"
  | .invalidParam key expected => s!"invalid param {key}: expected {expected}"
  | .unknownAction text => s!"unknown action '{text}'"
  | .unsupportedVendor vendor => s!"vendor '{vendor.name}' has no command templates"

end DeviceConfig.Snippet
