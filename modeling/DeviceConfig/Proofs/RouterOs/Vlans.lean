import DeviceConfig.Proofs.Rollout.Readings
import DeviceConfig.Proofs.Text.Digits
import DeviceConfig.RouterOs.Rollout

/-!
VLANs in the commands of RouterOS: those of the intent, and those of access ports.
-/

namespace DeviceConfig.RouterOs

open Rollout Text

/-- The VLAN that a line makes, or assigns to a port as its last setting. -/
def vlanIn? (line : String) : Option Nat :=
  match words line with
  | "/interface" :: "vlan" :: "add" :: _name :: id :: _ => numberBehind? "vlan-id=" id
  | "/interface" :: "bridge" :: "port" :: "add" :: settings =>
    settings.getLast?.bind (numberBehind? "pvid=")
  | _ => none

def portVlans (iface : Intent.Interface) : List Nat := iface.accessVlan?.toList.map (·.toNat)

/-! ### Lines that name a VLAN -/

theorem vlanIn?_vlan (id : UInt16) (comment : String) :
    vlanIn? ("/interface vlan add name=" ++ ("vlan" ++ toString id) ++ " vlan-id=" ++ toString id ++
      " interface=" ++ bridge ++ comment) = some id.toNat := by
  have pieces : "/interface vlan add name=" ++ ("vlan" ++ toString id) ++ " vlan-id=" ++
      toString id ++ " interface=" ++ bridge ++ comment =
      "/interface vlan add" ++ " " ++ ("name=vlan" ++ toString id) ++ " " ++
        ("vlan-id=" ++ toString id) ++ " " ++ ("interface=" ++ bridge ++ comment) := by
    simp [← String.toList_inj]
  have front : words "/interface vlan add" = ["/interface", "vlan", "add"] := by decide
  rw [vlanIn?, pieces, words_append, words_append, words_append, front,
    words_number _ (by decide), words_number _ (by decide)]
  exact numberBehind?_append "vlan-id=" id

theorem vlanIn?_port (name : String) (id : UInt16) :
    vlanIn? ("/interface bridge port add bridge=" ++ bridge ++ " interface=" ++ name ++
      " pvid=" ++ toString id) = some id.toNat := by
  have pieces : "/interface bridge port add bridge=" ++ bridge ++ " interface=" ++ name ++
      " pvid=" ++ toString id =
      "/interface bridge port add bridge=br0" ++ " " ++ ("interface=" ++ name) ++ " " ++
        ("pvid=" ++ toString id) := by
    simp [← String.toList_inj, bridge]
  have front : words "/interface bridge port add bridge=br0" =
      ["/interface", "bridge", "port", "add", "bridge=br0"] := by decide
  rw [vlanIn?, pieces, words_append, words_append, front, words_number _ (by decide)]
  -- The name may have words of its own, so the number is looked for from the end.
  simp only [List.cons_append, List.nil_append]
  rw [← List.cons_append, List.getLast?_concat]
  exact numberBehind?_append "pvid=" id

/-! ### Lines of other menus -/

/-- A command of a menu that knows no VLANs. -/
def IsAside (line : String) : Prop :=
  "/ip ".toList <+: line.toList ∨ "/system ".toList <+: line.toList

theorem vlanIn?_eq_none {first line : String} (word : words first = [first])
    (other : first ≠ "/interface") (starts : (first ++ " ").toList <+: line.toList) :
    vlanIn? line = none := by
  obtain ⟨rest, whole⟩ := starts
  have pieces : line = first ++ " " ++ String.ofList rest := by
    simp [← String.toList_inj, ← whole]
  rw [pieces, vlanIn?, words_append, word]
  split
  · next begins => exact absurd (List.cons.inj begins).1 other
  · next begins => exact absurd (List.cons.inj begins).1 other
  · rfl

theorem vlanIn?_aside {line : String} (aside : IsAside line) : vlanIn? line = none := by
  rcases aside with ip | system
  · exact vlanIn?_eq_none (by decide : words "/ip" = ["/ip"]) (by decide) ip
  · exact vlanIn?_eq_none (by decide : words "/system" = ["/system"]) (by decide) system

theorem vlans_aside {plan : Plan}
    (aside : ∀ mutation ∈ plan, ∀ line ∈ mutation.commands, IsAside line) :
    plan.readings vlanIn? = [] :=
  readings_eq_nil fun mutation planned line member =>
    vlanIn?_aside (aside mutation planned line member)

/-! ### Changes -/

theorem vlans_vlan (vlan : Intent.Vlan) : (RouterOs.vlan vlan).readings vlanIn? = [vlan.id.toNat] := by
  have made := vlanIn?_vlan vlan.id (vlan.name.elim "" fun text => " comment=\"" ++ text ++ "\"")
  have address (gateway length : String) : vlanIn? ("/ip address add address=" ++ gateway ++ "/" ++
      length ++ " interface=" ++ ("vlan" ++ toString vlan.id)) = none :=
    vlanIn?_aside (by simp [IsAside])
  cases given : vlan.gateway <;> simp [RouterOs.vlan, change, given, made, address]

theorem vlans_interface (iface : Intent.Interface) :
    (RouterOs.interface iface).readings vlanIn? = portVlans iface := by
  have address (address : String) :
      vlanIn? ("/ip address add address=" ++ address ++ " interface=" ++ iface.name) = none :=
    vlanIn?_aside (by simp [IsAside])
  have comment (text : String) :
      vlanIn? ("/interface set [find name=" ++ iface.name ++ "] comment=\"" ++ text ++ "\"") =
        none := by
    simp [vlanIn?, words, splitOn]
  have disable : vlanIn? ("/interface disable " ++ iface.name) = none := by
    simp [vlanIn?, words, splitOn]
  have state : Plan.readings vlanIn? (if iface.isEnabled then []
      else [change .interfaces s!"/interface disable {iface.name}"
        s!"/interface enable {iface.name}"]) = [] := by
    split <;> simp [change, disable]
  simp only [RouterOs.interface, portVlans, readings_append, readings_optional, state]
  simp only [change, List.filterMap_cons, List.filterMap_nil, toString_text, vlanIn?_port, address,
    comment]
  cases iface.ipAddress <;> cases iface.description <;> simp [List.map_eq_flatMap]

theorem vlans_services (services : Intent.Services) :
    (RouterOs.services services).readings vlanIn? = [] := by
  simp only [RouterOs.services, readings_append, List.append_eq_nil_iff]
  refine ⟨⟨⟨?_, ?_⟩, ?_⟩, ?_⟩
  · split
    · rfl
    · exact vlans_aside (by simp [change, IsAside])
  · apply vlans_aside
    unfold ntpClient?
    split <;> simp [change, IsAside]
  · split
    · rfl
    · exact vlans_aside (by simp [change, IsAside])
  · split
    · rfl
    · exact vlans_aside (by simp [change, IsAside])

theorem filterRule_aside (tag body : String) :
    ∀ line ∈ (filterRule tag body).commands, IsAside line := by
  simp [filterRule, change, IsAside]

theorem vlans_firewall (firewall : Intent.Firewall) :
    (RouterOs.firewall firewall).readings vlanIn? = [] := by
  apply vlans_aside
  unfold RouterOs.firewall
  split
  · simp only [List.forall_mem_cons]
    exact ⟨filterRule_aside _ _, filterRule_aside _ _, filterRule_aside _ _, filterRule_aside _ _,
      List.forall_mem_nil _⟩
  · exact List.forall_mem_nil _

theorem vlans_plan (intent : Intent) :
    (plan intent).readings vlanIn? =
      intent.vlans.map (·.id.toNat) ++ intent.interfaces.flatMap portVlans := by
  have base : (base intent).readings vlanIn? = [] := by
    unfold RouterOs.base
    cases intent.givenHostname? <;> cases needsBridge intent <;>
      simp [change, vlanIn?, words, splitOn]
  have made : Plan.readings vlanIn? (intent.vlans.flatMap vlan) =
      intent.vlans.map (·.id.toNat) := by
    rw [readings_flatMap, List.map_eq_flatMap]
    exact List.flatMap_congr fun vlan _ => vlans_vlan vlan
  have ports : Plan.readings vlanIn? (intent.interfaces.flatMap interface) =
      intent.interfaces.flatMap portVlans := by
    rw [readings_flatMap]
    exact List.flatMap_congr fun iface _ => vlans_interface iface
  have routes : Plan.readings vlanIn? (intent.routing.staticRoutes.map route) = [] :=
    vlans_aside (by simp [RouterOs.route, change, IsAside])
  simp only [plan, readings_append, base, made, ports, routes, vlans_services, vlans_firewall,
    List.nil_append, List.append_nil]

end DeviceConfig.RouterOs
