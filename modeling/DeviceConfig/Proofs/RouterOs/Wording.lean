import DeviceConfig.Proofs.Rollout.Wording

/-!
The words of RouterOS. A menu has a word for looking and others for changing.
-/

namespace DeviceConfig.RouterOs

open Rollout

def wording : Wording where
  looking := ["/interface vlan print", "/ip address print", "/ip route print", "/ip firewall filter print"]
  changing :=
    ["/system ", "/interface bridge ", "/interface vlan add ", "/interface vlan remove ", "/interface set ",
     "/interface disable ", "/interface enable ", "/ip address add ", "/ip address remove ", "/ip route add ",
     "/ip route remove ", "/ip service ", "/ip dns ", "/ip firewall filter add ", "/ip firewall filter remove "]

theorem keepsTo_change (word other : String) (known : word ∈ wording.changing ∧ other ∈ wording.changing)
    {target : Section} {command undo : String} (start : begins word command) (back : begins other undo) :
    (change target command undo).KeepsTo wording :=
  ⟨List.forall_mem_singleton.mpr (wording.changes_of_begins known.1 start),
    wording.changes_of_begins known.2 back⟩

theorem keepsTo_base (intent : Intent) : (base intent).KeepsTo wording := by
  simp only [base, keepsTo_append]
  constructor
  · intro mutation member
    simp only [Option.mem_toList, Option.map_eq_some_iff] at member
    obtain ⟨hostname, _, rfl⟩ := member
    exact keepsTo_change "/system " "/system " (by simp [wording]) (by simp [begins]) (by simp [begins])
  · split
    · simp only [keepsTo_cons, keepsTo_nil, and_true]
      exact keepsTo_change "/interface bridge " "/interface bridge " (by simp [wording]) (by simp [begins]) (by simp [begins])
    · exact keepsTo_nil

theorem keepsTo_vlan (vlan : Intent.Vlan) : (RouterOs.vlan vlan).KeepsTo wording := by
  refine keepsTo_cons.mpr ⟨?_, ?_⟩
  · exact keepsTo_change "/interface vlan add " "/interface vlan remove " (by simp [wording]) (by simp [begins])
      (by simp [begins])
  · intro mutation member
    simp only [Option.mem_toList, Option.map_eq_some_iff] at member
    obtain ⟨gateway, _, rfl⟩ := member
    exact keepsTo_change "/ip address add " "/ip address remove " (by simp [wording]) (by simp [begins])
      (by simp [begins])

theorem keepsTo_interface (iface : Intent.Interface) : (RouterOs.interface iface).KeepsTo wording := by
  intro mutation planned
  simp only [RouterOs.interface, List.mem_append, Option.mem_toList, Option.map_eq_some_iff] at planned
  rcases planned with ((⟨_, _, rfl⟩ | ⟨_, _, rfl⟩) | ⟨_, _, rfl⟩) | disabled
  · exact keepsTo_change "/ip address add " "/ip address remove " (by simp [wording]) (by simp [begins])
      (by simp [begins])
  · exact keepsTo_change "/interface bridge " "/interface bridge " (by simp [wording]) (by simp [begins])
      (by simp [begins])
  · exact keepsTo_change "/interface set " "/interface set " (by simp [wording]) (by simp [begins])
      (by simp [begins])
  · split at disabled
    · contradiction
    · rw [List.mem_singleton.mp disabled]
      exact keepsTo_change "/interface disable " "/interface enable " (by simp [wording]) (by simp [begins])
        (by simp [begins])

theorem keepsTo_route (route : Intent.Route) : (RouterOs.route route).KeepsTo wording :=
  keepsTo_change "/ip route add " "/ip route remove " (by simp [wording]) (by simp [begins]) (by simp [begins])

theorem keepsTo_services (services : Intent.Services) :
    (RouterOs.services services).KeepsTo wording := by
  simp only [RouterOs.services, keepsTo_append]
  refine ⟨⟨⟨?_, ?_⟩, ?_⟩, ?_⟩
  · split
    · exact keepsTo_nil
    · simp only [keepsTo_cons, keepsTo_nil, and_true]
      constructor
      · exact keepsTo_change "/ip service " "/ip service " (by simp [wording]) (by simp [begins]) (by simp [begins])
      · exact keepsTo_change "/ip service " "/ip service " (by simp [wording]) (by simp [begins]) (by simp [begins])
  · intro mutation member
    obtain ⟨command, made, rfl⟩ := Option.map_eq_some_iff.mp (Option.mem_toList.mp member)
    refine keepsTo_change "/system " "/system " (by simp [wording]) ?_ (by simp [begins])
    unfold ntpClient? at made
    split at made
    · cases made
    · simp [← Option.some.inj made, begins]
    · simp [← Option.some.inj made, begins]
  · split
    · exact keepsTo_nil
    · simp only [keepsTo_cons, keepsTo_nil, and_true]
      exact keepsTo_change "/ip dns " "/ip dns " (by simp [wording]) (by simp [begins]) (by simp [begins])
  · split
    · exact keepsTo_nil
    · simp only [keepsTo_cons, keepsTo_nil, and_true]
      constructor
      · exact keepsTo_change "/system " "/system " (by simp [wording]) (by simp [begins]) (by simp [begins])
      · exact keepsTo_change "/system " "/system " (by simp [wording]) (by simp [begins]) (by simp [begins])

theorem keepsTo_filterRule (tag body : String) : (filterRule tag body).KeepsTo wording :=
  keepsTo_change "/ip firewall filter add " "/ip firewall filter remove " (by simp [wording]) (by simp [begins])
    (by simp [begins])

theorem keepsTo_firewall (firewall : Intent.Firewall) :
    (RouterOs.firewall firewall).KeepsTo wording := by
  unfold RouterOs.firewall
  split
  · simp only [keepsTo_cons, keepsTo_nil, and_true]
    exact ⟨keepsTo_filterRule _ _, keepsTo_filterRule _ _, keepsTo_filterRule _ _, keepsTo_filterRule _ _⟩
  · exact keepsTo_nil

theorem keepsTo_plan (intent : Intent) : (plan intent).KeepsTo wording := by
  simp only [plan, keepsTo_append]
  refine ⟨⟨⟨⟨⟨keepsTo_base intent, ?_⟩, ?_⟩, ?_⟩, keepsTo_services _⟩, keepsTo_firewall _⟩
  · exact List.forall_mem_flatMap.mpr fun vlan _ => keepsTo_vlan vlan
  · exact List.forall_mem_flatMap.mpr fun iface _ => keepsTo_interface iface
  · exact List.forall_mem_map.mpr fun route _ => keepsTo_route route

theorem looks_verify (intent : Intent) : ∀ command ∈ verify intent, wording.looks command := by
  simp only [verify, List.forall_mem_append]
  refine ⟨by decide, ?_⟩
  split <;> decide

end DeviceConfig.RouterOs
