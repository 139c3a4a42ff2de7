import DeviceConfig.Proofs.Rollout.Wording

/-!
The words of IOS. A command that only looks shows something, and no other command begins so.
-/

namespace DeviceConfig.Ios

open Rollout

/-- A blank leads to the commands inside a block. -/
def wording : Wording where
  looking := ["show "]
  changing :=
    ["hostname ", "vlan ", "interface ", "ip ", "line ", "ntp ", "logging ", "no ", "default ", " "]

theorem keepsTo_interface (iface : Intent.Interface) : (Ios.interface iface).KeepsTo wording := by
  obtain ⟨settings, same, each⟩ := interface_commands iface
  refine ⟨?_, by simp [Ios.interface, Wording.changes, wording, begins]⟩
  rw [same, List.forall_mem_cons]
  refine ⟨by simp [Wording.changes, wording, begins], fun setting member => ?_⟩
  cases each setting member <;> simp [Wording.changes, wording, begins]

theorem keepsTo_line {target : Section} {command : String} (start : wording.changes command) :
    (line target command).KeepsTo wording :=
  ⟨List.forall_mem_singleton.mpr start, by simp [line, Wording.changes, wording, begins]⟩

theorem keepsTo_services (intent : Intent) : (services intent).KeepsTo wording := by
  simp only [services, keepsTo_append]
  refine ⟨⟨⟨⟨?_, ?_⟩, ?_⟩, ?_⟩, ?_⟩
  · split
    · simp only [keepsTo_cons, keepsTo_nil, and_true]
      decide
    · exact keepsTo_nil
  · simp only [keepsTo_cons, keepsTo_nil, and_true]
    decide
  · exact List.forall_mem_map.mpr fun server _ =>
      keepsTo_line (by simp [Wording.changes, wording, begins])
  · exact List.forall_mem_map.mpr fun server _ =>
      keepsTo_line (by simp [Wording.changes, wording, begins])
  · split
    · exact keepsTo_nil
    · simp only [keepsTo_append, keepsTo_cons, keepsTo_nil, and_true]
      exact ⟨List.forall_mem_map.mpr fun server _ =>
        keepsTo_line (by simp [Wording.changes, wording, begins]), by decide⟩

theorem keepsTo_firewall (firewall : Intent.Firewall) : (Ios.firewall firewall).KeepsTo wording := by
  unfold Ios.firewall
  split
  · split
    · simp [Mutation.KeepsTo, Wording.changes, wording, begins]
    · simp [Mutation.KeepsTo, Wording.changes, wording, begins]
      split <;> simp
  · exact keepsTo_nil

theorem keepsTo_plan (intent : Intent) : (plan intent).KeepsTo wording := by
  simp only [plan, keepsTo_append]
  refine ⟨⟨⟨⟨⟨⟨?_, ?_⟩, ?_⟩, ?_⟩, ?_⟩, keepsTo_services intent⟩, keepsTo_firewall intent.firewall⟩
  · unfold Ios.base
    cases intent.givenHostname? <;> simp [Mutation.KeepsTo, Wording.changes, wording, begins]
  · refine List.forall_mem_map.mpr fun vlan _ => ?_
    simp [Ios.vlan, Mutation.KeepsTo, Wording.changes, wording, begins]
  · intro mutation member
    obtain ⟨vlan, _, made⟩ := List.mem_filterMap.mp member
    obtain ⟨gateway, _, rfl⟩ := Option.map_eq_some_iff.mp made
    simp [Mutation.KeepsTo, Wording.changes, wording, begins]
  · exact List.forall_mem_map.mpr fun iface _ => keepsTo_interface iface
  · refine List.forall_mem_map.mpr fun route _ => ?_
    simp [Ios.route, Mutation.KeepsTo, Wording.changes, wording, begins]

theorem looks_verify (intent : Intent) : ∀ command ∈ verify intent, wording.looks command := by
  simp only [verify, List.forall_mem_append]
  refine ⟨⟨by decide, ?_⟩, ?_⟩
  · split <;> decide
  · split <;> decide

end DeviceConfig.Ios
