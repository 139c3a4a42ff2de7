import DeviceConfig.Proofs.Rollout.Order

/-!
The order of the commands of IOS. A VLAN is made before its interface, and the access list for management
before it is put on the terminal lines.
-/

namespace DeviceConfig.Ios

open Rollout

/-- A VLAN and its interface. -/
def vlanDependency (id : UInt16) : Dependency where
  defines command := command = s!"vlan {id}"
  uses command := command = s!"interface Vlan{id}"
  undefines undo := undo = s!"no vlan {id}"
  releases undo := undo = s!"no interface Vlan{id}"

/-- The access list for management and its place on the terminal lines. -/
def mgmtDependency : Dependency where
  defines command := command = "ip access-list extended MGMT-IN"
  uses command := command = " access-class MGMT-IN in"
  undefines undo := undo = "no ip access-list extended MGMT-IN"
  releases undo := undo = "line vty 0 4\n no access-class MGMT-IN in"

/-! ### Changes that neither make a VLAN nor put a list in its place -/

def Marked (line : String) : Prop := begins "vlan " line ∨ begins " access-class " line

def MarkedUndo (undo : String) : Prop := begins "no vlan " undo ∨ begins "line vty 0 4\n no " undo

theorem base_avoids (intent : Intent) : (base intent).Avoids Marked MarkedUndo := by
  unfold Ios.base
  cases intent.givenHostname? <;>
    simp [Plan.Avoids, Mutation.Avoids, Marked, MarkedUndo, begins]

theorem gateway_avoids {vlan : Intent.Vlan} {mutation : Mutation}
    (made : gateway? vlan = some mutation) : mutation.Avoids Marked MarkedUndo := by
  obtain ⟨gateway, _, rfl⟩ := Option.map_eq_some_iff.mp made
  simp [Mutation.Avoids, Marked, MarkedUndo, begins]

theorem gateway?_of_given {vlan : Intent.Vlan} (given : vlan.gateway.isSome) :
    ∃ mutation rest, gateway? vlan = some mutation ∧
      mutation.commands = s!"interface Vlan{vlan.id}" :: rest ∧
      mutation.undo = s!"no interface Vlan{vlan.id}" := by
  obtain ⟨gateway, given⟩ := Option.isSome_iff_exists.mp given
  exact ⟨_, _, by rw [gateway?, given, Option.map_some], rfl, rfl⟩

theorem interface_avoids (iface : Intent.Interface) :
    (Ios.interface iface).Avoids Marked MarkedUndo := by
  obtain ⟨settings, same, each⟩ := interface_commands iface
  refine ⟨?_, by simp [Ios.interface, MarkedUndo, begins]⟩
  rw [same, List.forall_mem_cons]
  refine ⟨by simp [Marked, begins], fun setting member => ?_⟩
  cases each setting member <;> simp [Marked, begins]

theorem route_avoids (route : Intent.Route) : (Ios.route route).Avoids Marked MarkedUndo := by
  simp [Ios.route, Mutation.Avoids, Marked, MarkedUndo, begins]

theorem services_avoids (intent : Intent) : (services intent).Avoids Marked MarkedUndo := by
  simp only [services, avoids_append]
  refine ⟨⟨⟨⟨?_, ?_⟩, ?_⟩, ?_⟩, ?_⟩
  · split <;> simp [Plan.Avoids, Mutation.Avoids, Marked, MarkedUndo, begins]
  · simp [Plan.Avoids, Mutation.Avoids, Marked, MarkedUndo, begins]
  · simp [Plan.Avoids, Mutation.Avoids, Marked, MarkedUndo, begins, line]
  · simp [Plan.Avoids, Mutation.Avoids, Marked, MarkedUndo, begins, line]
  · split <;> simp [Plan.Avoids, Mutation.Avoids, Marked, MarkedUndo, begins, line, or_imp, forall_and]

/-- All changes behind the VLANs and before the firewall. -/
def middle (intent : Intent) : Plan :=
  intent.vlans.filterMap gateway? ++ intent.interfaces.map interface ++
    intent.routing.staticRoutes.map route ++ services intent

theorem middle_avoids (intent : Intent) : (middle intent).Avoids Marked MarkedUndo := by
  simp only [middle, avoids_append]
  refine ⟨⟨⟨?_, ?_⟩, ?_⟩, services_avoids intent⟩
  · intro mutation member
    obtain ⟨vlan, _, made⟩ := List.mem_filterMap.mp member
    exact gateway_avoids made
  · exact List.forall_mem_map.mpr fun iface _ => interface_avoids iface
  · exact List.forall_mem_map.mpr fun route _ => route_avoids route

theorem plan_eq (intent : Intent) :
    plan intent = base intent ++ intent.vlans.map vlan ++ middle intent ++ firewall intent.firewall := by
  simp [plan, middle]

theorem firewall_makes_no_vlan (firewall : Intent.Firewall) :
    (Ios.firewall firewall).Avoids (begins "vlan " ·) (begins "no vlan " ·) := by
  unfold Ios.firewall
  split
  · split <;> simp [Plan.Avoids, Mutation.Avoids, begins, mgmtAcl, or_imp, forall_and]
    split <;> simp
  · simp [Plan.Avoids]

theorem vlans_make_no_interface (intent : Intent) :
    Plan.Avoids (begins "interface " ·) (begins "no interface " ·)
      (base intent ++ intent.vlans.map vlan) := by
  refine avoids_append.mpr ⟨?_, List.forall_mem_map.mpr fun vlan _ => ?_⟩
  · unfold Ios.base
    cases intent.givenHostname? <;> simp [Plan.Avoids, Mutation.Avoids, begins]
  · simp [Ios.vlan, Mutation.Avoids, begins]

theorem lists_unused (intent : Intent) :
    Plan.Avoids (begins " access-class " ·) (begins "line vty 0 4\n no " ·)
      (base intent ++ intent.vlans.map vlan ++ middle intent) := by
  have apart : ∀ plan : Plan, plan.Avoids Marked MarkedUndo →
      plan.Avoids (begins " access-class " ·) (begins "line vty 0 4\n no " ·) :=
    fun plan avoids => avoids.mono (fun _ => .inr) (fun _ => .inr)
  refine avoids_append.mpr ⟨avoids_append.mpr ⟨apart _ (base_avoids intent),
    List.forall_mem_map.mpr fun vlan _ => ?_⟩, apart _ (middle_avoids intent)⟩
  simp [Ios.vlan, Mutation.Avoids, begins]

/-- The access list for management, with the line that lets the source through. -/
def mgmtList (permit : String) : Mutation :=
  ⟨.firewall, ["ip access-list extended MGMT-IN", permit, " deny ip any any log"],
    "no ip access-list extended MGMT-IN"⟩

def mgmtUse : Mutation :=
  ⟨.firewall, ["line vty 0 4", " access-class MGMT-IN in"],
    "line vty 0 4\n no access-class MGMT-IN in"⟩

theorem firewall_eq {firewall : Intent.Firewall} (enabled : firewall.enabled)
    (given : firewall.allowMgmtFrom.isSome) :
    ∃ permit, begins " permit " permit ∧ Ios.firewall firewall = [mgmtList permit, mgmtUse] := by
  obtain ⟨source, given⟩ := Option.isSome_iff_exists.mp given
  simp only [Ios.firewall, enabled, if_true, given]
  refine ⟨_, ?_, rfl⟩
  split <;> simp [begins]

/-- Where the list is not used there is no source that may manage the device. -/
theorem firewall_cases (firewall : Intent.Firewall) :
    (Ios.firewall firewall).Avoids (begins " access-class " ·) (begins "line vty 0 4\n no " ·) ∨
      ∃ permit, begins " permit " permit ∧ Ios.firewall firewall = [mgmtList permit, mgmtUse] := by
  cases enabled : firewall.enabled with
  | false => exact .inl (by simp [Ios.firewall, enabled, Plan.Avoids])
  | true =>
    cases given : firewall.allowMgmtFrom with
    | none =>
      exact .inl (by simp [Ios.firewall, enabled, given, Plan.Avoids, Mutation.Avoids, begins, mgmtAcl])
    | some source => exact .inr (firewall_eq enabled (by rw [given]; rfl))

/-! ### The order of a rollout -/

/-- Every VLAN comes before its interface, and the access list for management before its use. -/
structure InOrder (intent : Intent) (rollout : Rollout) : Prop where
  vlan : ∀ vlan ∈ intent.vlans, rollout.Brings s!"vlan {vlan.id}" s!"no vlan {vlan.id}" ∧
    (vlan.gateway.isSome →
      rollout.Brings s!"interface Vlan{vlan.id}" s!"no interface Vlan{vlan.id}") ∧
    rollout.Respects (vlanDependency vlan.id)
  mgmt : (intent.firewall.enabled → intent.firewall.allowMgmtFrom.isSome →
      rollout.Brings "ip access-list extended MGMT-IN" "no ip access-list extended MGMT-IN" ∧
      rollout.Brings " access-class MGMT-IN in" "line vty 0 4\n no access-class MGMT-IN in") ∧
    rollout.Respects mgmtDependency

variable {intent : Intent} {rollout : Rollout} (rendered : render intent .cisco = .ok rollout)
include rendered

theorem respects_vlan {vlan : Intent.Vlan} (member : vlan ∈ intent.vlans) :
    rollout.Respects (vlanDependency vlan.id) := by
  have defined : Marked s!"vlan {vlan.id}" ∧ MarkedUndo s!"no vlan {vlan.id}" := by
    simp [Marked, MarkedUndo, begins]
  have parts : plan intent = (base intent ++ intent.vlans.map Ios.vlan) ++
      (middle intent ++ firewall intent.firewall) := by
    rw [plan_eq, List.append_assoc _ (middle intent)]
  refine respects_of_parts rendered rfl parts ?_ ?_ ?_
  · have apart := vlans_make_no_interface intent
    exact apart.of_begins (by simp [begins]) (by simp [begins])
  · exact ⟨Ios.vlan vlan, List.mem_append_right _ (List.mem_map_of_mem member),
      ⟨_, List.mem_cons_self, rfl⟩, rfl⟩
  · have apart := firewall_makes_no_vlan intent.firewall
    exact avoids_append.mpr ⟨(middle_avoids intent).of_begins defined.1 defined.2,
      apart.of_begins (by simp [begins]) (by simp [begins])⟩

theorem respects_mgmt : rollout.Respects mgmtDependency := by
  have before := lists_unused intent
  rcases firewall_cases intent.firewall with unused | ⟨permit, permits, made⟩
  · have all := avoids_append.mpr ⟨before, unused⟩
    exact respects_of_unused rendered rfl (plan_eq intent)
      (all.of_begins (by simp [begins]) (by simp [begins]))
  · have parts : plan intent = (base intent ++ intent.vlans.map Ios.vlan ++ middle intent ++
        [mgmtList permit]) ++ [mgmtUse] := by
      rw [plan_eq, made, List.append_assoc _ [mgmtList permit]]
      rfl
    refine respects_of_parts rendered rfl parts ?_ ?_ ?_
    · have list : Plan.Avoids (begins " access-class " ·) (begins "line vty 0 4\n no " ·)
          [mgmtList permit] := by
        have other := not_begins_of_apart (by decide : Apart " permit " " access-class ") permits
        have undo : ¬begins "line vty 0 4\n no " "no ip access-list extended MGMT-IN" := by decide
        refine List.forall_mem_singleton.mpr ⟨?_, undo⟩
        simp only [mgmtList, List.forall_mem_cons]
        exact ⟨by decide, other, by decide, List.forall_mem_nil _⟩
      exact (avoids_append.mpr ⟨before, list⟩).of_begins (by simp [begins]) (by simp [begins])
    · exact ⟨mgmtList permit, by simp, ⟨_, List.mem_cons_self, rfl⟩, rfl⟩
    · simp [Plan.Avoids, Mutation.Avoids, mgmtUse, mgmtDependency]

theorem inOrder_of_render : InOrder intent rollout where
  vlan vlan member := by
    have planned : Ios.vlan vlan ∈ plan intent := by
      simp [plan, List.mem_map_of_mem member]
    refine ⟨brings_of_planned rendered rfl planned List.mem_cons_self, fun given => ?_,
      respects_vlan rendered member⟩
    obtain ⟨mutation, rest, made, commands, undo⟩ := gateway?_of_given given
    have planned : mutation ∈ plan intent := by
      have listed : mutation ∈ intent.vlans.filterMap gateway? :=
        List.mem_filterMap.mpr ⟨vlan, member, made⟩
      simp [plan, listed]
    rw [← undo]
    exact brings_of_planned rendered rfl planned (by rw [commands]; exact List.mem_cons_self)
  mgmt := by
    refine ⟨fun enabled given => ?_, respects_mgmt rendered⟩
    obtain ⟨permit, _, made⟩ := firewall_eq enabled given
    have planned : mgmtList permit ∈ plan intent ∧ mgmtUse ∈ plan intent := by
      simp [plan, made]
    exact ⟨brings_of_planned rendered rfl planned.1 List.mem_cons_self,
      brings_of_planned rendered rfl planned.2 (by simp [mgmtUse])⟩

end DeviceConfig.Ios
