import DeviceConfig.Proofs.Rollout.Order

/-!
The order of the commands of RouterOS. The bridge is made, once, where a VLAN or a port needs it, and before
any of them. A VLAN is made right before the address on it.
-/

namespace DeviceConfig.RouterOs

open Rollout

def addBridge : String := "/interface bridge add name=br0 vlan-filtering=yes"

def removeBridge : String := "/interface bridge remove [find name=br0]"

/-- The bridge, and the VLANs and ports that hang off it. -/
def bridgeDependency : Dependency where
  defines command := command = addBridge
  uses command := begins "/interface vlan add " command ∨
    begins "/interface bridge port add bridge=br0 " command
  undefines undo := undo = removeBridge
  releases undo := begins "/interface vlan remove " undo ∨
    begins "/interface bridge port remove " undo

/-! ### The menus of the changes -/

/-- A change of a single command, and what its two commands begin with. -/
def Opens (command undo : String) (mutation : Mutation) : Prop :=
  ∃ target line back, mutation = change target line back ∧ begins command line ∧ begins undo back

/-- Changes in other menus than those of VLANs, bridges and ports. -/
def IsApart (mutation : Mutation) : Prop :=
  Opens "/ip " "/ip " mutation ∨ Opens "/system " "/system " mutation ∨
    Opens "/interface set " "/interface set " mutation ∨
    Opens "/interface disable " "/interface enable " mutation

def AddsVlan (mutation : Mutation) : Prop :=
  Opens "/interface vlan add " "/interface vlan remove " mutation

def AddsPort (mutation : Mutation) : Prop :=
  Opens "/interface bridge port add bridge=br0 " "/interface bridge port remove " mutation

theorem vlan_cases (vlan : Intent.Vlan) : ∃ add address, RouterOs.vlan vlan = add :: address ∧
    AddsVlan add ∧ ∀ mutation ∈ address, IsApart mutation := by
  refine ⟨_, _, rfl, ⟨_, _, _, rfl, by simp [begins], by simp [begins]⟩, ?_⟩
  intro mutation member
  simp only [Option.mem_toList, Option.map_eq_some_iff] at member
  obtain ⟨gateway, _, rfl⟩ := member
  exact .inl ⟨_, _, _, rfl, by simp [begins], by simp [begins]⟩

theorem interface_cases {iface : Intent.Interface} {mutation : Mutation}
    (planned : mutation ∈ RouterOs.interface iface) :
    IsApart mutation ∨ AddsPort mutation ∧ iface.accessVlan?.isSome := by
  simp only [RouterOs.interface, List.mem_append, Option.mem_toList, Option.map_eq_some_iff] at planned
  rcases planned with ((⟨_, _, rfl⟩ | ⟨id, given, rfl⟩) | ⟨_, _, rfl⟩) | disabled
  · exact .inl (.inl ⟨_, _, _, rfl, by simp [begins], by simp [begins]⟩)
  · exact .inr ⟨⟨_, _, _, rfl, by simp [begins, bridge], by simp [begins]⟩, by simp [given]⟩
  · exact .inl (.inr (.inr (.inl ⟨_, _, _, rfl, by simp [begins], by simp [begins]⟩)))
  · split at disabled
    · contradiction
    · rw [List.mem_singleton.mp disabled]
      exact .inl (.inr (.inr (.inr ⟨_, _, _, rfl, by simp [begins], by simp [begins]⟩)))

section
variable {target : Section} {line back : String}

theorem isApart_ip (start : begins "/ip " line) (undo : begins "/ip " back) :
    IsApart (change target line back) := .inl ⟨_, _, _, rfl, start, undo⟩

theorem isApart_system (start : begins "/system " line) (undo : begins "/system " back) :
    IsApart (change target line back) := .inr (.inl ⟨_, _, _, rfl, start, undo⟩)

end

theorem services_apart (services : Intent.Services) :
    ∀ mutation ∈ RouterOs.services services, IsApart mutation := by
  simp only [RouterOs.services, List.forall_mem_append]
  refine ⟨⟨⟨?_, ?_⟩, ?_⟩, ?_⟩
  · split
    · simp
    · simp only [List.forall_mem_cons]
      exact ⟨isApart_ip (by simp [begins]) (by simp [begins]), isApart_ip (by decide) (by decide),
        List.forall_mem_nil _⟩
  · unfold ntpClient?
    split <;> simp
    · exact isApart_system (by simp [begins]) (by decide)
    · exact isApart_system (by simp [begins]) (by decide)
  · split
    · simp
    · exact List.forall_mem_singleton.mpr (isApart_ip (by simp [begins]) (by decide))
  · split
    · simp
    · simp only [List.forall_mem_cons]
      exact ⟨isApart_system (by simp [begins]) (by decide), isApart_system (by decide) (by decide),
        List.forall_mem_nil _⟩

theorem firewall_apart (firewall : Intent.Firewall) :
    ∀ mutation ∈ RouterOs.firewall firewall, IsApart mutation := by
  have rule (tag body : String) : IsApart (filterRule tag body) :=
    isApart_ip (by simp [begins]) (by simp [begins])
  unfold RouterOs.firewall
  split
  · simp only [List.forall_mem_cons]
    exact ⟨rule _ _, rule _ _, rule _ _, rule _ _, List.forall_mem_nil _⟩
  · exact List.forall_mem_nil _

theorem route_apart (route : Intent.Route) : IsApart (RouterOs.route route) :=
  isApart_ip (by simp [begins]) (by simp [begins])

/-! ### What stands behind the bridge -/

/-- All changes of a plan but those of its base. -/
def behind (intent : Intent) : Plan :=
  intent.vlans.flatMap vlan ++ intent.interfaces.flatMap interface ++
    intent.routing.staticRoutes.map route ++ services intent.services ++ firewall intent.firewall

theorem plan_eq (intent : Intent) : plan intent = base intent ++ behind intent := by
  simp [plan, behind]

theorem needsBridge_iff {intent : Intent} : needsBridge intent = true ↔
    intent.vlans ≠ [] ∨ ∃ iface ∈ intent.interfaces, iface.accessVlan?.isSome := by
  simp [needsBridge]

/-- Whatever needs the bridge is a VLAN or a port, and then the bridge is needed. -/
theorem behind_cases {intent : Intent} {mutation : Mutation} (planned : mutation ∈ behind intent) :
    IsApart mutation ∨ (AddsVlan mutation ∨ AddsPort mutation) ∧ needsBridge intent := by
  simp only [behind, List.mem_append, List.mem_flatMap, List.mem_map] at planned
  rcases planned with
    (((⟨vlan, member, made⟩ | ⟨iface, member, made⟩) | ⟨route, _, rfl⟩) | made) | made
  · obtain ⟨add, address, both, adds, apart⟩ := vlan_cases vlan
    rw [both] at made
    rcases List.mem_cons.mp made with rfl | later
    · exact .inr ⟨.inl adds, needsBridge_iff.mpr (.inl (List.ne_nil_of_mem member))⟩
    · exact .inl (apart mutation later)
  · rcases interface_cases made with apart | ⟨adds, access⟩
    · exact .inl apart
    · exact .inr ⟨.inr adds, needsBridge_iff.mpr (.inr ⟨iface, member, access⟩)⟩
  · exact .inl (route_apart route)
  · exact .inl (services_apart _ mutation made)
  · exact .inl (firewall_apart _ mutation made)

theorem Opens.avoids {command undo other back : String} {mutation : Mutation}
    (opens : Opens command undo mutation) (apart : Apart command other) (apartBack : Apart undo back) :
    mutation.Avoids (begins other ·) (begins back ·) := by
  obtain ⟨target, line, last, rfl, start, startBack⟩ := opens
  exact ⟨List.forall_mem_singleton.mpr (not_begins_of_apart apart start),
    not_begins_of_apart apartBack startBack⟩

theorem IsApart.avoids {mutation : Mutation} (apart : IsApart mutation) {other back : String}
    (commands : Apart "/ip " other ∧ Apart "/system " other ∧ Apart "/interface set " other ∧
      Apart "/interface disable " other)
    (undos : Apart "/ip " back ∧ Apart "/system " back ∧ Apart "/interface set " back ∧
      Apart "/interface enable " back) :
    mutation.Avoids (begins other ·) (begins back ·) := by
  rcases apart with ip | system | comment | disable
  · exact ip.avoids commands.1 undos.1
  · exact system.avoids commands.2.1 undos.2.1
  · exact comment.avoids commands.2.2.1 undos.2.2.1
  · exact disable.avoids commands.2.2.2 undos.2.2.2

theorem behind_makes_no_bridge (intent : Intent) :
    (behind intent).Avoids (begins "/interface bridge add " ·) (begins "/interface bridge remove " ·) := by
  intro mutation planned
  rcases behind_cases planned with apart | ⟨vlan | port, _⟩
  · exact apart.avoids (by decide) (by decide)
  · exact vlan.avoids (by decide) (by decide)
  · exact port.avoids (by decide) (by decide)

/-- The changes of the base, with the bridge last. -/
theorem base_eq (intent : Intent) : ∃ front : Plan, (∀ mutation ∈ front, IsApart mutation) ∧
    base intent = front ++
      if needsBridge intent then [change .base addBridge removeBridge] else [] := by
  refine ⟨_, ?_, rfl⟩
  intro mutation member
  simp only [Option.mem_toList, Option.map_eq_some_iff] at member
  obtain ⟨hostname, _, rfl⟩ := member
  exact isApart_system (by simp [begins]) (by decide)

theorem vlan_makes_none {plan : Plan} (apart : ∀ mutation ∈ plan, IsApart mutation) :
    (plan.flatMap (·.commands)).countP (begins "/interface vlan add ") = 0 ∧
      (plan.map (·.undo)).countP (begins "/interface vlan remove ") = 0 :=
  Plan.Avoids.countP_eq_zero fun mutation planned =>
    (apart mutation planned).avoids (by decide) (by decide)

theorem countP_vlans (vlans : List Intent.Vlan) :
    ((vlans.flatMap vlan).flatMap (·.commands)).countP (begins "/interface vlan add ") =
        vlans.length ∧
      ((vlans.flatMap vlan).map (·.undo)).countP (begins "/interface vlan remove ") =
        vlans.length := by
  induction vlans with
  | nil => exact ⟨rfl, rfl⟩
  | cons vlan vlans ih =>
    obtain ⟨add, address, both, ⟨target, line, back, rfl, start, undo⟩, apart⟩ := vlan_cases vlan
    obtain ⟨commands, undos⟩ := vlan_makes_none apart
    simp only [List.flatMap_cons, both, List.flatMap_append, List.map_append, List.countP_append,
      List.map_cons, List.countP_cons, commands, undos, ih, change, List.countP_nil, start, undo,
      if_true, List.length_cons]
    omega

theorem base_makes_no_vlan (intent : Intent) :
    ((base intent).flatMap (·.commands)).countP (begins "/interface vlan add ") = 0 ∧
      ((base intent).map (·.undo)).countP (begins "/interface vlan remove ") = 0 := by
  obtain ⟨front, apart, based⟩ := base_eq intent
  obtain ⟨commands, undos⟩ := vlan_makes_none apart
  rw [based]
  simp only [List.flatMap_append, List.map_append, List.countP_append, commands, undos]
  split <;> decide

theorem vlan_of_gateway {vlan : Intent.Vlan} {gateway : String} (given : vlan.gateway = some gateway) :
    ∃ add, begins s!"/interface vlan add name=vlan{vlan.id} vlan-id={vlan.id} interface=br0" add ∧
      RouterOs.vlan vlan =
        [change .vlan add s!"/interface vlan remove [find name=vlan{vlan.id}]",
          change .vlan
            s!"/ip address add address={gateway}/{Address.prefixLength vlan.subnet} interface=vlan{vlan.id}"
            s!"/ip address remove [find interface=vlan{vlan.id}]"] := by
  -- The name of the VLAN may follow in the command, so it is taken from the plan and not written out.
  have made : ∃ add, (RouterOs.vlan vlan).head?.map (·.commands) = some [add] := ⟨_, rfl⟩
  obtain ⟨add, made⟩ := made
  refine ⟨add, ?_, ?_⟩
  · obtain rfl : _ = add := by simpa [RouterOs.vlan, change] using made
    simp [begins, bridge]
  · simp [RouterOs.vlan, given, change] at made ⊢
    simp [made, ← String.toList_inj]

theorem plan_of_vlans {intent : Intent} {earlier later : List Intent.Vlan} {vlan : Intent.Vlan}
    (listed : intent.vlans = earlier ++ vlan :: later) : ∃ back : Plan,
    plan intent = base intent ++ earlier.flatMap RouterOs.vlan ++ RouterOs.vlan vlan ++ back := by
  refine ⟨later.flatMap RouterOs.vlan ++ intent.interfaces.flatMap interface ++
    intent.routing.staticRoutes.map route ++ services intent.services ++
    firewall intent.firewall, ?_⟩
  simp only [plan, listed, List.flatMap_append, List.flatMap_cons, List.append_assoc]

/-! ### The order of a rollout -/

/-- The bridge is made once if it is needed, and before what needs it. The address on a VLAN is given right
behind the VLAN, and taken away right before it. -/
structure InOrder (intent : Intent) (rollout : Rollout) : Prop where
  needed : addBridge ∈ rollout.commands ↔ intent.vlans ≠ [] ∨
    ∃ iface ∈ intent.interfaces, iface.role = .access ∧ iface.vlanId.isSome
  once : rollout.commands.count addBridge ≤ 1
  undone : rollout.rollback.count removeBridge = rollout.commands.count addBridge
  bridge : rollout.Respects bridgeDependency
  gateway : ∀ earlier vlan later gateway, intent.vlans = earlier ++ vlan :: later →
    vlan.gateway = some gateway →
    (∃ front add back, rollout.commands = front ++ add ::
        s!"/ip address add address={gateway}/{Address.prefixLength vlan.subnet} interface=vlan{vlan.id}" ::
          back ∧
      begins s!"/interface vlan add name=vlan{vlan.id} vlan-id={vlan.id} interface=br0" add ∧
      front.countP (begins "/interface vlan add ") = earlier.length) ∧
    ∃ front back, rollout.rollback = front ++ s!"/ip address remove [find interface=vlan{vlan.id}]" ::
        s!"/interface vlan remove [find name=vlan{vlan.id}]" :: back ∧
      back.countP (begins "/interface vlan remove ") = earlier.length

variable {intent : Intent} {rollout : Rollout} (rendered : render intent .mikrotik = .ok rollout)
include rendered

theorem commands_eq : rollout.commands = (plan intent).flatMap (·.commands) :=
  commands_of_render rendered rfl

theorem rollback_eq : rollout.rollback.reverse = (plan intent).map (·.undo) :=
  rollback_of_render rendered rfl

theorem respects_bridge : rollout.Respects bridgeDependency := by
  obtain ⟨front, apart, based⟩ := base_eq intent
  have whole := plan_eq intent
  have unused (mutation : Mutation) (apart : IsApart mutation) :
      mutation.Avoids bridgeDependency.uses bridgeDependency.releases :=
    (apart.avoids (by decide) (by decide)).or (apart.avoids (by decide) (by decide))
  cases needed : needsBridge intent with
  | false =>
    -- A VLAN or a port would make the bridge needed, so there is none.
    apply respects_of_unused rendered rfl whole
    intro mutation planned
    rw [based, needed] at planned
    rcases List.mem_append.mp planned with first | later
    · exact unused mutation (apart mutation (by simpa using first))
    · rcases behind_cases later with apart | ⟨_, bridged⟩
      · exact unused mutation apart
      · rw [needed] at bridged
        contradiction
  | true =>
    rw [based, needed, if_pos rfl] at whole
    refine respects_of_parts rendered rfl whole ?_ ?_ ?_
    · refine avoids_append.mpr ⟨fun mutation planned => unused mutation (apart mutation planned), ?_⟩
      have bridge : Mutation.Avoids bridgeDependency.uses bridgeDependency.releases
          (change .base addBridge removeBridge) := by
        simp [Mutation.Avoids, bridgeDependency, change, addBridge, removeBridge, begins]
      exact List.forall_mem_singleton.mpr bridge
    · exact ⟨_, List.mem_append_right _ List.mem_cons_self, ⟨_, List.mem_cons_self, rfl⟩, rfl⟩
    · exact (behind_makes_no_bridge intent).of_begins (by decide) (by decide)

theorem count_bridge : rollout.commands.count addBridge = (needsBridge intent).toNat ∧
    rollout.rollback.count removeBridge = (needsBridge intent).toNat := by
  obtain ⟨front, apart, based⟩ := base_eq intent
  have unmade (plan : Plan) (avoids : plan.Avoids (begins "/interface bridge add " ·)
      (begins "/interface bridge remove " ·)) :
      (plan.flatMap (·.commands)).count addBridge = 0 ∧
        (plan.map (·.undo)).count removeBridge = 0 := by
    refine Plan.Avoids.countP_eq_zero (avoids.mono ?_ ?_)
    · exact fun line same => beq_iff_eq.mp same ▸ by decide
    · exact fun undo same => beq_iff_eq.mp same ▸ by decide
  obtain ⟨commandsFront, undosFront⟩ := unmade front fun mutation planned =>
    (apart mutation planned).avoids (by decide) (by decide)
  obtain ⟨commands, undos⟩ := unmade _ (behind_makes_no_bridge intent)
  have reversed : rollout.rollback.count removeBridge = ((plan intent).map (·.undo)).count removeBridge := by
    rw [← rollback_eq rendered, List.count_reverse]
  rw [reversed, commands_eq rendered, plan_eq, based]
  simp only [List.flatMap_append, List.map_append, List.count_append, commandsFront, undosFront,
    commands, undos]
  cases needsBridge intent <;> decide

theorem gateway_follows_vlan {earlier later : List Intent.Vlan} {vlan : Intent.Vlan} {gateway : String}
    (listed : intent.vlans = earlier ++ vlan :: later) (given : vlan.gateway = some gateway) :
    (∃ front add back, rollout.commands = front ++ add ::
        s!"/ip address add address={gateway}/{Address.prefixLength vlan.subnet} interface=vlan{vlan.id}" ::
          back ∧
      begins s!"/interface vlan add name=vlan{vlan.id} vlan-id={vlan.id} interface=br0" add ∧
      front.countP (begins "/interface vlan add ") = earlier.length) ∧
    ∃ front back, rollout.rollback = front ++ s!"/ip address remove [find interface=vlan{vlan.id}]" ::
        s!"/interface vlan remove [find name=vlan{vlan.id}]" :: back ∧
      back.countP (begins "/interface vlan remove ") = earlier.length := by
  obtain ⟨back, whole⟩ := plan_of_vlans listed
  obtain ⟨add, named, both⟩ := vlan_of_gateway given
  obtain ⟨baseCommands, baseUndos⟩ := base_makes_no_vlan intent
  obtain ⟨commands, undos⟩ := countP_vlans earlier
  rw [both] at whole
  let front : Plan := base intent ++ earlier.flatMap RouterOs.vlan
  have counted : (front.flatMap (·.commands)).countP (begins "/interface vlan add ") = earlier.length ∧
      (front.map (·.undo)).countP (begins "/interface vlan remove ") = earlier.length := by
    simp only [front, List.flatMap_append, List.map_append, List.countP_append, baseCommands,
      baseUndos, commands, undos, Nat.zero_add, and_self]
  constructor
  · refine ⟨front.flatMap (·.commands), add, back.flatMap (·.commands), ?_, named, counted.1⟩
    rw [commands_eq rendered, whole]
    simp [front, change]
  · refine ⟨(back.map (·.undo)).reverse, (front.map (·.undo)).reverse, ?_, ?_⟩
    · rw [← List.reverse_reverse rollout.rollback, rollback_eq rendered, whole]
      simp [front, change]
    · rw [List.countP_reverse, counted.2]

theorem inOrder_of_render : InOrder intent rollout where
  needed := by
    have access (iface : Intent.Interface) :
        iface.accessVlan?.isSome ↔ iface.role = .access ∧ iface.vlanId.isSome := by
      unfold Intent.Interface.accessVlan?
      split <;> simp_all
    have positive (flag : Bool) : 0 < flag.toNat ↔ flag = true := by cases flag <;> simp
    rw [← List.count_pos_iff, (count_bridge rendered).1, positive, needsBridge_iff]
    simp only [access]
  once := (count_bridge rendered).1 ▸ Bool.toNat_le _
  undone := (count_bridge rendered).2.trans (count_bridge rendered).1.symm
  bridge := respects_bridge rendered
  gateway _ _ _ _ listed given := gateway_follows_vlan rendered listed given

end DeviceConfig.RouterOs
