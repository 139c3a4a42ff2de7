import DeviceConfig.Proofs.FortiOs.Rollout
import DeviceConfig.Proofs.Rollout.Order

/-!
The order of the commands of FortiOS. The address that management comes from is there before the policy that
lets it in.
-/

namespace DeviceConfig.FortiOs

open Rollout

/-- The address for management and the policies for traffic to the device itself. -/
def mgmtDependency : Dependency where
  defines command := command = "config firewall address"
  uses command := command = "config firewall local-in-policy"
  undefines undo := undo = "config firewall address\n    delete \"NETCFG-MGMT\"\nend"
  releases undo := undo = "config firewall local-in-policy\n    delete 1\n    delete 2\nend"

/-! ### What the lines of a change begin with -/

/-- Below its first line a block opens no table at the margin. -/
theorem eq_of_begins_config {path line : String} {lines : List String}
    (member : line ∈ block path lines) (opens : begins "config " line) : line = "config " ++ path := by
  simp only [block, List.mem_append, List.mem_singleton] at member
  rcases member with (first | inside) | rfl
  · exact first
  · obtain ⟨inner, _, rfl⟩ := List.mem_map.mp inside
    have margin := isIndented_indented 0 inner
    obtain ⟨rest, whole⟩ := begins_iff.mp opens
    simp [isIndented, ← whole] at margin
  · exact absurd opens (by decide)

theorem begins_config (path : String) (lines : List String) :
    begins ("config " ++ path) (Text.unlines (block path lines)) := by
  rw [block, List.append_assoc, List.singleton_append]
  cases lines.map (indented 1) ++ ["end"] <;> simp [Text.unlines, Text.join, begins_iff]

/-- A change of a table, taken back in a table. The paths of both begin so. -/
def Opens (table : String) (mutation : Mutation) : Prop :=
  ∃ target path lines back undo, mutation = change target (block path lines) (block back undo) ∧
    begins table path ∧ begins table back

theorem Opens.avoids {table : String} {mutation : Mutation} (opens : Opens table mutation)
    (other : String) (apart : Apart ("config " ++ table) ("config " ++ other)) :
    mutation.Avoids (begins ("config " ++ other) ·) (begins ("config " ++ other) ·) := by
  obtain ⟨target, path, lines, back, undo, rfl, start, startBack⟩ := opens
  have opening {path : String} (start : begins table path) :
      begins ("config " ++ table) ("config " ++ path) := by
    simpa [begins_iff] using start
  constructor
  · intro line member named
    have config : begins "config " line := by
      rw [begins_iff, String.toList_append] at *
      exact (List.prefix_append _ _).trans named
    rw [eq_of_begins_config member config] at named
    exact not_begins_of_apart apart (opening start) named
  · refine not_begins_of_apart apart ?_
    exact begins_iff.mpr
      ((begins_iff.mp (opening startBack)).trans (begins_iff.mp (begins_config back undo)))

theorem opens_change {target : Section} {table path back : String} {lines undo : List String}
    (start : begins table path) (startBack : begins table back) :
    Opens table (change target (block path lines) (block back undo)) :=
  ⟨_, _, _, _, _, rfl, start, startBack⟩

theorem services_open (services : Intent.Services) :
    ∀ mutation ∈ FortiOs.services services, Opens "system " mutation ∨ Opens "log " mutation := by
  simp only [FortiOs.services, List.forall_mem_append]
  refine ⟨⟨⟨?_, ?_⟩, ?_⟩, ?_⟩
  · split
    · simp
    · simp only [List.forall_mem_cons, List.not_mem_nil, false_implies, implies_true, and_true]
      exact ⟨.inl (opens_change (by decide) (by decide)), .inl (opens_change (by decide) (by decide))⟩
  · split
    · simp
    · exact List.forall_mem_singleton.mpr (.inl (opens_change (by decide) (by decide)))
  · split
    · simp
    · exact List.forall_mem_singleton.mpr (.inl (opens_change (by decide) (by decide)))
  · intro mutation member
    obtain ⟨place, _, rfl⟩ := List.mem_mapIdx.mp member
    have path : begins "log " (syslogPath place) := by
      unfold syslogPath
      split <;> simp [begins]
    exact .inr (opens_change path path)

/-- All changes before the firewall. -/
def front (intent : Intent) : Plan :=
  base intent ++ intent.vlans.map (vlan (vlanParent intent)) ++ intent.interfaces.map interface ++
    intent.routing.staticRoutes.mapIdx route ++ services intent.services

theorem front_open (intent : Intent) : ∀ mutation ∈ front intent,
    Opens "system " mutation ∨ Opens "router " mutation ∨ Opens "log " mutation := by
  simp only [front, List.forall_mem_append]
  refine ⟨⟨⟨⟨?_, ?_⟩, ?_⟩, ?_⟩, ?_⟩
  · unfold FortiOs.base
    cases intent.givenHostname? with
    | none => simp
    | some hostname =>
      exact List.forall_mem_singleton.mpr (.inl (opens_change (by decide) (by decide)))
  · exact List.forall_mem_map.mpr fun vlan _ => .inl (opens_change (by decide) (by decide))
  · exact List.forall_mem_map.mpr fun iface _ => .inl (opens_change (by decide) (by decide))
  · intro mutation member
    obtain ⟨place, _, rfl⟩ := List.mem_mapIdx.mp member
    exact .inr (.inl (opens_change (by decide) (by decide)))
  · exact fun mutation member => (services_open _ mutation member).imp_right .inr

theorem front_avoids (intent : Intent) :
    (front intent).Avoids (begins ("config " ++ "firewall ") ·)
      (begins ("config " ++ "firewall ") ·) := by
  intro mutation planned
  rcases front_open intent mutation planned with system | router | log
  · exact system.avoids _ (by decide)
  · exact router.avoids _ (by decide)
  · exact log.avoids _ (by decide)

/-! ### The firewall -/

def mgmtAddressOf (subnet : String) : Mutation :=
  change .firewall (entryBlock "firewall address" (quote mgmtAddress) [subnet])
    (block "firewall address" [s!"delete {quote mgmtAddress}"])

def mgmtPolicy : Mutation :=
  changeSettings .firewall "firewall local-in-policy"
    (localInPolicy 1 (quote mgmtAddress) "accept" ++ localInPolicy 2 (quote "all") "deny")
    ["delete 1", "delete 2"]

theorem firewall_cases (firewall : Intent.Firewall) :
    (∃ subnet, FortiOs.firewall firewall = [mgmtAddressOf subnet, mgmtPolicy]) ∨
      FortiOs.firewall firewall = [] ∧
        ¬(firewall.enabled = true ∧ firewall.allowMgmtFrom.isSome = true) := by
  unfold FortiOs.firewall
  split
  · exact .inl ⟨_, rfl⟩
  · rename_i unset
    refine .inr ⟨rfl, fun ⟨enabled, given⟩ => ?_⟩
    obtain ⟨source, given⟩ := Option.isSome_iff_exists.mp given
    exact unset source enabled given

theorem mgmtAddressOf_avoids (subnet : String) :
    Plan.Avoids mgmtDependency.uses mgmtDependency.releases [mgmtAddressOf subnet] := by
  have opens : Opens "firewall address" (mgmtAddressOf subnet) := opens_change (by decide) (by decide)
  have avoids : Plan.Avoids _ _ [mgmtAddressOf subnet] :=
    List.forall_mem_singleton.mpr (opens.avoids "firewall local-in-policy" (by decide))
  exact avoids.of_begins (by decide) (by decide)

theorem mgmtPolicy_avoids :
    Plan.Avoids mgmtDependency.defines mgmtDependency.undefines [mgmtPolicy] := by
  have opens : Opens "firewall local-in-policy" mgmtPolicy := opens_change (by decide) (by decide)
  have avoids : Plan.Avoids _ _ [mgmtPolicy] :=
    List.forall_mem_singleton.mpr (opens.avoids "firewall address" (by decide))
  exact avoids.of_begins (by decide) (by decide)

theorem mgmtAddressOf_defines (subnet : String) :
    "config firewall address" ∈ (mgmtAddressOf subnet).commands ∧
      (mgmtAddressOf subnet).undo = "config firewall address\n    delete \"NETCFG-MGMT\"\nend" := by
  have undo : Text.unlines (block "firewall address" [s!"delete {quote mgmtAddress}"]) =
      "config firewall address\n    delete \"NETCFG-MGMT\"\nend" := by decide
  exact ⟨by simp [mgmtAddressOf, change, entryBlock, block], undo⟩

theorem mgmtPolicy_uses :
    "config firewall local-in-policy" ∈ mgmtPolicy.commands ∧
      mgmtPolicy.undo = "config firewall local-in-policy\n    delete 1\n    delete 2\nend" := by
  decide

/-! ### The order of a rollout -/

/-- The address for management comes before the policies that need it. -/
structure InOrder (intent : Intent) (rollout : Rollout) : Prop where
  brings : intent.firewall.enabled → intent.firewall.allowMgmtFrom.isSome →
    rollout.Brings "config firewall address" "config firewall address\n    delete \"NETCFG-MGMT\"\nend" ∧
    rollout.Brings "config firewall local-in-policy"
      "config firewall local-in-policy\n    delete 1\n    delete 2\nend"
  mgmt : rollout.Respects mgmtDependency

variable {intent : Intent} {rollout : Rollout} (rendered : render intent .fortigate = .ok rollout)
include rendered

theorem inOrder_of_render : InOrder intent rollout := by
  have whole : plan intent = front intent ++ FortiOs.firewall intent.firewall := rfl
  have before : (front intent).Avoids mgmtDependency.uses mgmtDependency.releases :=
    (front_avoids intent).of_begins (by decide) (by decide)
  rcases firewall_cases intent.firewall with ⟨subnet, made⟩ | ⟨unmade, unset⟩
  · obtain ⟨defines, undefines⟩ := mgmtAddressOf_defines subnet
    obtain ⟨uses, releases⟩ := mgmtPolicy_uses
    have planned : mgmtAddressOf subnet ∈ plan intent ∧ mgmtPolicy ∈ plan intent := by
      simp [whole, made]
    refine ⟨fun _ _ => ⟨?_, ?_⟩, ?_⟩
    · exact undefines ▸ brings_of_planned rendered rfl planned.1 defines
    · exact releases ▸ brings_of_planned rendered rfl planned.2 uses
    · have parts : plan intent = (front intent ++ [mgmtAddressOf subnet]) ++ [mgmtPolicy] := by
        rw [whole, made, List.append_assoc]
        rfl
      refine respects_of_parts rendered rfl parts ?_ ?_ ?_
      · exact avoids_append.mpr ⟨before, mgmtAddressOf_avoids subnet⟩
      · exact ⟨_, List.mem_append_right _ List.mem_cons_self, ⟨_, defines, rfl⟩, undefines⟩
      · exact mgmtPolicy_avoids
  · refine ⟨fun enabled given => absurd ⟨enabled, given⟩ unset, ?_⟩
    rw [unmade, List.append_nil] at whole
    exact respects_of_unused rendered rfl whole before

end DeviceConfig.FortiOs
