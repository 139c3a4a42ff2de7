import DeviceConfig.Proofs.FortiOs.Rollout
import DeviceConfig.Proofs.Ios.Rollout
import DeviceConfig.Proofs.RouterOs.Rollout
import DeviceConfig.Rollout.Render

/-!
A rollback mirrors the rollout. Every vendor's plan comes section by section and every change is one block,
so the blocks of the commands, read from the front, are taken back by the rollback, read from the end.
-/

namespace DeviceConfig.Rollout

theorem within_of_fits {vendor : Vendor} {target : Section} {plan : Plan}
    (fits : plan.Fits vendor target) : plan.Within target :=
  fun mutation member => (fits mutation member).1

/-- The changes of each section, for every vendor. -/
def partOf (vendor : Vendor) (intent : Intent) : Section → Plan :=
  match vendor with
  | .cisco => Ios.part intent
  | .mikrotik => RouterOs.part intent
  | .fortigate => FortiOs.part intent
  | .generic => fun _ => []

theorem partOf_fits (vendor : Vendor) (intent : Intent) (target : Section) :
    (partOf vendor intent target).Fits vendor target := by
  cases vendor with
  | cisco => exact Ios.part_fits intent target
  | mikrotik => exact RouterOs.part_fits intent target
  | fortigate => exact FortiOs.part_fits intent target
  | generic => exact fits_nil

theorem partOf_within (vendor : Vendor) (intent : Intent) (target : Section) :
    (partOf vendor intent target).Within target :=
  within_of_fits (partOf_fits vendor intent target)

/-- Every language lays its plan out by sections. -/
theorem plan_eq_partOf {vendor : Vendor} {language : CommandLanguage}
    (known : languageOf vendor = .ok language) (intent : Intent) :
    language.plan intent = .ofParts (partOf vendor intent) := by
  cases vendor with
  | generic => cases known
  | cisco =>
    cases known
    exact Ios.plan_eq_ofParts intent
  | mikrotik =>
    cases known
    exact RouterOs.plan_eq_ofParts intent
  | fortigate =>
    cases known
    exact FortiOs.plan_eq_ofParts intent

/-- The commands of every vendor are applied in the order of the plan. -/
theorem commands_finish_plan {vendor : Vendor} {language : CommandLanguage}
    (known : languageOf vendor = .ok language) (intent : Intent) (verify : List String) :
    ((language.plan intent).finish vendor verify).commands =
      ((language.plan intent).map (·.commands)).flatten := by
  rw [plan_eq_partOf known, commands_finish_ofParts (partOf_within vendor intent), List.flatMap_def]

/-- The blocks of the commands are the changes of the plan. -/
theorem blocks?_finish {vendor : Vendor} {language : CommandLanguage}
    (known : languageOf vendor = .ok language) (intent : Intent) (verify : List String) :
    blocks? vendor ((language.plan intent).finish vendor verify).commands =
      some ((language.plan intent).map (·.commands)) := by
  have named : vendor ≠ .generic := by rintro rfl; cases known
  rw [commands_finish_plan known]
  apply blocks?_flatten named
  intro block member
  obtain ⟨mutation, planned, rfl⟩ := List.mem_map.mp member
  rw [plan_eq_partOf known] at planned
  obtain ⟨target, _, planned⟩ := List.mem_flatMap.mp planned
  exact (partOf_fits vendor intent target mutation planned).2

theorem render_eq_ok_iff {intent : Intent} {vendor : Vendor} {rollout : Rollout} :
    render intent vendor = .ok rollout ↔
      ∃ language, languageOf vendor = .ok language ∧ fault? intent = none ∧
        rollout = (language.plan intent).finish vendor (language.verify intent) := by
  unfold render
  cases known : languageOf vendor with
  | error cause => simp [bind, Except.bind]
  | ok language =>
    cases faulty : fault? intent with
    | some fault => simp [bind, Except.bind, throw, throwThe, MonadExceptOf.throw]
    | none => simp [bind, Except.bind, pure, Except.pure, eq_comm]

/-- The commands of a rollout are those of the changes planned, in the order of the plan. -/
theorem commands_of_render {intent : Intent} {vendor : Vendor} {rollout : Rollout}
    {language : CommandLanguage} (rendered : render intent vendor = .ok rollout)
    (known : languageOf vendor = .ok language) :
    rollout.commands = (language.plan intent).flatMap (·.commands) := by
  obtain ⟨other, found, _, rfl⟩ := render_eq_ok_iff.mp rendered
  obtain rfl : other = language := Except.ok.inj (found.symm.trans known)
  rw [commands_finish_plan known, List.flatMap_def]

/-- Every change planned is one of the blocks. -/
theorem exists_block {intent : Intent} {vendor : Vendor} {rollout : Rollout}
    {language : CommandLanguage} (rendered : render intent vendor = .ok rollout)
    (known : languageOf vendor = .ok language) {mutation : Mutation}
    (planned : mutation ∈ language.plan intent) :
    ∃ blocks, blocks? vendor rollout.commands = some blocks ∧ mutation.commands ∈ blocks := by
  obtain ⟨other, found, _, rfl⟩ := render_eq_ok_iff.mp rendered
  obtain rfl : other = language := Except.ok.inj (found.symm.trans known)
  exact ⟨_, blocks?_finish known intent _, List.mem_map_of_mem planned⟩

/-- A section of a rollout has the commands of its part of the plan. -/
theorem render_section? {intent : Intent} {vendor : Vendor} {rollout : Rollout}
    (rendered : render intent vendor = .ok rollout) (target : Section) :
    rollout.section? target.name =
      some (target, (partOf vendor intent target).flatMap (·.commands)) := by
  obtain ⟨language, known, _, rfl⟩ := render_eq_ok_iff.mp rendered
  rw [plan_eq_partOf known]
  exact section?_finish_ofParts (partOf_within vendor intent) _ _ target

/-- The commands of a rollout fall into blocks, which one by one are the changes of the plan, all of them and in
its order. There are as many undo commands, and the one of each change stands as far from the end of the rollback as
its block stands from the start. -/
theorem rollback_mirrors_blocks {intent : Intent} {vendor : Vendor} {rollout : Rollout}
    (rendered : render intent vendor = .ok rollout) :
    ∃ language blocks, languageOf vendor = .ok language ∧
      blocks? vendor rollout.commands = some blocks ∧ blocks.flatten = rollout.commands ∧
      blocks.length = (language.plan intent).length ∧ blocks.length = rollout.rollback.length ∧
      ∀ (i : Nat) (_ : i < blocks.length), ∃ mutation,
        (language.plan intent)[i]? = some mutation ∧ blocks[i]? = some mutation.commands ∧
        rollout.rollback[blocks.length - 1 - i]? = some mutation.undo := by
  obtain ⟨language, known, _, rfl⟩ := render_eq_ok_iff.mp rendered
  have rollback : ((language.plan intent).finish vendor (language.verify intent)).rollback =
      ((language.plan intent).map (·.undo)).reverse := by rw [finish_eq]
  refine ⟨language, _, known, blocks?_finish known intent _, (commands_finish_plan known intent _).symm,
    List.length_map _, by simp [rollback], ?_⟩
  intro i bound
  rw [List.length_map] at bound
  refine ⟨(language.plan intent)[i], List.getElem?_eq_getElem bound, by simp [bound], ?_⟩
  -- Counting from the end twice comes back to the place.
  have back : (language.plan intent).length - 1 - ((language.plan intent).length - 1 - i) = i := by
    omega
  rw [rollback, List.length_map, List.getElem?_reverse (by rw [List.length_map]; omega),
    List.length_map, back, List.getElem?_map, List.getElem?_eq_getElem bound, Option.map_some]

def gatewayIntent : Intent := { vlans := [{ id := 10, gateway := some "10.10.0.1" }] }

/-- The interface of a VLAN comes behind the VLAN and is taken back before it. -/
theorem rollback_mirrors_gateway :
    let blocks := [["vlan 10", " name VLAN10"],
      ["interface Vlan10", " ip address 10.10.0.1 255.255.255.0", " no shutdown"], ["no ip http server"]]
    ∃ rollout language, render gatewayIntent .cisco = .ok rollout ∧ languageOf .cisco = .ok language ∧
      blocks? .cisco rollout.commands = some blocks ∧ (language.plan gatewayIntent).length = 3 ∧
      rollout.rollback = ["ip http server", "no interface Vlan10", "no vlan 10"] ∧
      ∀ (i : Nat) (_ : i < 3), ∃ mutation, (language.plan gatewayIntent)[i]? = some mutation ∧
        blocks[i]? = some mutation.commands ∧ rollout.rollback[2 - i]? = some mutation.undo := by
  intro blocks
  have rendered : render gatewayIntent .cisco = .ok _ := render_eq_ok_iff.mpr ⟨_, rfl, by decide, rfl⟩
  obtain ⟨language, others, known, fallen, flat, planned, -, paired⟩ := rollback_mirrors_blocks rendered
  have shaped : ∀ block ∈ blocks, IsMarginBlock block := by
    simp only [blocks, List.forall_mem_cons]
    exact ⟨⟨_, _, rfl, by decide, by decide⟩, ⟨_, _, rfl, by decide, by decide⟩,
      ⟨_, _, rfl, by decide, by decide⟩, nofun⟩
  obtain rfl : others = blocks := Option.some.inj (fallen.symm.trans (marginBlocks?_flatten shaped))
  exact ⟨_, language, rendered, known, fallen, planned.symm, by decide +kernel, paired⟩

end DeviceConfig.Rollout
