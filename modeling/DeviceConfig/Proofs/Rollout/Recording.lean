import DeviceConfig.Proofs.Rollout.Layout
import Mathlib.Data.List.Perm.Basic

/-!
Recording loses nothing. Whatever changes are recorded, and in whatever order of sections, each command is in the
section of its change, the commands of a section stand as they came, and each change is taken back once.
-/

namespace DeviceConfig.Rollout

theorem commandsOf_cons (mutation : Mutation) (plan : Plan) (target : Section) :
    Plan.commandsOf (mutation :: plan) target =
      (if mutation.target = target then mutation.commands else []) ++ plan.commandsOf target := by
  by_cases same : mutation.target = target <;> simp [Plan.commandsOf, same]

theorem flatMap_all_single (target : Section) (commands : List String) :
    (Section.all.flatMap fun other => if target = other then commands else []) = commands := by
  cases target <;> simp [Section.all]

/-- Grouped by sections, every command is there as often as before. -/
theorem flatMap_commandsOf_perm (plan : Plan) :
    (Section.all.flatMap plan.commandsOf).Perm (plan.flatMap (·.commands)) := by
  induction plan with
  | nil => exact .refl _
  | cons mutation plan ih =>
    -- The commands of the first change are in one section only, so they can be moved in front of all others.
    let own (target : Section) := if mutation.target = target then mutation.commands else []
    have split : Section.all.flatMap (Plan.commandsOf (mutation :: plan)) =
        Section.all.flatMap fun target => own target ++ Plan.commandsOf plan target :=
      List.flatMap_congr fun target _ => commandsOf_cons mutation plan target
    have apart := (List.flatMap_append_perm Section.all own (Plan.commandsOf plan)).symm
    rw [flatMap_all_single] at apart
    rw [split, List.flatMap_cons]
    exact apart.trans (ih.append_left _)

theorem size_foldl (plan : Plan) (record : Record) :
    (plan.foldl Record.add record).size = record.size + plan.length := by
  induction plan generalizing record with
  | nil => rfl
  | cons mutation plan ih =>
    have step : (record.add mutation).size = record.size + 1 := List.length_append
    rw [List.foldl_cons, ih, step, List.length_cons, Nat.add_assoc, Nat.add_comm 1]

/-- A rollout has the six sections in the order of application, with the commands of their changes in the order of
recording. All commands together are those of the sections one after the other, and they are all that have been
recorded. The undo commands stand the other way round than they came, one for each change. -/
theorem recording_loses_nothing (vendor : Vendor) (verify : List String) (plan : Plan) :
    let record := plan.foldl Record.add .empty
    let rollout := plan.finish vendor verify
    rollout.sections.map (·.1.name) = ["base", "vlan", "interfaces", "routing", "services", "firewall"] ∧
    rollout.sections =
      Section.all.map (fun target => (target, (plan.filter (·.target = target)).flatMap (·.commands))) ∧
    rollout.commands = (rollout.sections.map (·.2)).flatten ∧
    rollout.commands.Perm (plan.flatMap (·.commands)) ∧
    rollout.rollback = (plan.map (·.undo)).reverse ∧
    rollout.rollback.length = record.size ∧ record.size = plan.length := by
  have size : (plan.foldl Record.add .empty).size = plan.length := by
    rw [size_foldl]
    exact Nat.zero_add _
  refine ⟨?_, ?_, ?_, ?_, ?_, ?_, size⟩
  · rw [finish_eq]
    rfl
  · rw [finish_eq]
    rfl
  · rw [commands, List.flatMap_def]
  · rw [commands_finish]
    exact flatMap_commandsOf_perm plan
  · rw [finish_eq]
  · rw [finish_eq, size, List.length_reverse, List.length_map]

end DeviceConfig.Rollout
