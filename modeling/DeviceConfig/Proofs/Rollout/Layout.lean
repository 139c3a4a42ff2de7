import DeviceConfig.Rollout.Plan
import Mathlib.Data.List.Basic

/-!
What recording a plan keeps: every command goes to its section, in the order of the plan, and every undo
command stays at its place. The plans of all vendors are laid out by sections, so for them the commands of
a rollout stand in the order of the plan.
-/

namespace DeviceConfig.Rollout

/-- The commands of one section, in the order of the plan. -/
def Plan.commandsOf (plan : Plan) (target : Section) : List String :=
  (plan.filter (·.target = target)).flatMap (·.commands)

/-! ### Recording -/

theorem addTo_map {names : List Section} (unique : names.Nodup) (target : Section)
    (commands : List String) (f : Section → List String) :
    Record.addTo target commands (names.map fun name => (name, f name)) =
      names.map fun name => (name, if name = target then f name ++ commands else f name) := by
  induction names with
  | nil => rfl
  | cons name names ih =>
    obtain ⟨absent, unique⟩ := List.nodup_cons.mp unique
    rw [List.map_cons, List.map_cons, Record.addTo]
    by_cases same : name = target
    · subst same
      have others : (names.map fun other =>
          (other, if other = name then f other ++ commands else f other)) =
          names.map fun other => (other, f other) := by
        apply List.map_congr_left
        intro other member
        rw [if_neg (ne_of_mem_of_not_mem member absent)]
      rw [if_pos rfl, if_pos rfl, others]
    · rw [if_neg same, if_neg same, ih unique]

/-- What has been recorded: for every section the commands `f`, and the undo commands. -/
def recorded (f : Section → List String) (undos : List String) : Record :=
  ⟨Section.all.map fun target => (target, f target), undos⟩

theorem add_recorded (f : Section → List String) (undos : List String) (mutation : Mutation) :
    (recorded f undos).add mutation =
      recorded (fun target => f target ++ Plan.commandsOf [mutation] target)
        (undos ++ [mutation.undo]) := by
  have unique : Section.all.Nodup := by decide
  simp only [Record.add, recorded, addTo_map unique, Record.mk.injEq, and_true]
  apply List.map_congr_left
  intro target _
  by_cases same : target = mutation.target
  · simp [Plan.commandsOf, same]
  · simp [Plan.commandsOf, same, Ne.symm same]

theorem foldl_recorded (plan : Plan) (f : Section → List String) (undos : List String) :
    plan.foldl Record.add (recorded f undos) =
      recorded (fun target => f target ++ plan.commandsOf target)
        (undos ++ plan.map (·.undo)) := by
  induction plan generalizing f undos with
  | nil => simp [Plan.commandsOf]
  | cons mutation plan ih =>
    rw [List.foldl_cons, add_recorded, ih]
    congr 1
    · funext target
      by_cases same : mutation.target = target <;> simp [Plan.commandsOf, same]
    · simp

theorem finish_eq (vendor : Vendor) (verify : List String) (plan : Plan) :
    plan.finish vendor verify =
      { vendor, verify
        sections := Section.all.map fun target => (target, plan.commandsOf target)
        rollback := (plan.map (·.undo)).reverse } := by
  have start : Record.empty = recorded (fun _ => []) [] := rfl
  rw [Plan.finish, start, foldl_recorded]
  rfl

theorem commands_finish (vendor : Vendor) (verify : List String) (plan : Plan) :
    (plan.finish vendor verify).commands = Section.all.flatMap plan.commandsOf := by
  rw [finish_eq, commands, List.flatMap_map]

/-! ### Plans laid out by sections -/

/-- All changes of the plan are part of the section. -/
def Plan.Within (target : Section) (plan : Plan) : Prop :=
  ∀ mutation ∈ plan, mutation.target = target

/-- The plans of all sections in the order of application. -/
def Plan.ofParts (part : Section → Plan) : Plan := Section.all.flatMap part

theorem mem_ofParts {part : Section → Plan} {target : Section} {mutation : Mutation}
    (planned : mutation ∈ part target) : mutation ∈ Plan.ofParts part :=
  List.mem_flatMap.mpr ⟨target, by cases target <;> decide, planned⟩

theorem commandsOf_append (left right : Plan) (target : Section) :
    Plan.commandsOf (left ++ right) target = left.commandsOf target ++ right.commandsOf target := by
  simp [Plan.commandsOf]

theorem commandsOf_within {plan : Plan} {target : Section} (within : plan.Within target) :
    plan.commandsOf target = plan.flatMap (·.commands) := by
  have all : plan.filter (·.target = target) = plan :=
    List.filter_eq_self.mpr fun mutation member => by simp [within mutation member]
  rw [Plan.commandsOf, all]

theorem commandsOf_outside {plan : Plan} {target other : Section} (within : plan.Within target)
    (different : target ≠ other) : plan.commandsOf other = [] := by
  have none : plan.filter (·.target = other) = [] :=
    List.filter_eq_nil_iff.mpr fun mutation member => by simp [within mutation member, different]
  rw [Plan.commandsOf, none, List.flatMap_nil]

theorem commandsOf_ofParts {part : Section → Plan}
    (within : ∀ target, (part target).Within target) (target : Section) :
    (Plan.ofParts part).commandsOf target = (part target).flatMap (·.commands) := by
  have outside : ∀ other, other ≠ target → (part other).commandsOf target = [] :=
    fun other different => commandsOf_outside (within other) different
  have inside := commandsOf_within (within target)
  cases target <;>
    simp [Plan.ofParts, Section.all, commandsOf_append, outside, inside]

theorem section?_finish_ofParts {part : Section → Plan}
    (within : ∀ target, (part target).Within target) (vendor : Vendor) (verify : List String)
    (target : Section) :
    ((Plan.ofParts part).finish vendor verify).section? target.name =
      some (target, (part target).flatMap (·.commands)) := by
  rw [finish_eq, ← commandsOf_ofParts within]
  cases target <;> simp [section?, Section.all, Section.name]

/-- The sections come one after the other, so grouping the commands by sections moves none. -/
theorem commands_finish_ofParts {part : Section → Plan}
    (within : ∀ target, (part target).Within target) (vendor : Vendor) (verify : List String) :
    ((Plan.ofParts part).finish vendor verify).commands =
      (Plan.ofParts part).flatMap (·.commands) := by
  rw [commands_finish, Plan.ofParts, List.flatMap_assoc]
  exact List.flatMap_congr fun target _ => commandsOf_ofParts within target

end DeviceConfig.Rollout
