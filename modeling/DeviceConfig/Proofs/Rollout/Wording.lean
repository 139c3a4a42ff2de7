import DeviceConfig.Proofs.Rollout.Order

/-!
Words for looking and words for changing. No line begins with words of both kinds, so where a language keeps to its
words, no command that changes something is one that only looks.
-/

namespace DeviceConfig.Rollout

/-- What the commands of a language begin with: those that only look, and those that change something or take a
change back. -/
structure Wording where
  looking : List String
  changing : List String
  apart : ∀ word ∈ looking, ∀ other ∈ changing, Apart word other := by decide

namespace Wording

variable (wording : Wording)

def looks (line : String) : Bool := wording.looking.any (begins · line)

def changes (line : String) : Bool := wording.changing.any (begins · line)

theorem changes_of_begins {word line : String} (known : word ∈ wording.changing) (start : begins word line) :
    wording.changes line :=
  List.any_eq_true.mpr ⟨word, known, start⟩

theorem not_changes_of_looks {line : String} (looks : wording.looks line) : wording.changes line = false := by
  obtain ⟨word, known, start⟩ := List.any_eq_true.mp looks
  exact List.any_eq_false.mpr fun other changing =>
    not_begins_of_apart (wording.apart word known other changing) start

end Wording

/-- All commands of the change begin with words for changing, and so does the undo command. -/
def Mutation.KeepsTo (wording : Wording) (mutation : Mutation) : Prop :=
  (∀ line ∈ mutation.commands, wording.changes line) ∧ wording.changes mutation.undo

instance (wording : Wording) (mutation : Mutation) : Decidable (mutation.KeepsTo wording) :=
  inferInstanceAs (Decidable (_ ∧ _))

def Plan.KeepsTo (wording : Wording) (plan : Plan) : Prop := ∀ mutation ∈ plan, mutation.KeepsTo wording

section
variable {wording : Wording}

@[simp] theorem keepsTo_nil : Plan.KeepsTo wording [] := List.forall_mem_nil _

@[simp] theorem keepsTo_cons {mutation : Mutation} {plan : Plan} :
    Plan.KeepsTo wording (mutation :: plan) ↔ mutation.KeepsTo wording ∧ plan.KeepsTo wording :=
  List.forall_mem_cons

@[simp] theorem keepsTo_append {left right : Plan} :
    Plan.KeepsTo wording (left ++ right) ↔ left.KeepsTo wording ∧ right.KeepsTo wording :=
  List.forall_mem_append

end

end DeviceConfig.Rollout
