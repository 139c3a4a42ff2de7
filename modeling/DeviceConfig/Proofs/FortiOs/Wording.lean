import DeviceConfig.Proofs.FortiOs.Balance
import DeviceConfig.Proofs.FortiOs.Order
import DeviceConfig.Proofs.Rollout.Wording

/-!
The words of FortiOS. What changes something opens a table, closes it, or is indented in between.
-/

namespace DeviceConfig.FortiOs

open Rollout

def wording : Wording where
  looking := ["get ", "show "]
  changing := ["config ", "end", " "]

theorem changes_block {path line : String} {lines : List String} (member : line ∈ block path lines) :
    wording.changes line := by
  simp only [block, List.mem_append, List.mem_singleton] at member
  rcases member with (rfl | inside) | rfl
  · exact wording.changes_of_begins (by decide) (by simp [begins] : begins "config " _)
  · obtain ⟨inner, _, rfl⟩ := List.mem_map.mp inside
    obtain ⟨rest, whole⟩ := List.head?_eq_some_iff.mp (of_decide_eq_true (isIndented_indented 0 inner))
    exact wording.changes_of_begins (by decide) (by simp [begins, whole] : begins " " (indented 1 inner))
  · decide

theorem keepsTo_plan (intent : Intent) : (plan intent).KeepsTo wording := by
  intro mutation planned
  obtain ⟨target, path, lines, undo, rfl, _⟩ := takesBack_plan intent mutation planned
  refine ⟨fun line member => changes_block member, ?_⟩
  -- The undo command is one text of several lines, and begins like the first.
  have opens := begins_iff.mp (begins_config path undo)
  rw [String.toList_append] at opens
  have start : begins "config " (Text.unlines (block path undo)) :=
    begins_iff.mpr ((List.prefix_append _ _).trans opens)
  exact wording.changes_of_begins (by decide) start

theorem looks_verify (intent : Intent) : ∀ command ∈ verify intent, wording.looks command := by
  simp only [verify, List.forall_mem_append]
  refine ⟨by decide, ?_⟩
  split <;> decide

end DeviceConfig.FortiOs
