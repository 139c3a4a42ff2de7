import DeviceConfig.Proofs.FortiOs.Spliced
import DeviceConfig.Proofs.Ios.Spliced
import DeviceConfig.Proofs.Rollout.Rollback
import DeviceConfig.Proofs.RouterOs.Spliced

/-!
Line breaks in commands. A text of the intent is put into commands as it is, and nothing looks for line breaks
in it. Without any, every command is printed on a line of its own.
-/

namespace DeviceConfig.Rollout

open Text

/-- The texts of an intent that the commands for a vendor hold. -/
def spliced : Vendor → Intent → List String
  | .cisco => Ios.spliced
  | .mikrotik => RouterOs.spliced
  | .fortigate => FortiOs.spliced
  | .generic => fun _ => []

theorem plan_carries {vendor : Vendor} {language : CommandLanguage} (known : languageOf vendor = .ok language)
    (intent : Intent) : (language.plan intent).Carries (spliced vendor intent) := by
  cases vendor with
  | cisco =>
    obtain rfl := Except.ok.inj known
    exact Ios.plan_carries intent
  | mikrotik =>
    obtain rfl := Except.ok.inj known
    exact RouterOs.plan_carries intent
  | fortigate =>
    obtain rfl := Except.ok.inj known
    exact FortiOs.plan_carries intent
  | generic => cases known

theorem lines_spliced {intent : Intent} (whole : ∀ text ∈ intent.texts, IsLine text) (vendor : Vendor) :
    ∀ text ∈ spliced vendor intent, IsLine text := by
  cases vendor with
  | cisco => exact Ios.lines_spliced whole
  | mikrotik => exact RouterOs.lines_spliced whole
  | fortigate => exact FortiOs.lines_spliced whole
  | generic => exact fun text member => absurd member List.not_mem_nil

/-! ### In print -/

/-- The lines of a rollout when its commands are printed one under the other. -/
def printed (rollout : Rollout) : List String := rollout.commands.flatMap linesOf

theorem printed_of_lines {rollout : Rollout} (whole : ∀ command ∈ rollout.commands, IsLine command) :
    rollout.printed = rollout.commands := by
  have single : ∀ command, IsLine command → linesOf command = [command] := by
    intro command line
    rw [linesOf, splitOn_of_not_mem line, List.map_singleton, String.ofList_toList]
  rw [printed, List.flatMap_congr fun command member => single command (whole command member)]
  exact List.flatMap_singleton' _

/-- Commands are lines just if the texts put into them are, and so they are where nothing in the intent has a line
break. Then every block in print has its undo command. -/
theorem commands_are_lines_iff {intent : Intent} {vendor : Vendor} {rollout : Rollout}
    (rendered : render intent vendor = .ok rollout) :
    ((∀ command ∈ rollout.commands, IsLine command) ↔ ∀ text ∈ spliced vendor intent, IsLine text) ∧
      ((∀ text ∈ intent.texts, IsLine text) → ∀ command ∈ rollout.commands, IsLine command) ∧
      ((∀ command ∈ rollout.commands, IsLine command) →
        ∃ blocks, blocks? vendor rollout.printed = some blocks ∧
          blocks.length = rollout.rollback.length) := by
  obtain ⟨language, known, _, same⟩ := render_eq_ok_iff.mp rendered
  have carried : (∀ command ∈ rollout.commands, IsLine command) ↔
      ∀ text ∈ spliced vendor intent, IsLine text := by
    rw [commands_of_render rendered known, List.forall_mem_flatMap]
    exact plan_carries known intent
  refine ⟨carried, ?_, ?_⟩
  · intro whole
    exact carried.mpr (lines_spliced whole vendor)
  · intro whole
    rw [printed_of_lines whole, same]
    refine ⟨_, blocks?_finish known intent _, ?_⟩
    rw [finish_eq]
    simp

theorem commands_are_lines_uplink :
    ∃ rollout, render
        { hostname := some "r1", interfaces := [{ name := "ether1", description := some "to r2" }] }
        .mikrotik = .ok rollout ∧
      (∀ command ∈ rollout.commands, IsLine command) ∧
      ∃ blocks, blocks? .mikrotik rollout.printed = some blocks ∧
        blocks.length = rollout.rollback.length := by
  have accepted : ∃ rollout, render
      { hostname := some "r1", interfaces := [{ name := "ether1", description := some "to r2" }] }
      .mikrotik = .ok rollout :=
    ⟨_, render_eq_ok_iff.mpr ⟨_, rfl, rfl, rfl⟩⟩
  obtain ⟨rollout, rendered⟩ := accepted
  obtain ⟨_, whole, printed⟩ := commands_are_lines_iff rendered
  exact ⟨rollout, rendered, whole (by decide), printed (whole (by decide))⟩

/-- A host name with a line break brings a command of its own, which nothing takes back. -/
theorem commands_break_hostname :
    ∃ rollout, render { hostname := some "r1\nreload" } .cisco = .ok rollout ∧
      ¬(∀ command ∈ rollout.commands, IsLine command) ∧
      blocks? .cisco rollout.printed = some [["hostname r1"], ["reload"], ["no ip http server"]] ∧
      rollout.rollback = ["ip http server", "no hostname"] := by
  have accepted : ∃ rollout, render { hostname := some "r1\nreload" } .cisco = .ok rollout ∧
      rollout.rollback = ["ip http server", "no hostname"] :=
    ⟨_, render_eq_ok_iff.mpr ⟨_, rfl, rfl, rfl⟩, rfl⟩
  obtain ⟨rollout, rendered, undone⟩ := accepted
  have commands : rollout.commands = ["hostname r1\nreload", "no ip http server"] :=
    (commands_of_render rendered rfl).trans (by decide)
  have split : rollout.printed = [["hostname r1"], ["reload"], ["no ip http server"]].flatten := by
    rw [printed, commands]
    decide
  refine ⟨rollout, rendered, ?_, ?_, undone⟩
  · rw [commands]
    decide
  · rw [split]
    refine blocks?_flatten (by decide) fun block member => ?_
    simp only [List.mem_cons, List.not_mem_nil, or_false] at member
    rcases member with rfl | rfl | rfl
    · exact ⟨"hostname r1", [], rfl, by decide, by simp⟩
    · exact ⟨"reload", [], rfl, by decide, by simp⟩
    · exact ⟨"no ip http server", [], rfl, by decide, by simp⟩

end DeviceConfig.Rollout
