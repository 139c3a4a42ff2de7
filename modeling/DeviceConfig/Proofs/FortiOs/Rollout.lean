import DeviceConfig.FortiOs.Rollout
import DeviceConfig.Proofs.Rollout.Blocks
import DeviceConfig.Proofs.Rollout.Layout
import DeviceConfig.Proofs.Text.Split

/-!
Changes for FortiOS. Each is one table from the margin to its end, and a plan brings them section by section.
-/

namespace DeviceConfig.FortiOs

open Rollout

theorem indented_zero (line : String) : indented 0 line = line := by simp [indented]

theorem indented_indented (outer inner : Nat) (line : String) :
    indented outer (indented inner line) = indented (outer + inner) line := by
  rw [indented, indented, ← String.append_assoc, ← String.ofList_append, List.replicate_append_replicate,
    ← Nat.mul_add]
  rfl

theorem isLine_indented {depth : Nat} {line : String} :
    Text.IsLine (indented depth line) ↔ Text.IsLine line := by
  simp [indented, Text.IsLine]

theorem isIndented_indented (depth : Nat) (line : String) : isIndented (indented (depth + 1) line) := by
  simp [isIndented, indented, Nat.mul_add, List.replicate_succ]

theorem entryBlock_eq (path name : String) (settings : List String) : entryBlock path name settings =
    ["config " ++ path, indented 1 ("edit " ++ name)] ++ settings.map (indented 2) ++ [indented 1 "next", "end"] := by
  simp [entryBlock, block, indented_indented]

theorem isTableBlock_block (path : String) (lines : List String) : IsTableBlock (block path lines) := by
  refine ⟨"config " ++ path, lines.map (indented 1), rfl, by simp [opensTable], ?_⟩
  intro inner member same
  obtain ⟨line, _, rfl⟩ := List.mem_map.mp member
  have margin := isIndented_indented 0 line
  rw [same] at margin
  exact absurd margin (by decide)

theorem forall_mem_mapIdx_flatten {α β : Type} {lines : Nat → α → List β} {p : β → Prop} {q : α → Prop}
    (each : ∀ place item, (∀ line ∈ lines place item, p line) ↔ q item) {items : List α} :
    (∀ line ∈ (items.mapIdx lines).flatten, p line) ↔ ∀ item ∈ items, q item := by
  induction items generalizing lines with
  | nil => simp
  | cons item items ih =>
    rw [List.mapIdx_cons, List.flatten_cons, List.forall_mem_append, List.forall_mem_cons, each,
      ih fun place => each (place + 1)]

/-- What holds of the lines for the time servers is told by the entry of one server. -/
theorem forall_mem_ntpLines {p q : String → Prop} {servers : List String}
    (each : ∀ (place : Nat) server, (∀ line ∈ [s!"    edit {place + 1}", s!"        set server \"{server}\"", "    next"],
      p line) ↔ q server) :
    (∀ line ∈ ntpLines servers, p line) ↔
      (∀ line ∈ ["set ntpsync enable", "set type custom", "config ntpserver", "end"], p line) ∧
        ∀ server ∈ servers, q server := by
  simp only [ntpLines, List.forall_mem_append, forall_mem_mapIdx_flatten each, List.forall_mem_cons]
  tauto

theorem change_fits (target : Section) (path : String) (lines undo : List String) :
    (change target (block path lines) undo).Fits .fortigate target :=
  ⟨rfl, isTableBlock_block path lines⟩

theorem services_fits (services : Intent.Services) :
    (FortiOs.services services).Fits .fortigate .services := by
  simp only [FortiOs.services, fits_append]
  refine ⟨⟨⟨?_, ?_⟩, ?_⟩, ?_⟩
  · split
    · exact fits_nil
    · simp only [fits_cons, fits_nil, and_true]
      exact ⟨change_fits _ _ _ _, change_fits _ _ _ _⟩
  · split
    · exact fits_nil
    · exact fits_cons.mpr ⟨change_fits _ _ _ _, fits_nil⟩
  · split
    · exact fits_nil
    · exact fits_cons.mpr ⟨change_fits _ _ _ _, fits_nil⟩
  · intro mutation member
    obtain ⟨place, _, rfl⟩ := List.mem_mapIdx.mp member
    exact change_fits _ _ _ _

theorem firewall_fits (firewall : Intent.Firewall) :
    (FortiOs.firewall firewall).Fits .fortigate .firewall := by
  unfold FortiOs.firewall
  split
  · simp only [fits_cons, fits_nil, and_true]
    exact ⟨change_fits _ _ _ _, change_fits _ _ _ _⟩
  · exact fits_nil

def part (intent : Intent) : Section → Plan
  | .base => base intent
  | .vlan => intent.vlans.map (vlan (vlanParent intent))
  | .interfaces => intent.interfaces.map interface
  | .routing => intent.routing.staticRoutes.mapIdx route
  | .services => services intent.services
  | .firewall => firewall intent.firewall

theorem plan_eq_ofParts (intent : Intent) : plan intent = .ofParts (part intent) := by
  simp [plan, Plan.ofParts, Section.all, part]

theorem part_fits (intent : Intent) (target : Section) :
    (part intent target).Fits .fortigate target := by
  cases target with
  | base => exact fits_optional fun _ => change_fits _ _ _ _
  | vlan => exact fits_map fun _ => change_fits _ _ _ _
  | interfaces => exact fits_map fun _ => change_fits _ _ _ _
  | routing =>
    intro mutation member
    obtain ⟨place, _, rfl⟩ := List.mem_mapIdx.mp member
    exact change_fits _ _ _ _
  | services => exact services_fits intent.services
  | firewall => exact firewall_fits intent.firewall

end DeviceConfig.FortiOs
