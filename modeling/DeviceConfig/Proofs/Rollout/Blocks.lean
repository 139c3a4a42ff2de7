import DeviceConfig.Proofs.Text.Interpolation
import DeviceConfig.Rollout.Plan
import Mathlib.Data.List.Basic

/-!
How the commands of a vendor fall into blocks, read off the commands alone. A list that was put together
from blocks falls into just those again.
-/

namespace DeviceConfig.Rollout

def isIndented (line : String) : Bool := line.toList.head? = some ' '

/-- A line at the margin, and the lines below it that are indented. Nothing is indented without such a
line above it. -/
def marginBlocks? : List String → Option (List (List String))
  | [] => some []
  | line :: rest =>
    if isIndented line then none
    else do
      let others ← marginBlocks? (rest.dropWhile isIndented)
      return (line :: rest.takeWhile isIndented) :: others
termination_by lines => lines.length
decreasing_by
  have shorter := (List.dropWhile_sublist isIndented (l := rest)).length_le
  simp only [List.length_cons]
  omega

/-- The line that opens a table at the margin. -/
def opensTable (line : String) : Bool := "config ".toList.isPrefixOf line.toList

/-- From a line that opens a table to the next `end` at the margin. Nothing stands outside. -/
def tableBlocks? : List String → Option (List (List String))
  | [] => some []
  | line :: rest =>
    if opensTable line then
      match _ended : rest.dropWhile (· != "end") with
      | [] => none
      | last :: after => do
        let others ← tableBlocks? after
        return (line :: rest.takeWhile (· != "end") ++ [last]) :: others
    else none
termination_by lines => lines.length
decreasing_by
  have shorter := (List.dropWhile_sublist (· != "end") (l := rest)).length_le
  rw [_ended] at shorter
  simp only [List.length_cons] at shorter ⊢
  omega

/-- The blocks of a vendor's commands, if they are nothing but blocks. -/
def blocks? : Vendor → List String → Option (List (List String))
  | .cisco, lines => marginBlocks? lines
  | .mikrotik, lines => some (lines.map ([·]))
  | .fortigate, lines => tableBlocks? lines
  | .generic, _ => none

/-! ### The shape of a block -/

def IsMarginBlock (block : List String) : Prop :=
  ∃ line body, block = line :: body ∧ isIndented line = false ∧ ∀ inner ∈ body, isIndented inner

def IsTableBlock (block : List String) : Prop :=
  ∃ line body, block = line :: body ++ ["end"] ∧ opensTable line ∧ ∀ inner ∈ body, inner ≠ "end"

def IsBlock : Vendor → List String → Prop
  | .cisco, block => IsMarginBlock block
  | .mikrotik, block => ∃ line, block = [line]
  | .fortigate, block => IsTableBlock block
  | .generic, _ => False

/-- The lines of a block end where the next block begins. -/
theorem marginBlocks?_flatten {blocks : List (List String)}
    (shaped : ∀ block ∈ blocks, IsMarginBlock block) :
    marginBlocks? blocks.flatten = some blocks := by
  induction blocks with
  | nil => simp [marginBlocks?]
  | cons block blocks ih =>
    obtain ⟨line, body, rfl, margin, indented⟩ := shaped block List.mem_cons_self
    have others := ih fun other member => shaped other (List.mem_cons_of_mem _ member)
    have next : blocks.flatten.takeWhile isIndented = [] ∧
        blocks.flatten.dropWhile isIndented = blocks.flatten := by
      cases blocks with
      | nil => simp
      | cons following blocks =>
        obtain ⟨first, _, rfl, start, _⟩ := shaped following (by simp)
        simp [start]
    have taken : (body ++ blocks.flatten).takeWhile isIndented = body := by
      rw [List.takeWhile_append_of_pos indented, next.1, List.append_nil]
    have left : (body ++ blocks.flatten).dropWhile isIndented = blocks.flatten := by
      rw [List.dropWhile_append_of_pos indented, next.2]
    rw [List.flatten_cons, List.cons_append, marginBlocks?, if_neg (by simp [margin]), left,
      others, taken]
    rfl

theorem tableBlocks?_flatten {blocks : List (List String)}
    (shaped : ∀ block ∈ blocks, IsTableBlock block) :
    tableBlocks? blocks.flatten = some blocks := by
  induction blocks with
  | nil => simp [tableBlocks?]
  | cons block blocks ih =>
    obtain ⟨line, body, rfl, opening, inside⟩ := shaped block List.mem_cons_self
    have others := ih fun other member => shaped other (List.mem_cons_of_mem _ member)
    have open' : ∀ inner ∈ body, (inner != "end") = true := by simpa using inside
    have taken : (body ++ "end" :: blocks.flatten).takeWhile (· != "end") = body := by
      rw [List.takeWhile_append_of_pos open']
      simp
    have left : (body ++ "end" :: blocks.flatten).dropWhile (· != "end") =
        "end" :: blocks.flatten := by
      rw [List.dropWhile_append_of_pos open']
      simp
    rw [List.flatten_cons, List.append_assoc, List.cons_append, List.singleton_append,
      tableBlocks?, if_pos opening]
    split
    · next none => rw [left] at none; cases none
    · next last after some =>
      rw [left] at some
      obtain ⟨rfl, rfl⟩ := List.cons.inj some
      rw [others, taken]
      rfl

theorem blocks?_flatten {vendor : Vendor} {blocks : List (List String)} (known : vendor ≠ .generic)
    (shaped : ∀ block ∈ blocks, IsBlock vendor block) :
    blocks? vendor blocks.flatten = some blocks := by
  cases vendor with
  | cisco => exact marginBlocks?_flatten shaped
  | fortigate => exact tableBlocks?_flatten shaped
  | generic => exact absurd rfl known
  | mikrotik =>
    have single : blocks.flatten.map ([·]) = blocks := by
      induction blocks with
      | nil => rfl
      | cons block blocks ih =>
        obtain ⟨line, rfl⟩ := shaped block List.mem_cons_self
        have others := ih fun other member => shaped other (List.mem_cons_of_mem _ member)
        rw [List.flatten_cons, List.singleton_append, List.map_cons, others]
    rw [blocks?, single]

/-! ### Plans of blocks -/

/-- A change of the section whose commands are one block. -/
def Mutation.Fits (vendor : Vendor) (target : Section) (mutation : Mutation) : Prop :=
  mutation.target = target ∧ IsBlock vendor mutation.commands

def Plan.Fits (vendor : Vendor) (target : Section) (plan : Plan) : Prop :=
  ∀ mutation ∈ plan, mutation.Fits vendor target

section

variable {vendor : Vendor} {target : Section}

@[simp] theorem fits_nil : Plan.Fits vendor target [] := by
  simp [Plan.Fits]

@[simp] theorem fits_cons {mutation : Mutation} {plan : Plan} :
    Plan.Fits vendor target (mutation :: plan) ↔
      mutation.Fits vendor target ∧ plan.Fits vendor target := by
  simp [Plan.Fits]

@[simp] theorem fits_append {left right : Plan} :
    Plan.Fits vendor target (left ++ right) ↔
      left.Fits vendor target ∧ right.Fits vendor target := by
  simp only [Plan.Fits, List.forall_mem_append]

theorem fits_map {α : Type} {change : α → Mutation} {items : List α}
    (each : ∀ item, (change item).Fits vendor target) :
    Plan.Fits vendor target (items.map change) := by
  intro mutation member
  obtain ⟨item, _, rfl⟩ := List.mem_map.mp member
  exact each item

theorem fits_flatMap {α : Type} {changes : α → Plan} {items : List α}
    (each : ∀ item, (changes item).Fits vendor target) :
    Plan.Fits vendor target (items.flatMap changes) := by
  intro mutation member
  obtain ⟨item, _, member⟩ := List.mem_flatMap.mp member
  exact each item mutation member

theorem fits_optional {α : Type} {change : α → Mutation} {item : Option α}
    (each : ∀ item, (change item).Fits vendor target) :
    Plan.Fits vendor target (item.map change).toList := by
  cases item with
  | none => simp
  | some item => simp [each item]

end

end DeviceConfig.Rollout
