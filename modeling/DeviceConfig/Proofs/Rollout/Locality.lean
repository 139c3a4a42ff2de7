import DeviceConfig.Proofs.Rollout.Rollback

/-!
Two intents that differ in one thing only. What is not part of the section of that thing is the same in both
rollouts: the other sections, and what takes their changes back.
-/

namespace DeviceConfig

open Rollout

namespace Intent

/-- Two intents that agree in all but what one section is made from. -/
inductive DifferOnly : Section → Intent → Intent → Prop where
  | hostname (intent : Intent) (hostname : Option String) :
      DifferOnly .base intent { intent with hostname }
  | routing (intent : Intent) (routing : Routing) : DifferOnly .routing intent { intent with routing }
  | services (intent : Intent) (services : Services) :
      DifferOnly .services intent { intent with services }
  | firewall (intent : Intent) (firewall : Firewall) :
      DifferOnly .firewall intent { intent with firewall }

end Intent

namespace Rollout

/-! ### Whose undo commands they are -/

/-- For every block of commands the section it stands in. -/
def blockOwners (rollout : Rollout) : List Section :=
  rollout.sections.flatMap fun part =>
    ((blocks? rollout.vendor part.2).getD []).map fun _ => part.1

/-- The rollback, each undo command with the section of the block it takes back. The last block is the first
to be taken back. -/
def ownedRollback (rollout : Rollout) : List (Section × String) :=
  rollout.blockOwners.reverse.zip rollout.rollback

section
variable {vendor : Vendor} {part : Section → Plan}

theorem blocks?_commands {target : Section} (known : vendor ≠ .generic)
    (fits : ∀ target, (part target).Fits vendor target) :
    blocks? vendor ((part target).flatMap (·.commands)) = some ((part target).map (·.commands)) := by
  rw [List.flatMap_def]
  apply blocks?_flatten known
  intro block member
  obtain ⟨mutation, planned, rfl⟩ := List.mem_map.mp member
  exact (fits target mutation planned).2

theorem map_target_ofParts (fits : ∀ target, (part target).Fits vendor target) :
    (Plan.ofParts part).map (·.target) = Section.all.flatMap fun target => (part target).map fun _ => target := by
  rw [Plan.ofParts, List.map_flatMap]
  apply List.flatMap_congr
  intro target _
  apply List.map_congr_left
  intro mutation planned
  exact (fits target mutation planned).1

theorem ownedRollback_finish (known : vendor ≠ .generic)
    (fits : ∀ target, (part target).Fits vendor target) (verify : List String) :
    ((Plan.ofParts part).finish vendor verify).ownedRollback =
      (Plan.ofParts part).reverse.map fun mutation => (mutation.target, mutation.undo) := by
  have within : ∀ target, (part target).Within target := fun target => within_of_fits (fits target)
  have owners : ((Plan.ofParts part).finish vendor verify).blockOwners =
      (Plan.ofParts part).map (·.target) := by
    rw [map_target_ofParts fits, blockOwners, finish_eq, List.flatMap_map]
    apply List.flatMap_congr
    intro target _
    rw [commandsOf_ofParts within, blocks?_commands known fits, Option.getD_some, List.map_map]
    rfl
  rw [ownedRollback, owners, finish_eq, ← List.map_reverse, ← List.map_reverse, List.zip_map']

end

/-! ### Agreement outside a section -/

/-- Both plans have the same changes in all sections but this one. -/
theorem filter_ofParts {vendor : Vendor} {part changed : Section → Plan} {target : Section}
    (fits : ∀ target, (part target).Fits vendor target)
    (alsoFits : ∀ target, (changed target).Fits vendor target)
    (same : ∀ other, other ≠ target → part other = changed other) :
    (Plan.ofParts part).filter (·.target ≠ target) = (Plan.ofParts changed).filter (·.target ≠ target) := by
  have none : ∀ {plan : Plan}, plan.Fits vendor target → plan.filter (·.target ≠ target) = [] := by
    intro plan fits
    rw [List.filter_eq_nil_iff]
    intro mutation planned
    simp [(fits mutation planned).1]
  rw [Plan.ofParts, Plan.ofParts, List.filter_flatMap, List.filter_flatMap]
  apply List.flatMap_congr
  intro other _
  by_cases here : other = target
  · subst here
    rw [none (fits other), none (alsoFits other)]
  · rw [same other here]

/-- Every vendor's section is made from what it is about, whatever stands elsewhere in the intent. -/
theorem partOf_agree {vendor : Vendor} {target elsewhere : Section} {intent other : Intent}
    (differ : Intent.DifferOnly target intent other) (outside : elsewhere ≠ target) :
    partOf vendor intent elsewhere = partOf vendor other elsewhere := by
  cases vendor <;> cases differ <;> cases elsewhere <;> first | rfl | contradiction

/-- What is looked at afterwards depends on the services and the firewall alone. -/
theorem verify_agree {vendor : Vendor} {language : CommandLanguage} {intent other : Intent}
    {target : Section} (known : languageOf vendor = .ok language)
    (differ : Intent.DifferOnly target intent other) (unlooked : target = .base ∨ target = .routing) :
    language.verify intent = language.verify other := by
  cases vendor with
  | generic => cases known
  | cisco | mikrotik | fortigate =>
    obtain rfl := Except.ok.inj known
    rcases unlooked with rfl | rfl <;> cases differ <;> rfl

/-- Rollouts of intents that differ in one thing only. The sections of all else are the same, and so is what
takes their changes back. -/
theorem agree_outside_section {vendor : Vendor} {target : Section} {intent other : Intent}
    {rollout changed : Rollout} (differ : Intent.DifferOnly target intent other)
    (rendered : render intent vendor = .ok rollout) (alsoRendered : render other vendor = .ok changed) :
    rollout.sections.filter (·.1 ≠ target) = changed.sections.filter (·.1 ≠ target) ∧
      rollout.ownedRollback.map (·.2) = rollout.rollback ∧
      changed.ownedRollback.map (·.2) = changed.rollback ∧
      rollout.ownedRollback.filter (·.1 ≠ target) = changed.ownedRollback.filter (·.1 ≠ target) ∧
      (target = .base ∨ target = .routing → rollout.verify = changed.verify) := by
  obtain ⟨language, known, _, rfl⟩ := render_eq_ok_iff.mp rendered
  obtain ⟨again, found, _, rfl⟩ := render_eq_ok_iff.mp alsoRendered
  obtain rfl : again = language := Except.ok.inj (found.symm.trans known)
  have laidOut := plan_eq_partOf known
  have fits := partOf_fits vendor
  have named : vendor ≠ .generic := by rintro rfl; cases known
  have owned := ownedRollback_finish named (fits intent) (again.verify intent)
  have alsoOwned := ownedRollback_finish named (fits other) (again.verify other)
  have whole : ∀ plan : Plan,
      (plan.reverse.map fun mutation => (mutation.target, mutation.undo)).map (·.2) =
        (plan.map (·.undo)).reverse := by
    intro plan
    rw [List.map_map, ← List.map_reverse]
    rfl
  have kept : ∀ plan : Plan,
      (plan.reverse.map fun mutation => (mutation.target, mutation.undo)).filter (·.1 ≠ target) =
        (plan.filter (·.target ≠ target)).reverse.map fun mutation => (mutation.target, mutation.undo) := by
    intro plan
    rw [List.filter_map, List.filter_reverse]
    rfl
  rw [laidOut, laidOut]
  refine ⟨?_, ?_, ?_, ?_, ?_⟩
  · rw [finish_eq, finish_eq, List.filter_map, List.filter_map]
    apply List.map_congr_left
    intro elsewhere member
    have outside : elsewhere ≠ target := by simpa using (List.mem_filter.mp member).2
    rw [commandsOf_ofParts (partOf_within vendor intent), commandsOf_ofParts (partOf_within vendor other),
      partOf_agree differ outside]
  · rw [owned, whole, finish_eq]
  · rw [alsoOwned, whole, finish_eq]
  · rw [owned, alsoOwned, kept, kept, filter_ofParts (fits intent) (fits other)
      fun elsewhere => partOf_agree differ]
  · intro unlooked
    rw [finish_eq, finish_eq]
    exact verify_agree known differ unlooked

/-- Another host name leaves the VLAN and the address on it as they are, and what takes them back. -/
theorem agree_outside_section_hostname :
    ∃ rollout changed,
      render { hostname := some "r1", vlans := [{ id := 10, gateway := some "10.10.0.1" }] } .mikrotik =
        .ok rollout ∧
      render { hostname := some "r2", vlans := [{ id := 10, gateway := some "10.10.0.1" }] } .mikrotik =
        .ok changed ∧
      rollout.sections.filter (·.1 ≠ .base) = changed.sections.filter (·.1 ≠ .base) ∧
      rollout.ownedRollback.map (·.2) = rollout.rollback ∧
      changed.ownedRollback.map (·.2) = changed.rollback ∧
      rollout.ownedRollback.filter (·.1 ≠ .base) = changed.ownedRollback.filter (·.1 ≠ .base) ∧
      rollout.verify = changed.verify := by
  have differ := Intent.DifferOnly.hostname
    { hostname := some "r1", vlans := [{ id := 10, gateway := some "10.10.0.1" }] } (some "r2")
  have accepted : ∀ hostname, ∃ rollout,
      render { hostname, vlans := [{ id := 10, gateway := some "10.10.0.1" }] } .mikrotik = .ok rollout :=
    fun hostname => ⟨_, render_eq_ok_iff.mpr ⟨_, rfl, rfl, rfl⟩⟩
  obtain ⟨rollout, rendered⟩ := accepted (some "r1")
  obtain ⟨changed, alsoRendered⟩ := accepted (some "r2")
  obtain ⟨sections, all, alsoAll, kept, verify⟩ := agree_outside_section differ rendered alsoRendered
  exact ⟨_, _, rendered, alsoRendered, sections, all, alsoAll, kept, verify (.inl rfl)⟩

end Rollout

end DeviceConfig
