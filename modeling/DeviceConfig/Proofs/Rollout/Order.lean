import DeviceConfig.Proofs.Rollout.Rollback

/-!
What has to come first. Some commands define what others use. A definition stands before every use of it, and
the rollback, which goes the other way round, takes it back behind them all.
-/

namespace DeviceConfig.Rollout

/-! ### What a line begins with -/

def begins (text line : String) : Bool := text.toList.isPrefixOf line.toList

theorem begins_iff {text line : String} : begins text line = true ↔ text.toList <+: line.toList :=
  List.isPrefixOf_iff_prefix

/-- Neither text begins with the other, so no line begins with both. -/
def Apart (text other : String) : Prop := begins text other = false ∧ begins other text = false

instance (text other : String) : Decidable (Apart text other) :=
  inferInstanceAs (Decidable (_ ∧ _))

theorem not_begins_of_apart {text other line : String} (apart : Apart text other)
    (start : begins text line = true) : ¬begins other line = true := by
  intro both
  rcases List.prefix_or_prefix_of_prefix (begins_iff.mp start) (begins_iff.mp both) with first | second
  · rw [← begins_iff, apart.1] at first
    cases first
  · rw [← begins_iff, apart.2] at second
    cases second

/-! ### Definitions and uses -/

/-- A use has a definition before it and none behind it. -/
def Precedes (defines uses : String → Prop) (entries : List String) : Prop :=
  ∀ before entry after, entries = before ++ entry :: after → uses entry →
    (∃ earlier ∈ before, defines earlier) ∧ ∀ later ∈ after, ¬defines later

/-- Commands that define something and commands that use it, and the undo commands of both. -/
structure Dependency where
  defines : String → Prop
  uses : String → Prop
  undefines : String → Prop
  releases : String → Prop

/-- What is used has been defined before. The rollback releases it before it takes the definition back, so it
shows the same order when it is read from its end. -/
structure Respects (rollout : Rollout) (dependency : Dependency) : Prop where
  applied : Precedes dependency.defines dependency.uses rollout.commands
  undone : Precedes dependency.undefines dependency.releases rollout.rollback.reverse

/-- The command is among those of the rollout, and the rollback has the undo command. -/
def Brings (rollout : Rollout) (command undo : String) : Prop :=
  command ∈ rollout.commands ∧ undo ∈ rollout.rollback

section
variable {defines uses : String → Prop}

theorem precedes_of_unused {entries : List String} (unused : ∀ entry ∈ entries, ¬uses entry) :
    Precedes defines uses entries := by
  rintro before entry after rfl used
  exact absurd used (unused entry (by simp))

theorem precedes_append {front back : List String} (unused : ∀ entry ∈ front, ¬uses entry)
    (defined : ∃ entry ∈ front, defines entry) (once : ∀ entry ∈ back, ¬defines entry) :
    Precedes defines uses (front ++ back) := by
  intro before entry after whole used
  rcases List.append_eq_append_iff.mp whole with ⟨between, rfl, rest⟩ | ⟨between, rfl, rest⟩
  · -- The use stands in the back, and all of the front before it.
    obtain ⟨earlier, member, defining⟩ := defined
    refine ⟨⟨earlier, List.mem_append_left _ member, defining⟩, fun later member => once later ?_⟩
    rw [rest]
    simp [member]
  · cases between with
    | nil =>
      obtain ⟨earlier, member, defining⟩ := defined
      refine ⟨⟨earlier, by simpa using member, defining⟩, fun later member => once later ?_⟩
      rw [← List.nil_append back, ← rest]
      simp [member]
    | cons first between =>
      obtain ⟨rfl, _⟩ := List.cons.inj rest
      exact absurd used (unused entry (by simp))

end

/-! ### Plans -/

/-- Neither a command nor the undo command is of these kinds. -/
def Mutation.Avoids (command undo : String → Prop) (mutation : Mutation) : Prop :=
  (∀ line ∈ mutation.commands, ¬command line) ∧ ¬undo mutation.undo

def Plan.Avoids (command undo : String → Prop) (plan : Plan) : Prop :=
  ∀ mutation ∈ plan, mutation.Avoids command undo

/-- A change of the plan has a command of the one kind, and is undone by one of the other. -/
def Plan.Makes (command undo : String → Prop) (plan : Plan) : Prop :=
  ∃ mutation ∈ plan, (∃ line ∈ mutation.commands, command line) ∧ undo mutation.undo

section
variable {command undo : String → Prop}

@[simp] theorem avoids_append {left right : Plan} :
    Plan.Avoids command undo (left ++ right) ↔
      left.Avoids command undo ∧ right.Avoids command undo := by
  simp only [Plan.Avoids, List.forall_mem_append]

theorem Mutation.Avoids.or {others undos : String → Prop} {mutation : Mutation}
    (first : mutation.Avoids command undo) (second : mutation.Avoids others undos) :
    mutation.Avoids (fun line => command line ∨ others line) (fun line => undo line ∨ undos line) :=
  ⟨fun line member => not_or.mpr ⟨first.1 line member, second.1 line member⟩,
    not_or.mpr ⟨first.2, second.2⟩⟩

theorem Plan.Avoids.mono {others undos : String → Prop} {plan : Plan} (avoids : plan.Avoids others undos)
    (commands : ∀ line, command line → others line) (back : ∀ line, undo line → undos line) :
    plan.Avoids command undo := fun mutation planned =>
  ⟨fun line member kind => (avoids mutation planned).1 line member (commands line kind),
    fun kind => (avoids mutation planned).2 (back _ kind)⟩

theorem Plan.Avoids.countP_eq_zero {plan : Plan} {command undo : String → Bool}
    (avoids : plan.Avoids (command ·) (undo ·)) :
    (plan.flatMap (·.commands)).countP command = 0 ∧ (plan.map (·.undo)).countP undo = 0 := by
  constructor
  · exact List.countP_eq_zero.mpr
      (List.forall_mem_flatMap.mpr fun mutation planned => (avoids mutation planned).1)
  · exact List.countP_eq_zero.mpr
      (List.forall_mem_map.mpr fun mutation planned => (avoids mutation planned).2)

theorem Plan.Avoids.of_begins {plan : Plan} {others undos : String → Prop} {line back : String}
    (avoids : plan.Avoids others undos) (command : others line) (undo : undos back) :
    plan.Avoids (· = line) (· = back) :=
  avoids.mono (fun _ same => same ▸ command) (fun _ same => same ▸ undo)

end

variable {intent : Intent} {vendor : Vendor} {rollout : Rollout} {language : CommandLanguage}
  (rendered : render intent vendor = .ok rollout) (known : languageOf vendor = .ok language)
include rendered known

theorem rollback_of_render : rollout.rollback.reverse = (language.plan intent).map (·.undo) := by
  obtain ⟨other, found, _, rfl⟩ := render_eq_ok_iff.mp rendered
  obtain rfl : other = language := Except.ok.inj (found.symm.trans known)
  rw [finish_eq, List.reverse_reverse]

theorem brings_of_planned {mutation : Mutation} (planned : mutation ∈ language.plan intent)
    {command : String} (member : command ∈ mutation.commands) :
    rollout.Brings command mutation.undo := by
  constructor
  · rw [commands_of_render rendered known]
    exact List.mem_flatMap.mpr ⟨mutation, planned, member⟩
  · rw [← List.mem_reverse, rollback_of_render rendered known]
    exact List.mem_map_of_mem planned

/-- What one part of a plan defines and only the other part uses. -/
theorem respects_of_parts {front back : Plan} {dependency : Dependency}
    (whole : language.plan intent = front ++ back)
    (unused : front.Avoids dependency.uses dependency.releases)
    (defined : front.Makes dependency.defines dependency.undefines)
    (once : back.Avoids dependency.defines dependency.undefines) : rollout.Respects dependency := by
  obtain ⟨mutation, planned, ⟨line, member, defining⟩, undefining⟩ := defined
  constructor
  · rw [commands_of_render rendered known, whole, List.flatMap_append]
    refine precedes_append ?_ ⟨line, List.mem_flatMap.mpr ⟨mutation, planned, member⟩, defining⟩ ?_
    · exact List.forall_mem_flatMap.mpr fun mutation planned => (unused mutation planned).1
    · exact List.forall_mem_flatMap.mpr fun mutation planned => (once mutation planned).1
  · rw [rollback_of_render rendered known, whole, List.map_append]
    refine precedes_append ?_ ⟨mutation.undo, List.mem_map_of_mem planned, undefining⟩ ?_
    · exact List.forall_mem_map.mpr fun mutation planned => (unused mutation planned).2
    · exact List.forall_mem_map.mpr fun mutation planned => (once mutation planned).2

theorem respects_of_unused {plan : Plan} {dependency : Dependency}
    (whole : language.plan intent = plan)
    (unused : plan.Avoids dependency.uses dependency.releases) : rollout.Respects dependency := by
  constructor
  · rw [commands_of_render rendered known, whole]
    exact precedes_of_unused
      (List.forall_mem_flatMap.mpr fun mutation planned => (unused mutation planned).1)
  · rw [rollback_of_render rendered known, whole]
    exact precedes_of_unused
      (List.forall_mem_map.mpr fun mutation planned => (unused mutation planned).2)

end DeviceConfig.Rollout
