import DeviceConfig.Document.Record
import DeviceConfig.Proofs.NameMap

/-!
What records keep besides their fields. A member that is kept has a name no field is read under, so in what is
written it never stands in the place of a field.
-/

namespace DeviceConfig.Document

theorem sortGiven?_others {fields : List FieldName} {members others : List (String × Node)}
    {known : Given} (sorted : sortGiven? fields members = some (known, others)) :
    ∀ entry ∈ others, ∀ field ∈ fields, field.accepts entry.1 = false := by
  induction members generalizing known others with
  | nil =>
    cases sorted
    simp
  | cons member rest ih =>
    obtain ⟨name, node⟩ := member
    simp only [sortGiven?, Option.bind_eq_bind, Option.bind_eq_some_iff, Prod.exists] at sorted
    obtain ⟨before, after, sortedRest, sorted⟩ := sorted
    split at sorted
    · split at sorted
      · contradiction
      · cases sorted
        exact ih sortedRest
    · next unknown =>
      cases sorted
      rw [List.forall_mem_cons]
      exact ⟨fun field member => by simpa using List.find?_eq_none.mp unknown field member,
        ih sortedRest⟩

theorem names_membersToJson? {members : List (String × Node)} {values : List (String × Json)}
    (written : Node.membersToJson? members = some values) :
    values.map (·.1) = members.map (·.1) := by
  induction members generalizing values with
  | nil =>
    cases written
    rfl
  | cons member rest ih =>
    obtain ⟨name, node⟩ := member
    simp only [Node.membersToJson?, Option.bind_eq_bind, Option.bind_eq_some_iff, Option.pure_def,
      Option.some.injEq] at written
    obtain ⟨value, _, others, writtenRest, rfl⟩ := written
    rw [List.map_cons, List.map_cons, ih writtenRest]

theorem givenWithRest?_others {fields : List FieldName} {node : Node} {given : Given}
    {others : List (String × Json)} (sorted : node.givenWithRest? fields = some (given, others)) :
    ∀ entry ∈ others, ∀ field ∈ fields, field.accepts entry.1 = false := by
  simp only [Node.givenWithRest?, Option.bind_eq_bind, Option.bind_eq_some_iff, Prod.exists,
    Option.pure_def, Option.some.injEq, Prod.mk.injEq] at sorted
  obtain ⟨members, _, known, unknown, sorted, values, written, _, rfl⟩ := sorted
  intro entry member field listed
  have named : entry.1 ∈ unknown.map (·.1) := by
    rw [← names_membersToJson? written]
    exact List.mem_map_of_mem (NameMap.mem_ofList member)
  obtain ⟨source, kept, same⟩ := List.mem_map.mp named
  rw [← same]
  exact sortGiven?_others sorted source kept field listed

namespace OpenRecorded

variable {α : Type} [OpenRecorded α]

/-- What the record keeps besides has names of its own. -/
def Unshadowed (record : α) : Prop :=
  ∀ entry ∈ (toValues record).2, ∀ field ∈ (fields : Fields (Values α)).names,
    field.accepts entry.1 = false

theorem unshadowed_of_read? {node : Node} {record : α}
    (kept : ∀ (values : Values α) (others : List (String × Json)),
      (toValues (ofValues values others : α)).2 = others)
    (read : read? node = some record) : Unshadowed record := by
  simp only [read?, Option.bind_eq_bind, Option.bind_eq_some_iff, Prod.exists, Option.pure_def,
    Option.some.injEq] at read
  obtain ⟨given, others, sorted, values, _, rfl⟩ := read
  intro entry member
  rw [kept] at member
  exact givenWithRest?_others sorted entry member

end OpenRecorded

end DeviceConfig.Document
