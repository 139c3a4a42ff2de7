import DeviceConfig.Proofs.Document.Faithful

/-!
Records that keep what they do not know. Written and read again, the members of the fields and the others are told
apart by their names, and what was kept once is kept for good.
-/

namespace DeviceConfig.Document

/-- Is a field read under the name? -/
def Knows (fields : List FieldName) (name : String) : Bool := fields.any (·.accepts name)

theorem knows_eq_false_iff {fields : List FieldName} {name : String} :
    Knows fields name = false ↔ ∀ field ∈ fields, field.accepts name = false := by
  simp [Knows]

theorem knows_of_find? {fields : List FieldName} {name : String} {field : FieldName}
    (found : fields.find? (·.accepts name) = some field) : Knows fields name = true := by
  have accepted := List.find?_some found
  exact List.any_eq_true.mpr ⟨field, List.mem_of_find?_eq_some found, accepted⟩

/-! ### Sorting members -/

section
variable {fields : List FieldName} {members others : List (String × Node)} {known : Given}

/-- Members under the names of fields are sorted by nothing but their names. -/
theorem sortGiven?_apart (distinct : (members.map (·.1)).Nodup)
    (own : ∀ member ∈ members, ∀ field ∈ fields.find? (·.accepts member.1), field.name = member.1) :
    sortGiven? fields members =
      some (members.filter (Knows fields ·.1), members.filter (!Knows fields ·.1)) := by
  induction members with
  | nil => rfl
  | cons member rest ih =>
    obtain ⟨name, node⟩ := member
    obtain ⟨absent, distinct⟩ := List.nodup_cons.mp distinct
    obtain ⟨first, own⟩ := List.forall_mem_cons.mp own
    cases found : fields.find? (·.accepts name) with
    | none =>
      have unknown : Knows fields name = false := by
        simpa [Knows] using found
      simp [sortGiven?, ih distinct own, found, unknown]
    | some field =>
      have named : field.name = name := first field found
      have familiar := knows_of_find? found
      have once : (rest.filter (Knows fields ·.1)).lookup name = none := by
        rw [NameMap.lookup_filter, if_pos familiar, NameMap.lookup_of_not_mem absent]
      simp [sortGiven?, ih distinct own, found, named, once, familiar]

variable (sorted : sortGiven? fields members = some (known, others))
include sorted

theorem lookup_known {name : String} {node : Node} {field : FieldName}
    (member : (name, node) ∈ members) (found : fields.find? (·.accepts name) = some field) :
    known.lookup field.name = some node := by
  induction members generalizing known others with
  | nil => contradiction
  | cons first rest ih =>
    obtain ⟨other, value⟩ := first
    simp only [sortGiven?, Option.bind_eq_bind, Option.bind_eq_some_iff, Prod.exists] at sorted
    obtain ⟨before, after, sortedRest, sorted⟩ := sorted
    rcases List.mem_cons.mp member with same | later
    · obtain ⟨rfl, rfl⟩ := Prod.mk.inj same
      rw [found] at sorted
      simp only [Option.ite_none_left_eq_some, Option.some.injEq, Prod.mk.injEq] at sorted
      obtain ⟨_, rfl, _⟩ := sorted
      exact List.lookup_cons_self
    · have given := ih sortedRest later
      split at sorted
      · next field' _ =>
        obtain ⟨fresh, same⟩ := Option.ite_none_left_eq_some.mp sorted
        obtain ⟨rfl, _⟩ := Prod.mk.inj (Option.some.inj same)
        -- A second member of the same field is refused, so the one in front is of another.
        have different : field.name ≠ field'.name := by
          intro equal
          rw [← equal, given] at fresh
          exact fresh rfl
        rw [NameMap.lookup_cons, if_neg different, given]
      · obtain ⟨rfl, _⟩ := Prod.mk.inj (Option.some.inj sorted)
        exact given

theorem others_eq_filter : others = members.filter (!Knows fields ·.1) := by
  induction members generalizing known others with
  | nil =>
    cases sorted
    rfl
  | cons first rest ih =>
    obtain ⟨name, value⟩ := first
    simp only [sortGiven?, Option.bind_eq_bind, Option.bind_eq_some_iff, Prod.exists] at sorted
    obtain ⟨before, after, sortedRest, sorted⟩ := sorted
    split at sorted
    · next field found =>
      obtain ⟨_, same⟩ := Option.ite_none_left_eq_some.mp sorted
      obtain ⟨_, rfl⟩ := Prod.mk.inj (Option.some.inj same)
      rw [ih sortedRest, List.filter_cons_of_neg]
      simp [knows_of_find? found]
    · next unknown =>
      obtain ⟨_, rfl⟩ := Prod.mk.inj (Option.some.inj sorted)
      rw [ih sortedRest, List.filter_cons_of_pos]
      simpa [Knows] using unknown

end

/-! ### Writing and reading -/

namespace OpenRecorded

def knownNames (α : Type) [OpenRecorded α] : List FieldName := (fields : Fields (Values α)).names

/-- The fields of the type have names of their own, and its values are made of them and the rest. -/
class Lawful (α : Type) [OpenRecorded α] : Prop where
  named : (fields : Fields (Values α)).WellNamed
  restored (record : α) : ofValues (toValues record).1 (toValues record).2 = record
  parts (values : Values α) (others : List (String × Json)) :
    toValues (ofValues values others : α) = (values, others)

variable {α : Type} [OpenRecorded α]

/-- What a record keeps besides its fields. -/
def kept (record : α) : List (String × Json) := (toValues record).2

def own (record : α) : List (String × Json) := fields.write (toValues record).1

def written (record : α) : List (String × Json) := NameMap.ofList (own record ++ kept record)

theorem isNullFree_toJson {record : α} (fields : ∀ member ∈ own record, member.2.IsNullFree)
    (others : ∀ member ∈ kept record, member.2.IsNullFree) : (toJson record).IsNullFree :=
  Json.isNullFree_ofMembers (List.forall_mem_append.mpr ⟨fields, others⟩)

/-- What is kept is in order, down to the last part of it, and has names of its own. -/
structure Proper (record : α) : Prop where
  sorted : NameMap.Sorted (kept record)
  ordered : ∀ member ∈ kept record, member.2.IsOrdered
  unshadowed : Unshadowed record

theorem isOrdered_toJson {record : α} (fields : ∀ member ∈ own record, member.2.IsOrdered)
    (others : ∀ member ∈ kept record, member.2.IsOrdered) : (toJson record).IsOrdered :=
  Json.isOrdered_ofMembers (List.forall_mem_append.mpr ⟨fields, others⟩)

section
variable [lawful : Lawful α] {record : α}

theorem unique_own : ((own record).map (·.1)).Nodup :=
  (Fields.names_write (toValues record).1).nodup lawful.named.1

theorem field_of_own {member : String × Json} (written : member ∈ own record) :
    ∃ field, (knownNames α).find? (·.accepts member.1) = some field ∧ field.name = member.1 := by
  have listed := (Fields.names_write (toValues record).1).mem (List.mem_map_of_mem written)
  obtain ⟨field, found, same⟩ := Option.map_eq_some_iff.mp (lawful.named.2 _ listed)
  exact ⟨field, found, same⟩

theorem lookup_own_of_unknown {name : String} (unknown : Knows (knownNames α) name = false) :
    (own record).lookup name = none := by
  refine NameMap.lookup_of_not_mem fun listed => ?_
  obtain ⟨member, written, rfl⟩ := List.mem_map.mp listed
  obtain ⟨field, found, _⟩ := field_of_own written
  rw [knows_of_find? found] at unknown
  contradiction

variable (proper : Proper record)
include proper

omit lawful in
theorem unknown_of_kept {member : String × Json} (inside : member ∈ kept record) :
    Knows (knownNames α) member.1 = false :=
  knows_eq_false_iff.mpr (proper.unshadowed member inside)

omit lawful in
theorem lookup_kept_of_known {name : String} (familiar : Knows (knownNames α) name = true) :
    (kept record).lookup name = none := by
  refine NameMap.lookup_of_not_mem fun listed => ?_
  obtain ⟨member, inside, rfl⟩ := List.mem_map.mp listed
  rw [unknown_of_kept proper inside] at familiar
  contradiction

/-- In what is written a field is found under its name, and everything else where it was kept. -/
theorem lookup_written (name : String) : (written record).lookup name =
    if Knows (knownNames α) name then (own record).lookup name else (kept record).lookup name := by
  rw [written, NameMap.lookup_ofList, List.reverse_append, List.lookup_append,
    NameMap.lookup_reverse unique_own, NameMap.lookup_reverse proper.sorted.distinct]
  split
  · next familiar => rw [lookup_kept_of_known proper familiar, Option.none_or]
  · next unknown =>
    rw [lookup_own_of_unknown (Bool.not_eq_true _ ▸ unknown), Option.or_none]

theorem filter_written : (written record).filter (!Knows (knownNames α) ·.1) = kept record := by
  have sorted : NameMap.Sorted ((written record).filter (!Knows (knownNames α) ·.1)) :=
    (NameMap.sorted_ofList _).sublist List.filter_sublist
  refine NameMap.eq_of_lookup sorted proper.sorted fun name => ?_
  rw [NameMap.lookup_filter (fun name => !Knows (knownNames α) name), lookup_written proper]
  cases familiar : Knows (knownNames α) name with
  | true => exact (lookup_kept_of_known proper familiar).symm
  | false => rfl

/-- The table that is written falls apart into the members of the fields and what was kept. -/
theorem sortGiven?_written : sortGiven? (knownNames α) (Node.ofMembers (written record)) =
    some ((Node.ofMembers (written record)).filter (Knows (knownNames α) ·.1),
      Node.ofMembers (kept record)) := by
  rw [sortGiven?_apart]
  · rw [Node.filter_ofMembers (!Knows (knownNames α) ·), filter_written proper]
  · rw [Node.names_ofMembers]
    exact (NameMap.sorted_ofList _).distinct
  · intro member inside field found
    have listed : member.1 ∈ (written record).map (·.1) := by
      rw [← Node.names_ofMembers]
      exact List.mem_map_of_mem inside
    obtain ⟨source, stands, same⟩ := List.mem_map.mp listed
    rw [← same] at found ⊢
    rcases List.mem_append.mp (NameMap.mem_ofList stands) with ours | others
    · obtain ⟨field', found', named⟩ := field_of_own ours
      obtain rfl : field' = field := Option.some.inj (found'.symm.trans found)
      exact named
    · have unknown := unknown_of_kept proper others
      rw [knows_of_find? found] at unknown
      contradiction

theorem read?_toJson (back : (fields : Fields (Values α)).ReadsBack (toValues record).1) :
    read? (Node.ofJson (toJson record)) = some record := by
  have others : NameMap.ofList (kept record) = kept record := NameMap.ofList_of_sorted proper.sorted
  have given : (Node.ofJson (toJson record)).givenWithRest? (knownNames α) =
      some ((Node.ofMembers (written record)).filter (Knows (knownNames α) ·.1), kept record) := by
    have table : Node.ofJson (toJson record) = .table (Node.ofMembers (written record)) := rfl
    simp [table, Node.givenWithRest?, Node.members?, sortGiven?_written proper,
      Node.membersToJson?_ofMembers _ proper.ordered, others]
  have found : (fields : Fields (Values α)).read?
      ((Node.ofMembers (written record)).filter (Knows (knownNames α) ·.1)) =
        some (toValues record).1 := by
    refine Fields.read?_of_found back lawful.named.1 fun name listed => ?_
    have familiar : Knows (knownNames α) name = true := by
      obtain ⟨field, found, _⟩ := Option.map_eq_some_iff.mp (lawful.named.2 name listed)
      exact knows_of_find? found
    rw [NameMap.lookup_filter, if_pos familiar, Node.lookup_ofMembers, lookup_written proper,
      if_pos familiar]
    rfl
  simp only [read?]
  rw [← knownNames, given]
  simp only [Option.bind_eq_bind, Option.bind_some, found, Option.pure_def]
  exact congrArg some (lawful.restored record)

end

/-! ### What is kept of a document -/

section
variable [lawful : Lawful α] {record : α}

theorem parts_of_read? {node : Node} (read : read? node = some record) :
    ∃ given, node.givenWithRest? (knownNames α) = some (given, kept record) ∧
      (fields : Fields (Values α)).read? given = some (toValues record).1 := by
  simp only [read?, Option.bind_eq_bind, Option.bind_eq_some_iff, Prod.exists, Option.pure_def,
    Option.some.injEq] at read
  obtain ⟨given, others, sorted, values, found, rfl⟩ := read
  rw [kept, lawful.parts]
  exact ⟨given, sorted, found⟩

/-- Whatever the document is like, what is kept of it is kept properly. -/
theorem proper_of_read? {node : Node} (read : read? node = some record) : Proper record := by
  obtain ⟨given, sorted, _⟩ := parts_of_read? read
  simp only [Node.givenWithRest?, Option.bind_eq_bind, Option.bind_eq_some_iff, Prod.exists,
    Option.pure_def, Option.some.injEq, Prod.mk.injEq] at sorted
  obtain ⟨members, _, known, unknown, _, values, made, _, same⟩ := sorted
  refine ⟨same ▸ NameMap.sorted_ofList values, fun member inside => ?_, ?_⟩
  · rw [← same] at inside
    exact Node.isOrdered_of_membersToJson? unknown made member (NameMap.mem_ofList inside)
  · exact unshadowed_of_read? (fun values others => by rw [lawful.parts]) read

variable {members : List (String × Json)} (ordered : (Json.object members).IsOrdered)
  (read : read? (Node.ofJson (.object members)) = some record)
include ordered read

theorem kept_of_read? : kept record = members.filter (!Knows (knownNames α) ·.1) := by
  obtain ⟨inOrder, inside⟩ := Json.isOrdered_object.mp ordered
  obtain ⟨given, sorted, _⟩ := parts_of_read? read
  simp only [Node.givenWithRest?, Node.ofJson, Node.members?, Option.bind_eq_bind, Option.bind_some,
    Option.bind_eq_some_iff, Prod.exists, Option.pure_def, Option.some.injEq, Prod.mk.injEq] at sorted
  obtain ⟨known, unknown, sorted, values, made, _, same⟩ := sorted
  rw [others_eq_filter sorted, Node.filter_ofMembers (!Knows (knownNames α) ·),
    Node.membersToJson?_ofMembers _ fun member stays => inside member (List.mem_of_mem_filter stays)]
    at made
  obtain rfl := Option.some.inj made
  rw [← same, NameMap.ofList_of_sorted (inOrder.sublist List.filter_sublist)]

/-- What no field is read under stands in what is written as it stood in the document. -/
theorem lookup_written_of_read? {name : String} (unknown : Knows (knownNames α) name = false) :
    (written record).lookup name = members.lookup name := by
  rw [lookup_written (proper_of_read? read), unknown, if_neg Bool.false_ne_true,
    kept_of_read? ordered read, NameMap.lookup_filter (!Knows (knownNames α) ·), unknown]
  rfl

omit ordered in
/-- What stands under the name of a field is what the field is read from. -/
theorem given_of_read? {name : String} {value : Json} {field : FieldName}
    (inside : members.lookup name = some value)
    (found : (knownNames α).find? (·.accepts name) = some field) :
    ∃ given : Given, (fields : Fields (Values α)).read? given = some (toValues record).1 ∧
      given.lookup field.name = some (Node.ofJson value) := by
  obtain ⟨given, sorted, back⟩ := parts_of_read? read
  simp only [Node.givenWithRest?, Node.ofJson, Node.members?, Option.bind_eq_bind, Option.bind_some,
    Option.bind_eq_some_iff, Prod.exists, Option.pure_def, Option.some.injEq, Prod.mk.injEq] at sorted
  obtain ⟨known, unknown, sorted, _, _, rfl, _⟩ := sorted
  refine ⟨known, back, lookup_known sorted ?_ found⟩
  obtain ⟨before, after, rfl, _⟩ := List.lookup_eq_some_iff.mp inside
  simp [Node.ofMembers_eq_map]

end

end OpenRecorded

end DeviceConfig.Document
