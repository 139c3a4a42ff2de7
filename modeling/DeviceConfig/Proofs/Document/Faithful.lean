import DeviceConfig.Proofs.Document.Record
import DeviceConfig.Proofs.Document.Table
import DeviceConfig.Proofs.Json.Parts
import DeviceConfig.Document.Spelled

/-!
What is written and read again. A value is read back as it was, and nothing is written as null, so a field that
is missing is told from every value it could have.
-/

namespace DeviceConfig.Document

/-- Every value of the type is read back from what is written. That is in order and has no null in it. -/
class Faithful (α : Type) [Readable α] [Writable α] : Prop where
  null_free (value : α) : (toJson value).IsNullFree
  in_order (value : α) : (toJson value).IsOrdered
  read_back (value : α) : read? (Node.ofJson (toJson value)) = some value

export Faithful (null_free in_order read_back)

/-! ### Single values -/

theorem Faithful.ofLeaves {α : Type} [Readable α] [Writable α]
    (leaf : ∀ value : α, (∃ flag, toJson value = .bool flag) ∨ (∃ text, toJson value = .string text) ∨
      ∃ number, toJson value = .int number)
    (back : ∀ value : α, read? (Node.ofJson (toJson value)) = some value) : Faithful α := by
  have clean (value : α) : (toJson value).IsNullFree ∧ (toJson value).IsOrdered := by
    rcases leaf value with ⟨flag, same⟩ | ⟨text, same⟩ | ⟨number, same⟩ <;> rw [same]
    · simp [Json.IsNullFree, Json.IsOrdered, Json.Every]
    · exact ⟨Json.isNullFree_string text, Json.isOrdered_string text⟩
    · exact ⟨Json.isNullFree_int number, Json.isOrdered_int number⟩
  exact ⟨fun value => (clean value).1, fun value => (clean value).2, back⟩

instance : Faithful String := .ofLeaves (fun text => .inr (.inl ⟨text, rfl⟩)) fun _ => rfl

instance : Faithful Bool := .ofLeaves (fun flag => .inl ⟨flag, rfl⟩) fun _ => rfl

theorem Faithful.ofInts {α : Type} [Readable α] [Writable α]
    (number : ∀ value : α, ∃ number, toJson value = .int number)
    (back : ∀ value : α, read? (Node.ofJson (toJson value)) = some value) : Faithful α :=
  .ofLeaves (fun value => .inr (.inr (number value))) back

theorem readInt?_int {least greatest value : Int} (low : least ≤ value) (high : value ≤ greatest) :
    readInt? least greatest (Node.ofJson (.int value)) = some value :=
  if_pos ⟨low, high⟩

theorem readInt?_nat {α : Type} (ofNat : Nat → α) {value size : Nat} (bound : value < size) :
    (readInt? 0 (size - 1) (Node.ofJson (.nat value))).map (fun n => ofNat n.toNat) =
      some (ofNat value) := by
  rw [Json.nat, readInt?_int (by omega) (by omega), Option.map_some, Int.toNat_natCast]

instance : Faithful UInt8 := .ofInts (fun _ => ⟨_, rfl⟩) fun value =>
  (readInt?_nat _ value.toNat_lt).trans (congrArg some value.ofNat_toNat)

instance : Faithful UInt16 := .ofInts (fun _ => ⟨_, rfl⟩) fun value =>
  (readInt?_nat _ value.toNat_lt).trans (congrArg some value.ofNat_toNat)

instance : Faithful UInt32 := .ofInts (fun _ => ⟨_, rfl⟩) fun value =>
  (readInt?_nat _ value.toNat_lt).trans (congrArg some value.ofNat_toNat)

instance : Faithful UInt64 := .ofInts (fun _ => ⟨_, rfl⟩) fun value =>
  (readInt?_nat _ value.toNat_lt).trans (congrArg some value.ofNat_toNat)

instance : Faithful Int64 := .ofInts (fun _ => ⟨_, rfl⟩) fun value => by
  simp only [read?, toJson]
  rw [readInt?_int (Int64.minValue_le_toInt value) (Int64.toInt_le value), Option.map_some,
    Int64.ofInt_toInt]

theorem Faithful.ofWords {α : Type} [Spelled α]
    (known : ∀ value : α, Spelled.ofWord? (Spelled.name value) = some value) : Faithful α :=
  .ofLeaves (fun value => .inr (.inl ⟨Spelled.name value, rfl⟩)) known

/-! ### Lists and values that may be missing -/

section
variable {α : Type} [Writable α] {items : List α}

theorem isNullFree_list (free : ∀ item ∈ items, (toJson item).IsNullFree) :
    (toJson items).IsNullFree :=
  Json.isNullFree_array.mpr (List.forall_mem_map.mpr free)

theorem isOrdered_list (ordered : ∀ item ∈ items, (toJson item).IsOrdered) :
    (toJson items).IsOrdered :=
  Json.isOrdered_array.mpr (List.forall_mem_map.mpr ordered)

end

section
variable {α : Type} [Readable α]

theorem map_of_read? {nodes : List Node} {items : List α} (read : read? (.list nodes) = some items) :
    nodes.map read? = items.map some := by
  change nodes.mapM read? = some items at read
  induction nodes generalizing items with
  | nil =>
    cases read
    rfl
  | cons node rest ih =>
    simp only [List.mapM_cons, Option.bind_eq_bind, Option.bind_eq_some_iff, Option.pure_def,
      Option.some.injEq] at read
    obtain ⟨item, first, others, later, rfl⟩ := read
    rw [List.map_cons, List.map_cons, first, ih later]

theorem item_of_read? {node : Node} {items : List α} (read : read? node = some items) {item : α}
    (member : item ∈ items) : ∃ part, read? part = some item := by
  cases node with
  | list nodes =>
    have among : some item ∈ nodes.map read? := by
      rw [map_of_read? read]
      exact List.mem_map_of_mem member
    obtain ⟨part, _, read⟩ := List.mem_map.mp among
    exact ⟨part, read⟩
  | _ => cases read

theorem getElem?_of_read? {nodes : List Node} {items : List α}
    (read : read? (.list nodes) = some items) {place : Nat} {part : Node}
    (stands : nodes[place]? = some part) :
    ∃ item, items[place]? = some item ∧ read? part = some item := by
  have same : (nodes.map read?)[place]? = (items.map some)[place]? := by rw [map_of_read? read]
  rw [List.getElem?_map, List.getElem?_map, stands] at same
  obtain ⟨item, inside, back⟩ := Option.map_eq_some_iff.mp same.symm
  exact ⟨item, inside, back.symm⟩

end

section
variable {α : Type} [Readable α] [Writable α]

theorem read?_list {items : List α}
    (back : ∀ item ∈ items, read? (Node.ofJson (toJson item)) = some item) :
    read? (Node.ofJson (toJson items)) = some items := by
  change (Node.ofItems (items.map toJson)).mapM read? = some items
  induction items with
  | nil => rfl
  | cons item rest ih =>
    obtain ⟨first, others⟩ := List.forall_mem_cons.mp back
    rw [List.map_cons, Node.ofItems, List.mapM_cons, first, ih others]
    rfl

instance [Faithful α] : Faithful (List α) where
  null_free _ := isNullFree_list fun item _ => null_free item
  in_order _ := isOrdered_list fun item _ => in_order item
  read_back _ := read?_list fun item _ => read_back item

/-- What is no null is read where it might be missing as it is elsewhere. -/
theorem read?_some {value : α} (present : toJson value ≠ .null)
    (back : read? (Node.ofJson (toJson value)) = some value) :
    read? (Node.ofJson (toJson value)) = some (some value) := by
  have optional (node : Node) (there : node ≠ .null) :
      (read? node : Option (Option α)) = (read? node).map some := by
    cases node <;> first | rfl | contradiction
  rw [optional, back, Option.map_some]
  cases written : toJson value with
  | null => exact absurd written present
  | number number => cases number <;> simp [Node.ofJson]
  | _ => simp [Node.ofJson]

end

/-! ### Fields -/

/-- What is written of a value of the field, which may be nothing, is read as another value. -/
def FieldRule.ReadsAs {α : Type} (rule : FieldRule α) (value other : α) : Prop :=
  rule.read? ((rule.write? value).map Node.ofJson) = some other

namespace Fields

def ReadsAs {values : Type} : Fields values → values → values → Prop
  | .done, _, _ => True
  | .also rule rest, (value, values), (other, others) =>
    rule.ReadsAs value other ∧ rest.ReadsAs values others

theorem readsAs_optional {α more : Type} [Readable α] [Writable α] [Faithful α] {rest : Fields more}
    {field : FieldName} {given other : more} (value : Option α) (others : rest.ReadsAs given other) :
    (optional field rest).ReadsAs (value, given) (value, other) := by
  cases value with
  | none => exact ⟨rfl, others⟩
  | some value => exact ⟨read?_some (null_free value).ne_null (read_back value), others⟩

/-- The values are read back as they were. -/
def ReadsBack {values : Type} (fields : Fields values) (given : values) : Prop :=
  fields.ReadsAs given given

/-- Fields of faithful types, whichever of them may be missing. -/
inductive OfFaithful : {values : Type} → Fields values → Prop
  | done : OfFaithful .done
  | plain {α more : Type} [Readable α] [Writable α] [Faithful α] {rest : Fields more}
      {field : FieldName} {missing : α} : OfFaithful rest → OfFaithful (plain field missing rest)
  | required {α more : Type} [Readable α] [Writable α] [Faithful α] {rest : Fields more}
      {field : FieldName} : OfFaithful rest → OfFaithful (required field rest : Fields (α × more))
  | optional {α more : Type} [Readable α] [Writable α] [Faithful α] {rest : Fields more}
      {field : FieldName} :
      OfFaithful rest → OfFaithful (optional field rest : Fields (Option α × more))
  | unlessEmpty {α more : Type} [Readable α] [Writable α] [Faithful α] {rest : Fields more}
      {field : FieldName} :
      OfFaithful rest → OfFaithful (unlessEmpty field rest : Fields (List α × more))
  | whenSet {more : Type} {rest : Fields more} {field : FieldName} :
      OfFaithful rest → OfFaithful (whenSet field rest)

theorem OfFaithful.readsBack {values : Type} {fields : Fields values} (faithful : fields.OfFaithful)
    (given : values) : fields.ReadsBack given := by
  induction faithful with
  | done => trivial
  | plain _ ih | required _ ih => exact ⟨read_back given.1, ih given.2⟩
  | optional _ ih => exact readsAs_optional given.1 (ih given.2)
  | unlessEmpty _ ih =>
    obtain ⟨_ | ⟨item, items⟩, others⟩ := given
    · exact ⟨rfl, ih others⟩
    · exact ⟨read_back (item :: items), ih others⟩
  | whenSet _ ih =>
    obtain ⟨_ | _, others⟩ := given
    · exact ⟨rfl, ih others⟩
    · exact ⟨rfl, ih others⟩

/-- What is written of a field is a value of its type as that is written, or the flag that is set. -/
theorem OfFaithful.written {values : Type} {fields : Fields values} (faithful : fields.OfFaithful)
    (given : values) :
    ∀ member ∈ fields.write given, member.2.IsNullFree ∧ member.2.IsOrdered := by
  have clean {α : Type} [Readable α] [Writable α] [Faithful α] (value : α) :
      (toJson value).IsNullFree ∧ (toJson value).IsOrdered := ⟨null_free value, in_order value⟩
  induction faithful with
  | done => exact List.forall_mem_nil _
  | plain _ ih | required _ ih => exact List.forall_mem_cons.mpr ⟨clean given.1, ih given.2⟩
  | optional _ ih =>
    obtain ⟨_ | value, others⟩ := given
    · exact ih others
    · exact List.forall_mem_cons.mpr ⟨clean value, ih others⟩
  | unlessEmpty _ ih =>
    obtain ⟨_ | ⟨item, items⟩, others⟩ := given
    · exact ih others
    · exact List.forall_mem_cons.mpr ⟨clean (item :: items), ih others⟩
  | whenSet _ ih =>
    obtain ⟨_ | _, others⟩ := given
    · exact ih others
    · exact List.forall_mem_cons.mpr ⟨clean true, ih others⟩

/-! ### Names of fields -/

section
variable {values : Type} {fields : Fields values}

/-- The fields have names of their own, and no field is read under the name of another. -/
def WellNamed (fields : Fields values) : Prop :=
  (fields.names.map (·.name)).Nodup ∧ OwnNames fields.names (fields.names.map (·.name))

instance : Decidable fields.WellNamed :=
  inferInstanceAs (Decidable (_ ∧ ∀ name ∈ _, _ = _))

theorem read?_also {α more : Type} {rule : FieldRule α} {rest : Fields more} {found : Given}
    {value : α} {values : more} : (Fields.also rule rest).read? found = some (value, values) ↔
      rule.read? (found.lookup rule.field.name) = some value ∧ rest.read? found = some values := by
  simp [Fields.read?, Option.bind_eq_some_iff]

theorem names_write (given : values) :
    ((fields.write given).map (·.1)).Sublist (fields.names.map (·.name)) := by
  induction fields with
  | done => exact List.Sublist.slnil
  | also rule rest ih =>
    obtain ⟨value, others⟩ := given
    rw [Fields.write, List.map_append]
    cases rule.write? value with
    | none => exact (ih others).cons _
    | some written => exact (ih others).cons_cons _

/-- A field is read wherever its value is found. -/
theorem read?_of_found {given other : values} {found : Given} (reads : fields.ReadsAs given other)
    (distinct : (fields.names.map (·.name)).Nodup)
    (same : ∀ name ∈ fields.names.map (·.name),
      found.lookup name = ((fields.write given).lookup name).map Node.ofJson) :
    fields.read? found = some other := by
  induction fields with
  | done => rfl
  | also rule rest ih =>
    obtain ⟨value, others⟩ := given
    obtain ⟨read, besides⟩ := other
    obtain ⟨absent, distinct⟩ := List.nodup_cons.mp distinct
    obtain ⟨first, same⟩ := List.forall_mem_cons.mp same
    have here : (Fields.write (.also rule rest) (value, others)).lookup rule.field.name =
        rule.write? value := by
      have behind : (rest.write others).lookup rule.field.name = none :=
        NameMap.lookup_of_not_mem fun again => absent ((names_write others).mem again)
      rw [Fields.write]
      cases rule.write? value with
      | none => exact behind
      | some written => exact List.lookup_cons_self
    have later (name : String) (listed : name ∈ rest.names.map (·.name)) :
        (Fields.write (.also rule rest) (value, others)).lookup name =
          (rest.write others).lookup name := by
      have different : name ≠ rule.field.name := by
        rintro rfl
        exact absent listed
      rw [Fields.write]
      cases rule.write? value with
      | none => rfl
      | some written => exact (NameMap.lookup_cons ..).trans (if_neg different)
    have head : rule.read? (found.lookup rule.field.name) = some read := by
      rw [first, here]
      exact reads.1
    have tail : rest.read? found = some besides :=
      ih reads.2 distinct fun name listed => by rw [same name listed, later name listed]
    exact read?_also.mpr ⟨head, tail⟩

end

end Fields

/-! ### Records -/

namespace Recorded

variable {α : Type} [Recorded α]

section
variable {record : α} {others : Values α} (named : (fields : Fields (Values α)).WellNamed)
  (reads : fields.ReadsAs (toValues record) others)
include named reads

/-- The members of a record may stand in any order. -/
theorem read?_object {written : List (String × Json)} (unique : (written.map (·.1)).Nodup)
    (within : ∀ name ∈ written.map (·.1), name ∈ (members record).map (·.1))
    (same : ∀ name, written.lookup name = (members record).lookup name) :
    read? (Node.ofJson (.object written)) = some (ofValues others : α) := by
  have sublist : ((members record).map (·.1)).Sublist
      ((fields : Fields (Values α)).names.map (·.name)) := Fields.names_write (toValues record)
  have sorted : sortGiven? (fields : Fields (Values α)).names (Node.ofMembers written) =
      some (Node.ofMembers written, []) := by
    apply sortGiven?_own
    · rwa [Node.names_ofMembers]
    · rw [Node.names_ofMembers]
      exact fun name listed => named.2 _ (sublist.mem (within name listed))
  have found : (fields : Fields (Values α)).read? (Node.ofMembers written) = some others := by
    refine Fields.read?_of_found reads named.1 fun name _ => ?_
    rw [Node.lookup_ofMembers, same]
    rfl
  have given : (Node.ofJson (.object written)).given? (fields : Fields (Values α)).names =
      some (Node.ofMembers written) := by
    simp [Node.ofJson, Node.given?, Node.members?, sorted]
  simp only [read?, given, Option.bind_eq_bind, Option.bind_some, found, Option.pure_def]

/-- A record is read from its members in the order of its fields, and in the order of their names. -/
theorem read?_members :
    read? (Node.ofJson (.object (members record))) = some (ofValues others : α) ∧
    read? (Node.ofJson (toJson record)) = some (ofValues others : α) := by
  have sublist : ((members record).map (·.1)).Sublist
      ((fields : Fields (Values α)).names.map (·.name)) := Fields.names_write (toValues record)
  have unique : ((members record).map (·.1)).Nodup := sublist.nodup named.1
  refine ⟨read?_object named reads unique (fun _ => id) fun _ => rfl,
    read?_object named reads (NameMap.sorted_ofList _).distinct ?_ fun name => ?_⟩
  · intro name listed
    obtain ⟨member, inside, rfl⟩ := List.mem_map.mp listed
    exact List.mem_map_of_mem (NameMap.mem_ofList inside)
  · rw [NameMap.lookup_ofList, NameMap.lookup_reverse unique]

end

theorem faithful (all : (fields : Fields (Values α)).OfFaithful)
    (named : (fields : Fields (Values α)).WellNamed)
    (inverse : ∀ record : α, ofValues (toValues record) = record) : Faithful α where
  null_free _ := Json.isNullFree_ofMembers fun member inside => (all.written _ member inside).1
  in_order _ := Json.isOrdered_ofMembers fun member inside => (all.written _ member inside).2
  read_back record := by
    rw [(read?_members named (all.readsBack (toValues record))).2, inverse]

end Recorded

end DeviceConfig.Document
