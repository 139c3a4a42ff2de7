import DeviceConfig.Document.Node
import DeviceConfig.Path.Resolve
import DeviceConfig.Proofs.NameMap

/-!
What holds of a value and of all its parts: that no null is among them, and that the members of every object are
in order. Values in order are read back from documents as they are.
-/

namespace DeviceConfig

open Document

namespace Json

mutual

/-- Holds of the value and of all that is inside it. -/
def Every (holds : Json → Prop) : Json → Prop
  | .array items => holds (.array items) ∧ EveryItem holds items
  | .object members => holds (.object members) ∧ EveryMember holds members
  | value => holds value

def EveryItem (holds : Json → Prop) : List Json → Prop
  | [] => True
  | item :: rest => Every holds item ∧ EveryItem holds rest

def EveryMember (holds : Json → Prop) : List (String × Json) → Prop
  | [] => True
  | (_, value) :: rest => Every holds value ∧ EveryMember holds rest

end

section
variable {holds : Json → Prop}

theorem everyItem_iff {items : List Json} :
    EveryItem holds items ↔ ∀ item ∈ items, item.Every holds := by
  induction items with
  | nil => simp [EveryItem]
  | cons item rest ih => rw [EveryItem, ih, List.forall_mem_cons]

theorem everyMember_iff {members : List (String × Json)} :
    EveryMember holds members ↔ ∀ member ∈ members, member.2.Every holds := by
  induction members with
  | nil => simp [EveryMember]
  | cons member rest ih => rw [EveryMember, ih, List.forall_mem_cons]

theorem every_array {items : List Json} :
    (Json.array items).Every holds ↔ holds (.array items) ∧ ∀ item ∈ items, item.Every holds := by
  rw [Every, everyItem_iff]

theorem every_object {members : List (String × Json)} :
    (Json.object members).Every holds ↔
      holds (.object members) ∧ ∀ member ∈ members, member.2.Every holds := by
  rw [Every, everyMember_iff]

mutual

theorem Every.mono {other : Json → Prop} (implies : ∀ part, holds part → other part) {value : Json}
    (every : value.Every holds) : value.Every other := by
  cases value with
  | array items => exact ⟨implies _ every.1, EveryItem.mono implies every.2⟩
  | object members => exact ⟨implies _ every.1, EveryMember.mono implies every.2⟩
  | _ => exact implies _ every

theorem EveryItem.mono {other : Json → Prop} (implies : ∀ part, holds part → other part)
    {items : List Json} (every : EveryItem holds items) : EveryItem other items := by
  cases items with
  | nil => trivial
  | cons item rest => exact ⟨Every.mono implies every.1, EveryItem.mono implies every.2⟩

theorem EveryMember.mono {other : Json → Prop} (implies : ∀ part, holds part → other part)
    {members : List (String × Json)} (every : EveryMember holds members) :
    EveryMember other members := by
  cases members with
  | nil => trivial
  | cons member rest => exact ⟨Every.mono implies every.1, EveryMember.mono implies every.2⟩

end

end

/-! ### No null -/

/-- Neither the value nor anything inside it is null. -/
def IsNullFree (value : Json) : Prop := value.Every (· ≠ .null)

theorem IsNullFree.ne_null {value : Json} (free : value.IsNullFree) : value ≠ .null := by
  rintro rfl
  simp [IsNullFree, Every] at free

theorem isNullFree_string (text : String) : (Json.string text).IsNullFree := by
  simp [IsNullFree, Every]

theorem isNullFree_int (number : Int) : (Json.int number).IsNullFree := by
  simp [IsNullFree, Every, int]

theorem isNullFree_array {items : List Json} :
    (Json.array items).IsNullFree ↔ ∀ item ∈ items, item.IsNullFree := by
  simp [IsNullFree, every_array]

theorem isNullFree_object {members : List (String × Json)} :
    (Json.object members).IsNullFree ↔ ∀ member ∈ members, member.2.IsNullFree := by
  simp [IsNullFree, every_object]

theorem isNullFree_ofMembers {members : List (String × Json)}
    (free : ∀ member ∈ members, member.2.IsNullFree) : (ofMembers members).IsNullFree :=
  isNullFree_object.mpr fun member inside => free member (NameMap.mem_ofList inside)

end Json

/-- A path leads to parts and to numbers of parts. -/
theorem Path.resolve_every {holds : Json → Prop} (counted : ∀ count : Nat, holds (.nat count))
    {steps : List Path.Step} {value found : Json} (whole : value.Every holds)
    (resolved : Path.resolve value steps = some found) : found.Every holds := by
  have number (count : Nat) : (Json.nat count).Every holds := counted count
  induction steps generalizing value with
  | nil =>
    obtain rfl : value = found := by simpa [Path.resolve] using resolved
    exact whole
  | cons step rest ih =>
    cases step with
    | field name =>
      cases value with
      | object members =>
        rw [Path.resolve] at resolved
        split at resolved
        · next child inside =>
          obtain ⟨before, after, rfl, _⟩ := List.lookup_eq_some_iff.mp inside
          exact ih ((Json.every_object.mp whole).2 (name, child) (by simp)) resolved
        · obtain ⟨_, same⟩ := Option.ite_none_right_eq_some.mp resolved
          exact Option.some.inj same ▸ number _
      | array items | string text =>
        obtain ⟨_, same⟩ := Option.ite_none_right_eq_some.mp resolved
        exact Option.some.inj same ▸ number _
      | _ => cases resolved
    | index position =>
      cases value with
      | array items =>
        rw [Path.resolve] at resolved
        split at resolved
        · next item inside =>
          exact ih ((Json.every_array.mp whole).2 item (List.mem_of_getElem? inside)) resolved
        · contradiction
      | _ => cases resolved
    | all =>
      cases value with
      | array items => exact Option.some.inj resolved ▸ whole
      | _ => cases resolved

theorem Path.resolve_isNullFree {steps : List Path.Step} {value found : Json}
    (free : value.IsNullFree) (resolved : Path.resolve value steps = some found) :
    found.IsNullFree :=
  Path.resolve_every (fun count same => by cases same) free resolved

namespace Json

/-! ### Order -/

/-- The members of every object are in order. -/
def IsOrdered (value : Json) : Prop :=
  value.Every fun part => ∀ members, part = .object members → NameMap.Sorted members

theorem isOrdered_null : Json.null.IsOrdered := by
  simp [IsOrdered, Every]

theorem isOrdered_string (text : String) : (Json.string text).IsOrdered := by
  simp [IsOrdered, Every]

theorem isOrdered_int (number : Int) : (Json.int number).IsOrdered := by
  simp [IsOrdered, Every, int]

theorem isOrdered_array {items : List Json} :
    (Json.array items).IsOrdered ↔ ∀ item ∈ items, item.IsOrdered := by
  simp [IsOrdered, every_array]

theorem isOrdered_object {members : List (String × Json)} :
    (Json.object members).IsOrdered ↔
      NameMap.Sorted members ∧ ∀ member ∈ members, member.2.IsOrdered := by
  simp [IsOrdered, every_object]

/-- No object has two members of one name. -/
def IsUnambiguous (value : Json) : Prop :=
  value.Every fun part => ∀ members, part = .object members → (members.map (·.1)).Nodup

theorem isUnambiguous_null : Json.null.IsUnambiguous := by
  simp [IsUnambiguous, Every]

theorem isUnambiguous_number (value : Number) : (Json.number value).IsUnambiguous := by
  simp [IsUnambiguous, Every]

theorem isUnambiguous_array {items : List Json} :
    (Json.array items).IsUnambiguous ↔ ∀ item ∈ items, item.IsUnambiguous := by
  simp [IsUnambiguous, every_array]

theorem isUnambiguous_object {members : List (String × Json)} :
    (Json.object members).IsUnambiguous ↔
      (members.map (·.1)).Nodup ∧ ∀ member ∈ members, member.2.IsUnambiguous := by
  simp [IsUnambiguous, every_object]

theorem IsOrdered.isUnambiguous {value : Json} (ordered : value.IsOrdered) : value.IsUnambiguous :=
  Every.mono (fun _ sorted members object => (sorted members object).distinct) ordered

theorem isOrdered_ofMembers {members : List (String × Json)}
    (ordered : ∀ member ∈ members, member.2.IsOrdered) : (ofMembers members).IsOrdered :=
  isOrdered_object.mpr
    ⟨NameMap.sorted_ofList members, fun member inside => ordered member (NameMap.mem_ofList inside)⟩

end Json

theorem Path.resolve_isOrdered {steps : List Path.Step} {value found : Json}
    (ordered : value.IsOrdered) (resolved : Path.resolve value steps = some found) :
    found.IsOrdered :=
  Path.resolve_every (fun count members same => by cases same) ordered resolved

namespace Document.Node

/-! ### Values as documents -/

theorem ofMembers_eq_map (members : List (String × Json)) :
    ofMembers members = members.map fun member => (member.1, ofJson member.2) := by
  induction members with
  | nil => rfl
  | cons member rest ih => rw [ofMembers, ih, List.map_cons]

theorem ofItems_eq_map (items : List Json) : ofItems items = items.map ofJson := by
  induction items with
  | nil => rfl
  | cons item rest ih => rw [ofItems, ih, List.map_cons]

theorem filter_ofMembers (known : String → Bool) (members : List (String × Json)) :
    (ofMembers members).filter (known ·.1) =
      ofMembers (members.filter (known ·.1)) := by
  rw [ofMembers_eq_map, ofMembers_eq_map, List.filter_map]
  rfl

theorem names_ofMembers (members : List (String × Json)) :
    (ofMembers members).map (·.1) = members.map (·.1) := by
  rw [ofMembers_eq_map, List.map_map]
  rfl

theorem lookup_ofMembers (members : List (String × Json)) (name : String) :
    (ofMembers members).lookup name = (members.lookup name).map ofJson := by
  rw [ofMembers_eq_map, NameMap.lookup_map]

mutual

theorem toJson?_ofJson (value : Json) (ordered : value.IsOrdered) :
    (ofJson value).toJson? = some value := by
  cases value with
  | number number => cases number <;> rfl
  | array items =>
    rw [ofJson, toJson?, itemsToJson?_ofItems items (Json.isOrdered_array.mp ordered)]
    rfl
  | object members =>
    obtain ⟨sorted, inside⟩ := Json.isOrdered_object.mp ordered
    rw [ofJson, toJson?, membersToJson?_ofMembers members inside, Option.map_some, Json.ofMembers,
      NameMap.ofList_of_sorted sorted]
  | _ => rfl

theorem itemsToJson?_ofItems (items : List Json) (ordered : ∀ item ∈ items, item.IsOrdered) :
    itemsToJson? (ofItems items) = some items := by
  cases items with
  | nil => rfl
  | cons item rest =>
    obtain ⟨first, others⟩ := List.forall_mem_cons.mp ordered
    rw [ofItems, itemsToJson?, toJson?_ofJson item first, itemsToJson?_ofItems rest others]
    rfl

theorem membersToJson?_ofMembers (members : List (String × Json))
    (ordered : ∀ member ∈ members, member.2.IsOrdered) :
    membersToJson? (ofMembers members) = some members := by
  cases members with
  | nil => rfl
  | cons member rest =>
    obtain ⟨name, value⟩ := member
    obtain ⟨first, others⟩ := List.forall_mem_cons.mp ordered
    rw [ofMembers, membersToJson?, toJson?_ofJson value first, membersToJson?_ofMembers rest others]
    rfl

end

mutual

/-- A free value is always in order, whatever the document is like. -/
theorem isOrdered_of_toJson? (node : Node) {value : Json} (read : node.toJson? = some value) :
    value.IsOrdered := by
  cases node with
  | list items =>
    obtain ⟨values, all, rfl⟩ := Option.map_eq_some_iff.mp read
    exact Json.isOrdered_array.mpr (isOrdered_of_itemsToJson? items all)
  | table members =>
    obtain ⟨values, all, rfl⟩ := Option.map_eq_some_iff.mp read
    exact Json.isOrdered_ofMembers (isOrdered_of_membersToJson? members all)
  | emptyTable =>
    cases read
    exact Json.isOrdered_object.mpr ⟨List.Pairwise.nil, List.forall_mem_nil _⟩
  | unreadable | broken => cases read
  | _ =>
    cases read
    intro members object
    cases object

theorem isOrdered_of_itemsToJson? (items : List Node) {values : List Json}
    (read : itemsToJson? items = some values) : ∀ value ∈ values, value.IsOrdered := by
  cases items with
  | nil =>
    cases read
    simp
  | cons item rest =>
    simp only [itemsToJson?, Option.bind_eq_bind, Option.bind_eq_some_iff, Option.pure_def,
      Option.some.injEq] at read
    obtain ⟨value, first, others, later, rfl⟩ := read
    exact List.forall_mem_cons.mpr
      ⟨isOrdered_of_toJson? item first, isOrdered_of_itemsToJson? rest later⟩

theorem isOrdered_of_membersToJson? (members : List (String × Node))
    {values : List (String × Json)} (read : membersToJson? members = some values) :
    ∀ member ∈ values, member.2.IsOrdered := by
  cases members with
  | nil =>
    cases read
    simp
  | cons member rest =>
    obtain ⟨name, node⟩ := member
    simp only [membersToJson?, Option.bind_eq_bind, Option.bind_eq_some_iff, Option.pure_def,
      Option.some.injEq] at read
    obtain ⟨value, first, others, later, rfl⟩ := read
    exact List.forall_mem_cons.mpr
      ⟨isOrdered_of_toJson? node first, isOrdered_of_membersToJson? rest later⟩

end

end Document.Node

end DeviceConfig
