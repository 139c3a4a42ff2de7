import DeviceConfig.Document.Load
import DeviceConfig.Document.Record
import DeviceConfig.Proofs.NameMap

/-!
Tables whose members stand under the names of fields, each at most once. A record is read from just these
members, and what is left out counts as missing.
-/

namespace DeviceConfig.Document

/-! ### Members that may be left out -/

/-- The members that are there. -/
def present (members : List (String × Option Node)) : List (String × Node) :=
  members.filterMap fun (name, node) => node.map (name, ·)

theorem present_cons (name : String) (node : Option Node) (members : List (String × Option Node)) :
    present ((name, node) :: members) = (node.map (name, ·)).toList ++ present members := by
  cases node <;> simp [present]

theorem names_present (members : List (String × Option Node)) :
    ((present members).map (·.1)).Sublist (members.map (·.1)) := by
  induction members with
  | nil => exact List.Sublist.slnil
  | cons member members ih =>
    obtain ⟨name, node⟩ := member
    rw [present_cons]
    cases node with
    | none => exact ih.cons name
    | some node => exact ih.cons_cons name

theorem lookup_present {members : List (String × Option Node)}
    (distinct : (members.map (·.1)).Nodup) (name : String) :
    (present members).lookup name = (members.lookup name).join := by
  induction members with
  | nil => rfl
  | cons member members ih =>
    obtain ⟨first, node⟩ := member
    rw [List.map_cons, List.nodup_cons] at distinct
    rw [present_cons]
    by_cases same : name = first
    · subst same
      have once : (present members).lookup name = none :=
        NameMap.lookup_of_not_mem fun again => distinct.1 ((names_present members).mem again)
      cases node <;> simp [once]
    · have other : (name == first) = false := by simpa using same
      cases node <;> simp [other, ih distinct.2, List.lookup_cons]

/-! ### Reading -/

/-- Every name is the one its field is known by, not another spelling. -/
def OwnNames (fields : List FieldName) (names : List String) : Prop :=
  ∀ name ∈ names, (fields.find? (·.accepts name)).map (·.name) = some name

theorem sortGiven?_own {fields : List FieldName} {members : List (String × Node)}
    (distinct : (members.map (·.1)).Nodup) (own : OwnNames fields (members.map (·.1))) :
    sortGiven? fields members = some (members, []) := by
  induction members with
  | nil => rfl
  | cons member members ih =>
    obtain ⟨name, node⟩ := member
    rw [List.map_cons, List.nodup_cons] at distinct
    rw [OwnNames, List.map_cons, List.forall_mem_cons] at own
    obtain ⟨field, found, rfl⟩ := Option.map_eq_some_iff.mp own.1
    simp [sortGiven?, ih distinct.2 own.2, found, NameMap.lookup_of_not_mem distinct.1]

/-- A table as the documents of a format have it. -/
def Format.table : Format → List (String × Node) → Node
  | .toml, [] => .emptyTable
  | _, members => .table members

theorem members?_table (format : Format) (members : List (String × Node)) :
    (format.table members).members? = some members := by
  cases format <;> cases members <;> rfl

/-- A table is not null, so where a value is optional it is one. -/
theorem read?_optional_table {α : Type} [Readable α] (format : Format)
    (members : List (String × Node)) :
    (read? (format.table members) : Option (Option α)) =
      (read? (format.table members)).map some := by
  cases format <;> cases members <;> rfl

section
variable {members : List (String × Option Node)} (distinct : (members.map (·.1)).Nodup)
include distinct

theorem given?_table {fields : List FieldName} (own : OwnNames fields (members.map (·.1)))
    (format : Format) :
    (format.table (present members)).given? fields = some (present members) := by
  have sublist := names_present members
  have sorted : sortGiven? fields (present members) = some (present members, []) :=
    sortGiven?_own (sublist.nodup distinct) fun name there => own name (sublist.mem there)
  have read := members?_table format (present members)
  unfold Node.given?
  split
  · next list =>
    rw [list] at read
    cases read
  · simp [read, sorted]

theorem read?_table {α : Type} [Recorded α]
    (own : OwnNames (Recorded.fields : Fields (Recorded.Values α)).names (members.map (·.1)))
    (format : Format) :
    (read? (format.table (present members)) : Option α) =
      ((Recorded.fields : Fields (Recorded.Values α)).read? (present members)).map
        Recorded.ofValues := by
  simp only [read?, given?_table distinct own format, Option.bind_eq_bind, Option.bind_some,
    Option.pure_def, Option.map_eq_bind]
  rfl

end

end DeviceConfig.Document
