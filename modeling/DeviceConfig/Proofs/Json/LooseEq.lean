import DeviceConfig.Json.LooseEq
import DeviceConfig.Proofs.Decimal.Binary64
import DeviceConfig.Proofs.Json.Parts

/-!
Loose equality. Integers of at most 53 bits are doubles and so are compared as they stand. Two values are equal
just when they have the same normal form, so among values without ambiguous objects loose equality is an
equivalence.
-/

namespace DeviceConfig.Json

open Decimal

mutual

/-- Every number as the double it is read as, with a single zero, and the members of every object in the order of
their names. -/
def normal : Json → Json
  | .number value => .number (.float value.toBinary64.withOneZero)
  | .array items => .array (normalItems items)
  | .object members => ofMembers (normalMembers members)
  | value => value

def normalItems : List Json → List Json
  | [] => []
  | item :: rest => normal item :: normalItems rest

def normalMembers : List (String × Json) → List (String × Json)
  | [] => []
  | (name, value) :: rest => (name, normal value) :: normalMembers rest

end

theorem normalItems_eq_map (items : List Json) : normalItems items = items.map normal := by
  induction items with
  | nil => rfl
  | cons item rest ih => rw [normalItems, ih, List.map_cons]

theorem normalMembers_eq_map (members : List (String × Json)) :
    normalMembers members = members.map fun member => (member.1, member.2.normal) := by
  induction members with
  | nil => rfl
  | cons member rest ih => rw [normalMembers, ih, List.map_cons]

theorem names_normalMembers (members : List (String × Json)) :
    (normalMembers members).map (·.1) = members.map (·.1) := by
  rw [normalMembers_eq_map, List.map_map]
  rfl

theorem lookup_normalMembers (members : List (String × Json)) (name : String) :
    (normalMembers members).lookup name = (members.lookup name).map normal := by
  rw [normalMembers_eq_map, NameMap.lookup_map]

/-- The order of members makes no difference to a normal form, and nothing else about them is left out. -/
theorem normal_object_iff_perm {members others : List (String × Json)}
    (first : (members.map (·.1)).Nodup) (second : (others.map (·.1)).Nodup) :
    (Json.object members).normal = (Json.object others).normal ↔
      (normalMembers members).Perm (normalMembers others) := by
  rw [normal, normal, ofMembers, ofMembers, object.injEq]
  refine NameMap.ofList_eq_iff_perm ?_ ?_
  · rwa [names_normalMembers]
  · rwa [names_normalMembers]

mutual

theorem looseEq_iff_normal (left right : Json) (first : left.IsUnambiguous)
    (second : right.IsUnambiguous) : looseEq left right = true ↔ left.normal = right.normal := by
  cases left with
  | array items =>
    cases right with
    | array others =>
      rw [looseEq, normal, normal, array.injEq]
      exact looseEqItems_iff_normal items others (isUnambiguous_array.mp first)
        (isUnambiguous_array.mp second)
    | _ => simp [looseEq, normal, ofMembers]
  | object members =>
    cases right with
    | object others =>
      obtain ⟨uniqueLeft, insideLeft⟩ := isUnambiguous_object.mp first
      obtain ⟨uniqueRight, insideRight⟩ := isUnambiguous_object.mp second
      -- Only the members on the left are looked up; that there are as many on the right does the rest.
      rw [normal_object_iff_perm uniqueLeft uniqueRight,
        NameMap.perm_iff_lookup (by rwa [names_normalMembers]) (by rwa [names_normalMembers]),
        looseEq, Bool.and_eq_true, looseEqMembers_iff_normal members others insideLeft insideRight,
        beq_iff_eq, normalMembers_eq_map, normalMembers_eq_map, List.length_map, List.length_map]
    | _ => simp [looseEq, normal, ofMembers]
  | number number =>
    cases right with
    | number other => simp [looseEq, normal, Binary64.withOneZero_inj]
    | _ => simp [looseEq, normal, ofMembers]
  | _ => cases right <;> simp [looseEq, normal, ofMembers]

theorem looseEqItems_iff_normal (items others : List Json)
    (first : ∀ item ∈ items, item.IsUnambiguous) (second : ∀ item ∈ others, item.IsUnambiguous) :
    looseEqItems items others = true ↔ normalItems items = normalItems others := by
  cases items with
  | nil => cases others <;> simp [looseEqItems, normalItems]
  | cons item rest =>
    cases others with
    | nil => simp [looseEqItems, normalItems]
    | cons other more =>
      obtain ⟨here, later⟩ := List.forall_mem_cons.mp first
      obtain ⟨there, behind⟩ := List.forall_mem_cons.mp second
      rw [looseEqItems, Bool.and_eq_true, looseEq_iff_normal item other here there,
        looseEqItems_iff_normal rest more later behind, normalItems, normalItems, List.cons.injEq]

/-- Members that are looked up among others. -/
theorem looseEqMembers_iff_normal (members others : List (String × Json))
    (first : ∀ member ∈ members, member.2.IsUnambiguous)
    (second : ∀ member ∈ others, member.2.IsUnambiguous) :
    looseEqMembers members others = true ↔ ∀ member ∈ normalMembers members,
      (normalMembers others).lookup member.1 = some member.2 := by
  cases members with
  | nil => simp [looseEqMembers, normalMembers]
  | cons member rest =>
    obtain ⟨name, value⟩ := member
    obtain ⟨here, later⟩ := List.forall_mem_cons.mp first
    rw [looseEqMembers, Bool.and_eq_true, looseEqMembers_iff_normal rest others later second,
      normalMembers, List.forall_mem_cons, lookup_normalMembers]
    refine and_congr_left fun _ => ?_
    cases found : others.lookup name with
    | none => simp
    | some other =>
      obtain ⟨_, _, rfl, _⟩ := List.lookup_eq_some_iff.mp found
      have there : other.IsUnambiguous := second (name, other) (by simp)
      rw [Option.map_some, Option.some.injEq, looseEq_iff_normal value other here there, eq_comm]

end

/-- Values in which no object has two members of one name. -/
abbrev Unambiguous := { value : Json // value.IsUnambiguous }

theorem Unambiguous.looseEq_iff (left right : Unambiguous) :
    left.1.looseEq right.1 = true ↔ left.1.normal = right.1.normal :=
  looseEq_iff_normal left.1 right.1 left.2 right.2

theorem looseEq_self (value : Json) (ordered : value.IsOrdered) : looseEq value value = true :=
  (looseEq_iff_normal value value ordered.isUnambiguous ordered.isUnambiguous).mpr rfl

end DeviceConfig.Json
