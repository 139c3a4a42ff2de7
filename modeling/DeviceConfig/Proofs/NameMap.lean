import DeviceConfig.NameMap
import Mathlib.Data.List.Nodup
import Mathlib.Data.List.Perm.Subperm

/-!
Looking up names in entries that are kept in order. An insertion changes what is found under one name only, and
of several entries with one name the last is found.
-/

namespace DeviceConfig.NameMap

variable {α : Type}

theorem lookup_cons (name first : String) (value : α) (rest : List (String × α)) :
    ((first, value) :: rest).lookup name = if name = first then some value else rest.lookup name := by
  by_cases same : name = first
  · rw [if_pos same, same, List.lookup_cons_self]
  · rw [if_neg same, List.lookup_cons, beq_false_of_ne same]

theorem lookup_map {β : Type} (f : α → β) (name : String) (entries : List (String × α)) :
    (entries.map fun entry => (entry.1, f entry.2)).lookup name = (entries.lookup name).map f := by
  induction entries with
  | nil => rfl
  | cons entry rest ih =>
    obtain ⟨first, value⟩ := entry
    rw [List.map_cons, lookup_cons, lookup_cons, ih]
    split <;> rfl

theorem lookup_insert (name other : String) (value : α) (entries : List (String × α)) :
    (insert name value entries).lookup other =
      if other = name then some value else entries.lookup other := by
  induction entries with
  | nil => rw [insert, lookup_cons]
  | cons entry rest ih =>
    obtain ⟨first, old⟩ := entry
    rw [insert]
    split
    · rw [lookup_cons]
    · split
      · next equal =>
        subst equal
        simp only [lookup_cons]
        split <;> rfl
      · next different =>
        simp only [lookup_cons, ih]
        by_cases head : other = first
        · subst head
          rw [if_pos rfl, if_pos rfl, if_neg (Ne.symm different)]
        · rw [if_neg head, if_neg head]

theorem lookup_foldl (name : String) (entries sorted : List (String × α)) :
    (entries.foldl (fun sorted entry => insert entry.1 entry.2 sorted) sorted).lookup name =
      (entries.reverse.lookup name).or (sorted.lookup name) := by
  induction entries generalizing sorted with
  | nil => simp
  | cons entry rest ih =>
    obtain ⟨first, value⟩ := entry
    rw [List.foldl_cons, ih, lookup_insert, List.reverse_cons, List.lookup_append, Option.or_assoc,
      lookup_cons]
    congr 1
    split <;> rfl

/-- The last entry of a name counts. -/
theorem lookup_ofList (name : String) (entries : List (String × α)) :
    (ofList entries).lookup name = entries.reverse.lookup name := by
  rw [ofList, lookup_foldl, List.lookup_nil, Option.or_none]

theorem lookup_of_not_mem {name : String} {entries : List (String × α)}
    (absent : name ∉ entries.map (·.1)) : entries.lookup name = none := by
  rw [List.lookup_eq_none_iff]
  intro entry member
  have different : name ≠ entry.1 := fun same => absent (same ▸ List.mem_map_of_mem member)
  simpa using different

theorem lookup_of_mem {name : String} {value : α} {entries : List (String × α)}
    (unique : (entries.map (·.1)).Nodup) (member : (name, value) ∈ entries) :
    entries.lookup name = some value := by
  induction entries with
  | nil => contradiction
  | cons entry rest ih =>
    obtain ⟨first, old⟩ := entry
    obtain ⟨absent, unique⟩ := List.nodup_cons.mp unique
    rw [lookup_cons]
    rcases List.mem_cons.mp member with head | later
    · obtain ⟨rfl, rfl⟩ := Prod.mk.inj head
      exact if_pos rfl
    · have different : name ≠ first := by
        rintro rfl
        exact absent (List.mem_map.mpr ⟨_, later, rfl⟩)
      rw [if_neg different, ih unique later]

theorem mem_insert {name : String} {value : α} {entry : String × α} {entries : List (String × α)}
    (member : entry ∈ insert name value entries) : entry = (name, value) ∨ entry ∈ entries := by
  induction entries with
  | nil => exact Or.inl (List.mem_singleton.mp member)
  | cons first rest ih =>
    obtain ⟨other, old⟩ := first
    rw [insert] at member
    split at member
    · exact List.mem_cons.mp member
    · split at member
      · rcases List.mem_cons.mp member with new | kept
        · exact Or.inl new
        · exact Or.inr (List.mem_cons_of_mem _ kept)
      · rcases List.mem_cons.mp member with head | later
        · exact Or.inr (List.mem_cons.mpr (Or.inl head))
        · exact (ih later).imp_right (List.mem_cons_of_mem _)

theorem mem_foldl {entry : String × α} {entries sorted : List (String × α)}
    (member : entry ∈ entries.foldl (fun sorted entry => insert entry.1 entry.2 sorted) sorted) :
    entry ∈ entries ∨ entry ∈ sorted := by
  induction entries generalizing sorted with
  | nil => exact Or.inr member
  | cons first rest ih =>
    rcases ih member with later | inserted
    · exact Or.inl (List.mem_cons_of_mem _ later)
    · rcases mem_insert inserted with rfl | earlier
      · exact Or.inl List.mem_cons_self
      · exact Or.inr earlier

/-- No entry is made up. -/
theorem mem_ofList {entry : String × α} {entries : List (String × α)}
    (member : entry ∈ ofList entries) : entry ∈ entries := by
  rcases mem_foldl member with given | none
  · exact given
  · contradiction

/-! ### Order -/

/-- The names are in order, each once. -/
def Sorted (entries : List (String × α)) : Prop := entries.Pairwise (·.1 < ·.1)

instance (entries : List (String × α)) : Decidable (Sorted entries) :=
  inferInstanceAs (Decidable (entries.Pairwise _))

theorem Sorted.distinct {entries : List (String × α)} (sorted : Sorted entries) :
    (entries.map (·.1)).Nodup := by
  rw [List.Nodup, List.pairwise_map]
  refine sorted.imp fun before same => ?_
  exact String.lt_irrefl _ (same ▸ before)

theorem sorted_insert {entries : List (String × α)} (sorted : Sorted entries) (name : String)
    (value : α) : Sorted (insert name value entries) := by
  induction entries with
  | nil => exact List.pairwise_singleton _ _
  | cons entry rest ih =>
    obtain ⟨first, old⟩ := entry
    obtain ⟨least, sortedRest⟩ := List.pairwise_cons.mp sorted
    rw [insert]
    split
    · next before =>
      refine List.pairwise_cons.mpr ⟨?_, sorted⟩
      rw [List.forall_mem_cons]
      exact ⟨before, fun entry member => String.lt_trans before (least entry member)⟩
    · next unbefore =>
      split
      · next same =>
        subst same
        exact List.pairwise_cons.mpr ⟨least, sortedRest⟩
      · next different =>
        refine List.pairwise_cons.mpr ⟨fun entry member => ?_, ih sortedRest⟩
        rcases mem_insert member with rfl | kept
        · exact Std.lt_of_le_of_ne (String.not_lt.mp unbefore) (Ne.symm different)
        · exact least entry kept

theorem sorted_foldl (entries : List (String × α)) {sorted : List (String × α)}
    (start : Sorted sorted) :
    Sorted (entries.foldl (fun sorted entry => insert entry.1 entry.2 sorted) sorted) := by
  induction entries generalizing sorted with
  | nil => exact start
  | cons entry rest ih => exact ih (sorted_insert start entry.1 entry.2)

theorem sorted_ofList (entries : List (String × α)) : Sorted (ofList entries) :=
  sorted_foldl entries List.Pairwise.nil

theorem mem_iff_lookup {entries : List (String × α)} (unique : (entries.map (·.1)).Nodup)
    {name : String} {value : α} : (name, value) ∈ entries ↔ entries.lookup name = some value := by
  constructor
  · exact lookup_of_mem unique
  · intro found
    obtain ⟨before, after, rfl, _⟩ := List.lookup_eq_some_iff.mp found
    simp

theorem lookup_reverse {entries : List (String × α)} (unique : (entries.map (·.1)).Nodup)
    (name : String) : entries.reverse.lookup name = entries.lookup name := by
  have reversed : (entries.reverse.map (·.1)).Nodup := by
    rwa [List.map_reverse, List.nodup_reverse]
  refine Option.ext fun value => ?_
  rw [← mem_iff_lookup reversed, ← mem_iff_lookup unique, List.mem_reverse]

theorem eq_of_lookup {left right : List (String × α)} (first : Sorted left) (second : Sorted right)
    (same : ∀ name, left.lookup name = right.lookup name) : left = right := by
  have alike (entry : String × α) : entry ∈ left ↔ entry ∈ right := by
    rw [mem_iff_lookup first.distinct, same, mem_iff_lookup second.distinct]
  have perm : left.Perm right :=
    (List.perm_ext_iff_of_nodup (List.Nodup.of_map _ first.distinct)
      (List.Nodup.of_map _ second.distinct)).mpr alike
  refine perm.eq_of_pairwise (fun _ _ _ _ before after => ?_) first second
  exact absurd after (String.lt_asymm before)

theorem lookup_filter (known : String → Bool) (name : String) (entries : List (String × α)) :
    (entries.filter fun entry => known entry.1).lookup name =
      if known name then entries.lookup name else none := by
  induction entries with
  | nil => simp
  | cons entry rest ih =>
    obtain ⟨first, value⟩ := entry
    rw [List.filter_cons, lookup_cons]
    by_cases same : name = first
    · subst same
      split
      · rw [lookup_cons, if_pos rfl, if_pos rfl]
      · next unknown => rw [ih, if_neg unknown]
    · rw [if_neg same]
      split
      · rw [lookup_cons, if_neg same, ih]
      · exact ih

theorem ofList_of_sorted {entries : List (String × α)} (sorted : Sorted entries) :
    ofList entries = entries := by
  refine eq_of_lookup (sorted_ofList entries) sorted fun name => ?_
  rw [lookup_ofList, lookup_reverse sorted.distinct]

/-! ### Entries in any order -/

theorem perm_ofList {entries : List (String × α)} (unique : (entries.map (·.1)).Nodup) :
    (ofList entries).Perm entries := by
  have sorted := (sorted_ofList entries).distinct
  refine (List.perm_ext_iff_of_nodup (sorted.of_map _) (unique.of_map _)).mpr fun entry => ?_
  rw [mem_iff_lookup sorted, mem_iff_lookup unique, lookup_ofList, lookup_reverse unique]

section
variable {left right : List (String × α)}
  (uniqueLeft : (left.map (·.1)).Nodup) (uniqueRight : (right.map (·.1)).Nodup)
include uniqueLeft uniqueRight

/-- Where there are equally many entries, it is enough to look for those of one side on the other. -/
theorem perm_iff_lookup : left.Perm right ↔
    left.length = right.length ∧ ∀ entry ∈ left, right.lookup entry.1 = some entry.2 := by
  constructor
  · intro perm
    exact ⟨perm.length_eq, fun entry member => lookup_of_mem uniqueRight (perm.mem_iff.mp member)⟩
  · rintro ⟨length, found⟩
    have contained : left ⊆ right := fun entry member =>
      (mem_iff_lookup uniqueRight).mpr (found entry member)
    have partly := List.subperm_of_subset (uniqueLeft.of_map _) contained
    exact partly.perm_of_length_le (Nat.le_of_eq length.symm)

/-- Order is all that is lost when entries are put in order. -/
theorem ofList_eq_iff_perm : ofList left = ofList right ↔ left.Perm right := by
  constructor
  · intro same
    exact (perm_ofList uniqueLeft).symm.trans (same ▸ perm_ofList uniqueRight)
  · intro perm
    refine eq_of_lookup (sorted_ofList left) (sorted_ofList right) fun name => ?_
    rw [lookup_ofList, lookup_ofList, lookup_reverse uniqueLeft, lookup_reverse uniqueRight]
    refine Option.ext fun value => ?_
    rw [← mem_iff_lookup uniqueLeft, ← mem_iff_lookup uniqueRight, perm.mem_iff]

end

end DeviceConfig.NameMap
