import DeviceConfig.Path.Resolve

/-!
What a path leads to, taken in two parts. The second part goes on from what the first leads to, except behind a
step to all items, where nothing is looked at any more. The name `length` stands for a number only where the path
ends and no member has that name.
-/

namespace DeviceConfig

namespace Json

/-- The number of items, characters or members, for a value that has any of these. -/
def size? : Json → Option Nat
  | .array items => some items.length
  | .string text => some text.length
  | .object members => some members.length
  | _ => none

end Json

namespace Path

/-- A number has no parts. -/
theorem resolve_nat (count : Nat) (steps : List Step) :
    resolve (.nat count) steps = if steps = [] then some (.nat count) else none := by
  cases steps with
  | nil => rfl
  | cons step rest =>
    rw [if_neg (List.cons_ne_nil _ _)]
    cases step <;> rfl

/-- A number of parts is there at the end of a path only, and nothing is found beyond it. -/
theorem counted_append (name : String) (count : Nat) (rest steps : List Step) :
    (if name = "length" ∧ rest ++ steps = [] then some (Json.nat count) else none) =
      (if name = "length" ∧ rest = [] then some (Json.nat count) else none).bind
        (resolve · steps) := by
  by_cases ends : name = "length" ∧ rest = []
  · obtain ⟨rfl, rfl⟩ := ends
    simp only [List.nil_append, true_and, if_true, Option.bind_some, resolve_nat]
  · have goesOn : ¬(name = "length" ∧ rest ++ steps = []) := fun ⟨named, ended⟩ =>
      ends ⟨named, (List.append_eq_nil_iff.mp ended).1⟩
    rw [if_neg ends, if_neg goesOn, Option.bind_none]

theorem resolve_append {front : List Step} (single : .all ∉ front) (value : Json) (steps : List Step) :
    resolve value (front ++ steps) = (resolve value front).bind (resolve · steps) := by
  induction front generalizing value with
  | nil => rfl
  | cons step rest ih =>
    obtain ⟨different, later⟩ := not_or.mp (mt List.mem_cons.mpr single)
    rw [List.cons_append]
    cases step with
    | field name =>
      cases value with
      | object members =>
        rw [resolve, resolve]
        cases members.lookup name with
        | some child => exact ih later child
        | none => exact counted_append name _ rest steps
      | array items | string text =>
        rw [resolve, resolve]
        exact counted_append name _ rest steps
      | _ => rfl
    | index position =>
      cases value with
      | array items =>
        rw [resolve, resolve]
        cases items[position]? with
        | some item => exact ih later item
        | none => rfl
      | _ => rfl
    | all => exact absurd rfl different

theorem resolve_item {front : List Step} (single : .all ∉ front) {value : Json} {items : List Json}
    (found : resolve value front = some (.array items)) (position : Nat) :
    resolve value (front ++ [.index position]) = items[position]? := by
  rw [resolve_append single, found, Option.bind_some, resolve]
  cases items[position]? <;> rfl

/-- The walk ends at a step to all items. -/
theorem resolve_all (value : Json) (steps : List Step) :
    resolve value (.all :: steps) = resolve value [.all] := by
  cases value <;> rfl

theorem resolve_append_of_all {front : List Step} (several : .all ∈ front) (value : Json)
    (steps : List Step) : resolve value (front ++ steps) = resolve value front := by
  obtain ⟨before, behind, rfl, single⟩ := List.eq_append_cons_of_mem several
  rw [List.append_assoc, List.cons_append, resolve_append single, resolve_append single]
  simp only [resolve_all _ (behind ++ steps), resolve_all _ behind]

/-- A member of that name comes first. Otherwise there is a number, where the path ends. -/
theorem resolve_length (value : Json) (steps : List Step) :
    resolve value (.field "length" :: steps) =
      match value.member? "length" with
      | some own => resolve own steps
      | none => if steps = [] then value.size?.map .nat else none := by
  cases value with
  | object members =>
    rw [resolve, Json.member?, Json.size?]
    cases members.lookup "length" <;> simp
  | array items | string text => simp [resolve, Json.member?, Json.size?]
  | _ => simp [resolve, Json.member?, Json.size?]

/-- What stands behind a path goes on from what the path leads to, unless a step to all items has ended the walk
before. Behind a path, `length` is a member of that name, and only where there is none and the walk is over
the number of items, characters or members. -/
theorem resolve_composes (root : Json) (front steps : List Step) :
    (.all ∉ front →
      resolve root (front ++ steps) = (resolve root front).bind (resolve · steps)) ∧
    (.all ∈ front → resolve root (front ++ steps) = resolve root front) ∧
    ∀ value, .all ∉ front → resolve root front = some value →
      resolve root (front ++ .field "length" :: steps) =
        match value.member? "length" with
        | some own => resolve own steps
        | none => if steps = [] then value.size?.map .nat else none := by
  refine ⟨fun single => resolve_append single root steps,
    fun several => resolve_append_of_all several root steps, fun value single found => ?_⟩
  rw [resolve_append single, found, Option.bind_some, resolve_length]

/-- Lengths that are counted and one that is a member. -/
theorem resolve_composes_lengths :
    let cables : Json := .object [("length", .array [.int 30, .int 5])]
    let ports : Json := .array [.string "Gi0/1", cables]
    let root : Json := .object [("ports", ports)]
    let cabled : List Step := [.field "ports", .index 1]
    .all ∉ cabled ∧ resolve root cabled = some cables ∧
      resolve root (cabled ++ [.field "length", .index 1]) = some (.int 5) ∧
      resolve root (cabled ++ [.field "length"]) = some (.array [.int 30, .int 5]) ∧
      .all ∉ [Step.field "ports"] ∧ resolve root [.field "ports"] = some ports ∧
      resolve root ([.field "ports"] ++ [.field "length"]) = some (.nat 2) ∧
      resolve root ([.field "ports"] ++ [.field "length", .field "length"]) = none ∧
      .all ∈ [Step.field "ports", .all, .field "length"] ∧
      resolve root ([.field "ports", .all, .field "length"] ++ [.index 9]) = some ports := by
  intro cables ports root cabled
  have single : .all ∉ cabled := by decide
  have found : resolve root cabled = some cables := by decide
  have outer : .all ∉ [Step.field "ports"] := by decide
  have listed : resolve root [.field "ports"] = some ports := by decide
  have several : .all ∈ [Step.field "ports", .all, .field "length"] := by decide
  refine ⟨single, found, ?_, ?_, outer, listed, ?_, ?_, several, ?_⟩
  · rw [(resolve_composes root cabled [.field "length", .index 1]).1 single, found]
    decide
  · rw [(resolve_composes root cabled []).2.2 cables single found]
    decide
  · rw [(resolve_composes root [.field "ports"] []).2.2 ports outer listed]
    decide
  · rw [(resolve_composes root [.field "ports"] [.field "length"]).2.2 ports outer listed]
    decide
  · rw [(resolve_composes root [.field "ports", .all, .field "length"] [.index 9]).2.1 several]
    decide

end Path

end DeviceConfig
