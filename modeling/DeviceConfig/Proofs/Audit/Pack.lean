import DeviceConfig.Audit.Pack
import DeviceConfig.Proofs.Except
import Mathlib.Data.List.Forall2
import Mathlib.Data.List.Nodup

/-!
How packs of rules are read and made ready. A pack is what its document says, and it is refused if it has no id or if
the ids of its rules repeat.
-/

namespace DeviceConfig.Audit

open Document Text

/-! ### Repeated ids -/

/-- The id stands before, and all ids before it are different. -/
def IsFirstRepeat (id : String) (ids : List String) : Prop :=
  ∃ before after, ids = before ++ id :: after ∧ before.Nodup ∧ id ∈ before

theorem firstRepeated?_behind {seen ids : List String} {id : String} :
    firstRepeated? seen ids = some id ↔ ∃ before after, ids = before ++ id :: after ∧
      before.Nodup ∧ (∀ other ∈ before, other ∉ seen) ∧ (id ∈ before ∨ id ∈ seen) := by
  induction ids generalizing seen with
  | nil => simp [firstRepeated?]
  | cons first ids ih =>
    rw [firstRepeated?]
    -- The search ends at the first id or goes on with it among those seen.
    by_cases repeated : first ∈ seen
    · rw [if_pos (List.contains_iff_mem.mpr repeated), Option.some.injEq]
      constructor
      · rintro rfl
        exact ⟨[], ids, rfl, List.nodup_nil, by simp, .inr repeated⟩
      · rintro ⟨before, after, whole, _, fresh, _⟩
        cases before with
        | nil => exact (List.cons.inj whole).1
        | cons head before =>
          obtain ⟨rfl, _⟩ := List.cons.inj whole
          exact absurd repeated (fresh _ List.mem_cons_self)
    · rw [if_neg (by simpa using repeated), ih]
      constructor
      · rintro ⟨before, after, rfl, distinct, fresh, twice⟩
        have other : first ∉ before := fun member => fresh first member List.mem_cons_self
        refine ⟨first :: before, after, rfl, List.nodup_cons.mpr ⟨other, distinct⟩, ?_, ?_⟩
        · exact List.forall_mem_cons.mpr ⟨repeated, fun id member seen =>
            fresh id member (List.mem_cons_of_mem _ seen)⟩
        · simp only [List.mem_cons] at twice ⊢
          tauto
      · rintro ⟨before, after, whole, distinct, fresh, twice⟩
        cases before with
        | nil =>
          obtain ⟨rfl, _⟩ := List.cons.inj whole
          exact absurd (twice.resolve_left (by simp)) repeated
        | cons head before =>
          obtain ⟨rfl, rfl⟩ := List.cons.inj whole
          obtain ⟨other, distinct⟩ := List.nodup_cons.mp distinct
          refine ⟨before, after, rfl, distinct, fun id member => ?_, ?_⟩
          · have unseen := fresh id (List.mem_cons_of_mem _ member)
            rw [List.mem_cons, not_or]
            exact ⟨fun same => other (same ▸ member), unseen⟩
          · simp only [List.mem_cons] at twice ⊢
            tauto

theorem firstRepeated?_eq_some_iff {ids : List String} {id : String} :
    firstRepeated? [] ids = some id ↔ IsFirstRepeat id ids := by
  rw [firstRepeated?_behind, IsFirstRepeat]
  simp

theorem firstRepeated?_eq_none_iff {seen ids : List String} :
    firstRepeated? seen ids = none ↔ ids.Nodup ∧ ∀ id ∈ ids, id ∉ seen := by
  induction ids generalizing seen with
  | nil => simp [firstRepeated?]
  | cons first ids ih =>
    rw [firstRepeated?, List.nodup_cons, List.forall_mem_cons]
    by_cases repeated : first ∈ seen
    · simp [repeated]
    · rw [if_neg (by simpa using repeated), ih]
      simp only [List.mem_cons, not_or]
      constructor
      · rintro ⟨distinct, fresh⟩
        exact ⟨⟨fun member => (fresh first member).1 rfl, distinct⟩, repeated,
          fun id member => (fresh id member).2⟩
      · rintro ⟨⟨other, distinct⟩, _, fresh⟩
        exact ⟨distinct, fun id member => ⟨fun same => other (same ▸ member), fresh id member⟩⟩

/-- Ids are different unless there is a first that stands twice. -/
theorem not_nodup_iff {ids : List String} : ¬ids.Nodup ↔ ∃ id, IsFirstRepeat id ids := by
  have distinct : firstRepeated? [] ids = none ↔ ids.Nodup := by simp [firstRepeated?_eq_none_iff]
  rw [← distinct, ← Ne, Option.ne_none_iff_exists']
  simp only [firstRepeated?_eq_some_iff]

/-! ### Getting ready for use -/

namespace Pack

/-- The pack with what it left open. -/
def filled (pack : Pack) : Pack :=
  { pack with
    name := if isBlankText pack.name then pack.id else pack.name
    rules := pack.rules.map (scopeRule pack.vendorScope) }

variable {pack ready : Pack} {source : String}

theorem finish_cases (pack : Pack) (source : String) :
    (isBlankText pack.id = true ∧ pack.finish source = .error (.emptyId source)) ∨
    isBlankText pack.id = false ∧
      ((∃ id, IsFirstRepeat id (pack.rules.map (·.id)) ∧
          pack.finish source = .error (.duplicateRule source id)) ∨
        (pack.rules.map (·.id)).Nodup ∧ pack.finish source = .ok pack.filled) := by
  unfold finish
  cases blank : isBlankText pack.id with
  | true => exact .inl ⟨rfl, rfl⟩
  | false =>
    refine .inr ⟨rfl, ?_⟩
    cases repeated : firstRepeated? [] (pack.rules.map (·.id)) with
    | some id => exact .inl ⟨id, firstRepeated?_eq_some_iff.mp repeated, rfl⟩
    | none => exact .inr ⟨(firstRepeated?_eq_none_iff.mp repeated).1, rfl⟩

theorem finish_eq_ok_iff : pack.finish source = .ok ready ↔
    isBlankText pack.id = false ∧ (pack.rules.map (·.id)).Nodup ∧ ready = pack.filled := by
  rcases finish_cases pack source with ⟨blank, made⟩ | ⟨named, ⟨id, repeated, made⟩ | ⟨distinct, made⟩⟩
  · simp [made, blank]
  · have twice := not_nodup_iff.mpr ⟨id, repeated⟩
    simp [made, twice]
  · simp [made, named, distinct, eq_comm]

theorem finish_eq_duplicateRule_iff {label id : String} :
    pack.finish source = .error (.duplicateRule label id) ↔
      isBlankText pack.id = false ∧ label = source ∧ IsFirstRepeat id (pack.rules.map (·.id)) := by
  rcases finish_cases pack source with ⟨blank, made⟩ | ⟨named, ⟨first, repeated, made⟩ | ⟨distinct, made⟩⟩
  · simp [made, blank]
  · -- There is only one such id, the one that the search comes to.
    rw [← firstRepeated?_eq_some_iff] at repeated ⊢
    simp [made, named, repeated, eq_comm]
  · have once : ¬IsFirstRepeat id (pack.rules.map (·.id)) :=
      fun repeated => not_nodup_iff.mpr ⟨id, repeated⟩ distinct
    simp [made, once]

theorem id_scopeRule (scope : List Vendor) (rule : Rule) : (scopeRule scope rule).id = rule.id := by
  unfold scopeRule
  split <;> rfl

theorem scopeRule_scopeRule (scope : List Vendor) (rule : Rule) :
    scopeRule scope (scopeRule scope rule) = scopeRule scope rule := by
  by_cases own : rule.vendorScope.isEmpty
  · simp [scopeRule, own]
  · simp [scopeRule, own]

theorem ids_filled (pack : Pack) : pack.filled.rules.map (·.id) = pack.rules.map (·.id) := by
  rw [filled, List.map_map]
  exact List.map_congr_left fun rule _ => id_scopeRule _ rule

theorem name_filled (named : isBlankText pack.id = false) : isBlankText pack.filled.name = false := by
  cases blank : isBlankText pack.name <;> simp [filled, blank, named]

theorem filled_filled (named : isBlankText pack.id = false) : pack.filled.filled = pack.filled := by
  have name := name_filled named
  have rules : pack.filled.rules.map (scopeRule pack.vendorScope) = pack.filled.rules := by
    rw [filled, List.map_map]
    exact List.map_congr_left fun rule _ => scopeRule_scopeRule _ rule
  change { pack.filled with
    name := if isBlankText pack.filled.name then pack.filled.id else pack.filled.name
    rules := pack.filled.rules.map (scopeRule pack.vendorScope) } = pack.filled
  rw [name, rules]
  rfl

/-- A pack that is ready stays as it is. -/
theorem finish_finished (finished : pack.finish source = .ok ready) (other : String) :
    ready.finish other = .ok ready := by
  obtain ⟨named, distinct, rfl⟩ := finish_eq_ok_iff.mp finished
  exact finish_eq_ok_iff.mpr ⟨named, ids_filled pack ▸ distinct, (filled_filled named).symm⟩

end Pack

/-! ### Reading -/

/-- A value that is there when a node is, read from it. -/
inductive Given {α : Type} (read : Node → Except DocumentError α) : Option Node → Option α → Prop
  | absent : Given read none none
  | present {node : Node} {value : α} (found : read node = .ok value) :
    Given read (some node) (some value)

theorem read?_of_typed {α : Type} [Readable α] {node : Node} {value : α}
    (found : PackDraft.typed node = .ok value) : read? node = some value := by
  rw [PackDraft.typed, readOrFail] at found
  cases given : (read? node : Option α) with
  | none =>
    rw [given] at found
    cases found
  | some other =>
    rw [given] at found
    exact congrArg some (Except.ok.inj found)

/-- A field that is not there has its default. -/
theorem Given.read?_getD {α : Type} [Readable α] {found : Option Node} {value : Option α}
    (given : Given PackDraft.typed found value) (missing : α) :
    found.elim (some missing) read? = some (value.getD missing) := by
  cases given with
  | absent => rfl
  | present found => exact read?_of_typed found

namespace PackDraft

section
variable {α : Type} {read : Node → Except DocumentError α} {members : List (String × Node)}
  {key name : String} {node : Node} {earlier next : Option α}

theorem given_own (given : Given read (members.lookup key) earlier)
    (taken : once earlier (read node) = .ok next) :
    Given read ((members ++ [(key, node)]).lookup key) next := by
  rw [List.lookup_append, List.lookup_cons_self]
  generalize members.lookup key = found at given
  cases given with
  | absent =>
    obtain ⟨value, found, rfl⟩ := map_eq_ok.mp taken
    exact .present found
  | present => cases taken

theorem given_other (different : key ≠ name) (given : Given read (members.lookup key) earlier) :
    Given read ((members ++ [(name, node)]).lookup key) earlier := by
  have unseen : [(name, node)].lookup key = none := by
    rw [List.lookup_cons, beq_eq_false_iff_ne.mpr different, List.lookup_nil]
  rwa [List.lookup_append, unseen, Option.or_none]

end

/-- What has been taken in is what the members say, each field once. -/
structure Took (members : List (String × Node)) (draft : PackDraft) : Prop where
  id : Given typed (members.lookup "id") draft.id
  name : Given typed (members.lookup "name") draft.name
  version : Given typed (members.lookup "version") draft.version
  description : Given typed (members.lookup "description") draft.description
  vendorScope : Given typed (members.lookup "vendorScope") draft.vendorScope
  rules : Given readRules (members.lookup "rules") draft.rules

theorem took_nil : Took [] {} := ⟨.absent, .absent, .absent, .absent, .absent, .absent⟩

theorem Took.add {members : List (String × Node)} {member : String × Node}
    {draft next : PackDraft} (took : Took members draft) (added : draft.add member = .ok next) :
    Took (members ++ [member]) next := by
  obtain ⟨id, name, version, description, vendorScope, rules⟩ := took
  unfold PackDraft.add at added
  split at added
  -- A member of another name sets nothing, each of the six sets its own field and keeps the others.
  case h_7 key node notId notName notVersion notDescription notScope notRules =>
    split at added
    · obtain rfl := Except.ok.inj added
      exact ⟨given_other (Ne.symm notId) id, given_other (Ne.symm notName) name,
        given_other (Ne.symm notVersion) version, given_other (Ne.symm notDescription) description,
        given_other (Ne.symm notScope) vendorScope, given_other (Ne.symm notRules) rules⟩
    · cases added
  all_goals
    obtain ⟨value, taken, made⟩ := bind_eq_ok.mp added
    obtain rfl := Except.ok.inj made
    constructor
    all_goals first
      | exact given_own ‹_› taken
      | exact given_other (by decide) ‹_›

theorem Took.foldlM {front members : List (String × Node)} {draft final : PackDraft}
    (took : Took front draft) (added : members.foldlM PackDraft.add draft = .ok final) :
    Took (front ++ members) final := by
  induction members generalizing front draft with
  | nil =>
    obtain rfl := Except.ok.inj added
    rwa [List.append_nil]
  | cons member members ih =>
    rw [List.foldlM_cons] at added
    obtain ⟨next, first, rest⟩ := bind_eq_ok.mp added
    have whole := ih (took.add first) rest
    rwa [List.append_assoc] at whole

end PackDraft

namespace Pack

/-- The members of a document of a pack, which may be a list of them in order. -/
def membersOf : Node → List (String × Node)
  | .list items => fieldNames.zip items
  | node => node.members?.getD []

theorem draft_of_read {node : Node} {pack : Pack} (found : Pack.read node = .ok pack) :
    ∃ draft, (membersOf node).foldlM PackDraft.add {} = .ok draft ∧ draft.toPack = .ok pack := by
  unfold Pack.read at found
  cases node with
  | list items =>
    obtain ⟨members, given, found⟩ := bind_eq_ok.mp found
    obtain rfl := Except.ok.inj given
    obtain ⟨draft, added, found⟩ := bind_eq_ok.mp found
    have short : (if fieldNames.length < items.length then .error .malformed else draft.toPack) =
        .ok pack := found
    split at short
    · cases short
    · exact ⟨draft, added, short⟩
  | table members =>
    obtain ⟨members, given, found⟩ := bind_eq_ok.mp found
    obtain rfl := Except.ok.inj given
    exact bind_eq_ok.mp found
  | emptyTable =>
    obtain ⟨members, given, found⟩ := bind_eq_ok.mp found
    obtain rfl := Except.ok.inj given
    exact bind_eq_ok.mp found
  | _ => cases found

/-- The documents of the rules of a pack, which are a list if there are any. -/
def rulesOf? (node : Node) : Option (List Node) :=
  match (membersOf node).lookup "rules" with
  | none => some []
  | some (.list items) => some items
  | some _ => none

/-- The vendors that a pack is for, as far as its document says. -/
def scopeOf? (node : Node) : Option (List Vendor) :=
  ((membersOf node).lookup "vendorScope").elim (some []) read?

/-- What a pack is that has been read: what its document says, with nothing left out. -/
structure ReadFrom (node : Node) (pack : Pack) : Prop where
  id : ((membersOf node).lookup "id").bind read? = some pack.id
  name : ((membersOf node).lookup "name").elim (some "") read? = some pack.name
  version : ((membersOf node).lookup "version").elim (some "") read? = some pack.version
  description : ((membersOf node).lookup "description").elim (some none) read? =
    some pack.description
  vendorScope : scopeOf? node = some pack.vendorScope
  rules : ∃ parts, rulesOf? node = some parts ∧
    List.Forall₂ (fun part rule => readRule part = .ok rule) parts pack.rules

theorem readFrom_of_read {node : Node} {pack : Pack} (found : Pack.read node = .ok pack) :
    pack.ReadFrom node := by
  obtain ⟨draft, added, made⟩ := draft_of_read found
  have took := PackDraft.took_nil.foldlM added
  rw [List.nil_append] at took
  unfold PackDraft.toPack at made
  split at made
  case h_2 => cases made
  next id named =>
  obtain rfl := Except.ok.inj made
  refine ⟨?_, took.name.read?_getD "", took.version.read?_getD "", took.description.read?_getD none,
    took.vendorScope.read?_getD [], ?_⟩
  · have given := took.id
    rw [named] at given
    generalize (membersOf node).lookup "id" = found at given
    cases given with
    | present found => exact read?_of_typed found
  · have given := took.rules
    rw [rulesOf?]
    generalize (membersOf node).lookup "rules" = found at given
    generalize draft.rules = rules at given
    cases given with
    | absent => exact ⟨[], rfl, .nil⟩
    | @present part rules found =>
      cases part with
      | list items => exact ⟨items, rfl, mapM_eq_ok.mp found⟩
      | _ => cases found

end Pack

end DeviceConfig.Audit
