import DeviceConfig.Audit.RuleDocument
import DeviceConfig.Proofs.Document.Table
import DeviceConfig.Proofs.Text.Split

/-!
What the documents of rules come to. The current and the legacy form of the same parts give the same rule, or are
refused for the same cause. A document with both a path and a predicate is refused unless it names a kind of
check that takes no notice of the path.
-/

namespace DeviceConfig.Audit

open Document Text

/-! ### One rule in two forms -/

/-- What a document says about a rule, as far as it says anything. -/
structure RuleMembers where
  id : Option Node := none
  title : Option Node := none
  description : Option Node := none
  severity : Option Node := none
  vendorScope : Option Node := none
  enabled : Option Node := none
  kind : Option Node := none
  path : Option Node := none
  operator : Option Node := none
  value : Option Node := none
  predicate : Option Node := none
  remediation : Option Node := none
  waivable : Option Node := none

/-- The values of these members. -/
structure RuleParts where
  id : String
  title : Option String
  description : Option String
  severity : Option Severity
  vendorScope : List Vendor
  enabled : Option Bool
  kind : Option String
  path : Option String
  operator : Option String
  value : Option Json
  predicate : Option String
  remediation : Option String
  waivable : Option Bool

namespace RuleMembers

variable (members : RuleMembers)

/-- The values, if every member that is there has one of its type. -/
def parts? : Option RuleParts := do
  return {
    id := ← members.id.elim (some "") read?
    title := ← members.title.elim (some none) read?
    description := ← members.description.elim (some none) read?
    severity := ← members.severity.elim (some none) read?
    vendorScope := ← members.vendorScope.elim (some []) read?
    enabled := ← members.enabled.elim (some none) read?
    kind := ← members.kind.elim (some none) read?
    path := ← members.path.elim (some none) read?
    operator := ← members.operator.elim (some none) read?
    value := ← members.value.elim (some none) read?
    predicate := ← members.predicate.elim (some none) read?
    remediation := ← members.remediation.elim (some none) read?
    waivable := ← members.waivable.elim (some none) read? }

def condition (format : Format) : Node :=
  format.table (present [("operator", members.operator), ("value", members.value)])

def currentMembers (format : Format) : List (String × Option Node) :=
  [("id", members.id), ("title", members.title), ("description", members.description),
    ("severity", members.severity), ("vendorScope", members.vendorScope),
    ("enabled", members.enabled), ("type", members.kind), ("path", members.path),
    ("condition", members.condition format), ("predicateName", members.predicate),
    ("remediation", members.remediation), ("waivable", members.waivable)]

/-- The check at the top level. -/
def current (format : Format) : Node := format.table (present (members.currentMembers format))

def check (format : Format) : Node :=
  format.table (present [("type", members.kind), ("path", members.path),
    ("operator", members.operator), ("value", members.value), ("predicate", members.predicate)])

def legacyMembers (format : Format) : List (String × Option Node) :=
  [("id", members.id), ("name", members.title), ("description", members.description),
    ("severity", members.severity), ("vendorScope", members.vendorScope),
    ("enabled", members.enabled), ("match", members.check format),
    ("remediation", members.remediation), ("waivable", members.waivable)]

/-- The check in a part of its own. -/
def legacy (format : Format) : Node := format.table (present (members.legacyMembers format))

end RuleMembers

namespace RuleParts

variable (parts : RuleParts)

def current : RuleDocument :=
  { parts with
    name := none
    condition := some { parts with }
    legacy := none }

def legacy : RuleDocument :=
  { parts with
    title := none
    name := parts.title
    kind := none
    path := none
    condition := none
    predicate := none
    legacy := some { parts with } }

theorem request_legacy : parts.legacy.request = parts.current.request := by
  simp [RuleDocument.request, legacy, current, nonBlank?]

/-- Both forms come to the same, in the rule and in the cause for which there is none. -/
theorem toRule_legacy : parts.legacy.toRule = parts.current.toRule := by
  have title : (nonBlank? parts.legacy.title <|> nonBlank? parts.legacy.name) =
      (nonBlank? parts.current.title <|> nonBlank? parts.current.name) := by
    simp [legacy, current, nonBlank?]
  rw [RuleDocument.toRule, request_legacy, title]
  rfl

end RuleParts

section
variable (members : RuleMembers) (format : Format)

theorem some_bind {α β : Type} (a : α) (f : α → Option β) : (some a >>= f) = f a := rfl

theorem read?_condition :
    (read? (members.condition format) : Option ConditionDocument) = do
      let operator ← members.operator.elim (some none) read?
      let value ← members.value.elim (some none) read?
      return { operator, value } := by
  have distinct : ([("operator", members.operator), ("value", members.value)].map (·.1)).Nodup := by
    simp
  have own : OwnNames (Recorded.fields : Fields (Recorded.Values ConditionDocument)).names
      ([("operator", members.operator), ("value", members.value)].map (·.1)) := by
    simp [OwnNames, Recorded.fields, Fields.names, Fields.optional, FieldName.accepts]
  rw [RuleMembers.condition, read?_table distinct own]
  simp only [Recorded.fields, Fields.read?, Fields.optional, lookup_present distinct]
  simp only [List.lookup_cons_self, List.lookup_cons, String.reduceBEq, Option.join_some,
    ← Option.map_eq_map, map_eq_pure_bind, bind_assoc, pure_bind, some_bind]
  rfl

theorem read?_check :
    (read? (members.check format) : Option LegacyDocument) = do
      let kind ← members.kind.elim (some none) read?
      let path ← members.path.elim (some none) read?
      let operator ← members.operator.elim (some none) read?
      let value ← members.value.elim (some none) read?
      let predicate ← members.predicate.elim (some none) read?
      return { kind, path, operator, value, predicate } := by
  have distinct : ([("type", members.kind), ("path", members.path), ("operator", members.operator),
      ("value", members.value), ("predicate", members.predicate)].map (·.1)).Nodup := by
    simp
  rw [RuleMembers.check, read?_table distinct
    (by simp [OwnNames, Recorded.fields, Fields.names, Fields.optional, FieldName.accepts])]
  simp only [Recorded.fields, Fields.read?, Fields.optional, lookup_present distinct]
  simp only [List.lookup_cons_self, List.lookup_cons, String.reduceBEq, Option.join_some,
    ← Option.map_eq_map, map_eq_pure_bind, bind_assoc, pure_bind, some_bind]
  rfl

theorem read?_current :
    (read? (members.current format) : Option RuleDocument) =
      members.parts?.map RuleParts.current := by
  have distinct : ((members.currentMembers format).map (·.1)).Nodup := by
    simp [RuleMembers.currentMembers]
  have own : OwnNames (Recorded.fields : Fields (Recorded.Values RuleDocument)).names
      ((members.currentMembers format).map (·.1)) := by
    simp [RuleMembers.currentMembers, OwnNames, Recorded.fields, Fields.names, Fields.optional,
      Fields.plain, FieldName.accepts]
  rw [RuleMembers.current, read?_table distinct own]
  simp only [Recorded.fields, Fields.read?, Fields.optional, Fields.plain, lookup_present distinct]
  have condition : (read? (members.condition format) : Option (Option ConditionDocument)) = _ :=
    (read?_optional_table format _).trans (congrArg _ (read?_condition members format))
  -- Both sides read the same parts in the same order, so the laws of binding bring them to one form.
  simp only [RuleMembers.currentMembers, List.lookup_cons_self, List.lookup_cons, List.lookup_nil,
    String.reduceBEq, Option.join_some, Option.join_none, Option.elim_none, Option.elim_some, condition]
  simp only [RuleMembers.parts?, ← Option.map_eq_map, map_eq_pure_bind, bind_assoc, pure_bind,
    some_bind]
  rfl

theorem read?_legacy :
    (read? (members.legacy format) : Option RuleDocument) =
      members.parts?.map RuleParts.legacy := by
  have distinct : ((members.legacyMembers format).map (·.1)).Nodup := by
    simp [RuleMembers.legacyMembers]
  have own : OwnNames (Recorded.fields : Fields (Recorded.Values RuleDocument)).names
      ((members.legacyMembers format).map (·.1)) := by
    simp [RuleMembers.legacyMembers, OwnNames, Recorded.fields, Fields.names, Fields.optional,
      Fields.plain, FieldName.accepts]
  rw [RuleMembers.legacy, read?_table distinct own]
  simp only [Recorded.fields, Fields.read?, Fields.optional, Fields.plain, lookup_present distinct]
  have check : (read? (members.check format) : Option (Option LegacyDocument)) = _ :=
    (read?_optional_table format _).trans (congrArg _ (read?_check members format))
  simp only [RuleMembers.legacyMembers, List.lookup_cons_self, List.lookup_cons, List.lookup_nil,
    String.reduceBEq, Option.join_some, Option.join_none, Option.elim_none, Option.elim_some, check]
  simp only [RuleMembers.parts?, ← Option.map_eq_map, map_eq_pure_bind, bind_assoc, pure_bind,
    some_bind]
  rfl

/-- The two forms of a rule mean the same, whatever is in them and whatever is left out. Neither is malformed
unless some part has a value of another type. -/
theorem readRule_legacy_eq_current :
    readRule (members.legacy format) = readRule (members.current format) ∧
      (readRule (members.current format) = .error .malformed ↔ members.parts? = none) := by
  rw [readRule, readRule, read?_legacy, read?_current]
  cases members.parts? with
  | none => simp
  | some parts =>
    simp only [Option.map_some, RuleParts.toRule_legacy, reduceCtorEq, iff_false, true_and]
    cases parts.current.toRule <;> simp [Except.mapError]

end

/-! ### Rules with two checks -/

/-- Of two places for a text one that is not blank is enough. -/
theorem exists_nonBlank? {own other : Option String} {text : String}
    (solid : isBlankText text = false) (given : own = some text ∨ other = some text) :
    ∃ found, (nonBlank? own <|> nonBlank? other) = some found := by
  have kept : nonBlank? (some text) = some text := by simp [nonBlank?, solid]
  rcases given with rfl | rfl
  · exact ⟨text, by rw [kept]; rfl⟩
  · rw [kept]
    cases nonBlank? own with
    | none => exact ⟨text, rfl⟩
    | some found => exact ⟨found, rfl⟩

namespace RuleDocument

variable {rule : RuleDocument}

/-- A path is given in one of the two forms. -/
def GivesPath (rule : RuleDocument) : Prop :=
  ∃ text, isBlankText text = false ∧ (rule.path = some text ∨ rule.legacy.bind (·.path) = some text)

/-- A predicate is given in one of the two forms. -/
def GivesPredicate (rule : RuleDocument) : Prop :=
  ∃ text, isBlankText text = false ∧
    (rule.predicate = some text ∨ rule.legacy.bind (·.predicate) = some text)

/-- The kind of check that is named, at the top level or else in the legacy form. -/
def kind? (rule : RuleDocument) : Option String := rule.kind <|> rule.legacy.bind (·.kind)

theorem kind_request : rule.request.kind = rule.kind? := by
  cases given : rule.legacy <;> simp [request, kind?, given]

theorem legacy_getD (rule : RuleDocument) {field : LegacyDocument → Option String}
    (missing : field {} = none) : field (rule.legacy.getD {}) = rule.legacy.bind field := by
  cases rule.legacy <;> simp [missing]

theorem path_request (given : rule.GivesPath) : ∃ path, rule.request.path = some path := by
  obtain ⟨text, solid, given⟩ := given
  rw [← legacy_getD rule rfl] at given
  exact exists_nonBlank? solid given

theorem predicate_request (given : rule.GivesPredicate) :
    ∃ name, rule.request.predicate = some name := by
  obtain ⟨text, solid, given⟩ := given
  rw [← legacy_getD rule rfl] at given
  exact exists_nonBlank? solid given

/-- What a check comes to that has both a path and a predicate: the kind decides, and two kinds take no
notice of the path. -/
theorem check_of_both {id path name : String} {request : CheckRequest}
    (givenPath : request.path = some path) (givenPredicate : request.predicate = some name) :
    request.check id = match request.kind with
      | none => .error (.ambiguousMode id)
      | some kind => match Mode.ofText? kind with
        | none => .error (.unknownMode id kind)
        | some .compare => .error (.ambiguousMode id)
        | some .predicate => .ok (.predicate name)
        | some .unconfigured => .ok .unconfigured := by
  have refused : request.comparison id = .error (.ambiguousMode id) := by
    simp only [CheckRequest.comparison, givenPredicate, Option.isSome_some, if_true]
    rfl
  cases named : request.kind with
  | none =>
    have mode : request.mode id = .error (.ambiguousMode id) := by
      simp only [CheckRequest.mode, named, givenPath, givenPredicate]
    rw [CheckRequest.check, mode]
    rfl
  | some kind =>
    cases known : Mode.ofText? kind with
    | none =>
      have mode : request.mode id = .error (.unknownMode id kind) := by
        simp only [CheckRequest.mode, named, known]
      simp only [CheckRequest.check, mode, known]
      rfl
    | some found =>
      have mode : request.mode id = .ok found := by
        simp only [CheckRequest.mode, named, known]
      simp only [CheckRequest.check, mode, known]
      cases found with
      | compare => exact refused
      | predicate =>
        simp only [givenPredicate]
        rfl
      | unconfigured => rfl

theorem toRule_eq (named : isBlankText rule.id = false) :
    rule.toRule = (rule.request.check (trim rule.id)).map fun check => {
      id := trim rule.id
      title := (nonBlank? rule.title <|> nonBlank? rule.name).getD (trim rule.id)
      description := nonBlank? rule.description
      severity := rule.severity.getD .low
      vendorScope := rule.vendorScope
      enabled := rule.enabled.getD true
      check
      remediation := nonBlank? rule.remediation
      waivable := rule.waivable.getD true } := by
  have given : (trim rule.id).isEmpty = false := by
    simp [← Bool.not_eq_true, String.isEmpty_iff, trim_eq_empty_iff, named]
  simp only [toRule, given, Bool.false_eq_true, if_false]
  cases rule.request.check (trim rule.id) <;> rfl

/-- A rule that gives a path and a predicate is refused unless the kind it names takes no notice of the path.
The cause names the rule. A rule that is not refused checks its predicate or nothing at all. -/
theorem refused_iff_of_both (named : isBlankText rule.id = false) (path : rule.GivesPath)
    (predicate : rule.GivesPredicate) :
    ((∃ cause, rule.toRule = .error cause) ↔
      rule.kind?.bind Mode.ofText? ≠ some .predicate ∧
        rule.kind?.bind Mode.ofText? ≠ some .unconfigured) ∧
    (∀ cause, rule.toRule = .error cause → cause = .ambiguousMode (trim rule.id) ∨
      ∃ kind ∈ rule.kind?, cause = .unknownMode (trim rule.id) kind) ∧
    ∀ made, rule.toRule = .ok made →
      (∃ name, made.check = .predicate name) ∨ made.check = .unconfigured := by
  obtain ⟨text, path⟩ := path_request path
  obtain ⟨name, predicate⟩ := predicate_request predicate
  rw [toRule_eq named, check_of_both path predicate, kind_request]
  cases rule.kind? with
  | none => simp [Except.map]
  | some kind =>
    simp only [Option.bind_some]
    cases Mode.ofText? kind with
    | none => simp [Except.map]
    | some mode => cases mode <;> simp [Except.map, eq_comm]

/-- A rule with a path and a predicate whose kind, if any, is named at the top level. -/
def ofBoth (kind : Option String) : RuleDocument :=
  { id := "AMB", kind, path := some "$.device.hostname", predicate := some "sshEnabled" }

theorem gives_ofBoth (kind : Option String) :
    isBlankText (ofBoth kind).id = false ∧ (ofBoth kind).GivesPath ∧ (ofBoth kind).GivesPredicate :=
  ⟨(by decide : isBlankText "AMB" = false), ⟨"$.device.hostname", by decide, .inl rfl⟩,
    "sshEnabled", by decide, .inl rfl⟩

theorem refused_match :
    isBlankText (ofBoth (some "match")).id = false ∧ (ofBoth (some "match")).GivesPath ∧
      (ofBoth (some "match")).GivesPredicate ∧
      ∃ cause, (ofBoth (some "match")).toRule = .error cause := by
  obtain ⟨named, path, predicate⟩ := gives_ofBoth (some "match")
  exact ⟨named, path, predicate,
    (refused_iff_of_both named path predicate).1.mpr ⟨by decide, by decide⟩⟩

/-- Of a kind that goes by the predicate the path is passed over, and no cause is given. -/
theorem accepted_custom :
    isBlankText (ofBoth (some "custom")).id = false ∧ (ofBoth (some "custom")).GivesPath ∧
      (ofBoth (some "custom")).GivesPredicate ∧
      (ofBoth (some "custom")).toRule =
        .ok { id := "AMB", title := "AMB", check := .predicate "sshEnabled" } := by
  obtain ⟨named, path, predicate⟩ := gives_ofBoth (some "custom")
  exact ⟨named, path, predicate, by decide⟩

end RuleDocument

end DeviceConfig.Audit
