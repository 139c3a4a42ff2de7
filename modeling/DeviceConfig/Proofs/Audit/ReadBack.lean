import DeviceConfig.Proofs.Audit.Equality

/-!
Findings that are written and read again. All that a finding tells is read back as it was, in whatever order it is
written, but for a value that is null itself: it is written, and read as no value.
-/

namespace DeviceConfig.Audit

open Document

/-! ### Reading a finding -/

instance : Faithful Severity := .ofWords fun value => by cases value <;> decide

/-- A value that may be missing is read back as it was, unless it is null. -/
theorem readsAs_value {more : Type} {rest : Fields more} {field : FieldName} {given other : more}
    {value : Option Json} (ordered : ∀ present ∈ value, present.IsOrdered) (others : rest.ReadsAs given other) :
    (Fields.optional field rest).ReadsAs (value, given) (value.filter (· ≠ .null), other) := by
  cases value with
  | none => exact ⟨rfl, others⟩
  | some value =>
    have read := read?_expected (ordered value rfl)
    by_cases null : value = .null
    · subst null
      exact ⟨rfl, others⟩
    · rw [expectedOf, if_neg null] at read
      refine ⟨?_, others⟩
      rw [Option.filter_some_pos (by simpa using null)]
      exact read

namespace Finding

/-- The finding without its value where that is null. -/
def withoutNull (finding : Finding) : Finding :=
  { finding with value := finding.value.filter (· ≠ .null) }

theorem withoutNull_eq_iff {finding : Finding} : finding.withoutNull = finding ↔ finding.value ≠ some .null := by
  obtain ⟨id, ruleId, ruleName, severity, message, path, value, remediation, waived⟩ := finding
  cases value <;> simp [withoutNull, Option.filter]

theorem read?_report {finding : Finding} (ordered : ∀ value ∈ finding.value, value.IsOrdered) :
    read? (Node.ofJson finding.report) = some finding.withoutNull ∧
    read? (Node.ofJson (toJson finding)) = some finding.withoutNull := by
  have named : (Recorded.fields : Fields (Recorded.Values Finding)).WellNamed := by decide
  have reads : Recorded.fields.ReadsAs (Recorded.toValues finding) (Recorded.toValues finding.withoutNull) :=
    ⟨read_back _, read_back _, read_back _, read_back _, read_back _,
      Fields.readsAs_optional _ (readsAs_value ordered (Fields.readsAs_optional _ ⟨read_back _, trivial⟩))⟩
  exact Recorded.read?_members named reads

theorem mem_withIds {id : Nat → String} {findings : List Finding} {finding : Finding}
    (member : finding ∈ withIds id findings) : ∃ source ∈ findings, source.value = finding.value := by
  obtain ⟨place, inside, rfl⟩ := List.mem_mapIdx.mp member
  exact ⟨_, List.getElem_mem inside, rfl⟩

end Finding

/-! ### Where values come from -/

/-- All values that predicates of the registry come to are such values. -/
def Registry.Gives (registry : Registry) (holds : Json → Prop) : Prop :=
  ∀ name predicate snapshot outcome, registry.get? name = some predicate → predicate snapshot = some outcome →
    ∀ value ∈ outcome.value, holds value

section
variable {registry : Registry} {snapshot : Snapshot} {rule : Rule} {finding : Finding} {holds : Json → Prop}

variable [Pattern.Engine]

/-- A finding tells what a path leads to in the view, or what a predicate has come to. -/
theorem value_of_verdict (shown : ∀ steps value, Path.resolve snapshot.view steps = some value → holds value)
    (gives : registry.Gives holds) (failed : rule.verdict registry snapshot = .failed finding) :
    ∀ value ∈ finding.value, holds value := by
  obtain ⟨message, path, value, told, rfl⟩ := finding_of_verdict registry failed
  generalize rule.check = check at told
  cases told with
  | compare => exact shown _
  | predicate known answered => exact gives _ _ snapshot _ known answered

theorem value_of_run {rules : List Rule} {id : Nat → String}
    (shown : ∀ steps value, Path.resolve snapshot.view steps = some value → holds value)
    (gives : registry.Gives holds) (found : finding ∈ Finding.withIds id (run registry snapshot rules).findings) :
    ∀ value ∈ finding.value, holds value := by
  obtain ⟨source, member, same⟩ := Finding.mem_withIds found
  obtain ⟨rule, -, failed⟩ := (mem_findings_run registry snapshot).mp member
  rw [← same]
  exact value_of_verdict shown gives failed

end

/-! ### The built-in predicates -/

/-- An outcome with nothing but texts for a value. -/
def Outcome.TellsTexts (outcome : Outcome) : Prop := ∀ value ∈ outcome.value, ∃ texts, value = .strings texts

theorem tellsTexts_of_none {outcome : Outcome} (nothing : outcome.value = none) : outcome.TellsTexts := by
  simp [Outcome.TellsTexts, nothing]

theorem tellsTexts_of_strings {outcome : Outcome} {texts : List String} (told : outcome.value = some (.strings texts)) :
    outcome.TellsTexts := by
  simp [Outcome.TellsTexts, told]

theorem tellsTexts_verdict (passed : Bool) (message : String) : (Outcome.verdict passed message).TellsTexts := by
  cases passed <;> exact tellsTexts_of_none rfl

theorem tellsTexts_ofViolations (violations : List String) : (Outcome.ofViolations violations).TellsTexts := by
  cases violations with
  | nil => exact tellsTexts_of_none rfl
  | cons first rest => exact tellsTexts_of_strings rfl

theorem tellsTexts_refuseAll (message path : String) (names : List String) :
    (refuseAll message path names).TellsTexts := by
  cases names with
  | nil => exact tellsTexts_of_none rfl
  | cons first rest => exact tellsTexts_of_strings rfl

theorem tellsTexts_refusePolicies (offends : Snapshot.FirewallPolicy → Bool) (what : String) (snapshot : Snapshot) :
    (refusePolicies offends what snapshot).TellsTexts := by
  unfold refusePolicies
  split
  · dsimp only
    split
    · exact tellsTexts_ofViolations _
    · exact tellsTexts_ofViolations _
  · exact tellsTexts_of_none rfl

theorem tellsTexts_builtins (snapshot : Snapshot) : ∀ builtin ∈ builtins, (builtin.check snapshot).TellsTexts := by
  simp only [builtins, List.forall_mem_cons]
  refine ⟨tellsTexts_refuseAll _ _ _, ?_, tellsTexts_refusePolicies _ _ _, tellsTexts_refusePolicies _ _ _,
    tellsTexts_of_none rfl, tellsTexts_ofViolations _, tellsTexts_refuseAll _ _ _, tellsTexts_verdict _ _, ?_,
    tellsTexts_verdict _ _, tellsTexts_ofViolations _, List.forall_mem_nil _⟩
  · unfold ciscoEnableEncrypted
    split <;> exact tellsTexts_of_none rfl
  · unfold snmpCommunityNotDefault
    dsimp only
    split
    · exact tellsTexts_of_none rfl
    split
    · exact tellsTexts_of_none rfl
    · exact tellsTexts_verdict _ _

theorem builtin_gives_texts : Registry.builtin.Gives fun value => ∃ texts, value = .strings texts := by
  intro name predicate snapshot outcome known answered
  rw [Registry.get?, Registry.builtin, entries_register_foldl] at known
  obtain ⟨_, _, same, _⟩ := List.lookup_eq_some_iff.mp known
  have member := NameMap.mem_ofList (same ▸ List.mem_append_right _ List.mem_cons_self)
  obtain ⟨builtin, listed, equal⟩ := List.mem_map.mp member
  obtain ⟨-, rfl⟩ := Prod.mk.inj equal
  obtain rfl := Option.some.inj answered
  exact tellsTexts_builtins snapshot builtin listed

theorem Registry.Gives.mono {registry : Registry} {holds other : Json → Prop} (gives : registry.Gives holds)
    (implies : ∀ value, holds value → other value) : registry.Gives other :=
  fun name predicate snapshot outcome known answered value told =>
    implies value (gives name predicate snapshot outcome known answered value told)

theorem isOrdered_strings (texts : List String) : (Json.strings texts).IsOrdered :=
  Json.isOrdered_array.mpr (List.forall_mem_map.mpr fun text _ => Json.isOrdered_string text)

theorem builtin_gives_ordered : Registry.builtin.Gives Json.IsOrdered :=
  builtin_gives_texts.mono fun _ ⟨texts, same⟩ => same ▸ isOrdered_strings texts

/-! ### Findings of an audit -/

/-- What an audit finds is read back from what is written of it, except that a value that is null is gone. So a finding
survives just when its value is not null, which is so for all of them where there is no null in the view and the
predicates come to none. -/
theorem finding_survives_iff [Pattern.Engine] (registry : Registry) {snapshot : Snapshot} {rules : List Rule} {id : Nat → String}
    {finding : Finding} (keeps : snapshot.KeepsOrdered) (gives : registry.Gives Json.IsOrdered)
    (found : finding ∈ Finding.withIds id (run registry snapshot rules).findings) :
    read? (Node.ofJson finding.report) = some finding.withoutNull ∧
    read? (Node.ofJson (toJson finding)) = some finding.withoutNull ∧
    (read? (Node.ofJson finding.report) = some finding ↔ finding.value ≠ some .null) ∧
    (read? (Node.ofJson (toJson finding)) = some finding ↔ finding.value ≠ some .null) ∧
    (snapshot.view.IsNullFree → registry.Gives (· ≠ .null) → read? (Node.ofJson finding.report) = some finding) := by
  have ordered : ∀ value ∈ finding.value, value.IsOrdered :=
    value_of_run (fun _ _ => Path.resolve_isOrdered (Snapshot.view_isOrdered_of_kept keeps)) gives found
  obtain ⟨report, members⟩ := Finding.read?_report ordered
  refine ⟨report, members, ?_, ?_, fun free present => ?_⟩
  · rw [report, Option.some.injEq, Finding.withoutNull_eq_iff]
  · rw [members, Option.some.injEq, Finding.withoutNull_eq_iff]
  · have told : ∀ value ∈ finding.value, value ≠ .null :=
      value_of_run (fun _ _ resolved => (Path.resolve_isNullFree free resolved).ne_null) present found
    rw [report, Option.some.injEq, Finding.withoutNull_eq_iff]
    exact fun null => told .null null rfl

theorem findings_of_failed [Pattern.Engine] (registry : Registry) {snapshot : Snapshot} {id text message : String} {path : Path}
    {condition : Condition} {actual : Option Json} (read : Path.parse text = .ok path)
    (found : Path.resolve snapshot.view path.steps = actual)
    (failed : condition.apply text actual = .ok ⟨false, message⟩) :
    let rule := Rule.ofCheck id (.compare text condition)
    (run registry snapshot [rule]).findings = [rule.failure (some message) (some text) actual] := by
  intro rule
  have verdict : rule.verdict registry snapshot = .failed (rule.failure (some message) (some text) actual) := by
    simp [Rule.verdict, Rule.judge, rule, Rule.ofCheck, Rule.appliesTo, checkPath_of_faithful (faithful_none snapshot),
      Rule.checkPathIn, read, found, failed, bind, Except.bind, pure, Except.pure, Verdict.ofCheck]
  rw [run_eq]
  simp [verdict, Verdict.findings]

/-- A rule for devices of one site. -/
def atHeadquarters : Rule := .ofCheck "SITE-1" (.compare "$.site" ⟨.equals, some (.string "HQ")⟩)

/-- What the rule finds at any other site. -/
def elsewhere (site : Json) : Finding :=
  { id := "finding-1", ruleId := "SITE-1", ruleName := "SITE-1", severity := atHeadquarters.severity
    message := "Expected $.site to equal HQ", path := some "$.site", value := some site }

theorem elsewhere_found (site : Json) (other : site.looseEq (.string "HQ") = false) :
    elsewhere site ∈ Finding.withIds (fun _ => "finding-1") (run .builtin (sited site) [atHeadquarters]).findings := by
  have found : Path.resolve (sited site).view [.field "site"] = some site := by
    rw [Path.resolve_last _ (by decide), member?_sited]
  have failed : (Condition.mk .equals (some (.string "HQ"))).apply "$.site" (some site) =
      .ok ⟨false, "Expected $.site to equal HQ"⟩ := by
    simp only [Condition.apply, sameValue, other]
    rfl
  rw [atHeadquarters, findings_of_failed .builtin parse_site found failed]
  simp only [Finding.withIds, List.mapIdx_cons, List.mapIdx_nil, List.mem_singleton]
  rfl

/-- A null inside of a value is kept. -/
theorem finding_survives_iff_racks :
    let site : Json := .object [("racks", .array [.int 42, .null])]
    (sited site).KeepsOrdered ∧ Registry.builtin.Gives Json.IsOrdered ∧
      elsewhere site ∈
        Finding.withIds (fun _ => "finding-1") (run .builtin (sited site) [atHeadquarters]).findings ∧
      read? (Node.ofJson (elsewhere site).report) = some (elsewhere site) := by
  intro site
  have keeps : (sited site).KeepsOrdered := keepsOrdered_sited <| by
    simp [site, Json.isOrdered_object, Json.isOrdered_array, Json.isOrdered_int, Json.isOrdered_null, NameMap.Sorted]
  have found := elsewhere_found site (by simp [site, Json.looseEq])
  obtain ⟨-, -, survives, -⟩ := finding_survives_iff .builtin keeps builtin_gives_ordered found
  exact ⟨keeps, builtin_gives_ordered, found, survives.mpr (by simp [elsewhere, site])⟩

/-- A null that is the value is written, but none is read. -/
theorem finding_of_null_changes :
    elsewhere .null ∈
      Finding.withIds (fun _ => "finding-1") (run .builtin (sited .null) [atHeadquarters]).findings ∧
    read? (Node.ofJson (elsewhere .null).report) = some { elsewhere .null with value := none } ∧
    read? (Node.ofJson (elsewhere .null).report) ≠ some (elsewhere .null) := by
  have ordered : ∀ value ∈ (elsewhere .null).value, value.IsOrdered := by
    simp [elsewhere, Json.isOrdered_null]
  obtain ⟨report, -⟩ := Finding.read?_report ordered
  refine ⟨elsewhere_found .null rfl, report, ?_⟩
  rw [report, ne_eq, Option.some.injEq, Finding.withoutNull_eq_iff]
  simp [elsewhere]

end DeviceConfig.Audit
