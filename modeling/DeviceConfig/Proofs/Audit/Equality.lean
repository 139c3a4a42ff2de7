import DeviceConfig.Proofs.Audit.Ingestion
import DeviceConfig.Proofs.Json.LooseEq
import DeviceConfig.Proofs.Snapshot.Canonical
import DeviceConfig.Proofs.Snapshot.View

/-!
Rules that expect what is there. A rule whose document gives the value that its path leads to is obeyed, and one
that forbids this value is not. Only null is lost on the way: a document that expects null expects nothing, and a
null that is there is not nothing.
-/

namespace DeviceConfig.Audit

open Document Text

/-- The document of a rule that compares the value at a path. -/
def comparisonDocument (id path operator : String) (value : Json) : Node :=
  .table [("id", .string id), ("type", .string "match"), ("path", .string path),
    ("condition", .table [("operator", .string operator), ("value", .ofJson value)])]

/-! ### From the document to the rule -/

/-- What a rule expects whose document gives this value. -/
def expectedOf (value : Json) : Option Json := if value = .null then none else some value

theorem read?_expected {value : Json} (ordered : value.IsOrdered) :
    (read? (Node.ofJson value) : Option (Option Json)) = some (expectedOf value) := by
  by_cases null : value = .null
  · subst null
    rfl
  · rw [expectedOf, if_neg null]
    exact read?_some null (Node.toJson?_ofJson value ordered)

def comparisonMembers (id path operator : String) (value : Json) : RuleMembers :=
  { id := some (.string id), kind := some (.string "match"), path := some (.string path),
    operator := some (.string operator), value := some (.ofJson value) }

def comparisonParts (id path operator : String) (expected : Option Json) : RuleParts :=
  { id, kind := some "match", path := some path, operator := some operator, value := expected,
    title := none, description := none, severity := none, vendorScope := [], enabled := none,
    predicate := none, remediation := none, waivable := none }

section
variable {id path text : String} {operator : Operator} {value : Json} {expected : Option Json}

theorem read?_comparison (ordered : value.IsOrdered) :
    (read? (comparisonDocument id path text value) : Option RuleDocument) =
      some (comparisonParts id path text (expectedOf value)).current := by
  have document : comparisonDocument id path text value =
      (comparisonMembers id path text value).current .json := rfl
  have parts : (comparisonMembers id path text value).parts? =
      some (comparisonParts id path text (expectedOf value)) := by
    simp only [comparisonMembers, RuleMembers.parts?, Option.elim_some, Option.elim_none,
      read?_expected ordered]
    rfl
  rw [document, read?_current, parts, Option.map_some]

theorem check_comparison (given : isBlankText path = false)
    (known : Operator.ofText? text = some operator) (plain : operator ≠ .matches) :
    (comparisonParts id path text expected).current.request.check (trim id) =
      .ok (.compare path ⟨operator, expected⟩) := by
  have solid : nonBlank? (some path) = some path := by simp [nonBlank?, given]
  have gone : (expected <|> none) = expected := by cases expected <;> rfl
  have request : (comparisonParts id path text expected).current.request =
      { kind := some "match", path := some path, operator := some text, value := expected,
        predicate := none } := by
    simp only [RuleDocument.request, RuleParts.current, comparisonParts, Option.getD_some,
      Option.getD_none, gone, solid]
    rfl
  have mode : Mode.ofText? "match" = some .compare := by decide
  rw [request]
  simp only [RuleDocument.CheckRequest.check, RuleDocument.CheckRequest.mode, mode]
  simp only [RuleDocument.CheckRequest.comparison, known]
  -- Only what is expected of a pattern is looked at before there is a device.
  cases operator with
  | «matches» => exact absurd rfl plain
  | _ => rfl

theorem readRule_comparison (operator : Operator) (named : isBlankText id = false) (given : isBlankText path = false)
    (known : Operator.ofText? text = some operator) (plain : operator ≠ .matches)
    (ordered : value.IsOrdered) :
    readRule (comparisonDocument id path text value) =
      .ok (.ofCheck (trim id) (.compare path ⟨operator, expectedOf value⟩)) := by
  have made : (comparisonParts id path text (expectedOf value)).current.toRule =
      .ok (.ofCheck (trim id) (.compare path ⟨operator, expectedOf value⟩)) := by
    have own : (comparisonParts id path text (expectedOf value)).current.id = id := by
      simp only [RuleParts.current, comparisonParts]
    rw [RuleDocument.toRule_eq (own.symm ▸ named), own, check_comparison given known plain]
    simp only [Except.map, RuleParts.current, comparisonParts]
    rfl
  rw [readRule, read?_comparison ordered]
  simp only [made, Except.mapError]

end

/-- A text that reads as a path is not blank. -/
theorem solid_of_parse {text : String} {path : Path} (read : Path.parse text = .ok path) :
    isBlankText text = false := by
  by_contra blank
  have empty : trimChars text.toList = [] := by
    have trimmed := trim_eq_empty_iff.mpr (Bool.not_eq_false _ ▸ blank)
    rw [trim, ← String.toList_inj, String.toList_ofList] at trimmed
    exact trimmed
  rw [Path.parse, empty] at read
  cases read

/-! ### From the rule to the verdict -/

/-- A rule for all vendors that comes to an answer is counted by it. -/
theorem run_ofCheck [Pattern.Engine] (registry : Registry) (id : String) {snapshot : Snapshot} {check : Check}
    {holds : Bool} (answer : check.answer? registry snapshot = some holds) :
    (run registry snapshot [.ofCheck id check]).passed = (if holds then 1 else 0) ∧
      (run registry snapshot [.ofCheck id check]).failed = (if holds then 0 else 1) ∧
      (run registry snapshot [.ofCheck id check]).skipped = 0 := by
  have asked : (Rule.ofCheck id check).check = check := rfl
  obtain ⟨failed, skipped⟩ := @verdict_of_answer _ registry snapshot (.ofCheck id check)
  rw [asked, answer] at failed skipped
  rw [run_eq]
  cases verdict : (Rule.ofCheck id check).verdict registry snapshot <;> cases holds <;>
    simp_all [Verdict.isPassed, Verdict.isFailed, Verdict.isSkipped, Rule.ofCheck, Rule.appliesTo]

theorem sameValue_expected {value : Json} (ordered : value.IsOrdered) :
    sameValue (some value) (expectedOf value) = decide (value ≠ .null) := by
  by_cases null : value = .null
  · simp [expectedOf, null, sameValue]
  · rw [expectedOf, if_neg null, decide_eq_true null]
    exact Json.looseEq_self value ordered

/-- The answers to a check that expects what is there and to one that forbids it. -/
theorem answer?_found [Pattern.Engine] (registry : Registry) {snapshot : Snapshot} {text : String} {path : Path}
    {value : Json} (ordered : value.IsOrdered) (read : Path.parse text = .ok path)
    (found : Path.resolve snapshot.view path.steps = some value) :
    (Check.compare text ⟨.equals, expectedOf value⟩).answer? registry snapshot =
        some (decide (value ≠ .null)) ∧
      (Check.compare text ⟨.notEquals, expectedOf value⟩).answer? registry snapshot =
        some !decide (value ≠ .null) := by
  have parsed : (Path.parse text).toOption = some path := by rw [read, Except.toOption]
  constructor
  · rw [answer?_compare registry parsed (by rw [found]; rfl), ← sameValue_expected ordered]
  · rw [answer?_compare registry parsed (by rw [found]; rfl), ← sameValue_expected ordered]

/-! ### The value that is there -/

/-- Whether the value that a path leads to is obeyed by the rule that expects it, and broken by the rule that
forbids it. Both rules are read and none is skipped; only null is not what they say. -/
theorem found_value_equals_iff [Pattern.Engine] (registry : Registry) {snapshot : Snapshot} {id text : String}
    {path : Path} {value : Json} (keeps : snapshot.KeepsOrdered) (named : isBlankText id = false)
    (read : Path.parse text = .ok path)
    (found : Path.resolve snapshot.view path.steps = some value) :
    ∃ equal differing,
      readRule (comparisonDocument id text "equals" value) = .ok equal ∧
      readRule (comparisonDocument id text "notEquals" value) = .ok differing ∧
      (run registry snapshot [equal]).skipped = 0 ∧
      (run registry snapshot [differing]).skipped = 0 ∧
      ((run registry snapshot [equal]).passed = 1 ↔ value ≠ .null) ∧
      ((run registry snapshot [equal]).failed = 1 ↔ value = .null) ∧
      ((run registry snapshot [differing]).failed = 1 ↔ value ≠ .null) ∧
      ((run registry snapshot [differing]).passed = 1 ↔ value = .null) := by
  have ordered : value.IsOrdered :=
    Path.resolve_isOrdered (Snapshot.view_isOrdered_of_kept keeps) found
  have given := solid_of_parse read
  obtain ⟨equal, differing⟩ := answer?_found registry ordered read found
  obtain ⟨equalPassed, equalFailed, equalAsked⟩ := run_ofCheck registry (trim id) equal
  obtain ⟨differingPassed, differingFailed, differingAsked⟩ :=
    run_ofCheck registry (trim id) differing
  refine ⟨_, _, readRule_comparison .equals named given (by decide) (by decide) ordered,
    readRule_comparison .notEquals named given (by decide) (by decide) ordered, equalAsked,
    differingAsked, ?_⟩
  rw [equalPassed, equalFailed, differingPassed, differingFailed]
  by_cases null : value = .null <;> simp [null]

/-- A device of whose site more is known than its snapshot has a place for. -/
def sited (site : Json) : Snapshot :=
  { Snapshot.ofDevice .cisco "r1" with extensions := [("site", site)] }

theorem keepsOrdered_sited {site : Json} (ordered : site.IsOrdered) :
    (sited site).KeepsOrdered where
  besides := by simpa [sited] using ordered
  device := by simp [sited, Snapshot.ofDevice]
  interfaces := by simp [sited, Snapshot.ofDevice]

theorem member?_sited (site : Json) : (sited site).view.member? "site" = some site := by
  have written : (sited site).view = .ofMembers
      (OpenRecorded.own (sited site) ++ [("site", site)]) := rfl
  rw [written, Json.member?_ofMembers, List.reverse_append, List.lookup_append]
  rfl

theorem parse_site : Path.parse "$.site" = .ok ⟨"$.site", [.field "site"]⟩ := by decide +kernel

/-- An extension, found with all that is in it. -/
theorem found_value_equals_racks :
    let site : Json := .object [("racks", .array [.object [("units", .int 42)], .null])]
    (sited site).KeepsOrdered ∧ isBlankText "SITE-1" = false ∧
      (∃ path, Path.parse "$.site" = .ok path ∧
        Path.resolve (sited site).view path.steps = some site) ∧
      ∃ equal, readRule (comparisonDocument "SITE-1" "$.site" "equals" site) = .ok equal ∧
        (run .builtin (sited site) [equal]).passed = 1 := by
  intro site
  have named : isBlankText "SITE-1" = false := by decide
  have keeps : (sited site).KeepsOrdered := keepsOrdered_sited <| by
    simp [site, Json.isOrdered_object, Json.isOrdered_array, Json.isOrdered_int, Json.isOrdered_null,
      NameMap.Sorted]
  have found : Path.resolve (sited site).view [.field "site"] = some site := by
    rw [Path.resolve_last _ (by decide), member?_sited]
  obtain ⟨equal, _, made, _, _, _, passed, _⟩ :=
    found_value_equals_iff .builtin keeps named parse_site found
  exact ⟨keeps, named, ⟨_, parse_site, found⟩, equal, made, passed.mpr (by simp [site])⟩

/-- A null that is there is not what a rule expects whose document gives null. -/
theorem found_null_differs :
    (sited .null).KeepsOrdered ∧ isBlankText "SITE-1" = false ∧
      (∃ path, Path.parse "$.site" = .ok path ∧
        Path.resolve (sited .null).view path.steps = some .null) ∧
      ∃ equal differing,
        readRule (comparisonDocument "SITE-1" "$.site" "equals" .null) = .ok equal ∧
        readRule (comparisonDocument "SITE-1" "$.site" "notEquals" .null) = .ok differing ∧
        (run .builtin (sited .null) [equal]).passed = 0 ∧
        (run .builtin (sited .null) [differing]).failed = 0 := by
  have named : isBlankText "SITE-1" = false := by decide
  have found : Path.resolve (sited .null).view [.field "site"] = some .null := by
    rw [Path.resolve_last _ (by decide), member?_sited]
  have given := solid_of_parse parse_site
  obtain ⟨equal, differing⟩ := answer?_found .builtin Json.isOrdered_null parse_site found
  refine ⟨keepsOrdered_sited Json.isOrdered_null, named, ⟨_, parse_site, found⟩, _, _,
    readRule_comparison .equals named given (by decide) (by decide) Json.isOrdered_null,
    readRule_comparison .notEquals named given (by decide) (by decide) Json.isOrdered_null, ?_, ?_⟩
  · exact (run_ofCheck .builtin _ equal).1
  · exact (run_ofCheck .builtin _ differing).2.1

end DeviceConfig.Audit
