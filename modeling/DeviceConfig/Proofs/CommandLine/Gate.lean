import DeviceConfig.CommandLine.Run
import DeviceConfig.Proofs.Audit.Run
import DeviceConfig.Proofs.CommandLine.Report
import DeviceConfig.Proofs.Except

/-!
When an audit makes its command fail, and what is printed either way. The answer depends on the rules that fail
and on strictness, and on nothing that is asked of the output.
-/

namespace DeviceConfig

open Audit CommandLine

/-! ### Rules that fail -/

namespace Audit

section
variable [Pattern.Engine] (registry : Registry) (snapshot : Snapshot)

/-- The rule is enabled and made for the vendor, and what it asks for is so. -/
def Rule.passes (rule : Rule) : Bool :=
  rule.enabled && rule.appliesTo snapshot.vendor && rule.check.answer? registry snapshot == some true

/-- The rule is enabled and made for the vendor, and what it asks for is not so. -/
def Rule.fails (rule : Rule) : Bool :=
  rule.enabled && rule.appliesTo snapshot.vendor && rule.check.answer? registry snapshot == some false

/-- What is said of a failed check. Without a message of its own it is what the rule is about. -/
def Rule.wording (rule : Rule) : Option String → String
  | some message => if message = "" then rule.description.getD rule.title else message
  | none => rule.description.getD rule.title

/-- The finding tells of the rule, and what its check has to say. -/
structure Rule.Reported (rule : Rule) (finding : Finding) : Prop where
  ruleId : finding.ruleId = rule.id
  ruleName : finding.ruleName = rule.title
  severity : finding.severity = rule.severity
  remediation : finding.remediation = rule.remediation
  unwaived : finding.waived = false
  told : ∃ message, rule.check.Tells registry snapshot message finding.path finding.value ∧
    finding.message = rule.wording message

/-- The numbers of an audit, rule by rule. -/
def figuresOf (rules : List Rule) : Figures where
  failing severity := rules.countP fun rule => rule.fails registry snapshot && rule.severity == severity
  passed := rules.countP (·.passes registry snapshot)
  failed := rules.countP (·.fails registry snapshot)
  skipped := rules.countP fun rule => !(rule.passes registry snapshot || rule.fails registry snapshot)
  total := rules.length

theorem fails_eq_isFailed (rule : Rule) :
    rule.fails registry snapshot = (rule.verdict registry snapshot).isFailed :=
  ((verdict_of_answer registry rule).1).symm

theorem passes_eq_isPassed (rule : Rule) :
    rule.passes registry snapshot = (rule.verdict registry snapshot).isPassed := by
  obtain ⟨failed, skipped⟩ := @verdict_of_answer _ registry snapshot rule
  unfold Rule.passes
  generalize (rule.enabled && rule.appliesTo snapshot.vendor) = asked at failed skipped ⊢
  generalize rule.check.answer? registry snapshot = answer at failed skipped ⊢
  generalize rule.verdict registry snapshot = verdict at failed skipped ⊢
  cases verdict <;> cases asked <;> rcases answer with _ | _ | _ <;>
    simp_all [Verdict.isPassed, Verdict.isFailed, Verdict.isSkipped]

theorem skipped_eq (rule : Rule) : (!(rule.passes registry snapshot || rule.fails registry snapshot)) =
    (rule.verdict registry snapshot).isSkipped := by
  rw [passes_eq_isPassed, fails_eq_isFailed]
  cases rule.verdict registry snapshot <;> rfl

theorem passed_iff_fails (rules : List Rule) :
    (run registry snapshot rules).summary.passed = true ↔
      ∀ rule ∈ rules, rule.fails registry snapshot = true → rule.severity ≠ .critical ∧ rule.severity ≠ .high := by
  rw [passed_run_iff]
  refine forall_congr' fun rule => imp_congr_right fun _ => ?_
  rw [fails_eq_isFailed, ← not_or, ← Severity.isBlocking_iff]
  cases rule.severity.isBlocking <;> simp

variable {registry snapshot}

theorem Rule.Reported.of_failure {rule : Rule} {message path : Option String} {value : Option Json}
    (told : rule.check.Tells registry snapshot message path value) (id : String) :
    rule.Reported registry snapshot { rule.failure message path value with id } := by
  refine ⟨rfl, rfl, rfl, rfl, rfl, message, told, ?_⟩
  cases message with
  | none => rfl
  | some message => by_cases empty : message = "" <;> simp [Rule.failure, Rule.wording, empty, Option.filter]

variable (registry snapshot) in
/-- Every rule that fails yields one finding, in the order of the rules. -/
theorem findings_reported (rules : List Rule) :
    List.Forall₂ (Rule.Reported registry snapshot) (rules.filter (·.fails registry snapshot))
      (run registry snapshot rules).findings := by
  simp only [run_eq]
  induction rules with
  | nil => exact .nil
  | cons rule rules ih =>
    rw [List.map_cons, List.flatMap_cons, List.filter_cons, fails_eq_isFailed]
    cases judged : rule.verdict registry snapshot with
    | failed finding =>
      obtain ⟨message, path, value, told, rfl⟩ := finding_of_verdict registry judged
      exact .cons (.of_failure told Finding.noId) ih
    | passed => exact ih
    | skipped => exact ih

theorem withIds_reported {id : Nat → String} {rules : List Rule} {findings : List Finding}
    (reported : List.Forall₂ (Rule.Reported registry snapshot) rules findings) :
    List.Forall₂ (Rule.Reported registry snapshot) rules (Finding.withIds id findings) := by
  induction reported generalizing id with
  | nil => exact .nil
  | cons first others ih =>
    rw [Finding.withIds, List.mapIdx_cons]
    obtain ⟨ruleId, ruleName, severity, remediation, unwaived, told⟩ := first
    exact .cons ⟨ruleId, ruleName, severity, remediation, unwaived, told⟩ ih

theorem labels_reported {rules : List Rule} {findings : List Finding}
    (reported : List.Forall₂ (Rule.Reported registry snapshot) rules findings) :
    findings.map (fun finding => (finding.ruleId, finding.severity)) =
      rules.map fun rule => (rule.id, rule.severity) := by
  induction reported with
  | nil => rfl
  | cons first others ih => rw [List.map_cons, List.map_cons, ih, first.ruleId, first.severity]

theorem countP_reported {rules : List Rule} {findings : List Finding}
    (reported : List.Forall₂ (Rule.Reported registry snapshot) rules findings) (severity : Severity) :
    findings.countP (Summary.counts severity) = rules.countP (·.severity == severity) := by
  induction reported with
  | nil => rfl
  | cons first others ih =>
    rw [List.countP_cons, List.countP_cons, ih, Summary.counts, first.unwaived, first.severity]
    rfl

variable (registry snapshot) in
/-- The numbers of the report are those of the rules. -/
theorem figuresOf_report (rules : List Rule) : (figuresOf registry snapshot rules).OfReport
    (run registry snapshot rules) := by
  have counted (severity : Severity) :
      (run registry snapshot rules).findings.countP (Summary.counts severity) =
        (figuresOf registry snapshot rules).failing severity := by
    rw [countP_reported (findings_reported registry snapshot rules), List.countP_filter]
    exact List.countP_congr fun rule _ => by rw [Bool.and_comm]
  have unwaived : (run registry snapshot rules).findings.countP (·.waived) = 0 := by
    rw [List.countP_eq_zero]
    exact fun finding found => by simp [waived_of_run registry snapshot found]
  have summary : (run registry snapshot rules).summary =
      .ofFindings (run registry snapshot rules).findings rules.length := rfl
  refine ⟨?_, ?_, ?_, ?_⟩
  · rw [summary, Summary.ofFindings, Summary.foldl_add]
    simp only [counted, unwaived, Nat.zero_add]
    rfl
  all_goals
    simp only [run_eq, List.countP_map, figuresOf]
    refine List.countP_congr fun rule _ => ?_
  · rw [passes_eq_isPassed]
    rfl
  · rw [fails_eq_isFailed]
    rfl
  · rw [skipped_eq]
    rfl

end

theorem ids_withIds (id : Nat → String) (findings : List Finding) :
    (Finding.withIds id findings).map (·.id) = (List.range findings.length).map id :=
  List.ext_getElem (by simp [Finding.withIds]) fun i _ _ => by simp [Finding.withIds]

end Audit

namespace CommandLine

/-! ### The gate -/

theorem gate_eq_none_iff {strict : Bool} {report : Report} :
    gate strict report = none ↔
      report.summary.passed = true ∧ (strict = true → report.findings = []) := by
  unfold gate
  cases passed : report.summary.passed with
  | false => simp [passed]
  | true => cases strict <;> simp [passed]

theorem exitCode_eq_zero_iff {outcome : Outcome} : outcome.exitCode = 0 ↔ outcome.failure = none := by
  unfold Outcome.exitCode
  cases outcome.failure <;> simp

def LintOptions.subject (options : LintOptions) (snapshot : Snapshot) (pack : Pack) (source : String) : Subject where
  target := options.targetId.getD snapshot.device.hostname
  kind := options.targetType
  vendor := snapshot.vendor
  pack := pack.id
  source := source

/-- The output is the whole report, and nothing but it: its lines, or a text of its value on lines of its own. -/
def LintOptions.Prints (options : LintOptions) (world : Surroundings) (subject : Subject) (figures : Figures)
    (findings : List Finding) (output : String) : Prop :=
  match options.format with
  | .text => output.toList = chars (reportLines world.styled options.verbose subject figures findings)
  | .json => ∃ cs, output.toList = cs ++ ['\n'] ∧
      Json.Spells (reportValue subject figures findings world.milliseconds) cs

section
variable [Pattern.Engine]

def lintReport (world : Surroundings) (snapshot : Snapshot) (pack : Pack) : Report :=
  let report := Audit.run .builtin snapshot pack.rules
  { report with findings := Finding.withIds world.findingId report.findings }

theorem lint_outcome {world : Surroundings} {options : LintOptions} {snapshot : Snapshot} {pack : Pack}
    {source : String} (loaded : loadDocument world options.file = .ok snapshot)
    (resolved : options.choice.resolve world.reader = .ok (pack, source)) :
    ∃ output,
      options.Prints world (options.subject snapshot pack source) (figuresOf .builtin snapshot pack.rules)
        (lintReport world snapshot pack).findings output ∧
      ∀ strict, (Command.lint { options with strict }).run world =
        { output, failure := gate strict (lintReport world snapshot pack) } := by
  have shown : (figuresOf .builtin snapshot pack.rules).OfReport (lintReport world snapshot pack) := by
    obtain ⟨summary, passed, failed, skipped⟩ := figuresOf_report .builtin snapshot pack.rules
    exact ⟨summary, passed, failed, skipped⟩
  obtain ⟨file, choice, targetId, targetType, format, strict, verbose⟩ := options
  dsimp only at loaded resolved
  let subject : Subject :=
    ⟨targetId.getD snapshot.device.hostname, targetType, snapshot.vendor, pack.id, source⟩
  cases format with
  | text =>
    refine ⟨_, auditText_eq world.styled verbose subject shown, fun strict => ?_⟩
    rw [Command.run, runLint, loaded, resolved]
    rfl
  | json =>
    refine ⟨_, members_spelled subject shown world.milliseconds, fun strict => ?_⟩
    rw [Command.run, runLint, loaded, resolved]
    rfl

/-- The command succeeds unless a critical or a high rule fails, or strictly, unless any rule does. What is asked of the
output has no part in it. In any case the whole report is printed, with one finding for each rule that fails. -/
theorem lint_succeeds_iff {world : Surroundings} {options : LintOptions} {snapshot : Snapshot} {pack : Pack}
    {source : String} (loaded : loadDocument world options.file = .ok snapshot)
    (resolved : options.choice.resolve world.reader = .ok (pack, source)) :
    let outcome := (Command.lint options).run world
    (outcome.exitCode = 0 ↔
      (∀ rule ∈ pack.rules, rule.fails .builtin snapshot = true →
        rule.severity ≠ .critical ∧ rule.severity ≠ .high) ∧
        (options.strict = true → ∀ rule ∈ pack.rules, rule.fails .builtin snapshot = false)) ∧
      (∀ targetId targetType format verbose, ((Command.lint
        { options with targetId, targetType, format, verbose }).run world).failure = outcome.failure) ∧
      (∀ strict, ((Command.lint { options with strict }).run world).output = outcome.output) ∧
      ∃ findings,
        List.Forall₂ (Rule.Reported .builtin snapshot) (pack.rules.filter (·.fails .builtin snapshot)) findings ∧
        findings.map (·.id) = (List.range findings.length).map world.findingId ∧
        options.Prints world (options.subject snapshot pack source) (figuresOf .builtin snapshot pack.rules)
          findings outcome.output := by
  intro outcome
  obtain ⟨output, printed, whole⟩ := lint_outcome loaded resolved
  have here : outcome = { output, failure := gate options.strict (lintReport world snapshot pack) } :=
    whole options.strict
  have reported : List.Forall₂ (Rule.Reported .builtin snapshot) (pack.rules.filter (·.fails .builtin snapshot))
      (lintReport world snapshot pack).findings :=
    withIds_reported (findings_reported .builtin snapshot pack.rules)
  refine ⟨?_, ?_, ?_, (lintReport world snapshot pack).findings, reported, ?_, ?_⟩
  · rw [exitCode_eq_zero_iff, here, gate_eq_none_iff]
    refine and_congr (passed_iff_fails .builtin snapshot pack.rules) (imp_congr_right fun _ => ?_)
    -- There are as many findings as rules that fail.
    rw [← List.length_eq_zero_iff, ← reported.length_eq, List.length_eq_zero_iff, List.filter_eq_nil_iff]
    simp
  · intro targetId targetType format verbose
    let other : LintOptions := { options with targetId, targetType, format, verbose }
    have otherLoaded : loadDocument world other.file = .ok snapshot := loaded
    obtain ⟨_, _, same⟩ := lint_outcome otherLoaded resolved
    have there := congrArg Outcome.failure (same options.strict)
    rw [here]
    exact there
  · intro strict
    rw [whole strict, here]
  · have counted : (lintReport world snapshot pack).findings.length =
        (Audit.run .builtin snapshot pack.rules).findings.length := List.length_mapIdx
    rw [counted]
    exact ids_withIds _ _
  · rw [here]
    exact printed

end

/-- A device that says nothing of itself but that SSH is on. -/
def unnamedWorld : Surroundings :=
  { reader := fun _ => .ok "\x7b\"mgmt\": \x7b\"ssh\": \x7b\"enabled\": true\x7d\x7d\x7d" }

def baselineOptions (strict : Bool) : LintOptions :=
  { file := "r1.json", choice := {}, targetId := none, targetType := .device, format := .text, strict,
    verbose := false }

/-- The baseline finds fault with the device, but with nothing that blocks. What it finds is printed. -/
theorem lint_succeeds_iff_unnamed :
    let outcome := (Command.lint (baselineOptions false)).run unnamedWorld
    outcome.exitCode = 0 ∧ ((Command.lint (baselineOptions true)).run unnamedWorld).exitCode ≠ 0 ∧
      (∃ (subject : Subject) (figures : Figures) (findings : List Finding),
        findings.map (fun finding => (finding.ruleId, finding.severity)) =
          [("NET-HOST-001", .medium), ("MGT-NTP-001", .low)] ∧
        (baselineOptions false).Prints unnamedWorld subject figures findings outcome.output) ∧
      outcome.output =
        "lint target= type=device vendor=generic pack=baseline\n" ++
        "result passed=true critical=0 high=0 medium=1 low=1 info=0 waived=0\n" ++
        "rules evaluated=8 passed=6 failed=2 skipped=3\n" ++
        "findings\n" ++
        "- [medium] NET-HOST-001: Expected $.device.hostname to not be empty\n" ++
        "- [low] MGT-NTP-001: NTP servers: 0\n" := by
  have read : (loadDocument unnamedWorld "r1.json").toOption.any (fun snapshot : Snapshot =>
      ((Pack.baseline.rules.filter (·.fails .builtin snapshot)).map fun rule => (rule.id, rule.severity)) =
        [("NET-HOST-001", .medium), ("MGT-NTP-001", .low)]) = true := by
    decide +kernel
  obtain ⟨snapshot, found, judged⟩ := (Option.any_eq_true _ _).mp read
  have failing := of_decide_eq_true judged
  have loaded : ∀ strict, loadDocument unnamedWorld (baselineOptions strict).file = .ok snapshot :=
    fun _ => toOption_eq_some.mp found
  have resolved : ∀ strict, (baselineOptions strict).choice.resolve unnamedWorld.reader =
      .ok (.baseline, "embedded") := fun _ => rfl
  obtain ⟨succeeds, -, -, findings, reported, -, printed⟩ := lint_succeeds_iff (loaded false) (resolved false)
  refine ⟨succeeds.mpr ⟨fun rule member fails => ?_, nofun⟩, fun success => ?_, ⟨_, _, findings, ?_, printed⟩,
    by decide +kernel⟩
  · have listed := List.mem_map_of_mem (f := fun rule : Rule => (rule.id, rule.severity))
      (List.mem_filter.mpr ⟨member, fails⟩)
    rw [failing] at listed
    simp only [List.mem_cons, Prod.mk.injEq, List.not_mem_nil, or_false] at listed
    rcases listed with ⟨-, severity⟩ | ⟨-, severity⟩ <;> simp [severity]
  · have strictly := ((lint_succeeds_iff (loaded true) (resolved true)).1.mp success).2 rfl
    rw [List.filter_eq_nil_iff.mpr fun rule member => by simp [strictly rule member]] at failing
    cases failing
  · rw [← failing, labels_reported reported]

end CommandLine

end DeviceConfig
