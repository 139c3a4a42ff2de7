import DeviceConfig.Audit.Finding
import DeviceConfig.Audit.Predicate
import DeviceConfig.Audit.Rule
import DeviceConfig.Path.Resolve

/-!
Running an audit: every rule is judged on its own against a snapshot. A rule that can come to no verdict
is skipped, so an audit as a whole never fails.
-/

namespace DeviceConfig.Audit

/-- The finding of a failed rule. Without a message of its own it tells what the rule is about. -/
def Rule.failure (rule : Rule) (message path : Option String) (value : Option Json) : Finding :=
  { id := Finding.noId
    ruleId := rule.id
    ruleName := rule.title
    severity := rule.severity
    message := (message.filter (!·.isEmpty) <|> rule.description).getD rule.title
    path
    value
    remediation := rule.remediation }

/-- The value in which rules look up paths, or why it cannot be made, once one of them has asked for it. It is
worked out at most once in an audit. -/
abbrev SharedView := Option (Except String Json)

/-- Makes the view. Every part of a snapshot has a form as a value, so nothing keeps it from being made. -/
def makeView (snapshot : Snapshot) : Except String Json := .ok snapshot.view

section
variable [Pattern.Engine]

/-- Compares the value at a path. A failure tells the value if there is one. -/
def Rule.checkPathIn (rule : Rule) (view : Json) (path : String) (parsed : Path) (condition : Condition) :
    Except EvalError (Option Finding) := do
  let actual := Path.resolve view parsed.steps
  let comparison ← condition.apply path actual
  return if comparison.passed then none
    else some (rule.failure (some comparison.message) (some path) actual)

/-- Compares the value at a path in the view. A path that cannot be read does not ask for the view. -/
def Rule.checkPath (rule : Rule) (path : String) (condition : Condition) (snapshot : Snapshot)
    (shared : SharedView) : Except EvalError (Option Finding) × SharedView :=
  match Path.parse path with
  | .error cause => (.error (.invalidPath cause), shared)
  | .ok parsed =>
    match shared.getD (makeView snapshot) with
    | .error cause => (.error (.unviewable cause), some (.error cause))
    | .ok view => (rule.checkPathIn view path parsed condition, some (.ok view))

end

/-- Asks a predicate. An unknown one is taken to hold. -/
def Rule.checkPredicate (rule : Rule) (name : String) (registry : Registry)
    (snapshot : Snapshot) : Except EvalError (Option Finding) :=
  match registry.get? name with
  | none => .ok none
  | some predicate =>
    match predicate snapshot with
    | none => .error (.predicateAborted name)
    | some outcome =>
      .ok (if outcome.passed then none
        else some (rule.failure outcome.message outcome.path outcome.value))

inductive Verdict where
  | passed
  | failed (finding : Finding)
  | skipped
deriving Repr

/-- The verdict of what a check came to. -/
def Verdict.ofCheck : Except EvalError (Option Finding) → Verdict
  | .ok none => .passed
  | .ok (some finding) => .failed finding
  | .error _ => .skipped

/-- Disabled rules, rules for other vendors and rules that ask nothing are skipped. -/
def Rule.judge [Pattern.Engine] (registry : Registry) (snapshot : Snapshot) (shared : SharedView) (rule : Rule) :
    Verdict × SharedView :=
  if !rule.enabled || !rule.appliesTo snapshot.vendor then (.skipped, shared)
  else match rule.check with
    | .unconfigured => (.skipped, shared)
    | .compare path condition =>
      let (result, shared) := rule.checkPath path condition snapshot shared
      (.ofCheck result, shared)
    | .predicate name => (.ofCheck (rule.checkPredicate name registry snapshot), shared)

/-- What an audit comes to. -/
structure Report where
  findings : List Finding
  summary : Summary
  passed : Nat
  failed : Nat
  skipped : Nat
deriving Repr

namespace Report

/-- The rules that came to a verdict. -/
def evaluated (report : Report) : Nat := report.passed + report.failed

/-- The members of a report, which took so many milliseconds. -/
def members (milliseconds : Nat) (report : Report) : List (String × Json) :=
  [("findings", .array (report.findings.map Finding.report)),
   ("summary", report.summary.report),
   ("rulesEvaluated", .nat report.evaluated),
   ("rulesPassed", .nat report.passed),
   ("rulesFailed", .nat report.failed),
   ("rulesSkipped", .nat report.skipped),
   ("durationMs", .nat milliseconds)]

end Report

/-- An audit under way. -/
structure Progress where
  shared : SharedView := none
  findings : List Finding := []
  passed : Nat := 0
  failed : Nat := 0
  skipped : Nat := 0

namespace Progress

def count (progress : Progress) : Verdict → Progress
  | .passed => { progress with passed := progress.passed + 1 }
  | .failed finding =>
    { progress with
      failed := progress.failed + 1
      findings := progress.findings ++ [finding] }
  | .skipped => { progress with skipped := progress.skipped + 1 }

/-- Judges the next rule. -/
def step [Pattern.Engine] (registry : Registry) (snapshot : Snapshot) (progress : Progress) (rule : Rule) :
    Progress :=
  let (verdict, shared) := rule.judge registry snapshot progress.shared
  { progress with shared }.count verdict

end Progress

/-- Judges the rules in their order. -/
def run [Pattern.Engine] (registry : Registry) (snapshot : Snapshot) (rules : List Rule) : Report :=
  let progress := rules.foldl (Progress.step registry snapshot) {}
  { findings := progress.findings
    summary := .ofFindings progress.findings rules.length
    passed := progress.passed
    failed := progress.failed
    skipped := progress.skipped }

end DeviceConfig.Audit
