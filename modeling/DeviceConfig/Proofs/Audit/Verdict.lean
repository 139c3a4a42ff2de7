import DeviceConfig.Audit.Run
import DeviceConfig.Proofs.Except

/-!
The verdict on one rule. The view the rules share is the view of the snapshot whenever it is there, so no rule
can tell what was judged before it. A rule is judged by the answer to its check, and skipped if there is none.
-/

namespace DeviceConfig.Audit

namespace Verdict

def findings : Verdict → List Finding
  | .failed finding => [finding]
  | _ => []

theorem mem_findings {verdict : Verdict} {finding : Finding} :
    finding ∈ verdict.findings ↔ verdict = .failed finding := by
  cases verdict <;> simp [findings, eq_comm]

def isPassed : Verdict → Bool
  | .passed => true
  | _ => false

def isFailed : Verdict → Bool
  | .failed _ => true
  | _ => false

def isSkipped : Verdict → Bool
  | .skipped => true
  | _ => false

end Verdict

/-- What is shared, if anything is, is what was made of the snapshot. -/
def SharedView.Faithful (snapshot : Snapshot) (shared : SharedView) : Prop :=
  ∀ made ∈ shared, made = makeView snapshot

theorem faithful_none (snapshot : Snapshot) : SharedView.Faithful snapshot none := fun _ => nofun

theorem getD_of_faithful {snapshot : Snapshot} {shared : SharedView} (faithful : shared.Faithful snapshot) :
    shared.getD (makeView snapshot) = .ok snapshot.view := by
  cases shared with
  | none => rfl
  | some made => exact faithful made rfl

/-! ### What a check has come to -/

theorem ofCheck_eq_failed {result : Except EvalError (Option Finding)} {finding : Finding} :
    Verdict.ofCheck result = .failed finding ↔ result = .ok (some finding) := by
  rcases result with _ | _ | _ <;> simp [Verdict.ofCheck]

/-- The answer a check has come to: a finding says no. -/
def answerOf (result : Except EvalError (Option Finding)) : Option Bool :=
  result.toOption.map (·.isNone)

theorem verdict_ofCheck (result : Except EvalError (Option Finding)) :
    (Verdict.ofCheck result).isFailed = (answerOf result == some false) ∧
      (Verdict.ofCheck result).isSkipped = !(answerOf result).isSome := by
  rcases result with _ | _ | _ <;>
    simp [Verdict.ofCheck, Verdict.isFailed, Verdict.isSkipped, answerOf, Except.toOption]

variable [Pattern.Engine] (registry : Registry) {snapshot : Snapshot}

/-- The verdict on a rule when nothing was judged before it. -/
def Rule.verdict (snapshot : Snapshot) (rule : Rule) : Verdict := (rule.judge registry snapshot none).1

/-! ### The shared view -/

/-- With what is shared in an audit, a path that can be read is looked up in the view of the snapshot. -/
theorem checkPath_of_faithful {shared : SharedView} (faithful : shared.Faithful snapshot)
    (rule : Rule) (path : String) (condition : Condition) :
    rule.checkPath path condition snapshot shared = match Path.parse path with
      | .error cause => (.error (.invalidPath cause), shared)
      | .ok parsed => (rule.checkPathIn snapshot.view path parsed condition, some (makeView snapshot)) := by
  unfold Rule.checkPath
  cases Path.parse path with
  | error cause => rfl
  | ok parsed =>
    simp only [getD_of_faithful faithful]
    rfl

theorem judge_of_faithful {shared : SharedView} (faithful : shared.Faithful snapshot) (rule : Rule) :
    (rule.judge registry snapshot shared).1 = rule.verdict registry snapshot ∧
      (rule.judge registry snapshot shared).2.Faithful snapshot := by
  unfold Rule.verdict Rule.judge
  split
  · exact ⟨rfl, faithful⟩
  · cases rule.check with
    | unconfigured => exact ⟨rfl, faithful⟩
    | compare path condition =>
      simp only [checkPath_of_faithful faithful, checkPath_of_faithful (faithful_none snapshot)]
      cases Path.parse path with
      | error cause => exact ⟨rfl, faithful⟩
      | ok parsed => exact ⟨rfl, fun made same => (Option.some.inj same).symm⟩
    | predicate name => exact ⟨rfl, faithful⟩

/-! ### Findings -/

/-- What a check has to say that does not hold: a message, a path and a value. -/
inductive Check.Tells (snapshot : Snapshot) : Check → Option String → Option String → Option Json → Prop
  | compare {path : String} {condition : Condition} {parsed : Path} {comparison : Comparison}
      (read : Path.parse path = .ok parsed)
      (compared : condition.apply path (Path.resolve snapshot.view parsed.steps) = .ok comparison)
      (unmet : comparison.passed = false) :
      Tells snapshot (.compare path condition) (some comparison.message) (some path)
        (Path.resolve snapshot.view parsed.steps)
  | predicate {name : String} {predicate : Predicate} {outcome : Outcome}
      (known : registry.get? name = some predicate) (answered : predicate snapshot = some outcome)
      (unmet : outcome.passed = false) :
      Tells snapshot (.predicate name) outcome.message outcome.path outcome.value

theorem finding_of_checkPath {rule : Rule} {path : String} {condition : Condition} {finding : Finding}
    (found : (rule.checkPath path condition snapshot none).1 = .ok (some finding)) :
    ∃ message told value, (Check.compare path condition).Tells registry snapshot message told value ∧
      finding = rule.failure message told value := by
  rw [checkPath_of_faithful (faithful_none snapshot)] at found
  cases read : Path.parse path with
  | error cause => simp [read] at found
  | ok parsed =>
    rw [read] at found
    obtain ⟨comparison, compared, told⟩ := bind_eq_ok.mp found
    simp only [pure, Except.pure, Except.ok.injEq, Option.ite_none_left_eq_some, Bool.not_eq_true,
      Option.some.injEq] at told
    exact ⟨_, _, _, .compare read compared told.1, told.2.symm⟩

theorem finding_of_checkPredicate {rule : Rule} {name : String} {finding : Finding}
    (found : rule.checkPredicate name registry snapshot = .ok (some finding)) :
    ∃ message told value, (Check.predicate name).Tells registry snapshot message told value ∧
      finding = rule.failure message told value := by
  unfold Rule.checkPredicate at found
  split at found
  · cases found
  · next predicate known =>
    split at found
    · cases found
    · next outcome answered =>
      simp only [Except.ok.injEq, Option.ite_none_left_eq_some, Bool.not_eq_true, Option.some.injEq] at found
      exact ⟨_, _, _, .predicate known answered found.1, found.2.symm⟩

/-- A finding is always a failure of the rule that was judged, with what its check has to say. -/
theorem finding_of_verdict {rule : Rule} {finding : Finding}
    (failed : rule.verdict registry snapshot = .failed finding) :
    ∃ message told value, rule.check.Tells registry snapshot message told value ∧
      finding = rule.failure message told value := by
  unfold Rule.verdict Rule.judge at failed
  split at failed
  · contradiction
  · cases check : rule.check with
    | unconfigured => simp [check] at failed
    | compare path condition =>
      simp only [check] at failed
      exact finding_of_checkPath registry (ofCheck_eq_failed.mp failed)
    | predicate name =>
      simp only [check] at failed
      exact finding_of_checkPredicate registry (ofCheck_eq_failed.mp failed)

/-! ### Answers -/

/-- Whether what a check asks for is so, unless it comes to no answer. -/
def Check.answer? (snapshot : Snapshot) : Check → Option Bool
  | .compare path condition => do
    let parsed ← (Path.parse path).toOption
    let comparison ← (condition.apply path (Path.resolve snapshot.view parsed.steps)).toOption
    return comparison.passed
  | .predicate name =>
    match registry.get? name with
    | none => some true
    | some known => (known snapshot).map (·.passed)
  | .unconfigured => none

theorem answer?_compare {path : String} {condition : Condition} {parsed : Path}
    {comparison : Comparison} (read : (Path.parse path).toOption = some parsed)
    (compared : condition.apply path (Path.resolve snapshot.view parsed.steps) = .ok comparison) :
    (Check.compare path condition).answer? registry snapshot = some comparison.passed := by
  simp only [Check.answer?, read, Option.bind_eq_bind, Option.bind_some, compared]
  rfl

theorem answerOf_checkPath (rule : Rule) (path : String) (condition : Condition) :
    answerOf (rule.checkPath path condition snapshot none).1 =
      (Check.compare path condition).answer? registry snapshot := by
  rw [checkPath_of_faithful (faithful_none snapshot), Check.answer?]
  cases Path.parse path with
  | error cause => rfl
  | ok parsed =>
    simp only [Rule.checkPathIn, Except.toOption, Option.bind_eq_bind, Option.bind_some]
    cases condition.apply path (Path.resolve snapshot.view parsed.steps) with
    | error cause => rfl
    | ok comparison =>
      obtain ⟨passed, message⟩ := comparison
      cases passed <;> rfl

theorem answerOf_checkPredicate (rule : Rule) (name : String) :
    answerOf (rule.checkPredicate name registry snapshot) =
      (Check.predicate name).answer? registry snapshot := by
  simp only [Rule.checkPredicate, Check.answer?]
  cases registry.get? name with
  | none => rfl
  | some predicate =>
    simp only
    cases predicate snapshot with
    | none => rfl
    | some outcome =>
      obtain ⟨passed, message, path, value⟩ := outcome
      cases passed <;> rfl

/-- A rule is judged by the answer to its check, if it is enabled and made for the vendor. -/
theorem verdict_of_answer (rule : Rule) :
    let asked := rule.enabled && rule.appliesTo snapshot.vendor
    let answer := rule.check.answer? registry snapshot
    (rule.verdict registry snapshot).isFailed = (asked && answer == some false) ∧
      (rule.verdict registry snapshot).isSkipped = !(asked && answer.isSome) := by
  unfold Rule.verdict Rule.judge
  cases asked : rule.enabled && rule.appliesTo snapshot.vendor with
  | false =>
    have unasked : (!rule.enabled || !rule.appliesTo snapshot.vendor) = true := by
      rw [← Bool.not_and, asked, Bool.not_false]
    rw [if_pos unasked]
    exact ⟨rfl, rfl⟩
  | true =>
    have unskipped : (!rule.enabled || !rule.appliesTo snapshot.vendor) = false := by
      rw [← Bool.not_and, asked, Bool.not_true]
    rw [unskipped, if_neg Bool.false_ne_true]
    cases check : rule.check with
    | unconfigured => exact ⟨rfl, rfl⟩
    | compare path condition =>
      simp only [← answerOf_checkPath registry rule, Bool.true_and]
      exact verdict_ofCheck _
    | predicate name =>
      simp only [← answerOf_checkPredicate registry rule, Bool.true_and]
      exact verdict_ofCheck _

end DeviceConfig.Audit
