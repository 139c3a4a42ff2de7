import Mathlib
import DeviceConfig.Audit.Builtin
import DeviceConfig.Pattern.Standard
import DeviceConfig.Proofs.Audit.Summary
import DeviceConfig.Proofs.Audit.Verdict

/-!
An audit judges each rule as if it were alone, and its report only collects the verdicts.
-/

namespace DeviceConfig.Audit

/-! ### Verdicts -/

theorem length_verdicts (verdicts : List Verdict) :
    verdicts.countP Verdict.isPassed + verdicts.countP Verdict.isFailed +
      verdicts.countP Verdict.isSkipped = verdicts.length := by
  induction verdicts with
  | nil => rfl
  | cons verdict verdicts ih =>
    simp only [List.countP_cons, List.length_cons, ← ih]
    cases verdict <;> simp [Verdict.isPassed, Verdict.isFailed, Verdict.isSkipped] <;> omega

theorem length_findings (verdicts : List Verdict) :
    (verdicts.flatMap Verdict.findings).length = verdicts.countP Verdict.isFailed := by
  induction verdicts with
  | nil => rfl
  | cons verdict verdicts ih =>
    rw [List.flatMap_cons, List.length_append, List.countP_cons, ih]
    cases verdict <;> simp [Verdict.isFailed, Verdict.findings, Nat.add_comm]

/-! ### An audit under way -/

/-- What the progress has collected are these verdicts. -/
structure Progress.Collects (snapshot : Snapshot) (verdicts : List Verdict) (progress : Progress) :
    Prop where
  faithful : progress.shared.Faithful snapshot
  findings : progress.findings = verdicts.flatMap Verdict.findings
  passed : progress.passed = verdicts.countP Verdict.isPassed
  failed : progress.failed = verdicts.countP Verdict.isFailed
  skipped : progress.skipped = verdicts.countP Verdict.isSkipped

theorem collects_nil (snapshot : Snapshot) : Progress.Collects snapshot [] {} :=
  ⟨faithful_none snapshot, rfl, rfl, rfl, rfl⟩

theorem count_collects {snapshot : Snapshot} {progress : Progress} {verdicts : List Verdict}
    (collects : progress.Collects snapshot verdicts) (verdict : Verdict) :
    (progress.count verdict).Collects snapshot (verdicts ++ [verdict]) := by
  obtain ⟨faithful, findings, passed, failed, skipped⟩ := collects
  cases verdict <;>
    exact ⟨faithful, by simp [Progress.count, Verdict.findings, findings],
      by simp [Progress.count, Verdict.isPassed, passed],
      by simp [Progress.count, Verdict.isFailed, failed],
      by simp [Progress.count, Verdict.isSkipped, skipped]⟩

section
variable [Pattern.Engine] (registry : Registry) {snapshot : Snapshot}

theorem step_collects {progress : Progress} {verdicts : List Verdict}
    (collects : progress.Collects snapshot verdicts) (rule : Rule) :
    (progress.step registry snapshot rule).Collects snapshot
      (verdicts ++ [rule.verdict registry snapshot]) := by
  obtain ⟨same, kept⟩ := judge_of_faithful registry collects.faithful rule
  have viewed : Progress.Collects snapshot verdicts
      { progress with shared := (rule.judge registry snapshot progress.shared).2 } :=
    ⟨kept, collects.findings, collects.passed, collects.failed, collects.skipped⟩
  rw [← same]
  exact count_collects viewed _

theorem foldl_collects {progress : Progress} {verdicts : List Verdict}
    (collects : progress.Collects snapshot verdicts) (rules : List Rule) :
    (rules.foldl (Progress.step registry snapshot) progress).Collects snapshot
      (verdicts ++ rules.map (·.verdict registry snapshot)) := by
  induction rules generalizing progress verdicts with
  | nil => simpa using collects
  | cons rule rules ih =>
    rw [List.foldl_cons, List.map_cons, List.append_cons]
    exact ih (step_collects registry collects rule)

/-! ### A whole audit -/

variable (snapshot)

/-- A report is made of the verdicts on the rules, each judged alone. -/
theorem run_eq (rules : List Rule) :
    let verdicts := rules.map (·.verdict registry snapshot)
    run registry snapshot rules =
      { findings := verdicts.flatMap Verdict.findings
        summary := .ofFindings (verdicts.flatMap Verdict.findings) rules.length
        passed := verdicts.countP Verdict.isPassed
        failed := verdicts.countP Verdict.isFailed
        skipped := verdicts.countP Verdict.isSkipped } := by
  obtain ⟨_, findings, passed, failed, skipped⟩ := foldl_collects registry (collects_nil snapshot) rules
  rw [List.nil_append] at findings passed failed skipped
  simp only [run, findings, passed, failed, skipped]

theorem findings_run (rules : List Rule) :
    (run registry snapshot rules).findings =
      rules.flatMap fun rule => (run registry snapshot [rule]).findings := by
  simp [run_eq, List.flatMap_map]

theorem mem_findings_run {rules : List Rule} {finding : Finding} :
    finding ∈ (run registry snapshot rules).findings ↔
      ∃ rule ∈ rules, rule.verdict registry snapshot = .failed finding := by
  simp [run_eq, List.mem_flatMap, Verdict.mem_findings]

/-- No audit waives a finding. -/
theorem waived_of_run {rules : List Rule} {finding : Finding}
    (member : finding ∈ (run registry snapshot rules).findings) : finding.waived = false := by
  obtain ⟨rule, _, failed⟩ := (mem_findings_run registry snapshot).mp member
  obtain ⟨_, _, _, -, rfl⟩ := finding_of_verdict registry failed
  rfl

/-- What is counted among the verdicts is counted rule by rule. -/
theorem countP_verdicts (p : Verdict → Bool) (rules : List Rule) :
    (rules.map (·.verdict registry snapshot)).countP p =
      (rules.map fun rule => [rule.verdict registry snapshot].countP p).sum := by
  induction rules with
  | nil => rfl
  | cons rule rules ih =>
    rw [List.map_cons, List.map_cons, List.sum_cons, ← ih, ← List.countP_append,
      List.singleton_append]

theorem failed_eq_length (rules : List Rule) :
    (run registry snapshot rules).failed = (run registry snapshot rules).findings.length := by
  rw [run_eq]
  exact (length_findings _).symm

theorem length_run (rules : List Rule) :
    (run registry snapshot rules).passed + (run registry snapshot rules).failed +
      (run registry snapshot rules).skipped = rules.length := by
  rw [run_eq]
  exact (length_verdicts _).trans (List.length_map _)

theorem waived_run (rules : List Rule) : (run registry snapshot rules).summary.waived = 0 := by
  have counted : (run registry snapshot rules).summary.waived =
      (run registry snapshot rules).findings.countP (·.waived) := Summary.waived_ofFindings _ _
  rw [counted, List.countP_eq_zero]
  intro finding member
  simp [waived_of_run registry snapshot member]

/-- An audit is passed unless a rule of a blocking severity fails. -/
theorem passed_run_iff (rules : List Rule) :
    (run registry snapshot rules).summary.passed = true ↔
      ∀ rule ∈ rules, rule.severity.isBlocking →
        (rule.verdict registry snapshot).isFailed = false := by
  have counted := Summary.passed_ofFindings (run registry snapshot rules).findings rules.length
  refine counted.trans ⟨?_, ?_⟩
  · intro waived rule member blocking
    cases judged : rule.verdict registry snapshot with
    | failed finding =>
      have found := (mem_findings_run registry snapshot).mpr ⟨rule, member, judged⟩
      obtain ⟨_, _, _, -, rfl⟩ := finding_of_verdict registry judged
      exact absurd (waived _ found blocking) (by simp [waived_of_run registry snapshot found])
    | passed => rfl
    | skipped => rfl
  · intro holds finding found blocking
    obtain ⟨rule, member, judged⟩ := (mem_findings_run registry snapshot).mp found
    obtain ⟨_, _, _, -, rfl⟩ := finding_of_verdict registry judged
    have unfailed := holds rule member blocking
    rw [judged] at unfailed
    contradiction

theorem findings_perm {rules reordered : List Rule} (perm : rules.Perm reordered) :
    (run registry snapshot rules).findings.Perm (run registry snapshot reordered).findings := by
  rw [run_eq, run_eq]
  exact (perm.map _).flatMap_right _

/-- The order of the rules shows in the findings only. -/
theorem run_perm {rules reordered : List Rule} (perm : rules.Perm reordered) :
    run registry snapshot reordered =
      { run registry snapshot rules with
        findings := (run registry snapshot reordered).findings } := by
  have verdicts := perm.map (·.verdict registry snapshot)
  have findings := findings_perm registry snapshot perm
  simp only [run_eq] at findings ⊢
  rw [Summary.ofFindings_perm findings, perm.length_eq, verdicts.countP_eq, verdicts.countP_eq,
    verdicts.countP_eq]

/-- Every rule is judged on its own and counted once. The findings are those of the rules one by one, in the
order of the rules, and nothing else depends on the order. -/
theorem run_judges_each_alone (rules : List Rule) :
    let report := run registry snapshot rules
    let alone := fun rule => run registry snapshot [rule]
    report.findings = rules.flatMap (fun rule => (alone rule).findings) ∧
    report.passed = (rules.map fun rule => (alone rule).passed).sum ∧
    report.failed = (rules.map fun rule => (alone rule).failed).sum ∧
    report.skipped = (rules.map fun rule => (alone rule).skipped).sum ∧
    report.passed + report.failed + report.skipped = rules.length ∧
    report.summary.total = rules.length ∧
    report.evaluated = report.passed + report.failed ∧
    report.failed = report.findings.length ∧
    report.failed = report.summary.critical + report.summary.high + report.summary.medium +
      report.summary.low + report.summary.info ∧
    report.summary.waived = 0 ∧
    ∀ reordered, rules.Perm reordered →
      let other := run registry snapshot reordered
      other.findings = reordered.flatMap (fun rule => (alone rule).findings) ∧
      report.findings.Perm other.findings ∧ other.summary = report.summary ∧
      other.passed = report.passed ∧ other.failed = report.failed ∧
      other.skipped = report.skipped ∧ other.evaluated = report.evaluated := by
  intro report alone
  have counted : report.summary.critical + report.summary.high + report.summary.medium +
      report.summary.low + report.summary.info + report.summary.waived = report.findings.length :=
    Summary.sum_ofFindings _ _
  have unwaived : report.summary.waived = 0 := waived_run registry snapshot rules
  have failed : report.failed = report.findings.length := failed_eq_length registry snapshot rules
  refine ⟨findings_run registry snapshot rules, ?_, ?_, ?_, length_run registry snapshot rules,
    Summary.total_ofFindings _ _, rfl, failed, by omega, unwaived, ?_⟩
  · simp only [report, alone, run_eq]
    exact countP_verdicts registry snapshot Verdict.isPassed rules
  · simp only [report, alone, run_eq]
    exact countP_verdicts registry snapshot Verdict.isFailed rules
  · simp only [report, alone, run_eq]
    exact countP_verdicts registry snapshot Verdict.isSkipped rules
  · intro reordered perm
    have same := run_perm registry snapshot perm
    refine ⟨findings_run registry snapshot reordered, findings_perm registry snapshot perm, ?_⟩
    rw [same]
    exact ⟨rfl, rfl, rfl, rfl, rfl⟩

end

/-- Three rules the other way round: two that fail, and between them one with a path that cannot be read. -/
theorem run_judges_each_alone_swapped :
    let host := Rule.ofCheck "HOST" (.compare "$.device.hostname" ⟨.notEmpty, none⟩)
    let path := Rule.ofCheck "BAD" (.compare "$.." ⟨.exists, none⟩)
    let ssh := Rule.ofCheck "SSH" (.predicate "sshEnabled")
    let report := run .builtin {} [host, path, ssh]
    let other := run .builtin {} [ssh, path, host]
    [host, path, ssh].Perm [ssh, path, host] ∧
      report.findings.map (·.message) = ["Expected $.device.hostname to not be empty", "SSH not enabled"] ∧
      other.findings = [ssh, path, host].flatMap (fun rule => (run .builtin {} [rule]).findings) ∧
      report.findings.Perm other.findings ∧ other.findings.map (·.ruleId) = ["SSH", "HOST"] ∧
      other.summary = report.summary ∧ other.passed = report.passed ∧ other.failed = report.failed ∧
      other.skipped = report.skipped ∧ other.evaluated = report.evaluated := by
  intro host path ssh report other
  have perm : [host, path, ssh].Perm [ssh, path, host] := List.reverse_perm [ssh, path, host]
  obtain ⟨-, -, -, -, -, -, -, -, -, -, reorder⟩ := run_judges_each_alone .builtin {} [host, path, ssh]
  obtain ⟨each, permuted, same⟩ := reorder [ssh, path, host] perm
  exact ⟨perm, by decide +kernel, each, permuted, by decide +kernel, same⟩

end DeviceConfig.Audit
