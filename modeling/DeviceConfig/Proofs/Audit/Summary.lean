import DeviceConfig.Audit.Finding

/-!
What a summary counts: for each severity the findings that are not waived. Every finding is counted once, no
count depends on the order, and findings of two lots may be counted apart and the counts added.
-/

namespace DeviceConfig.Audit

theorem Severity.isBlocking_iff {severity : Severity} :
    severity.isBlocking = true ↔ severity = .critical ∨ severity = .high := by
  cases severity <;> decide

namespace Summary

/-- Not waived and of the severity. -/
def counts (severity : Severity) (finding : Finding) : Bool :=
  !finding.waived && finding.severity == severity

/-- What a summary counts behind what it has counted before. -/
theorem foldl_add (findings : List Finding) (summary : Summary) :
    findings.foldl add summary =
      { critical := summary.critical + findings.countP (counts .critical)
        high := summary.high + findings.countP (counts .high)
        medium := summary.medium + findings.countP (counts .medium)
        low := summary.low + findings.countP (counts .low)
        info := summary.info + findings.countP (counts .info)
        waived := summary.waived + findings.countP (·.waived)
        total := summary.total
        passed := summary.passed } := by
  induction findings generalizing summary with
  | nil => rfl
  | cons finding findings ih =>
    rw [List.foldl_cons, ih]
    cases waived : finding.waived with
    | true =>
      simp [add, counts, waived]
      omega
    | false => cases severity : finding.severity <;> simp [add, counts, waived, severity] <;> omega

theorem count_ofFindings (findings : List Finding) (total : Nat) (severity : Severity) :
    (ofFindings findings total).count severity = findings.countP (counts severity) := by
  cases severity <;> simp [ofFindings, foldl_add, count]

theorem waived_ofFindings (findings : List Finding) (total : Nat) :
    (ofFindings findings total).waived = findings.countP (·.waived) := by
  simp [ofFindings, foldl_add]

theorem total_ofFindings (findings : List Finding) (total : Nat) :
    (ofFindings findings total).total = total := by
  simp [ofFindings, foldl_add]

/-- Every finding is counted once. -/
theorem sum_ofFindings (findings : List Finding) (total : Nat) :
    let summary := ofFindings findings total
    summary.critical + summary.high + summary.medium + summary.low + summary.info +
      summary.waived = findings.length := by
  simp only [ofFindings, foldl_add, Nat.zero_add]
  induction findings with
  | nil => rfl
  | cons finding findings ih =>
    simp only [List.countP_cons, List.length_cons, ← ih]
    cases waived : finding.waived with
    | true => simp [counts, waived]; omega
    | false => cases severity : finding.severity <;> simp [counts, waived, severity] <;> omega

theorem ofFindings_perm {findings others : List Finding} (reordered : findings.Perm others)
    (total : Nat) : ofFindings findings total = ofFindings others total := by
  simp only [ofFindings, foldl_add, reordered.countP_eq]

theorem passed_ofFindings (findings : List Finding) (total : Nat) :
    (ofFindings findings total).passed = true ↔
      ∀ finding ∈ findings, finding.severity.isBlocking → finding.waived := by
  simp only [ofFindings, foldl_add, Nat.zero_add, Bool.and_eq_true, beq_iff_eq, List.countP_eq_zero,
    ← forall_and]
  refine forall_congr' fun finding => ?_
  refine imp_congr_right fun _ => ?_
  cases severity : finding.severity <;> simp [counts, severity, Severity.isBlocking]

/-! ### Two lots of findings -/

/-- What two summaries say together, of rules that are so many in all. -/
def merge (left right : Summary) (total : Nat) : Summary where
  critical := left.critical + right.critical
  high := left.high + right.high
  medium := left.medium + right.medium
  low := left.low + right.low
  info := left.info + right.info
  waived := left.waived + right.waived
  total
  passed := left.passed && right.passed

theorem passed_append (findings others : List Finding) (first second total : Nat) :
    (ofFindings (findings ++ others) total).passed =
      ((ofFindings findings first).passed && (ofFindings others second).passed) := by
  rw [Bool.eq_iff_iff, Bool.and_eq_true, passed_ofFindings, passed_ofFindings, passed_ofFindings]
  exact List.forall_mem_append

theorem ofFindings_append (findings others : List Finding) (first second total : Nat) :
    ofFindings (findings ++ others) total =
      merge (ofFindings findings first) (ofFindings others second) total := by
  have passed := passed_append findings others first second total
  simp only [ofFindings, foldl_add, List.countP_append, Nat.zero_add] at passed ⊢
  rw [passed]
  rfl

/-- A summary counts every finding once: a waived one as such, any other under its severity. It does not depend on
the order of the findings, and that of two lots is what the two summaries say together, however many rules each of
them is out of. -/
theorem tally_exact (findings : List Finding) (total : Nat) :
    let summary := ofFindings findings total
    (∀ severity, summary.count severity =
      (findings.filter fun finding => !finding.waived && finding.severity == severity).length) ∧
    summary.waived = (findings.filter (·.waived)).length ∧
    summary.critical + summary.high + summary.medium + summary.low + summary.info + summary.waived =
      findings.length ∧
    summary.total = total ∧
    (summary.passed = true ↔
      ∀ finding ∈ findings, finding.severity = .critical ∨ finding.severity = .high → finding.waived = true) ∧
    (∀ reordered, reordered.Perm findings → ofFindings reordered total = summary) ∧
    ∀ others first second,
      ofFindings (findings ++ others) total = merge (ofFindings findings first) (ofFindings others second) total := by
  refine ⟨fun severity => ?_, ?_, sum_ofFindings findings total, total_ofFindings findings total, ?_,
    fun reordered permuted => ofFindings_perm permuted total, fun others first second => ?_⟩
  · rw [count_ofFindings, List.countP_eq_length_filter]
    rfl
  · rw [waived_ofFindings, List.countP_eq_length_filter]
  · simp only [passed_ofFindings, Severity.isBlocking_iff]
  · exact ofFindings_append findings others first second total

/-- What blocks has been waived here, and what stands does not block. -/
def reviewed : List Finding :=
  let found (severity : Severity) (waived : Bool) : Finding :=
    { id := Finding.noId, ruleId := "R1", ruleName := "rule", severity, message := "msg", waived }
  [found .medium false, found .critical true, found .medium false, found .info false, found .high true]

theorem tally_exact_reviewed : reviewed.reverse.Perm reviewed ∧
    ofFindings reviewed.reverse 9 = ofFindings reviewed 9 ∧ (ofFindings reviewed 9).passed = true ∧
    (ofFindings reviewed 9).waived = 2 ∧ (ofFindings reviewed 9).count .medium = 2 ∧
    (ofFindings reviewed 9).count .critical = 0 := by
  obtain ⟨count, waived, -, -, passed, order, -⟩ := tally_exact reviewed 9
  have back := reviewed.reverse_perm
  have standing : ∀ finding ∈ reviewed,
      finding.severity = .critical ∨ finding.severity = .high → finding.waived = true := by decide
  exact ⟨back, order _ back, passed.mpr standing, waived.trans rfl, (count _).trans rfl, (count _).trans rfl⟩

end Summary

end DeviceConfig.Audit
