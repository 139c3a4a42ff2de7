import DeviceConfig.Json.Writer
import DeviceConfig.Proofs.Json.Spelled
import DeviceConfig.Proofs.Text.Interpolation
import DeviceConfig.Terminal.Listing

/-!
What the report of an audit holds, said without the printers: the lines that people read, and the value that programs
read. What is printed is that and nothing else.
-/

namespace DeviceConfig.CommandLine

open Audit

structure Subject where
  target : String
  kind : TargetType
  vendor : Vendor
  pack : String
  source : String

/-- The numbers in a report: the rules that fail by their severities, and the rules by what became of them. -/
structure Figures where
  failing : Severity → Nat
  passed : Nat
  failed : Nat
  skipped : Nat
  total : Nat

def Figures.clean (figures : Figures) : Bool := figures.failing .critical == 0 && figures.failing .high == 0

def severityWord : Severity → String
  | .critical => "critical"
  | .high => "high"
  | .medium => "medium"
  | .low => "low"
  | .info => "info"

def kindWord : TargetType → String
  | .device => "device"
  | .configVersion => "config_version"
  | .changeSet => "change_set"

def vendorWord : Vendor → String
  | .cisco => "cisco"
  | .mikrotik => "mikrotik"
  | .fortigate => "fortigate"
  | .generic => "generic"

/-! ### For people -/

/-- A text between the codes of a style and the code that ends it, where texts are styled. -/
def coded (styled : Bool) (codes text : String) : String :=
  if styled && codes != "" then "\x1b[" ++ codes ++ "m" ++ text ++ "\x1b[0m" else text

def severityCodes : Severity → String
  | .critical => "1;31"
  | .high => "31"
  | .medium => "33"
  | .low => "36"
  | .info => ""

/-- The lines of one finding. -/
def entryLines (styled verbose : Bool) (finding : Finding) : List String :=
  ("- " ++ coded styled (severityCodes finding.severity) ("[" ++ severityWord finding.severity ++ "]") ++
    " " ++ finding.ruleId ++ ": " ++ finding.message) ::
  if verbose then
    (finding.path.map ("  path: " ++ ·)).toList ++ (finding.remediation.map ("  remediation: " ++ ·)).toList
  else []

def reportLines (styled verbose : Bool) (subject : Subject) (figures : Figures) (findings : List Finding) :
    List String :=
  ["lint target=" ++ subject.target ++ " type=" ++ kindWord subject.kind ++
    " vendor=" ++ vendorWord subject.vendor ++ " pack=" ++ subject.pack] ++
  (if verbose then ["Using rules: " ++ subject.source] else []) ++
  ["result " ++ (if figures.clean then coded styled "32" "passed=true" else coded styled "31" "passed=false") ++
    " critical=" ++ toString (figures.failing .critical) ++ " high=" ++ toString (figures.failing .high) ++
    " medium=" ++ toString (figures.failing .medium) ++ " low=" ++ toString (figures.failing .low) ++
    " info=" ++ toString (figures.failing .info) ++ " waived=0",
   "rules evaluated=" ++ toString (figures.passed + figures.failed) ++ " passed=" ++ toString figures.passed ++
    " failed=" ++ toString figures.failed ++ " skipped=" ++ toString figures.skipped,
   coded styled "1" "findings"] ++
  if findings.isEmpty then ["- none"] else findings.flatMap (entryLines styled verbose)

/-- The lines one under the other, each with its line break. -/
def chars (lines : List String) : List Char := lines.flatMap fun line => line.toList ++ ['\n']

/-! ### For programs -/

def entryValue (finding : Finding) : Json :=
  .object <|
    [("id", .string finding.id), ("ruleId", .string finding.ruleId), ("ruleName", .string finding.ruleName),
      ("severity", .string (severityWord finding.severity)), ("message", .string finding.message)] ++
    (finding.path.map fun path => ("path", .string path)).toList ++
    (finding.value.map fun value => ("value", value)).toList ++
    (finding.remediation.map fun text => ("remediation", .string text)).toList ++
    [("waived", .bool finding.waived)]

def summaryValue (figures : Figures) : Json :=
  .object [("critical", .nat (figures.failing .critical)), ("high", .nat (figures.failing .high)),
    ("medium", .nat (figures.failing .medium)), ("low", .nat (figures.failing .low)),
    ("info", .nat (figures.failing .info)), ("waived", .nat 0), ("total", .nat figures.total),
    ("passed", .bool figures.clean)]

def reportValue (subject : Subject) (figures : Figures) (findings : List Finding) (milliseconds : Nat) : Json :=
  .object [("targetId", .string subject.target), ("targetType", .string (kindWord subject.kind)),
    ("pack", .string subject.pack), ("rulesSource", .string subject.source),
    ("findings", .array (findings.map entryValue)), ("summary", summaryValue figures),
    ("rulesEvaluated", .nat (figures.passed + figures.failed)), ("rulesPassed", .nat figures.passed),
    ("rulesFailed", .nat figures.failed), ("rulesSkipped", .nat figures.skipped), ("durationMs", .nat milliseconds)]

/-! ### What is printed -/

/-- The numbers in a report of which no finding is waived. -/
structure Figures.OfReport (figures : Figures) (report : Report) : Prop where
  summary : report.summary =
    { critical := figures.failing .critical, high := figures.failing .high, medium := figures.failing .medium,
      low := figures.failing .low, info := figures.failing .info, total := figures.total, passed := figures.clean }
  passed : report.passed = figures.passed
  failed : report.failed = figures.failed
  skipped : report.skipped = figures.skipped

theorem chars_append (front back : List String) : chars (front ++ back) = chars front ++ chars back :=
  List.flatMap_append

theorem unlines_eq_chars {lines : List String} (something : lines ≠ []) :
    (Text.unlines lines).toList ++ ['\n'] = chars lines := by
  induction lines with
  | nil => contradiction
  | cons line lines ih =>
    cases lines with
    | nil => simp [Text.unlines, Text.join, chars]
    | cons next more =>
      have below := ih (List.cons_ne_nil _ _)
      simp only [Text.unlines, chars, List.flatMap_cons] at below ⊢
      rw [← below]
      simp [Text.join]

theorem kindWord_eq (kind : TargetType) : kind.name = kindWord kind := by cases kind <;> rfl

theorem vendorWord_eq (vendor : Vendor) : vendor.name = vendorWord vendor := by cases vendor <;> rfl

theorem severityTag_eq (styled : Bool) (severity : Severity) : Terminal.severityTag styled severity =
    coded styled (severityCodes severity) ("[" ++ severityWord severity ++ "]") := by
  cases styled <;> cases severity <;> decide

theorem findingText_eq (styled verbose : Bool) (finding : Finding) :
    (Terminal.findingText styled verbose finding).toList ++ ['\n'] = chars (entryLines styled verbose finding) := by
  rw [Terminal.findingText, severityTag_eq]
  cases verbose <;> cases path : finding.path <;> cases remediation : finding.remediation <;>
    simp [entryLines, chars, path, remediation, String.toList_append]

theorem findingLines_eq (styled verbose : Bool) (findings : List Finding) :
    chars (Terminal.findingLines styled verbose findings) =
      chars (if findings.isEmpty then ["- none"] else findings.flatMap (entryLines styled verbose)) := by
  rw [Terminal.findingLines]
  split
  · rfl
  · simp only [chars, List.flatMap_map, List.flatMap_assoc]
    exact List.flatMap_congr fun finding _ => findingText_eq styled verbose finding

theorem verdict_eq (styled clean : Bool) :
    (if clean then Terminal.paint styled (.ofColor .green) "passed=true"
      else Terminal.paint styled (.ofColor .red) "passed=false") =
    if clean then coded styled "32" "passed=true" else coded styled "31" "passed=false" := by
  cases styled <;> cases clean <;> decide

theorem heading_eq (styled : Bool) : Terminal.heading styled "findings" = coded styled "1" "findings" := by
  cases styled <;> decide

theorem auditText_eq (styled verbose : Bool) (subject : Subject) {figures : Figures} {report : Report}
    (shown : figures.OfReport report) :
    (Terminal.auditText styled verbose
      ⟨subject.target, subject.kind, subject.vendor, subject.pack, subject.source⟩ report ++ "\n").toList =
      chars (reportLines styled verbose subject figures report.findings) := by
  obtain ⟨summary, passed, failed, skipped⟩ := shown
  have ended : "\n".toList = ['\n'] := rfl
  rw [String.toList_append, ended, Terminal.auditText, unlines_eq_chars (by simp), summary, verdict_eq, heading_eq, kindWord_eq, vendorWord_eq,
    Report.evaluated, passed, failed, skipped, reportLines, chars_append, findingLines_eq]
  have unwaived : " waived=" ++ toString (0 : Nat) = " waived=0" := by decide
  simp only [Text.toString_text, String.append_assoc, unwaived, chars_append]

theorem report_eq (finding : Finding) : finding.report = entryValue finding := by
  obtain ⟨_, _, _, severity, _, path, value, remediation, _⟩ := finding
  cases severity <;> cases path <;> cases value <;> cases remediation <;> rfl

theorem members_spelled (subject : Subject) {figures : Figures} {report : Report} (shown : figures.OfReport report)
    (milliseconds : Nat) :
    ∃ cs, (Json.pretty 0 (.object
      ([("targetId", .string subject.target), ("targetType", .string subject.kind.name),
        ("pack", .string subject.pack), ("rulesSource", .string subject.source)] ++
        report.members milliseconds)) ++ "\n").toList = cs ++ ['\n'] ∧
      Json.Spells (reportValue subject figures report.findings milliseconds) cs := by
  obtain ⟨summary, passed, failed, skipped⟩ := shown
  rw [Report.members, Report.evaluated, summary, passed, failed, skipped, kindWord_eq,
    List.map_congr_left fun finding _ => report_eq finding]
  exact ⟨_, String.toList_append, Json.spells_pretty 0 _⟩

end DeviceConfig.CommandLine
