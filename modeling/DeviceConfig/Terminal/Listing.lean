import DeviceConfig.Audit.Builtin
import DeviceConfig.Audit.Run
import DeviceConfig.Audit.Target
import DeviceConfig.Rollout.Plan
import DeviceConfig.Terminal.Style

/-!
Results as texts for people to read.
-/

namespace DeviceConfig.Terminal

open Audit Text

/-- A severity in brackets, the more striking the graver it is. -/
def severityTag (styled : Bool) (severity : Severity) : String :=
  let style : Style := match severity with
    | .critical => { bold := true, color := some .red }
    | .high => .ofColor .red
    | .medium => .ofColor .yellow
    | .low => .ofColor .cyan
    | .info => {}
  paint styled style s!"[{severity.name}]"

def heading (styled : Bool) (title : String) : String := paint styled .bolded title

/-- A heading in a color. -/
def headingIn (styled : Bool) (color : Color) (title : String) : String :=
  paint styled (.ofColor color) (heading styled title)

/-- A finding on one line; the verbose form has more lines for the path and the remediation. -/
def findingText (styled verbose : Bool) (finding : Finding) : String :=
  let tag := severityTag styled finding.severity
  let path := finding.path.elim "" fun path => s!"\n  path: {path}"
  let remediation := finding.remediation.elim "" fun text => s!"\n  remediation: {text}"
  s!"- {tag} {finding.ruleId}: {finding.message}" ++ if verbose then path ++ remediation else ""

/-- Findings one under the other, or a line that says there is none. -/
def findingLines (styled verbose : Bool) (findings : List Finding) : List String :=
  if findings.isEmpty then ["- none"] else findings.map (findingText styled verbose)

/-- What was audited, and with which rules. -/
structure AuditHeader where
  targetId : String
  targetType : TargetType
  vendor : Vendor
  packId : String
  source : String

def auditText (styled verbose : Bool) (header : AuditHeader) (report : Report) : String :=
  let summary := report.summary
  let verdict :=
    if summary.passed then paint styled (.ofColor .green) "passed=true"
    else paint styled (.ofColor .red) "passed=false"
  unlines <|
    [s!"lint target={header.targetId} type={header.targetType.name}" ++
      s!" vendor={header.vendor.name} pack={header.packId}"] ++
    (if verbose then [s!"Using rules: {header.source}"] else []) ++
    [s!"result {verdict} critical={summary.critical} high={summary.high}" ++
      s!" medium={summary.medium} low={summary.low} info={summary.info} waived={summary.waived}",
     s!"rules evaluated={report.evaluated} passed={report.passed} failed={report.failed}" ++
      s!" skipped={report.skipped}",
     heading styled "findings"] ++
    findingLines styled verbose report.findings

/-- The commands of a rollout by sections, or those of one section alone. -/
def rolloutText (styled : Bool) (only : Option String) (rollout : Rollout) : String :=
  let sections := rollout.sections.filter fun part => only.all (· == part.1.name)
  let plans :=
    if only.isSome then []
    else headingIn styled .green "[verify]" :: rollout.verify ++
      headingIn styled .yellow "[rollback]" :: rollout.rollback
  unlines <|
    s!"render vendor={rollout.vendor.name}" ::
    sections.flatMap (fun part =>
      headingIn styled .cyan s!"[{part.1.name}]" :: part.2) ++ plans

def preflightText (styled : Bool) (findings : List Finding) : String :=
  unlines (heading styled "preflight" :: findingLines styled true findings)

/-- Predicates with their descriptions set under one another. -/
def predicatesText (predicates : List Builtin) : String :=
  let width := (predicates.map (·.name.length)).foldl max 0
  unlines (predicates.map fun predicate =>
    let padding := String.ofList (List.replicate (width - predicate.name.length) ' ')
    predicate.name ++ padding ++ "  " ++ predicate.description)

end DeviceConfig.Terminal
