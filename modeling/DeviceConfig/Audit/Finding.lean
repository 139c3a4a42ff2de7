import DeviceConfig.Audit.Severity
import DeviceConfig.Document.Record

/-!
Findings: the rules that failed, each with what was found. Besides, how many there are of each severity.
-/

namespace DeviceConfig.Audit

open Document

structure Finding where
  id : String
  ruleId : String
  ruleName : String
  severity : Severity
  message : String
  path : Option String := none
  value : Option Json := none
  remediation : Option String := none
  /-- A waived finding counts for nothing but itself. -/
  waived : Bool := false
deriving Repr

namespace Finding

instance : Recorded Finding where
  Values := String × String × String × Severity × String × Option String × Option Json ×
    Option String × Bool × Unit
  fields :=
    .required "id" <|
    .required "ruleId" <|
    .required "ruleName" <|
    .required "severity" <|
    .required "message" <|
    .optional "path" <|
    .optional "value" <|
    .optional "remediation" <|
    .plain "waived" false <|
    .done
  ofValues := fun (id, ruleId, ruleName, severity, message, path, value, remediation, waived, _) =>
    { id, ruleId, ruleName, severity, message, path, value, remediation, waived }
  toValues finding := (finding.id, finding.ruleId, finding.ruleName, finding.severity,
    finding.message, finding.path, finding.value, finding.remediation, finding.waived, ())

/-- The id of a finding until it is given one of its own. -/
def noId : String := "finding-"

/-- Gives ids to findings by their places. -/
def withIds (id : Nat → String) (findings : List Finding) : List Finding :=
  findings.mapIdx fun place finding => { finding with id := id place }

/-- The finding as it is reported, its members in the order of the fields. -/
def report (finding : Finding) : Json := .object (Recorded.members finding)

end Finding

/-- Counts of findings that are not waived, and of those that are. -/
structure Summary where
  critical : Nat := 0
  high : Nat := 0
  medium : Nat := 0
  low : Nat := 0
  info : Nat := 0
  waived : Nat := 0
  /-- The number of rules, whatever became of them. -/
  total : Nat
  /-- No blocking finding stands. -/
  passed : Bool := false
deriving DecidableEq, Repr

namespace Summary

/-- Counts one more finding: a waived one as such, any other under its severity. -/
def add (summary : Summary) (finding : Finding) : Summary :=
  if finding.waived then { summary with waived := summary.waived + 1 }
  else match finding.severity with
    | .critical => { summary with critical := summary.critical + 1 }
    | .high => { summary with high := summary.high + 1 }
    | .medium => { summary with medium := summary.medium + 1 }
    | .low => { summary with low := summary.low + 1 }
    | .info => { summary with info := summary.info + 1 }

def ofFindings (findings : List Finding) (total : Nat) : Summary :=
  let summary := findings.foldl add { total }
  { summary with passed := summary.critical == 0 && summary.high == 0 }

def count (summary : Summary) : Severity → Nat
  | .critical => summary.critical
  | .high => summary.high
  | .medium => summary.medium
  | .low => summary.low
  | .info => summary.info

def report (summary : Summary) : Json :=
  .object [("critical", .nat summary.critical), ("high", .nat summary.high),
    ("medium", .nat summary.medium), ("low", .nat summary.low), ("info", .nat summary.info),
    ("waived", .nat summary.waived), ("total", .nat summary.total),
    ("passed", .bool summary.passed)]

end Summary

end DeviceConfig.Audit
