import DeviceConfig.Audit.Comparison
import DeviceConfig.Audit.Severity
import DeviceConfig.Vendor

/-!
Audit rules. What a rule asks is settled when it is read, so an audit need not look at the many ways
in which a document can put it.
-/

namespace DeviceConfig.Audit

/-- What a rule asks of a snapshot. -/
inductive Check where
  /-- The value at a path meets a condition. -/
  | compare (path : String) (condition : Condition)
  /-- A predicate known by name holds. -/
  | predicate (name : String)
  /-- Nothing that can be answered. -/
  | unconfigured
deriving DecidableEq, Repr

structure Rule where
  id : String
  title : String
  description : Option String := none
  severity : Severity := .low
  /-- The vendors the rule is for; all of them if none is named. -/
  vendorScope : List Vendor := []
  enabled : Bool := true
  check : Check
  remediation : Option String := none
  /-- Noted for others. An audit itself waives nothing. -/
  waivable : Bool := true
deriving DecidableEq, Repr

namespace Rule

/-- A rule of which only the check is known. Its title is its id. -/
def ofCheck (id : String) (check : Check) : Rule := { id, title := id, check }

def appliesTo (rule : Rule) (vendor : Vendor) : Bool :=
  rule.vendorScope.isEmpty || rule.vendorScope.contains vendor

end Rule

/-- Why a document gives no rule. -/
inductive RuleError where
  | missingId
  | ambiguousMode (id : String)
  | unknownMode (id kind : String)
  | missingField (id mode field : String)
  | unknownOperator (id operator : String)
  | patternNotString (id : String)
deriving DecidableEq, Repr

def RuleError.message : RuleError → String
  | .missingId => "rule has no id"
  | .ambiguousMode id => s!"rule {id}: both match and predicate modes are configured"
  | .unknownMode id kind => s!"rule {id}: unknown rule type '{kind}' (expected match or custom)"
  | .missingField id mode field => s!"rule {id}: {mode} rule is missing '{field}'"
  | .unknownOperator id operator => s!"rule {id}: unknown operator '{operator}'"
  | .patternNotString id => s!"rule {id}: operator matches needs a string pattern"

end DeviceConfig.Audit
