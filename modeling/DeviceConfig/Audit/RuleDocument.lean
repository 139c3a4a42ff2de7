import DeviceConfig.Audit.Rule
import DeviceConfig.Document.Record

/-!
Rules as documents put them. There are two forms: the current one has the check at the top level, the
legacy one has it in a part of its own, and a document may mix them. Where both say something, the
current form counts.
-/

namespace DeviceConfig.Audit

open Document Text

structure ConditionDocument where
  operator : Option String := none
  value : Option Json := none
deriving Repr

instance : Recorded ConditionDocument where
  Values := Option String × Option Json × Unit
  fields :=
    .optional { name := "operator", aliases := ["op"] } <|
    .optional "value" <|
    .done
  ofValues := fun (operator, value, _) => { operator, value }
  toValues condition := (condition.operator, condition.value, ())

/-- The check of the legacy form. -/
structure LegacyDocument where
  kind : Option String := none
  path : Option String := none
  operator : Option String := none
  value : Option Json := none
  predicate : Option String := none
deriving Repr

instance : Recorded LegacyDocument where
  Values := Option String × Option String × Option String × Option Json × Option String × Unit
  fields :=
    .optional "type" <|
    .optional "path" <|
    .optional "operator" <|
    .optional "value" <|
    .optional "predicate" <|
    .done
  ofValues := fun (kind, path, operator, value, predicate, _) =>
    { kind, path, operator, value, predicate }
  toValues legacy :=
    (legacy.kind, legacy.path, legacy.operator, legacy.value, legacy.predicate, ())

structure RuleDocument where
  id : String := ""
  title : Option String := none
  name : Option String := none
  description : Option String := none
  severity : Option Severity := none
  vendorScope : List Vendor := []
  enabled : Option Bool := none
  kind : Option String := none
  path : Option String := none
  condition : Option ConditionDocument := none
  predicate : Option String := none
  legacy : Option LegacyDocument := none
  remediation : Option String := none
  waivable : Option Bool := none
deriving Repr

instance : Recorded RuleDocument where
  Values := String × Option String × Option String × Option String × Option Severity ×
    List Vendor × Option Bool × Option String × Option String × Option ConditionDocument ×
    Option String × Option LegacyDocument × Option String × Option Bool × Unit
  fields :=
    .plain "id" "" <|
    .optional "title" <|
    .optional "name" <|
    .optional "description" <|
    .optional "severity" <|
    .plain "vendorScope" [] <|
    .optional "enabled" <|
    .optional "type" <|
    .optional "path" <|
    .optional "condition" <|
    .optional { name := "predicateName", aliases := ["customPredicate"] } <|
    .optional "match" <|
    .optional "remediation" <|
    .optional "waivable" <|
    .done
  ofValues := fun (id, title, name, description, severity, vendorScope, enabled, kind, path,
      condition, predicate, legacy, remediation, waivable, _) =>
    { id, title, name, description, severity, vendorScope, enabled, kind, path, condition,
      predicate, legacy, remediation, waivable }
  toValues rule := (rule.id, rule.title, rule.name, rule.description, rule.severity,
    rule.vendorScope, rule.enabled, rule.kind, rule.path, rule.condition, rule.predicate,
    rule.legacy, rule.remediation, rule.waivable, ())

/-- The kinds of check a document can ask for. -/
inductive Mode where
  | compare
  | predicate
  /-- A pattern over the text of the device, which is not at hand. -/
  | unconfigured
deriving DecidableEq, Repr

/-- The mode of a spelling: blanks around it and letter case aside. -/
def Mode.ofText? (text : String) : Option Mode :=
  let word := lower (trim text)
  if ["match", "jsonpath"].contains word then some .compare
  else if ["custom", "predicate"].contains word then some .predicate
  else if word = "regex" then some .unconfigured
  else none

namespace RuleDocument

/-- What a document says about the check, its two forms brought together. -/
structure CheckRequest where
  kind : Option String
  path : Option String
  operator : Option String
  value : Option Json
  predicate : Option String
deriving Repr

def request (rule : RuleDocument) : CheckRequest :=
  let legacy := rule.legacy.getD {}
  let condition := rule.condition.getD {}
  { kind := rule.kind <|> legacy.kind
    path := nonBlank? rule.path <|> nonBlank? legacy.path
    operator := condition.operator <|> legacy.operator
    value := condition.value <|> legacy.value
    predicate := nonBlank? rule.predicate <|> nonBlank? legacy.predicate }

namespace CheckRequest

/-- The mode that is named, or else the one whose fields are there. -/
def mode (id : String) (request : CheckRequest) : Except RuleError Mode :=
  match request.kind with
  | some kind => match Mode.ofText? kind with
    | some mode => .ok mode
    | none => .error (.unknownMode id kind)
  | none => match request.path, request.predicate with
    | some _, some _ => .error (.ambiguousMode id)
    | some _, none => .ok .compare
    | none, some _ => .ok .predicate
    | none, none => .ok .unconfigured

/-- A comparison. A pattern has to be a text; whether it is a usable one shows in an audit. -/
def comparison (id : String) (request : CheckRequest) : Except RuleError Check := do
  if request.predicate.isSome then throw (.ambiguousMode id)
  let some path := request.path | throw (.missingField id "match" "path")
  let some operatorText := request.operator | throw (.missingField id "match" "operator")
  let some operator := Operator.ofText? operatorText
    | throw (.unknownOperator id operatorText)
  match operator, request.value with
  | .matches, some (.string _) => return .compare path ⟨operator, request.value⟩
  | .matches, _ => throw (.patternNotString id)
  | _, _ => return .compare path ⟨operator, request.value⟩

/-- The check that is asked for. A named predicate takes no notice of a path. -/
def check (id : String) (request : CheckRequest) : Except RuleError Check := do
  match ← request.mode id with
  | .compare => request.comparison id
  | .predicate =>
    let some name := request.predicate | throw (.missingField id "custom" "predicateName")
    return .predicate name
  | .unconfigured => return .unconfigured

end CheckRequest

/-- The rule of a document. Blank texts count as missing. -/
def toRule (rule : RuleDocument) : Except RuleError Rule := do
  let id := trim rule.id
  if id.isEmpty then throw .missingId
  let check ← rule.request.check id
  return {
    id
    title := (nonBlank? rule.title <|> nonBlank? rule.name).getD id
    description := nonBlank? rule.description
    severity := rule.severity.getD .low
    vendorScope := rule.vendorScope
    enabled := rule.enabled.getD true
    check
    remediation := nonBlank? rule.remediation
    waivable := rule.waivable.getD true }

end RuleDocument

/-- Why a document does not give rules. -/
inductive DocumentError where
  /-- It does not have the form of rules at all. -/
  | malformed
  | refused (cause : RuleError)
deriving DecidableEq, Repr

def readRule (node : Node) : Except DocumentError Rule :=
  match (read? node : Option RuleDocument) with
  | some rule => rule.toRule.mapError .refused
  | none => .error .malformed

/-- Rules in a list. The first that cannot be read is the one reported. -/
def readRules : Node → Except DocumentError (List Rule)
  | .list items => items.mapM readRule
  | _ => .error .malformed

end DeviceConfig.Audit
