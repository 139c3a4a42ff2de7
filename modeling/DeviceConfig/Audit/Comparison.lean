import DeviceConfig.Audit.Coercion
import DeviceConfig.Audit.Operator
import DeviceConfig.Json.LooseEq
import DeviceConfig.Path.Basic
import DeviceConfig.Pattern.Engine

/-!
Comparing the value at a path with what a rule expects there. Both may be missing.
-/

namespace DeviceConfig.Audit

/-- Why a rule can come to no verdict. -/
inductive EvalError where
  | invalidPath (cause : PathError)
  | patternNotString
  | invalidPattern (pattern : String)
  | unviewable (cause : String)
  | predicateAborted (name : String)
deriving DecidableEq, Repr

def EvalError.message : EvalError → String
  | .invalidPath cause => s!"invalid path: {cause.message}"
  | .patternNotString => "operator matches needs a string pattern"
  | .invalidPattern pattern => s!"invalid pattern '{pattern}'"
  | .unviewable cause => s!"config could not be viewed as a document: {cause}"
  | .predicateAborted name => s!"predicate '{name}' panicked"

/-- What a rule asks of a value. -/
structure Condition where
  operator : Operator
  expected : Option Json
deriving DecidableEq, Repr

/-- The outcome of a comparison, with what to say if it failed. -/
structure Comparison where
  passed : Bool
  message : String
deriving DecidableEq, Repr

/-- Both missing, or both there and equal. -/
def sameValue (actual expected : Option Json) : Bool :=
  match actual, expected with
  | none, none => true
  | some actual, some expected => actual.looseEq expected
  | _, _ => false

/-- A list contains its items; of anything else the text contains the other's text. -/
def containsValue (actual expected : Option Json) : Bool :=
  match actual with
  | some (.array items) => expected.any fun expected => items.any (·.looseEq expected)
  | _ => Text.contains (displayed actual) (displayed expected)

/-- Missing, null, or the empty text. -/
def isBlankValue : Option Json → Bool
  | none => true
  | some .null => true
  | some (.string text) => text.isEmpty
  | some _ => false

/-- There, and neither null nor an empty text, list or object. -/
def isNotEmpty : Option Json → Bool
  | none => false
  | some .null => false
  | some (.string text) => !text.isEmpty
  | some (.array items) => !items.isEmpty
  | some (.object members) => !members.isEmpty
  | some _ => true

variable [Pattern.Engine]

/-- Does the text of the value match? The expected value has to be a usable pattern. -/
def matchesPattern (actual expected : Option Json) : Except EvalError (Bool × String) :=
  match expected with
  | some (.string pattern) =>
    match Pattern.Engine.compile? pattern with
    | some isMatch => .ok (isMatch (displayed actual), pattern)
    | none => .error (.invalidPattern pattern)
  | _ => .error .patternNotString

/-- Compares the value found at `path` with the condition. -/
def Condition.apply (path : String) (actual : Option Json) (condition : Condition) :
    Except EvalError Comparison :=
  let expected := condition.expected
  let shown := displayed expected
  match condition.operator with
  | .equals => .ok ⟨sameValue actual expected, s!"Expected {path} to equal {shown}"⟩
  | .notEquals => .ok ⟨!sameValue actual expected, s!"Expected {path} to not equal {shown}"⟩
  | .greaterThan =>
    .ok ⟨(toNumber actual).gt (toNumber expected), s!"Expected {path} > {shown}"⟩
  | .contains => .ok ⟨containsValue actual expected, s!"Expected {path} to contain {shown}"⟩
  | .notContains =>
    .ok ⟨!containsValue actual expected, s!"Expected {path} to not contain {shown}"⟩
  | .exists => .ok ⟨!isBlankValue actual, s!"Expected {path} to exist"⟩
  | .notExists => .ok ⟨isBlankValue actual, s!"Expected {path} to not exist"⟩
  | .notEmpty => .ok ⟨isNotEmpty actual, s!"Expected {path} to not be empty"⟩
  | .empty => .ok ⟨!isNotEmpty actual, s!"Expected {path} to be empty"⟩
  | .matches => do
    let (passed, pattern) ← matchesPattern actual expected
    return ⟨passed, s!"Expected {path} to match pattern {pattern}"⟩

end DeviceConfig.Audit
