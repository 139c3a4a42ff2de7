import DeviceConfig.Document.Record
import DeviceConfig.NameMap
import DeviceConfig.Snapshot.Basic
import DeviceConfig.Text.Split

/-!
Predicates: checks of a whole snapshot that rules refer to by name.
-/

namespace DeviceConfig.Audit

open Document

/-- What a predicate comes to. -/
structure Outcome where
  passed : Bool := false
  message : Option String := none
  path : Option String := none
  value : Option Json := none
deriving Repr

namespace Outcome

instance : Recorded Outcome where
  Values := Bool × Option String × Option String × Option Json × Unit
  fields :=
    .required "passed" <|
    .optional "message" <|
    .optional "path" <|
    .optional "value" <|
    .done
  ofValues := fun (passed, message, path, value, _) => { passed, message, path, value }
  toValues outcome := (outcome.passed, outcome.message, outcome.path, outcome.value, ())

def pass : Outcome := { passed := true }

def fail (message : String) : Outcome := { message := some message }

/-- The message is given only for a failure. -/
def verdict (passed : Bool) (message : String) : Outcome :=
  if passed then pass else fail message

/-- Fails if there is any violation, with all of them in the message and in the value. -/
def ofViolations (violations : List String) : Outcome :=
  if violations.isEmpty then pass
  else
    { message := some (Text.join "; " violations)
      value := some (.strings violations) }

end Outcome

/-- A check of a snapshot; `none` if it aborts. -/
abbrev Predicate := Snapshot → Option Outcome

/-- The predicates known by name, in the order of their names. -/
structure Registry where
  entries : List (String × Predicate) := []

namespace Registry

/-- Adds a predicate, in the place of one that had the name. -/
def register (name : String) (predicate : Predicate) (registry : Registry) : Registry :=
  ⟨NameMap.insert name predicate registry.entries⟩

def get? (registry : Registry) (name : String) : Option Predicate := registry.entries.lookup name

def names (registry : Registry) : List String := registry.entries.map (·.1)

end Registry

end DeviceConfig.Audit
