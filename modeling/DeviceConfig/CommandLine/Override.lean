import DeviceConfig.Json.Reader
import DeviceConfig.Snippet.Params
import DeviceConfig.Text.Split

/-!
Parameters given as `KEY=VALUE` on the command line, added one after the other. The first value of a key takes
the place of the one in the document; each later one is put behind those the key was given before.
-/

namespace DeviceConfig.CommandLine

open Snippet Text

inductive OverrideError where
  | noValue (text : String)
  | noKey (text : String)
deriving DecidableEq, Repr

def OverrideError.message : OverrideError → String
  | .noValue text => s!"invalid --param '{text}': expected KEY=VALUE"
  | .noKey text => s!"invalid --param '{text}': empty key"

/-- A value is read as JSON if it is JSON, and as a text otherwise. -/
def overrideValue (text : String) : Json := (Json.Reader.parse? text).getD (.string text)

def readOverride (text : String) : Except OverrideError (String × Json) :=
  match splitOnce? '=' text.toList with
  | none => .error (.noValue text)
  | some (key, value) =>
    let key := trimChars key
    if key.isEmpty then .error (.noKey text)
    else .ok (String.ofList key, overrideValue (String.ofList value))

/-- The items of a list; any other value is its only item. -/
def itemsOf : Json → List Json
  | .array items => items
  | value => [value]

/-- Parameters while overrides are added to them. -/
structure Overriding where
  params : Params
  /-- The keys that were given a value so far. -/
  seen : List String := []
deriving Repr

namespace Overriding

def give (key : String) (value : Json) (state : Overriding) : Overriding :=
  let members := state.params.members
  if state.seen.contains key then
    let earlier := ((members.lookup key).map itemsOf).getD []
    { state with params := ⟨NameMap.insert key (.array (earlier ++ itemsOf value)) members⟩ }
  else { params := ⟨NameMap.insert key value members⟩, seen := key :: state.seen }

def add (state : Overriding) (text : String) : Except OverrideError Overriding := do
  let (key, value) ← readOverride text
  return state.give key value

end Overriding

/-- The first text that gives no key a value is reported. -/
def applyOverrides (params : Params) (texts : List String) : Except OverrideError Params := do
  return (← texts.foldlM Overriding.add { params }).params

end DeviceConfig.CommandLine
