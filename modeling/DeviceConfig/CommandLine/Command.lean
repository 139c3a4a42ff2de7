import DeviceConfig.Audit.Baseline
import DeviceConfig.Audit.Target
import DeviceConfig.CommandLine.Arguments
import DeviceConfig.Snippet.Action

/-!
The commands, as they are read from the arguments of the program.
-/

namespace DeviceConfig.CommandLine

open Audit Document

inductive OutputFormat where
  | text
  | json
deriving DecidableEq, Repr

instance : Spelled OutputFormat where
  values := [.text, .json]
  name
    | .text => "text"
    | .json => "json"

structure LintOptions where
  file : String
  choice : PackChoice
  targetId : Option String
  targetType : TargetType
  format : OutputFormat
  strict : Bool
  verbose : Bool

structure RenderOptions where
  file : String
  vendor : Vendor
  format : OutputFormat
  only : Option String
  preflight : Bool

structure GenerateOptions where
  vendor : Vendor
  action : Snippet.Action
  params : Option String
  overrides : List String

inductive Command where
  | lint (options : LintOptions)
  | render (options : RenderOptions)
  | generate (options : GenerateOptions)
  | predicates

/-! ### Values of options -/

/-- An option that may be missing, its value read if it is there. -/
def optional? {α : Type} (read? : String → Option α) (arguments : List Argument) (name : String) :
    Option (Option α) :=
  match valuesOf name arguments with
  | [] => some none
  | value :: _ => (read? value).map some

/-- A name of a file, which has at least one character. -/
def fileName? (text : String) : Option String := if text.isEmpty then none else some text

def isGiven (arguments : List Argument) (name : String) : Bool :=
  !(valuesOf name arguments).isEmpty

/-- The one file a command is about. -/
def onlyFile? (arguments : List Argument) : Option String :=
  match operandsOf arguments with
  | [file] => fileName? file
  | _ => none

/-- The word that an option is given under, which need not be the name of what it stands for. -/
def targetType? (word : String) : Option TargetType :=
  match word with
  | "device" => some .device
  | "config-version" => some .configVersion
  | "change-set" => some .changeSet
  | _ => none

/-! ### Commands -/

/-- The option that every command has. What is logged is no part of the answer. -/
def logLevel : OptionSpec := ⟨"log-level", .value⟩

def lintSpecs : List OptionSpec :=
  [logLevel, ⟨"rules", .value⟩, ⟨"rules-dir", .value⟩, ⟨"pack", .value⟩, ⟨"target-id", .value⟩,
   ⟨"target-type", .value⟩, ⟨"format", .value⟩, ⟨"strict", .flag none⟩,
   ⟨"verbose", .flag (some 'v')⟩]

def lint? (arguments : List Argument) : Option Command := do
  let file ← onlyFile? arguments
  let rules ← optional? fileName? arguments "rules"
  let rulesDir ← optional? fileName? arguments "rules-dir"
  if rules.isSome && rulesDir.isSome then none
  let pack ← optional? some arguments "pack"
  return .lint {
    file
    choice := { rules, rulesDir, pack := pack.getD "baseline" }
    targetId := ← optional? some arguments "target-id"
    targetType := (← optional? targetType? arguments "target-type").getD .device
    format := (← optional? Spelled.ofWord? arguments "format").getD .text
    strict := isGiven arguments "strict"
    verbose := isGiven arguments "verbose" }

def renderSpecs : List OptionSpec :=
  [logLevel, ⟨"vendor", .value⟩, ⟨"format", .value⟩, ⟨"section", .value⟩,
   ⟨"no-preflight", .flag none⟩]

def render? (arguments : List Argument) : Option Command := do
  return .render {
    file := ← onlyFile? arguments
    vendor := ← (← optional? Spelled.ofWord? arguments "vendor")
    format := (← optional? Spelled.ofWord? arguments "format").getD .text
    only := ← optional? some arguments "section"
    preflight := !isGiven arguments "no-preflight" }

def generateSpecs : List OptionSpec :=
  [logLevel, ⟨"vendor", .value⟩, ⟨"action", .value⟩, ⟨"params", .value⟩, ⟨"param", .values⟩]

def generate? (arguments : List Argument) : Option Command :=
  if (operandsOf arguments).isEmpty then do
    return .generate {
      vendor := ← (← optional? Spelled.ofWord? arguments "vendor")
      action := ← (← optional? Snippet.Action.ofText? arguments "action")
      params := ← optional? fileName? arguments "params"
      overrides := valuesOf "param" arguments }
  else none

def predicates? (arguments : List Argument) : Option Command :=
  if (operandsOf arguments).isEmpty then some .predicates else none

/-- Arguments after the option that may stand before the command. -/
def afterLogLevel? : List String → Option (List String)
  | [] => none
  | argument :: rest =>
    match longParts? argument.toList, rest with
    | some ("log-level", some _), rest => some rest
    | some ("log-level", none), value :: rest => if isValue value then some rest else none
    | some ("log-level", none), [] => none
    | _, rest => some (argument :: rest)

/-- The command of some arguments; nothing if they are not in order. -/
def Command.ofArguments? (arguments : List String) : Option Command := do
  let understood (specs : List OptionSpec) (rest : List String) : Option (List Argument) := do
    let arguments ← understand? specs rest
    if givenOnce specs arguments then some arguments else none
  match ← afterLogLevel? arguments with
  | "lint" :: rest => lint? (← understood lintSpecs rest)
  | "render" :: rest => render? (← understood renderSpecs rest)
  | "generate" :: rest => generate? (← understood generateSpecs rest)
  | "predicates" :: rest => predicates? (← understood [logLevel] rest)
  | _ => none

/-- The files that a command may read. -/
def Command.files : Command → List String
  | .lint options => options.file :: options.choice.file?.toList
  | .render options => [options.file]
  | .generate options => options.params.toList
  | .predicates => []

end DeviceConfig.CommandLine
