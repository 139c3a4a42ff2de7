import DeviceConfig.Audit.Builtin
import DeviceConfig.CommandLine.Command
import DeviceConfig.CommandLine.Override
import DeviceConfig.Json.Writer
import DeviceConfig.Pattern.Standard
import DeviceConfig.Rollout.Preflight
import DeviceConfig.Snippet.Generate
import DeviceConfig.Terminal.Listing

/-!
Running a command: what it prints, and why it fails if it does. An audit that fails prints its report all
the same.
-/

namespace DeviceConfig.CommandLine

open Audit Document

/-- Why a command fails: what it was about, and the causes, the nearest first. -/
structure Failure where
  context : String
  causes : List String := []
  /-- A document could not be made out; the causes then go into the text of the document. -/
  malformed : Bool := false
deriving DecidableEq, Repr

namespace Failure

/-- A cause, with the lines after its first as far in as the text of the first. -/
def causeText (first later cause : String) : String :=
  first ++ Text.join ("\n" ++ later)
    ((Text.splitOn '\n' cause.toList).map String.ofList)

/-- A number set right in a column of five. -/
def numberColumn (number : Nat) : String :=
  let digits := toString number
  String.ofList (List.replicate (5 - digits.length) ' ') ++ digits ++ ": "

/-- One cause stands alone; several are numbered from zero. -/
def causesText : List String → List String
  | [cause] => [causeText "    " "    " cause]
  | causes => causes.mapIdx fun number cause =>
    causeText (numberColumn number) "       " cause

def text (failure : Failure) : String :=
  let head := "Error: " ++ failure.context
  if failure.causes.isEmpty then head
  else Text.unlines ([head, "", "Caused by:"] ++ causesText failure.causes)

/-- A file that gives no document. A file that cannot be read has a cause of its own. -/
def ofLoadError {ε : Type} (context : String) (error : LoadError ε) : Failure :=
  match error with
  | .unreadable _ cause => { context, causes := [error.message, cause.message] }
  | .malformed _ _ _ => { context, causes := [error.message], malformed := true }
  | .unknownFormat _ => { context, causes := [error.message] }

def ofPackError (context : String) (error : PackError) : Failure :=
  match error with
  | .load cause => ofLoadError context cause
  | _ => { context, causes := [error.message] }

end Failure

/-- What a command comes to: what it prints, and its failure. -/
structure Outcome where
  output : String := ""
  failure : Option Failure := none
deriving Repr

namespace Outcome

def exitCode (outcome : Outcome) : Nat := if outcome.failure.isSome then 1 else 0

/-- A command that prints nothing but its failure. -/
def failed (failure : Failure) : Outcome := { failure := some failure }

def ofExcept : Except Failure Outcome → Outcome
  | .ok outcome => outcome
  | .error failure => .failed failure

end Outcome

/-- What the world adds to a run. -/
structure Surroundings where
  reader : Files.Reader
  /-- Are texts styled? -/
  styled : Bool := false
  /-- The id of the finding at a place. -/
  findingId : Nat → String := fun _ => Finding.noId
  milliseconds : Nat := 0

variable (world : Surroundings)

/-- The document that a command is about. -/
def loadDocument {α : Type} [Readable α] (file : String) : Except Failure α :=
  (loadFile world.reader () readOrFail file).mapError
    (.ofLoadError s!"failed to parse {file}")

/-! ### Lint -/

/-- Does the report make the command fail? Strictly, every finding does. -/
def gate (strict : Bool) (report : Report) : Option Failure :=
  let summary := report.summary
  if !summary.passed then
    some { context :=
      s!"lint failed: {summary.critical} critical, {summary.high} high findings" }
  else if strict && !report.findings.isEmpty then
    some { context := s!"lint failed in strict mode: {report.findings.length} findings" }
  else none

def runLint [Pattern.Engine] (options : LintOptions) : Except Failure Outcome := do
  let snapshot : Snapshot ← loadDocument world options.file
  let (pack, source) ← (options.choice.resolve world.reader).mapError
    (.ofPackError "failed to load rule pack")
  let targetId := options.targetId.getD snapshot.device.hostname
  let report := Audit.run .builtin snapshot pack.rules
  let report := { report with findings := Finding.withIds world.findingId report.findings }
  let output := match options.format with
    | .text =>
      Terminal.auditText world.styled options.verbose
        { targetId, targetType := options.targetType, vendor := snapshot.vendor,
          packId := pack.id, source } report
    | .json => Json.pretty 0 <| .object <|
      [("targetId", .string targetId), ("targetType", .string options.targetType.name),
       ("pack", .string pack.id), ("rulesSource", .string source)] ++
      report.members world.milliseconds
  return { output := output ++ "\n", failure := gate options.strict report }

/-! ### Render -/

def runRender (options : RenderOptions) : Except Failure Outcome := do
  match options.only with
  | some name =>
    if (Rollout.Section.ofName? name).isNone then
      throw { context := s!"unknown section '{name}'" }
  | none => pure ()
  let intent : Intent ← loadDocument world options.file
  let findings ←
    if options.preflight then
      (Rollout.preflight intent options.vendor).mapError fun error =>
        ({ context := "pre-flight failed", causes := [error.message] } : Failure)
    else pure []
  let findings := Finding.withIds world.findingId findings
  let rollout ← (Rollout.render intent options.vendor).mapError fun error =>
    ({ context := "render failed", causes := [error.message] } : Failure)
  let output := match options.format with
    | .text =>
      Terminal.rolloutText world.styled options.only rollout ++
        if options.preflight then "\n\n" ++ Terminal.preflightText world.styled findings else ""
    | .json => Json.pretty 0 <| .object
      [("result", rollout.report), ("preflight", .array (findings.map Finding.report))]
  return { output := output ++ "\n" }

/-! ### Generate -/

/-- The parameters in the document, if one is named. -/
def documentParams (options : GenerateOptions) : Except Failure Snippet.Params :=
  match options.params with
  | some file => loadDocument world file
  | none => .ok {}

def runGenerate (options : GenerateOptions) : Except Failure Outcome := do
  let params ← documentParams world options
  let params ← (applyOverrides params options.overrides).mapError fun error =>
    ({ context := error.message } : Failure)
  let request : Snippet.Request :=
    { vendor := options.vendor, action := options.action, params }
  let snippet ← request.generate.mapError fun error =>
    ({ context := s!"generate failed for {options.vendor.name} {options.action.name}",
       causes := [error.message] } : Failure)
  return { output := snippet ++ "\n" }

def Command.run [Pattern.Engine] (command : Command) : Outcome :=
  match command with
  | .lint options => .ofExcept (runLint world options)
  | .render options => .ofExcept (runRender world options)
  | .generate options => .ofExcept (runGenerate world options)
  | .predicates => { output := Terminal.predicatesText builtins ++ "\n" }

end DeviceConfig.CommandLine
