import DeviceConfig.CommandLine.Run

/-!
The program: it reads the files that the command names, runs the command on their texts, and prints what
comes of it.
-/

namespace DeviceConfig.CommandLine

/-- What is said of arguments that are not in order. -/
def usage : String := Text.unlines
  ["usage: device-config lint FILE [--rules FILE | --rules-dir DIR] [--pack ID] [--target-id ID]",
   "                   [--target-type device|config-version|change-set]",
   "                   [--format text|json] [--strict] [--verbose]",
   "       device-config render FILE --vendor VENDOR [--section NAME] [--no-preflight]",
   "                   [--format text|json]",
   "       device-config generate --vendor VENDOR --action ACTION [--params FILE]",
   "                   [--param KEY=VALUE]...",
   "       device-config predicates"]

/-- What the system says of a file, in the words of the results. -/
def readErrorOf (error : IO.Error) : Files.ReadError :=
  match error with
  | .noFileOrDirectory _ _ _ => .notFound
  | .inappropriateType _ 20 _ => .notADirectory
  | .inappropriateType _ 21 _ => .isADirectory
  | error => .system (toString error)

/-- The text of a file. -/
def readText (file : String) : IO (Except Files.ReadError String) := do
  if file.toList.contains '\x00' then return .error .nulInName
  try
    let bytes ← IO.FS.readBinFile file
    return (String.fromUTF8? bytes).elim (.error .notUtf8) .ok
  catch error => return .error (readErrorOf error)

/-- A random id of 128 bits, of which six say that it is one; the place makes it different from the
others of the same run. -/
def randomId (seed place : Nat) : String :=
  let bits := (seed + place) % (1 <<< 128)
  let digits := (List.range 32).map fun i => bits >>> (4 * (31 - i)) % 16
  let digits := (digits.set 12 4).set 16 (8 + digits.getD 16 0 % 4)
  let text := digits.map fun digit => (Nat.toDigits 16 digit).headD '0'
  let group (start length : Nat) := String.ofList ((text.drop start).take length)
  Text.join "-" [group 0 8, group 8 4, group 12 4, group 16 4, group 20 12]

/-- Is a setting of the environment there, and other than zero? -/
def isSet (value : Option String) : Bool := value.any (· != "0")

/-- Texts are styled on a terminal, unless the environment says otherwise. -/
def isStyled : IO Bool := do
  if isSet (← IO.getEnv "CLICOLOR_FORCE") then return true
  if (← IO.getEnv "NO_COLOR").isSome then return false
  if (← IO.getEnv "CLICOLOR") == some "0" then return false
  (← IO.getStdout).isTty

def runProgram (arguments : List String) : IO UInt32 := do
  match Command.ofArguments? arguments with
  | none =>
    IO.eprintln usage
    return 2
  | some command =>
    let started ← IO.monoMsNow
    let texts ← command.files.mapM fun file => return (file, ← readText file)
    let seed := (← IO.getRandomBytes 16).toList.foldl (fun n byte => 256 * n + byte.toNat) 0
    let outcome := command.run
      { reader := fun file => (texts.lookup file).getD (.error .notFound)
        styled := ← isStyled
        findingId := fun place => "finding-" ++ randomId seed place
        milliseconds := (← IO.monoMsNow) - started }
    IO.print outcome.output
    match outcome.failure with
    | some failure => IO.eprintln failure.text
    | none => pure ()
    return UInt32.ofNat outcome.exitCode

end DeviceConfig.CommandLine

def main (arguments : List String) : IO UInt32 := DeviceConfig.CommandLine.runProgram arguments
