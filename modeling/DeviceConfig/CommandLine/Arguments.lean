import DeviceConfig.Text.Split

/-!
Arguments of a command. An option is a word after two hyphens, and its value is attached to it with an
equals sign or is the next argument. A flag has no value; flags with a letter can stand together after one
hyphen. A word that begins with a hyphen is never taken as a value, save the hyphen alone. After two bare
hyphens everything is an operand.
-/

namespace DeviceConfig.CommandLine

open Text

inductive OptionKind where
  | flag (letter : Option Char)
  | value
  /-- A value that may be given more than once. -/
  | values
deriving DecidableEq, Repr

structure OptionSpec where
  name : String
  kind : OptionKind
deriving Repr

/-- An argument once it is understood. A flag has the empty value. -/
inductive Argument where
  | option (name value : String)
  | operand (text : String)
deriving DecidableEq, Repr

/-- Can the argument be the value of the option before it? -/
def isValue (argument : String) : Bool := !argument.startsWith "-" || argument == "-"

/-- The flag of a letter. -/
def flagOf? (specs : List OptionSpec) (letter : Char) : Option Argument :=
  (specs.find? (·.kind == .flag (some letter))).map fun spec => .option spec.name ""

/-- An argument that begins with two hyphens, in its parts: a name, and the value attached to it. -/
def longParts? : List Char → Option (String × Option String)
  | '-' :: '-' :: body =>
    match splitOnce? '=' body with
    | some (name, value) => some (String.ofList name, some (String.ofList value))
    | none => some (String.ofList body, none)
  | _ => none

/-- Takes arguments for what they are. Nothing comes of an option that is unknown, lacks its value, or
has one that it does not take. -/
def understand? (specs : List OptionSpec) : List String → Option (List Argument)
  | [] => some []
  | argument :: rest =>
    if argument = "--" then some (rest.map .operand)
    else match longParts? argument.toList with
      | some (name, attached) =>
        match specs.find? (·.name == name) with
        | none => none
        | some spec =>
          match spec.kind, attached, rest with
          | .flag _, none, rest => (understand? specs rest).map (.option name "" :: ·)
          | .flag _, some _, _ => none
          | _, some value, rest => (understand? specs rest).map (.option name value :: ·)
          | _, none, value :: rest =>
            if isValue value then (understand? specs rest).map (.option name value :: ·) else none
          | _, none, [] => none
      | none =>
        if isValue argument then (understand? specs rest).map (.operand argument :: ·)
        else do
          let flags ← (argument.toList.drop 1).mapM (flagOf? specs)
          return flags ++ (← understand? specs rest)

/-- The values of an option, in order. -/
def valuesOf (name : String) (arguments : List Argument) : List String :=
  arguments.filterMap fun
    | .option other value => if other = name then some value else none
    | .operand _ => none

def operandsOf (arguments : List Argument) : List String :=
  arguments.filterMap fun
    | .operand text => some text
    | .option _ _ => none

/-- Is no option given twice that can be given only once? -/
def givenOnce (specs : List OptionSpec) (arguments : List Argument) : Bool :=
  specs.all fun spec => spec.kind == .values || (valuesOf spec.name arguments).length ≤ 1

end DeviceConfig.CommandLine
