import DeviceConfig.Document.Readable
import DeviceConfig.Files.Tree
import DeviceConfig.Json.Reader
import DeviceConfig.Text.Case
import DeviceConfig.Toml.Reader

/-!
Documents from texts and files. The name of a file tells its format.
-/

namespace DeviceConfig.Document

inductive Format where
  | json
  | toml
deriving DecidableEq, Repr

namespace Format

/-- How the format is called in messages. -/
def label : Format → String
  | .json => "JSON"
  | .toml => "TOML"

def ofFileName? (name : String) : Option Format := do
  let extension ← Files.extension? name
  if Text.sameIgnoringCase extension "json" then some .json
  else if Text.sameIgnoringCase extension "toml" then some .toml
  else none

/-- The document of a text, and whether the whole text is one. -/
def read (format : Format) (text : String) : Node × Bool :=
  match format with
  | .json => Json.Reader.read text
  | .toml => match Toml.read? text with
    | some node => (node, true)
    | none => (.broken, false)

variable {ε α : Type}

/-- Reads a text as a typed value. The whole text has to be one document, but a fault that the reading
finds before the text goes wrong comes first. -/
def load (format : Format) (malformed : ε) (read : Node → Except ε α) (text : String) :
    Except ε α := do
  let (node, whole) := format.read text
  let value ← read node
  if whole then return value else throw malformed

end Format

/-- Why a file does not give a document. A document may be malformed for a cause of its own. -/
inductive LoadError (ε : Type) where
  | unreadable (file : String) (cause : Files.ReadError)
  | malformed (file : String) (format : Format) (cause : ε)
  | unknownFormat (file : String)
deriving Repr

/-- The message; that of a malformed document leaves out the cause. -/
def LoadError.message {ε : Type} : LoadError ε → String
  | .unreadable file cause => s!"failed to read {file}: {cause.message}"
  | .malformed file format _ => s!"failed to parse {format.label} {file}"
  | .unknownFormat file =>
    s!"unsupported document extension for {file} (expected .json or .toml)"

variable {ε α : Type}

/-- Reads a file as a typed value. The format is looked at before the file. -/
def loadFile (reader : Files.Reader) (malformed : ε) (read : Node → Except ε α) (file : String) :
    Except (LoadError ε) α :=
  match Format.ofFileName? file with
  | none => .error (.unknownFormat file)
  | some format =>
    match reader file with
    | .error cause => .error (.unreadable file cause)
    | .ok text => (format.load malformed read text).mapError (.malformed file format)

/-- Reading that has only one way to fail. -/
def readOrFail [Readable α] (node : Node) : Except Unit α := (read? node).elim (.error ()) .ok

end DeviceConfig.Document
