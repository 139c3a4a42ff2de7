import DeviceConfig.Files.Name

/-!
Reading files by their names.
-/

namespace DeviceConfig.Files

inductive ReadError where
  | notFound
  | notADirectory
  | isADirectory
  | nameTooLong
  | nulInName
  | notUtf8
  /-- Anything else the system has to say. -/
  | system (message : String)
deriving DecidableEq, Repr

def ReadError.message : ReadError → String
  | .notFound => "No such file or directory (os error 2)"
  | .notADirectory => "Not a directory (os error 20)"
  | .isADirectory => "Is a directory (os error 21)"
  | .nameTooLong => "File name too long (os error 36)"
  | .nulInName => "file name contained an unexpected NUL byte"
  | .notUtf8 => "stream did not contain valid UTF-8"
  | .system message => message

/-- Reads the text of the file of a name. -/
abbrev Reader := String → Except ReadError String

/-- Some files in a directory and the directories below it, each with the parts of its name. A file
that is no UTF-8 has no text. -/
structure Tree where
  files : List (List String × Option String)

namespace Tree

/-- Names files by their parts. -/
def ofList (files : List (String × Option String)) : Tree :=
  ⟨files.map fun file => (parts file.1, file.2)⟩

def isFile (tree : Tree) (place : List String) : Bool := tree.files.any (·.1 == place)

def isDirectory (tree : Tree) (place : List String) : Bool :=
  place.isEmpty || tree.files.any fun file => place.isPrefixOf file.1 && file.1 != place

/-- One part further. Nothing is known above the top directory. -/
def step (tree : Tree) (place : List String) (part : String) : Except ReadError (List String) :=
  if tree.isFile place then .error .notADirectory
  else if part = "" ∨ part = "." then .ok place
  else if part = ".." then if place.isEmpty then .error .notFound else .ok place.dropLast
  else if 255 < part.utf8ByteSize then .error .nameTooLong
  else if tree.isFile (place ++ [part]) || tree.isDirectory (place ++ [part]) then
    .ok (place ++ [part])
  else .error .notFound

def read (tree : Tree) : Reader := fun name => do
  if name.toList.contains '\x00' then throw .nulInName
  if 4096 ≤ name.utf8ByteSize then throw .nameTooLong
  if name.startsWith "/" then throw .notFound
  let place ← ((Text.splitOn '/' name.toList).map String.ofList).foldlM tree.step []
  match tree.files.lookup place with
  | some (some text) => return text
  | some none => throw .notUtf8
  | none => throw .isADirectory

end Tree

end DeviceConfig.Files
