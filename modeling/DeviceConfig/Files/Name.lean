import DeviceConfig.Text.Split

/-!
Names of files: parts between slashes, where empty parts and single dots do not count.
-/

namespace DeviceConfig.Files

open Text

/-- The parts of a name that count. -/
def parts (name : String) : List String :=
  ((splitOn '/' name.toList).map String.ofList).filter fun part => part != "" && part != "."

/-- The last part, unless it leads up. -/
def fileName? (name : String) : Option String := (parts name).getLast?.filter (· != "..")

/-- What follows the last dot of the last part. A part whose only dot stands in front has none. -/
def extension? (name : String) : Option String := do
  let reversed := (← fileName? name).toList.reverse
  let (after, before) ← splitOnce? '.' reversed
  if before.isEmpty then none else some (String.ofList after.reverse)

/-- A name inside a directory. A name that starts at the root stays as it is. -/
def join (directory name : String) : String :=
  if name.startsWith "/" || directory.isEmpty then name
  else if directory.endsWith "/" then directory ++ name
  else directory ++ "/" ++ name

end DeviceConfig.Files
