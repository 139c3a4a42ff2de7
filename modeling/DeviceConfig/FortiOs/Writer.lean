import DeviceConfig.FortiOs.Block

/-!
Blocks written call by call. The writer counts how many tables and entries are open, and knows nothing else of them.
-/

namespace DeviceConfig.FortiOs

/-- A table is opened by config and closed by close, an entry by edit and next. -/
inductive Call where
  | line (command : String)
  | config (path : String)
  | edit (name : String)
  | next
  | close
deriving Repr

def Call.set (setting : String) : Call := .line ("set " ++ setting)

structure Writer where
  lines : List String := []
  depth : Nat := 0

namespace Writer

def put (writer : Writer) (line : String) : Writer :=
  { writer with lines := writer.lines ++ [indented writer.depth line] }

/-- At the margin a closing call stays there. -/
def call (writer : Writer) : Call → Writer
  | .line command => writer.put command
  | .config path => { writer.put ("config " ++ path) with depth := writer.depth + 1 }
  | .edit name => { writer.put ("edit " ++ name) with depth := writer.depth + 1 }
  | .next => { writer with depth := writer.depth - 1 }.put "next"
  | .close => { writer with depth := writer.depth - 1 }.put "end"

end Writer

end DeviceConfig.FortiOs
