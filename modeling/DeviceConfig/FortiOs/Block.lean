/-!
Blocks of FortiOS commands. A table or an entry of a table stands between an opening and a closing line, and what it
holds is indented by four spaces.
-/

namespace DeviceConfig.FortiOs

/-- A line inside so many tables and entries. -/
def indented (depth : Nat) (line : String) : String :=
  String.ofList (List.replicate (4 * depth) ' ') ++ line

def block (path : String) (lines : List String) : List String :=
  ["config " ++ path] ++ lines.map (indented 1) ++ ["end"]

def entryBlock (path name : String) (settings : List String) : List String :=
  block path (["edit " ++ name] ++ settings.map (indented 1) ++ ["next"])

end DeviceConfig.FortiOs
