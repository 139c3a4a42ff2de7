/-!
Entries in the order of their names, each name once.
-/

namespace DeviceConfig.NameMap

variable {α : Type}

/-- Adds an entry at its place. An entry of that name is replaced. -/
def insert (name : String) (value : α) : List (String × α) → List (String × α)
  | [] => [(name, value)]
  | (other, old) :: rest =>
    if name < other then (name, value) :: (other, old) :: rest
    else if name = other then (name, value) :: rest
    else (other, old) :: insert name value rest

/-- The entries in order; of two with one name the later one stays. -/
def ofList (entries : List (String × α)) : List (String × α) :=
  entries.foldl (fun sorted entry => insert entry.1 entry.2 sorted) []

end DeviceConfig.NameMap
