import DeviceConfig.Snippet.Action

/-!
Scripts: steps that read parameters and put something out, in any order. The first parameter that cannot be read ends a
script, and what it has put out by then is lost.
-/

namespace DeviceConfig.Snippet

abbrev Script (Item : Type) := StateT (List Item) (Except SnippetError)

variable {Item : Type}

def emit (item : Item) : Script Item Unit := modify (· ++ [item])

def emitAll (items : List Item) : Script Item Unit := modify (· ++ items)

def Script.output (script : Script Item Unit) : Except SnippetError (List Item) :=
  (script.run []).map (·.2)

end DeviceConfig.Snippet
