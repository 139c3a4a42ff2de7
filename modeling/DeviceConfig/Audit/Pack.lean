import DeviceConfig.Audit.RuleDocument
import DeviceConfig.Document.Load

/-!
Rule packs: named lists of rules. In a pack that is ready for use no two rules have the same id, and the
scope of the pack has been given to the rules without a scope of their own.
-/

namespace DeviceConfig.Audit

open Document Text

structure Pack where
  id : String
  name : String := ""
  version : String := ""
  description : Option String := none
  vendorScope : List Vendor := []
  rules : List Rule := []
deriving DecidableEq, Repr

/-! ### Reading -/

/-- A pack as far as its document has been read. -/
structure PackDraft where
  id : Option String := none
  name : Option String := none
  version : Option String := none
  description : Option (Option String) := none
  vendorScope : Option (List Vendor) := none
  rules : Option (List Rule) := none

namespace PackDraft

/-- A value that is given for the first time. -/
def once {α : Type} (earlier : Option α) (value : Except DocumentError α) :
    Except DocumentError (Option α) :=
  if earlier.isSome then .error .malformed else value.map some

def typed {α : Type} [Readable α] (node : Node) : Except DocumentError α :=
  (readOrFail node).mapError fun _ => .malformed

/-- Takes in the next member of the document. -/
def add (draft : PackDraft) : String × Node → Except DocumentError PackDraft
  | ("id", node) => do return { draft with id := ← once draft.id (typed node) }
  | ("name", node) => do return { draft with name := ← once draft.name (typed node) }
  | ("version", node) => do return { draft with version := ← once draft.version (typed node) }
  | ("description", node) => do
    return { draft with description := ← once draft.description (typed node) }
  | ("vendorScope", node) => do
    return { draft with vendorScope := ← once draft.vendorScope (typed node) }
  | ("rules", node) => do return { draft with rules := ← once draft.rules (readRules node) }
  | (_, node) => if node.isComplete then .ok draft else .error .malformed

/-- The pack, if it has an id. -/
def toPack (draft : PackDraft) : Except DocumentError Pack := do
  let some id := draft.id | throw .malformed
  return {
    id
    name := draft.name.getD ""
    version := draft.version.getD ""
    description := draft.description.getD none
    vendorScope := draft.vendorScope.getD []
    rules := draft.rules.getD [] }

end PackDraft

namespace Pack

/-- The fields of a pack, in the order in which a list gives them. -/
def fieldNames : List String := ["id", "name", "version", "description", "vendorScope", "rules"]

/-- Reads a pack member by member, so that of several faults the first is the one reported. -/
def read (node : Node) : Except DocumentError Pack := do
  let members ← match node with
    | .list items => .ok (fieldNames.zip items)
    | node => node.members?.elim (.error .malformed) .ok
  let draft ← members.foldlM PackDraft.add {}
  match node with
  | .list items => if fieldNames.length < items.length then throw .malformed
  | _ => pure ()
  draft.toPack

end Pack

/-! ### Getting ready for use -/

inductive PackError where
  | load (cause : LoadError DocumentError)
  | emptyId (source : String)
  | duplicateRule (source id : String)
  | unknownPack (id : String)
deriving Repr

def PackError.message : PackError → String
  | .load cause => cause.message
  | .emptyId source => s!"rule pack {source} has no id"
  | .duplicateRule source id => s!"rule pack {source} defines rule {id} more than once"
  | .unknownPack id => s!"unknown rule pack '{id}' (only 'baseline' is built in)"

/-- The first of the names that has stood before. -/
def firstRepeated? (seen : List String) : List String → Option String
  | [] => none
  | id :: rest => if seen.contains id then some id else firstRepeated? (id :: seen) rest

namespace Pack

/-- A rule without a scope gets that of the pack. -/
def scopeRule (scope : List Vendor) (rule : Rule) : Rule :=
  if rule.vendorScope.isEmpty then { rule with vendorScope := scope } else rule

/-- Checks a pack and fills in what it leaves open. -/
def finish (source : String) (pack : Pack) : Except PackError Pack := do
  if isBlankText pack.id then throw (.emptyId source)
  match firstRepeated? [] (pack.rules.map (·.id)) with
  | some id => throw (.duplicateRule source id)
  | none => return { pack with
      name := if isBlankText pack.name then pack.id else pack.name
      rules := pack.rules.map (scopeRule pack.vendorScope) }

/-- The pack of a text. -/
def parse (format : Format) (source text : String) : Except PackError Pack := do
  let pack ← (format.load .malformed read text).mapError (.load <| .malformed source format ·)
  pack.finish source

/-- The pack of a file. -/
def load (reader : Files.Reader) (file : String) : Except PackError Pack := do
  let pack ← (loadFile reader .malformed read file).mapError .load
  pack.finish file

end Pack

end DeviceConfig.Audit
