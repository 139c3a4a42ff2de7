import DeviceConfig.Document.Writable
import DeviceConfig.Vendor

/-!
Rollout plans: what is to be changed on a device, change by change, each with the command that takes it
back. Changes are applied section by section and taken back in the reverse order of the plan.
-/

namespace DeviceConfig

namespace Rollout

/-- What a change is part of, in the order in which sections are applied: what others refer to comes
first. -/
inductive Section where
  | base
  | vlan
  | interfaces
  | routing
  | services
  | firewall
deriving DecidableEq, Repr

namespace Section

def name : Section → String
  | .base => "base"
  | .vlan => "vlan"
  | .interfaces => "interfaces"
  | .routing => "routing"
  | .services => "services"
  | .firewall => "firewall"

/-- All sections in the order of application. -/
def all : List Section := [.base, .vlan, .interfaces, .routing, .services, .firewall]

def ofName? (name : String) : Option Section := all.find? (·.name == name)

end Section

/-- One change: its commands, and the one command, perhaps of several lines, that takes it back. -/
structure Mutation where
  target : Section
  commands : List String
  undo : String
deriving DecidableEq, Repr

abbrev Plan := List Mutation

/-- A plan as far as it has been recorded: the commands of every section, in the order of application,
and the undo commands in the order of recording. -/
structure Record where
  sections : List (Section × List String)
  undos : List String
deriving Repr

namespace Record

def empty : Record := ⟨Section.all.map fun target => (target, []), []⟩

/-- Adds commands to the first section of that name. -/
def addTo (target : Section) (commands : List String) :
    List (Section × List String) → List (Section × List String)
  | [] => []
  | (name, lines) :: rest =>
    if name = target then (name, lines ++ commands) :: rest
    else (name, lines) :: addTo target commands rest

/-- Records a change behind all that came before. -/
def add (record : Record) (mutation : Mutation) : Record :=
  ⟨addTo mutation.target mutation.commands record.sections, record.undos ++ [mutation.undo]⟩

/-- The number of changes recorded. -/
def size (record : Record) : Nat := record.undos.length

end Record

end Rollout

/-- A plan made ready: the commands by sections, commands that only look, and commands that take all
changes back. -/
structure Rollout where
  vendor : Vendor
  sections : List (Rollout.Section × List String)
  verify : List String
  rollback : List String
deriving Repr

namespace Rollout

/-- All commands in the order of application. -/
def commands (rollout : Rollout) : List String := rollout.sections.flatMap (·.2)

/-- Records the changes one by one. The last one is the first to be taken back. -/
def Plan.finish (vendor : Vendor) (verify : List String) (plan : Plan) : Rollout :=
  let record := plan.foldl Record.add .empty
  { vendor
    sections := record.sections
    verify
    rollback := record.undos.reverse }

/-- The commands of the section of that name. -/
def section? (rollout : Rollout) (name : String) : Option (Section × List String) :=
  rollout.sections.find? (·.1.name == name)

def sectionReport (part : Section × List String) : Json :=
  .object [("name", .string part.1.name), ("commands", .strings part.2)]

def report (rollout : Rollout) : Json :=
  .object [("vendor", .string rollout.vendor.name),
    ("commands", .strings rollout.commands),
    ("sections", .array (rollout.sections.map sectionReport)),
    ("verifyCommands", .strings rollout.verify),
    ("rollbackCommands", .strings rollout.rollback)]

end Rollout

end DeviceConfig
