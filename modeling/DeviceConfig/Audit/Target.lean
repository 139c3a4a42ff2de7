/-!
What an audit is about.
-/

namespace DeviceConfig.Audit

inductive TargetType where
  | device
  | configVersion
  | changeSet
deriving DecidableEq, Repr

namespace TargetType

def name : TargetType → String
  | .device => "device"
  | .configVersion => "config_version"
  | .changeSet => "change_set"

def all : List TargetType := [.device, .configVersion, .changeSet]

def ofName? (name : String) : Option TargetType := all.find? (·.name == name)

end TargetType

end DeviceConfig.Audit
