import DeviceConfig.Path.Resolve
import DeviceConfig.Proofs.Document.Record
import DeviceConfig.Snapshot.Basic

/-!
What paths find in the view of a snapshot. The fields of the model are found under their names, whatever else
the snapshot keeps.
-/

namespace DeviceConfig

open Document

theorem Json.member?_ofMembers (name : String) (members : List (String × Json)) :
    (Json.ofMembers members).member? name = members.reverse.lookup name :=
  NameMap.lookup_ofList name members

theorem Path.resolve_field {value child : Json} {name : String} (rest : List Path.Step)
    (found : value.member? name = some child) :
    Path.resolve value (.field name :: rest) = Path.resolve child rest := by
  cases value <;> simp_all [Json.member?, Path.resolve]

theorem Path.resolve_last {name : String} (value : Json) (named : name ≠ "length") :
    Path.resolve value [.field name] = value.member? name := by
  cases value with
  | object members =>
    rw [Path.resolve, Json.member?]
    split
    · next found => rw [found, Path.resolve]
    · next absent => simp [absent, named]
  | _ => simp [Path.resolve, Json.member?, named]

namespace Snapshot

theorem unshadowed_of_read? {node : Node} {snapshot : Snapshot} (read : read? node = some snapshot) :
    OpenRecorded.Unshadowed snapshot :=
  OpenRecorded.unshadowed_of_read? (fun _ _ => rfl) read

end Snapshot

end DeviceConfig
