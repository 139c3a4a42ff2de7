import DeviceConfig.Json.Value
import DeviceConfig.Path.Basic

/-!
What a path leads to in a value. A step that leads nowhere ends the walk without a value; it is no
error. Two steps are special: `all` stays at the list and ends the walk there, and `length` as the
last step counts items, characters or members, unless an object has a member of that name.
-/

namespace DeviceConfig.Path

def resolve (value : Json) : List Step → Option Json
  | [] => some value
  | .field name :: rest =>
    match value with
    | .object members =>
      match members.lookup name with
      | some child => resolve child rest
      | none => if name = "length" ∧ rest = [] then some (.nat members.length) else none
    | .array items => if name = "length" ∧ rest = [] then some (.nat items.length) else none
    | .string text => if name = "length" ∧ rest = [] then some (.nat text.length) else none
    | _ => none
  | .index position :: rest =>
    match value with
    | .array items =>
      match items[position]? with
      | some item => resolve item rest
      | none => none
    | _ => none
  | .all :: _ =>
    match value with
    | .array items => some (.array items)
    | _ => none

end DeviceConfig.Path
