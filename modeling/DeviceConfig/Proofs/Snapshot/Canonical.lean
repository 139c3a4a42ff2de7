import DeviceConfig.Proofs.Snapshot.Faithful
import DeviceConfig.Proofs.Snapshot.View

/-!
The view of a snapshot is its canonical form. It is read back as the snapshot, whatever the snapshot was read from,
and what the model does not know stands in it where it stood before. Nothing in it is null that was not null in
what the snapshot keeps.
-/

namespace DeviceConfig.Snapshot

open Document OpenRecorded

theorem own_eq (snapshot : Snapshot) : own snapshot =
    [("schemaVersion", toJson snapshot.schemaVersion), ("device", toJson snapshot.device),
      ("interfaces", toJson snapshot.interfaces), ("vlans", toJson snapshot.vlans),
      ("routing", toJson snapshot.routing), ("security", toJson snapshot.security),
      ("mgmt", toJson snapshot.mgmt), ("metadata", toJson snapshot.metadata)] := rfl

/-! ### Reading back -/

/-- What the snapshot, its device and its interfaces keep is in order and has names of its own. -/
structure Proper (snapshot : Snapshot) : Prop where
  besides : OpenRecorded.Proper snapshot
  device : OpenRecorded.Proper snapshot.device
  interfaces : ∀ iface ∈ snapshot.interfaces, OpenRecorded.Proper iface

theorem read?_view {snapshot : Snapshot} (proper : snapshot.Proper) :
    read? (Node.ofJson snapshot.view) = some snapshot := by
  have device : read? (Node.ofJson (toJson snapshot.device)) = some snapshot.device :=
    read?_toJson proper.device (fields_device.readsBack _)
  have interfaces : read? (Node.ofJson (toJson snapshot.interfaces)) = some snapshot.interfaces :=
    read?_list fun iface listed =>
      read?_toJson (proper.interfaces iface listed) (fields_interface.readsBack _)
  exact read?_toJson proper.besides ⟨read_back _, device, interfaces, read_back _, read_back _,
    read_back _, read_back _, read_back _, trivial⟩

/-- The values that the snapshot, its device and its interfaces keep are in order. -/
structure KeepsOrdered (snapshot : Snapshot) : Prop where
  besides : ∀ member ∈ snapshot.extensions, member.2.IsOrdered
  device : ∀ member ∈ snapshot.device.extensions, member.2.IsOrdered
  interfaces : ∀ iface ∈ snapshot.interfaces, ∀ member ∈ iface.extensions, member.2.IsOrdered

theorem view_isOrdered_of_kept {snapshot : Snapshot} (keeps : snapshot.KeepsOrdered) :
    snapshot.view.IsOrdered := by
  have device : (toJson snapshot.device).IsOrdered :=
    isOrdered_toJson (fun member inside => (fields_device.written _ member inside).2) keeps.device
  have interfaces : (toJson snapshot.interfaces).IsOrdered :=
    isOrdered_list fun iface listed => isOrdered_toJson
      (fun member inside => (fields_interface.written _ member inside).2)
      (keeps.interfaces iface listed)
  refine isOrdered_toJson ?_ keeps.besides
  simp only [own_eq, List.forall_mem_cons]
  exact ⟨in_order _, device, interfaces, in_order _, in_order _, in_order _, in_order _, in_order _,
    List.forall_mem_nil _⟩

theorem view_isOrdered {snapshot : Snapshot} (proper : snapshot.Proper) :
    snapshot.view.IsOrdered :=
  view_isOrdered_of_kept ⟨proper.besides.ordered, proper.device.ordered,
    fun iface listed => (proper.interfaces iface listed).ordered⟩

/-! ### What is kept -/

theorem fields_of_read? {given : Given} {snapshot : Snapshot}
    (found : (fields : Fields (Values Snapshot)).read? given = some (toValues snapshot).1) :
    (given.lookup "device").elim (some {}) read? = some snapshot.device ∧
      (given.lookup "interfaces").elim (some []) read? = some snapshot.interfaces := by
  obtain ⟨_, found⟩ := Fields.read?_also.mp found
  obtain ⟨device, found⟩ := Fields.read?_also.mp found
  obtain ⟨interfaces, _⟩ := Fields.read?_also.mp found
  exact ⟨device, interfaces⟩

theorem proper_of_read? {node : Node} {snapshot : Snapshot} (read : read? node = some snapshot) :
    snapshot.Proper := by
  obtain ⟨given, _, found⟩ := parts_of_read? read
  obtain ⟨device, interfaces⟩ := fields_of_read? found
  refine ⟨OpenRecorded.proper_of_read? read, ?_, fun iface listed => ?_⟩
  · cases stands : given.lookup "device" with
    | none =>
      rw [stands] at device
      rw [← Option.some.inj device]
      exact ⟨List.Pairwise.nil, List.forall_mem_nil _, List.forall_mem_nil _⟩
    | some part =>
      rw [stands] at device
      exact OpenRecorded.proper_of_read? device
  · cases stands : given.lookup "interfaces" with
    | none =>
      rw [stands] at interfaces
      rw [← Option.some.inj interfaces] at listed
      contradiction
    | some part =>
      rw [stands] at interfaces
      obtain ⟨item, read⟩ := item_of_read? interfaces listed
      exact OpenRecorded.proper_of_read? read

/-- The places where a snapshot keeps what it does not know, and the names it knows there. -/
inductive OpenPlace : List Path.Step → List FieldName → Prop
  | top : OpenPlace [] (knownNames Snapshot)
  | device : OpenPlace [.field "device"] (knownNames Device)
  | interface (position : Nat) :
      OpenPlace [.field "interfaces", .index position] (knownNames Interface)

/-- An object at that place of the document is an object in the view, with the same members under all names that
are not known there. -/
def KeptAt (document view : Json) (place : List Path.Step) (known : List FieldName) : Prop :=
  ∀ members, Path.resolve document place = some (.object members) →
    ∃ kept, Path.resolve view place = some (.object kept) ∧
      ∀ name, Knows known name = false → kept.lookup name = members.lookup name

/-- A field that is not asked for its length leads into an object. -/
theorem object_of_resolve {value found : Json} {name : String} {rest : List Path.Step}
    (named : name ≠ "length") (resolved : Path.resolve value (.field name :: rest) = some found) :
    ∃ members child, value = .object members ∧ members.lookup name = some child ∧
      Path.resolve child rest = some found := by
  cases value with
  | object members =>
    rw [Path.resolve] at resolved
    split at resolved
    · next child inside => exact ⟨members, child, rfl, inside, resolved⟩
    · simp [named] at resolved
  | _ => simp [Path.resolve, named] at resolved

theorem array_of_resolve {value found : Json} {position : Nat} {rest : List Path.Step}
    (resolved : Path.resolve value (.index position :: rest) = some found) :
    ∃ items item, value = .array items ∧ items[position]? = some item ∧
      Path.resolve item rest = some found := by
  cases value with
  | array items =>
    rw [Path.resolve] at resolved
    split at resolved
    · next item inside => exact ⟨items, item, rfl, inside, resolved⟩
    · contradiction
  | _ => cases resolved

theorem resolve_view {snapshot : Snapshot} (proper : OpenRecorded.Proper snapshot)
    (rest : List Path.Step) :
    Path.resolve snapshot.view (.field "device" :: rest) =
        Path.resolve (toJson snapshot.device) rest ∧
      Path.resolve snapshot.view (.field "interfaces" :: rest) =
        Path.resolve (toJson snapshot.interfaces) rest := by
  have found (name : String) (known : Knows (knownNames Snapshot) name = true) :
      snapshot.view.member? name = (own snapshot).lookup name :=
    (lookup_written proper name).trans (if_pos known)
  exact ⟨Path.resolve_field rest (found "device" (by decide)),
    Path.resolve_field rest (found "interfaces" (by decide))⟩

section
variable {snapshot : Snapshot} {members : List (String × Json)} {part : Json}
  (read : read? (Node.ofJson (.object members)) = some snapshot)
include read

theorem device_of_read? (inside : members.lookup "device" = some part) :
    read? (Node.ofJson part) = some snapshot.device := by
  obtain ⟨given, found, here⟩ := given_of_read? read inside rfl
  have device := (fields_of_read? found).1
  rwa [here] at device

theorem interfaces_of_read? (inside : members.lookup "interfaces" = some part) :
    read? (Node.ofJson part) = some snapshot.interfaces := by
  obtain ⟨given, found, here⟩ := given_of_read? read inside rfl
  have interfaces := (fields_of_read? found).2
  rwa [here] at interfaces

end

theorem isOrdered_of_lookup {members : List (String × Json)} {name : String} {part : Json}
    (ordered : (Json.object members).IsOrdered) (inside : members.lookup name = some part) :
    part.IsOrdered := by
  obtain ⟨sorted, parts⟩ := Json.isOrdered_object.mp ordered
  exact parts (name, part) ((NameMap.mem_iff_lookup sorted.distinct).mpr inside)

theorem keptAt_view {document : Json} {snapshot : Snapshot} (ordered : document.IsOrdered)
    (read : read? (Node.ofJson document) = some snapshot) {place : List Path.Step}
    {known : List FieldName} (keeps : OpenPlace place known) :
    KeptAt document snapshot.view place known := by
  intro members resolved
  have proper := proper_of_read? read
  cases keeps with
  | top =>
    obtain rfl := Option.some.inj resolved
    exact ⟨written snapshot, rfl, fun name unknown => lookup_written_of_read? ordered read unknown⟩
  | device =>
    obtain ⟨top, part, rfl, inside, resolved⟩ := object_of_resolve (by decide) resolved
    obtain rfl := Option.some.inj resolved
    refine ⟨written snapshot.device, (resolve_view proper.besides []).1, fun name unknown => ?_⟩
    exact lookup_written_of_read? (isOrdered_of_lookup ordered inside)
      (device_of_read? read inside) unknown
  | interface position =>
    obtain ⟨top, part, rfl, inside, resolved⟩ := object_of_resolve (by decide) resolved
    obtain ⟨items, item, rfl, stands, resolved⟩ := array_of_resolve resolved
    obtain rfl := Option.some.inj resolved
    have read := interfaces_of_read? read inside
    have itemOrdered : (Json.object members).IsOrdered :=
      Json.isOrdered_array.mp (isOrdered_of_lookup ordered inside) _ (List.mem_of_getElem? stands)
    have here : (Node.ofItems items)[position]? = some (Node.ofJson (.object members)) := by
      rw [Node.ofItems_eq_map, List.getElem?_map, stands, Option.map_some]
    -- The interface that was read from the item is shown in its place.
    obtain ⟨iface, listed, back⟩ := getElem?_of_read? read here
    refine ⟨written iface, ?_, fun name unknown => lookup_written_of_read? itemOrdered back unknown⟩
    rw [(resolve_view proper.besides _).2]
    have shown : (snapshot.interfaces.map toJson)[position]? = some (toJson iface) := by
      rw [List.getElem?_map, listed, Option.map_some]
    change Path.resolve (.array (snapshot.interfaces.map toJson)) _ = _
    rw [Path.resolve, shown]
    rfl

/-! ### The canonical form -/

/-- The view of a snapshot that was read from a document is read back as that snapshot, so it is shown the same way
again, and it has all that the document has under names that are not known. The same goes for every snapshot whose
other members are kept in order and under names of their own. -/
theorem view_canonical :
    (∀ (document : Json) (snapshot : Snapshot), document.IsOrdered →
      read? (Node.ofJson document) = some snapshot →
      snapshot.view.IsOrdered ∧
      (∃ again, read? (Node.ofJson snapshot.view) = some again ∧ again = snapshot ∧
        again.view = snapshot.view) ∧
      ∀ place known, OpenPlace place known → KeptAt document snapshot.view place known) ∧
    ∀ snapshot : Snapshot, snapshot.Proper → read? (Node.ofJson snapshot.view) = some snapshot := by
  refine ⟨fun document snapshot ordered read => ?_, fun snapshot => read?_view⟩
  have proper := proper_of_read? read
  exact ⟨view_isOrdered proper, ⟨snapshot, read?_view proper, rfl, rfl⟩,
    fun place known keeps => keptAt_view ordered read keeps⟩

/-- A document that says more of the snapshot, its device and its interface than is known. -/
def richDocument : Json := .object
  [("device", .object [("hostname", .string "edge-1"), ("rack", .string "R7"),
      ("vendor", .string "cisco")]),
    ("interfaces", .array [.object [("name", .string "Gi0/1"), ("speed", .int 1000)]]),
    ("site", .string "HQ")]

def richSnapshot : Snapshot where
  device := { vendor := .cisco, hostname := "edge-1", extensions := [("rack", .string "R7")] }
  interfaces := [{ name := "Gi0/1", extensions := [("speed", .int 1000)] }]
  extensions := [("site", .string "HQ")]

theorem view_canonical_rich :
    richDocument.IsOrdered ∧ read? (Node.ofJson richDocument) = some richSnapshot ∧
      read? (Node.ofJson richSnapshot.view) = some richSnapshot ∧
      KeptAt richDocument richSnapshot.view [.field "device"] (knownNames Device) ∧
      KeptAt richDocument richSnapshot.view [.field "interfaces", .index 0]
        (knownNames Interface) := by
  have ordered : richDocument.IsOrdered := by
    simp only [richDocument, Json.isOrdered_object, Json.isOrdered_array, Json.isOrdered_string,
      Json.isOrdered_int, List.forall_mem_cons, List.not_mem_nil, false_implies, implies_true, and_true]
    decide
  have read : read? (Node.ofJson richDocument) = some richSnapshot := rfl
  obtain ⟨_, ⟨_, back, rfl, _⟩, kept⟩ := view_canonical.1 _ _ ordered read
  exact ⟨ordered, read, back, kept _ _ .device, kept _ _ (.interface 0)⟩

/-! ### Null -/

/-- A snapshot that keeps nothing with a null in it is shown without any, and no path leads to one. -/
theorem view_isNullFree {snapshot : Snapshot}
    (besides : ∀ member ∈ snapshot.extensions, member.2.IsNullFree)
    (device : ∀ member ∈ snapshot.device.extensions, member.2.IsNullFree)
    (interfaces : ∀ iface ∈ snapshot.interfaces, ∀ member ∈ iface.extensions, member.2.IsNullFree) :
    snapshot.view.IsNullFree ∧ ∀ (path : Path) (found : Json),
      Path.resolve snapshot.view path.steps = some found → found ≠ .null := by
  have deviceFree : (toJson snapshot.device).IsNullFree :=
    isNullFree_toJson (fun member inside => (fields_device.written _ member inside).1) device
  have interfacesFree : (toJson snapshot.interfaces).IsNullFree :=
    isNullFree_list fun iface listed => isNullFree_toJson
      (fun member inside => (fields_interface.written _ member inside).1) (interfaces iface listed)
  have free : snapshot.view.IsNullFree := by
    refine isNullFree_toJson ?_ besides
    simp only [own_eq, List.forall_mem_cons]
    exact ⟨null_free _, deviceFree, interfacesFree, null_free _, null_free _, null_free _,
      null_free _, null_free _, List.forall_mem_nil _⟩
  exact ⟨free, fun path found resolved => (Path.resolve_isNullFree free resolved).ne_null⟩

theorem view_isNullFree_rich :
    (∀ member ∈ richSnapshot.extensions, member.2.IsNullFree) ∧
      (∀ member ∈ richSnapshot.device.extensions, member.2.IsNullFree) ∧
      (∀ iface ∈ richSnapshot.interfaces, ∀ member ∈ iface.extensions, member.2.IsNullFree) ∧
      richSnapshot.view.IsNullFree ∧ ∀ (path : Path) (found : Json),
        Path.resolve richSnapshot.view path.steps = some found → found ≠ .null := by
  have besides : ∀ member ∈ richSnapshot.extensions, member.2.IsNullFree :=
    List.forall_mem_singleton.mpr (Json.isNullFree_string _)
  have device : ∀ member ∈ richSnapshot.device.extensions, member.2.IsNullFree :=
    List.forall_mem_singleton.mpr (Json.isNullFree_string _)
  have interfaces :
      ∀ iface ∈ richSnapshot.interfaces, ∀ member ∈ iface.extensions, member.2.IsNullFree :=
    List.forall_mem_singleton.mpr (List.forall_mem_singleton.mpr (Json.isNullFree_int _))
  exact ⟨besides, device, interfaces, view_isNullFree besides device interfaces⟩

end DeviceConfig.Snapshot
