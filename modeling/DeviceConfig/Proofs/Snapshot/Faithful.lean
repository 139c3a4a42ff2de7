import DeviceConfig.Proofs.Document.OpenRecord
import DeviceConfig.Snapshot.Basic

/-!
The parts of a snapshot are written and read without loss: words, the values that collectors write in more than
one form, servers, and the records made of them. The device and the interfaces keep other members besides, so
of them that holds for their fields.
-/

namespace DeviceConfig

open Document

instance : Faithful Vendor := .ofWords fun value => by cases value <;> decide

namespace Snapshot

/-! ### Interfaces, VLANs, routes -/

instance : Faithful InterfaceKind := .ofWords fun value => by cases value <;> decide

instance : Faithful VlanMode := .ofWords fun value => by cases value <;> decide

instance : Faithful IpFamily := .ofWords fun value => by cases value <;> decide

instance : Faithful IpAssignment := Recorded.faithful (by repeat constructor) (by decide) fun _ => rfl

instance : Faithful Vlan := Recorded.faithful (by repeat constructor) (by decide) fun _ => rfl

instance : Faithful StaticRoute := Recorded.faithful (by repeat constructor) (by decide) fun _ => rfl

instance : Faithful Routing := Recorded.faithful (by repeat constructor) (by decide) fun _ => rfl

instance : Faithful Metadata := Recorded.faithful (by repeat constructor) (by decide) fun _ => rfl

/-! ### Management -/

instance : Faithful Ssh := Recorded.faithful (by repeat constructor) (by decide) fun _ => rfl

instance : Faithful Telnet := Recorded.faithful (by repeat constructor) (by decide) fun _ => rfl

instance : Faithful SnmpVersion := .ofWords fun value => by cases value <;> decide

instance : Faithful Snmp := Recorded.faithful (by repeat constructor) (by decide) fun _ => rfl

/-- A protocol is written as a word, so it makes no difference in which other forms words are read. -/
instance : Faithful TransportProtocol :=
  .ofLeaves (fun protocol => .inr (.inl ⟨Spelled.name protocol, rfl⟩)) fun value => by
    cases value <;> decide

/-- A server is written as a table, never as its address alone. -/
theorem faithful_server {α : Type} [Recorded α] {ofAddress : String → α}
    (fields : (Recorded.fields : Fields (Recorded.Values α)).OfFaithful)
    (named : (Recorded.fields : Fields (Recorded.Values α)).WellNamed)
    (inverse : ∀ server : α, Recorded.ofValues (Recorded.toValues server) = server) :
    @Faithful α ⟨readServer? ofAddress read?⟩ _ := by
  have record : Faithful α := Recorded.faithful fields named inverse
  refine @Faithful.mk α ⟨readServer? ofAddress read?⟩ _ null_free in_order fun server => ?_
  have readable : (Node.ofJson (toJson server)).toJson? = some (toJson server) :=
    Node.toJson?_ofJson _ (in_order server)
  change (Node.toJson? _ >>= fun _ => read? _) = some server
  rw [readable]
  exact read_back server

instance : Faithful SyslogServer := faithful_server (by repeat constructor) (by decide) fun _ => rfl

instance : Faithful Syslog := Recorded.faithful (by repeat constructor) (by decide) fun _ => rfl

instance : Faithful NtpServer := faithful_server (by repeat constructor) (by decide) fun _ => rfl

instance : Faithful Ntp := Recorded.faithful (by repeat constructor) (by decide) fun _ => rfl

instance : Faithful Management := Recorded.faithful (by repeat constructor) (by decide) fun _ => rfl

/-! ### Security -/

/-- A text is no list, so the two forms are told apart. -/
instance : Faithful StringOrList where
  null_free
    | .one text => null_free text
    | .many texts => null_free texts
  in_order
    | .one text => in_order text
    | .many texts => in_order texts
  read_back
    | .one _ => rfl
    | .many texts => by
      change (none <|> (read? (Node.ofJson (toJson texts))).map StringOrList.many) = _
      rw [read_back texts]
      rfl

instance : Faithful TextOrNumber where
  null_free
    | .number value => null_free value
    | .text value => null_free value
  in_order
    | .number value => in_order value
    | .text value => in_order value
  read_back
    | .number value => by
      change ((read? (Node.ofJson (toJson value))).map TextOrNumber.number <|> _) = _
      rw [read_back value]
      rfl
    | .text _ => rfl

instance : Faithful AclKind := .ofWords fun value => by cases value <;> decide

instance : Faithful AclAction := .ofWords fun value => by cases value <;> decide

instance : Faithful AclEntry := Recorded.faithful (by repeat constructor) (by decide) fun _ => rfl

instance : Faithful Acl := Recorded.faithful (by repeat constructor) (by decide) fun _ => rfl

instance : Faithful PolicyAction := .ofWords fun value => by cases value <;> decide

instance : Faithful FirewallPolicy := Recorded.faithful (by repeat constructor) (by decide) fun _ => rfl

instance : Faithful NatKind := .ofWords fun value => by cases value <;> decide

instance : Faithful NatRule := Recorded.faithful (by repeat constructor) (by decide) fun _ => rfl

instance : Faithful VpnKind := .ofWords fun value => by cases value <;> decide

instance : Faithful VpnPhase := Recorded.faithful (by repeat constructor) (by decide) fun _ => rfl

instance : Faithful VpnTunnel := Recorded.faithful (by repeat constructor) (by decide) fun _ => rfl

instance : Faithful LocalUser := Recorded.faithful (by repeat constructor) (by decide) fun _ => rfl

instance : Faithful Security := Recorded.faithful (by repeat constructor) (by decide) fun _ => rfl

/-! ### What keeps other members -/

open OpenRecorded

instance : Lawful Device := ⟨by decide, fun _ => rfl, fun _ _ => rfl⟩

instance : Lawful Interface := ⟨by decide, fun _ => rfl, fun _ _ => rfl⟩

instance : Lawful Snapshot := ⟨by decide, fun _ => rfl, fun _ _ => rfl⟩

theorem fields_device : (fields : Fields (Values Device)).OfFaithful := by repeat constructor

theorem fields_interface : (fields : Fields (Values Interface)).OfFaithful := by repeat constructor

end Snapshot

end DeviceConfig
