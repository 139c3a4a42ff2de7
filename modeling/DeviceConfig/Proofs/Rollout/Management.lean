import DeviceConfig.Proofs.Address.Network
import DeviceConfig.Proofs.Address.Source
import DeviceConfig.Proofs.Rollout.Rollback

/-!
Who may manage a device. The access list of IOS and the address of FortiOS are read back as networks and
compared. Of a prefix both admit the same sources. Of a single address IOS admits that address only, while
FortiOS takes the address for a mask as well.
-/

namespace DeviceConfig

open Address Rollout Text

namespace Ios

/-- The sources of a line that permits all traffic from them. A wildcard is the complement of a mask. -/
def permitted? (line : String) : Option Network :=
  match words line with
  | ["permit", "ip", "host", host, "any"] => do return ⟨← readQuad? host.toList, .ones⟩
  | ["permit", "ip", address, wildcard, "any"] => do
    return ⟨← readQuad? address.toList, (← readQuad? wildcard.toList).complement⟩
  | _ => none

end Ios

namespace FortiOs

/-- The sources of an address object. -/
def subnet? (line : String) : Option Network :=
  match words line with
  | ["set", "subnet", address, mask] => do
    return ⟨← readQuad? address.toList, ← readQuad? mask.toList⟩
  | _ => none

end FortiOs

theorem words_of_readQuad? {word : String} {quad : Quad} (solid : ∀ c ∈ word.toList, isBlank c = false)
    (read : readQuad? word.toList = some quad) : words word = [word] := by
  apply words_of_solid _ (ne_empty_of_readQuad? read)
  intro member
  exact absurd (solid _ member) (by decide)

namespace Ios

theorem permitted?_host {host : String} {address : Quad} (solid : ∀ c ∈ host.toList, isBlank c = false)
    (read : readQuad? host.toList = some address) :
    permitted? s!" permit ip host {host} any" = some ⟨address, .ones⟩ := by
  have line : s!" permit ip host {host} any" = " permit ip host" ++ " " ++ host ++ " " ++ "any" := by
    simp [← String.toList_inj]
  have front : words " permit ip host" = ["permit", "ip", "host"] := by decide
  have back : words "any" = ["any"] := by decide
  have whole : words s!" permit ip host {host} any" = ["permit", "ip", "host", host, "any"] := by
    rw [line, words_append, words_append, front, words_of_readQuad? solid read, back]
    rfl
  rw [permitted?, whole]
  simp [read]

theorem permitted?_network {host : String} {address wildcard : Quad}
    (solid : ∀ c ∈ host.toList, isBlank c = false) (read : readQuad? host.toList = some address) :
    permitted? s!" permit ip {host} {wildcard.text} any" = some ⟨address, wildcard.complement⟩ := by
  have line : s!" permit ip {host} {wildcard.text} any" =
      " permit ip" ++ " " ++ host ++ " " ++ wildcard.text ++ " " ++ "any" := by
    simp [← String.toList_inj]
  have front : words " permit ip" = ["permit", "ip"] := by decide
  have back : words "any" = ["any"] := by decide
  have whole : words s!" permit ip {host} {wildcard.text} any" =
      ["permit", "ip", host, wildcard.text, "any"] := by
    rw [line, words_append, words_append, words_append, front, words_of_readQuad? solid read,
      words_of_readQuad? (solid_text wildcard) (readQuad?_text wildcard), back]
    rfl
  have named : host ≠ "host" := by
    rintro rfl
    have unread : readQuad? "host".toList = none := by decide
    rw [unread] at read
    cases read
  rw [permitted?, whole]
  simp [read, readQuad?_text]

theorem section?_firewall {intent : Intent} {rollout : Rollout}
    (rendered : render intent .cisco = .ok rollout) :
    rollout.section? "firewall" =
      some (.firewall, (firewall intent.firewall).flatMap (·.commands)) :=
  render_section? rendered .firewall

/-- The access list for management permits the source, and an address alone is a network of its own. -/
theorem permits_source {intent : Intent} {rollout : Rollout} {source : String} {address : Quad}
    {length : Option Nat} (rendered : render intent .cisco = .ok rollout)
    (enabled : intent.firewall.enabled) (given : intent.firewall.allowMgmtFrom = some source)
    (known : IsSource source.toList address length) :
    ∃ permit others, rollout.section? "firewall" =
        some (.firewall, "ip access-list extended MGMT-IN" :: permit :: others) ∧
      permitted? permit = some ⟨address, (length.map .ofPrefix).getD .ones⟩ := by
  have all := solid_of_isSource known
  have found := section?_firewall rendered
  simp only [firewall, enabled, if_true, given, List.flatMap_cons, List.cons_append] at found
  refine ⟨_, _, found, ?_⟩
  generalize shape : source.toList = cs at known
  cases known with
  | host solid read =>
    rw [← shape] at solid read
    rw [if_pos (wildcardOfCidr_host all read), network_host all read]
    exact permitted?_host solid read
  | @prefixed host digits _ length solid read decimal known =>
    have absent := slash_not_mem read
    rw [wildcardOfCidr_prefixed all shape absent known, network_prefixed all shape absent,
      if_neg (text_ne_empty _)]
    refine (permitted?_network (by simpa using solid) (by simpa using read)).trans ?_
    rw [Quad.complement_complement]
    rfl

end Ios

namespace FortiOs

theorem subnet?_network {host : String} {address mask : Quad} {text : String}
    (solid : ∀ c ∈ host.toList, isBlank c = false) (read : readQuad? host.toList = some address)
    (solidMask : ∀ c ∈ text.toList, isBlank c = false) (readMask : readQuad? text.toList = some mask) :
    subnet? s!"        set subnet {host} {text}" = some ⟨address, mask⟩ := by
  have line : s!"        set subnet {host} {text}" =
      "        set subnet" ++ " " ++ host ++ " " ++ text := by simp
  have front : words "        set subnet" = ["set", "subnet"] := by decide
  have whole : words s!"        set subnet {host} {text}" = ["set", "subnet", host, text] := by
    rw [line, words_append, words_append, front, words_of_readQuad? solid read,
      words_of_readQuad? solidMask readMask]
    rfl
  rw [subnet?, whole]
  simp [read, readMask]

theorem section?_firewall {intent : Intent} {rollout : Rollout}
    (rendered : render intent .fortigate = .ok rollout) :
    rollout.section? "firewall" =
      some (.firewall, (firewall intent.firewall).flatMap (·.commands)) :=
  render_section? rendered .firewall

/-- The address for management holds the source, and an address alone is its own mask. -/
theorem admits_source {intent : Intent} {rollout : Rollout} {source : String} {address : Quad}
    {length : Option Nat} (rendered : render intent .fortigate = .ok rollout)
    (enabled : intent.firewall.enabled) (given : intent.firewall.allowMgmtFrom = some source)
    (known : IsSource source.toList address length) :
    ∃ setting others, rollout.section? "firewall" =
        some (.firewall,
          "config firewall address" :: "    edit \"NETCFG-MGMT\"" :: setting :: others) ∧
      subnet? setting = some ⟨address, (length.map .ofPrefix).getD address⟩ := by
  have all := solid_of_isSource known
  have found := section?_firewall rendered
  simp only [firewall, enabled, given, List.flatMap_cons] at found
  refine ⟨_, _, found, ?_⟩
  generalize shape : source.toList = cs at known
  cases known with
  | host solid read =>
    rw [← shape] at solid read
    rw [network_host all read, dottedMask_host all read]
    exact subnet?_network solid read solid read
  | @prefixed host digits _ length solid read decimal known =>
    have absent := slash_not_mem read
    rw [network_prefixed all shape absent, dottedMask_prefixed all shape absent known]
    exact subnet?_network (by simpa using solid) (by simpa using read) (solid_text _)
      (readQuad?_text _)

end FortiOs

namespace Rollout

/-- On both vendors the sources have the same address. They are the same sources exactly where the intent
gives the length of a prefix, or where the address, taken for a mask, has no zero. -/
theorem management_agrees_iff {intent : Intent} {ios fortios : Rollout} {source : String}
    {address : Quad} {length : Option Nat} (permitted : render intent .cisco = .ok ios)
    (admitted : render intent .fortigate = .ok fortios) (enabled : intent.firewall.enabled)
    (given : intent.firewall.allowMgmtFrom = some source)
    (known : IsSource source.toList address length) :
    ∃ permit others setting entries acl subnet,
      ios.section? "firewall" =
        some (.firewall, "ip access-list extended MGMT-IN" :: permit :: others) ∧
      fortios.section? "firewall" =
        some (.firewall,
          "config firewall address" :: "    edit \"NETCFG-MGMT\"" :: setting :: entries) ∧
      Ios.permitted? permit = some acl ∧ FortiOs.subnet? setting = some subnet ∧
      acl.address = subnet.address ∧
      (acl.mask = subnet.mask ↔ length.isSome ∨ address = .ones) ∧
      ((∀ peer, acl.Admits peer ↔ subnet.Admits peer) ↔ length.isSome ∨ address = .ones) := by
  obtain ⟨permit, others, list, permits⟩ := Ios.permits_source permitted enabled given known
  obtain ⟨setting, entries, object, holds⟩ := FortiOs.admits_source admitted enabled given known
  have masks : (length.map Quad.ofPrefix).getD .ones = (length.map Quad.ofPrefix).getD address ↔
      length.isSome ∨ address = .ones := by
    cases length with
    | none => simp [eq_comm]
    | some length => simp
  refine ⟨permit, others, setting, entries, _, _, list, object, permits, holds, rfl, masks, ?_⟩
  rw [← masks]
  constructor
  · exact Network.mask_eq_of_same_admitted
  · intro same peer
    rw [same]

/-- An intent for the firewall only. -/
def managedFrom (source : String) : Intent :=
  { firewall := { enabled := true, allowMgmtFrom := some source } }

theorem renders_managedFrom (source : String) :
    (∃ rollout, render (managedFrom source) .cisco = .ok rollout) ∧
      ∃ rollout, render (managedFrom source) .fortigate = .ok rollout :=
  ⟨⟨_, render_eq_ok_iff.mpr ⟨_, rfl, rfl, rfl⟩⟩, ⟨_, render_eq_ok_iff.mpr ⟨_, rfl, rfl, rfl⟩⟩⟩

theorem management_agrees_prefix :
    ∃ ios fortios, render (managedFrom "10.0.100.0/24") .cisco = .ok ios ∧
      render (managedFrom "10.0.100.0/24") .fortigate = .ok fortios ∧
      IsSource "10.0.100.0/24".toList ⟨10, 0, 100, 0⟩ (some 24) ∧
      ∃ permit others setting entries acl subnet,
        ios.section? "firewall" =
          some (.firewall, "ip access-list extended MGMT-IN" :: permit :: others) ∧
        fortios.section? "firewall" =
          some (.firewall,
            "config firewall address" :: "    edit \"NETCFG-MGMT\"" :: setting :: entries) ∧
        Ios.permitted? permit = some acl ∧ FortiOs.subnet? setting = some subnet ∧
        acl.address = subnet.address ∧
        (acl.mask = subnet.mask ↔
          (some 24 : Option Nat).isSome ∨ (⟨10, 0, 100, 0⟩ : Quad) = .ones) ∧
        ((∀ peer, acl.Admits peer ↔ subnet.Admits peer) ↔
          (some 24 : Option Nat).isSome ∨ (⟨10, 0, 100, 0⟩ : Quad) = .ones) := by
  obtain ⟨⟨ios, permitted⟩, ⟨fortios, admitted⟩⟩ := renders_managedFrom "10.0.100.0/24"
  have known : IsSource "10.0.100.0/24".toList ⟨10, 0, 100, 0⟩ (some 24) :=
    @IsSource.prefixed "10.0.100.0".toList "24".toList _ _ (solid_iff.mpr (by decide)) (by decide)
      (List.all_eq_true.mp (by decide)) (by decide)
  exact ⟨ios, fortios, permitted, admitted, known,
    management_agrees_iff permitted admitted rfl rfl known⟩

/-- A source without a prefix: FortiOS lets in 10.0.0.7 as well, which has all the ones of 10.0.0.5. -/
theorem management_differs_host :
    ∃ ios fortios, render (managedFrom "10.0.0.5") .cisco = .ok ios ∧
      render (managedFrom "10.0.0.5") .fortigate = .ok fortios ∧
      IsSource "10.0.0.5".toList ⟨10, 0, 0, 5⟩ none ∧
      ∃ others entries acl subnet,
        ios.section? "firewall" = some (.firewall,
          "ip access-list extended MGMT-IN" :: " permit ip host 10.0.0.5 any" :: others) ∧
        fortios.section? "firewall" = some (.firewall, "config firewall address" ::
          "    edit \"NETCFG-MGMT\"" :: "        set subnet 10.0.0.5 10.0.0.5" :: entries) ∧
        Ios.permitted? " permit ip host 10.0.0.5 any" = some acl ∧
        FortiOs.subnet? "        set subnet 10.0.0.5 10.0.0.5" = some subnet ∧
        acl.mask ≠ subnet.mask ∧ ¬acl.Admits ⟨10, 0, 0, 7⟩ ∧ subnet.Admits ⟨10, 0, 0, 7⟩ := by
  obtain ⟨⟨ios, permitted⟩, ⟨fortios, admitted⟩⟩ := renders_managedFrom "10.0.0.5"
  have read : readQuad? "10.0.0.5".toList = some ⟨10, 0, 0, 5⟩ := by decide
  have known : IsSource "10.0.0.5".toList ⟨10, 0, 0, 5⟩ none :=
    .host (solid_iff.mpr (by decide)) read
  have mask : dottedMask (some "10.0.0.5") = "10.0.0.5" :=
    dottedMask_host (solid_of_isSource known) read
  have list := Ios.section?_firewall permitted
  have object := FortiOs.section?_firewall admitted
  simp only [managedFrom, FortiOs.firewall, mask] at object
  exact ⟨ios, fortios, permitted, admitted, known, _, _, ⟨⟨10, 0, 0, 5⟩, .ones⟩,
    ⟨⟨10, 0, 0, 5⟩, ⟨10, 0, 0, 5⟩⟩, list, object, by decide, by decide, by decide, by decide,
    by decide⟩

end Rollout

end DeviceConfig
