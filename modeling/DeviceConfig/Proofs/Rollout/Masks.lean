import DeviceConfig.Proofs.Address.Netmask
import DeviceConfig.Proofs.Rollout.Rollback

/-!
The masks of a rollout. Routes, gateways and ports get from every vendor a mask read from the same text, from IOS
and FortiOS in dotted form and from RouterOS as the length of a prefix. The two are the same mask unless the text
has a second slash.
-/

namespace DeviceConfig.Rollout

open Address Text

/-- What an intent gives an address that has a mask. -/
inductive Addressed where
  | static (route : Intent.Route)
  | gateway (vlan : Intent.Vlan) (address : String)
  | port (iface : Intent.Interface) (address : String)

/-- A line, and the lines that its block begins with. -/
structure Setting where
  header : List String
  line : String

/-- A setting is in commands if a block of theirs begins as its header says and has its line. -/
def Setting.IsIn (setting : Setting) (vendor : Vendor) (lines : List String) : Prop :=
  ∃ blocks block, blocks? vendor lines = some blocks ∧ block ∈ blocks ∧
    setting.header <+: block ∧ setting.line ∈ block

namespace Addressed

/-- What an intent gives an address: its routes, the gateways of its VLANs, and its interfaces. -/
inductive Given (intent : Intent) : Addressed → Prop where
  | static {route : Intent.Route} (member : route ∈ intent.routing.staticRoutes) :
      Given intent (.static route)
  | gateway {vlan : Intent.Vlan} {address : String} (member : vlan ∈ intent.vlans)
      (given : vlan.gateway = some address) : Given intent (.gateway vlan address)
  | port {iface : Intent.Interface} {address : String} (member : iface ∈ intent.interfaces)
      (given : iface.ipAddress = some address) : Given intent (.port iface address)

/-- The text the mask is read from. -/
def mask : Addressed → Option String
  | .static route => (routeTarget route.destination route.netmask).2
  | .gateway vlan _ => vlan.subnet
  | .port iface _ => iface.subnetMask

/-! ### How each vendor sets the address -/

def onIos (mask : String) : Addressed → Setting
  | .static route => ⟨[], s!"ip route {network route.destination} {mask} {route.nextHop}"⟩
  | .gateway vlan address => ⟨[s!"interface Vlan{vlan.id}"], s!" ip address {address} {mask}"⟩
  | .port iface address => ⟨[s!"interface {iface.name}"], s!" ip address {address} {mask}"⟩

def onFortiOs (mask : String) : Addressed → Setting
  | .static route =>
    ⟨["config router static"], s!"        set dst {network route.destination} {mask}"⟩
  | .gateway vlan address =>
    ⟨["config system interface", s!"    edit \"vlan{vlan.id}\""],
      s!"        set ip {address} {mask}"⟩
  | .port iface address =>
    ⟨["config system interface", s!"    edit \"{iface.name}\""],
      s!"        set ip {address} {mask}"⟩

def onRouterOs (length : String) : Addressed → Setting
  | .static route =>
    ⟨[], s!"/ip route add dst-address={network route.destination}/{length} gateway={route.nextHop}"⟩
  | .gateway vlan address =>
    ⟨[], s!"/ip address add address={address}/{length} interface=vlan{vlan.id}"⟩
  | .port iface address =>
    ⟨[], s!"/ip address add address={address}/{length} interface={iface.name}"⟩

end Addressed

theorem isIn_of_planned {intent : Intent} {vendor : Vendor} {rollout : Rollout}
    {language : CommandLanguage} {part : Section → Plan} {setting : Setting}
    (rendered : render intent vendor = .ok rollout) (known : languageOf vendor = .ok language)
    (laidOut : language.plan intent = .ofParts part) (target : Section) {mutation : Mutation}
    (planned : mutation ∈ part target) (begins : setting.header <+: mutation.commands)
    (line : setting.line ∈ mutation.commands) : setting.IsIn vendor rollout.commands := by
  have inPlan : mutation ∈ language.plan intent := by
    rw [laidOut]
    exact mem_ofParts planned
  obtain ⟨blocks, whole, member⟩ := exists_block rendered known inPlan
  exact ⟨blocks, mutation.commands, whole, member, begins, line⟩

section
variable {intent : Intent} {rollout : Rollout} {item : Addressed} (given : item.Given intent)
include given

theorem onIos_isIn (rendered : render intent .cisco = .ok rollout) :
    (item.onIos (dottedMask item.mask)).IsIn .cisco rollout.commands := by
  have change := @isIn_of_planned _ _ _ _ _ (item.onIos (dottedMask item.mask)) rendered rfl
    (Ios.plan_eq_ofParts intent)
  cases given with
  | static member =>
    exact change .routing (List.mem_map_of_mem member) List.nil_prefix List.mem_cons_self
  | @gateway vlan address member given =>
    have made : Ios.gateway? vlan = some
        ⟨.interfaces,
          [s!"interface Vlan{vlan.id}", s!" ip address {address} {dottedMask vlan.subnet}",
            " no shutdown"], s!"no interface Vlan{vlan.id}"⟩ := by
      rw [Ios.gateway?, given]
      rfl
    exact change .interfaces (List.mem_append_left _ (List.mem_filterMap.mpr ⟨vlan, member, made⟩))
      ⟨_, rfl⟩ (List.mem_cons_of_mem _ List.mem_cons_self)
  | port member given =>
    refine change .interfaces (List.mem_append_right _ (List.mem_map_of_mem member)) ⟨_, rfl⟩ ?_
    simp [Ios.interface, Addressed.onIos, Addressed.mask, given]

theorem onRouterOs_isIn (rendered : render intent .mikrotik = .ok rollout) :
    (item.onRouterOs (prefixLength item.mask)).IsIn .mikrotik rollout.commands := by
  have change := @isIn_of_planned _ _ _ _ _ (item.onRouterOs (prefixLength item.mask)) rendered rfl
    (RouterOs.plan_eq_ofParts intent)
  cases given with
  | static member =>
    refine change .routing (List.mem_map_of_mem member) List.nil_prefix ?_
    simp [RouterOs.route, RouterOs.change, Addressed.onRouterOs, Addressed.mask, routeTarget,
      ← String.toList_inj]
  | @gateway vlan address member given =>
    obtain ⟨mutation, made, line⟩ : ∃ mutation ∈ RouterOs.vlan vlan, mutation.commands =
        [s!"/ip address add address={address}/{prefixLength vlan.subnet} interface=vlan{vlan.id}"] := by
      simp [RouterOs.vlan, RouterOs.change, given, ← String.toList_inj]
    exact change .vlan (List.mem_flatMap.mpr ⟨vlan, member, made⟩) List.nil_prefix
      (by rw [line]; exact List.mem_cons_self)
  | @port iface address member given =>
    obtain ⟨mutation, made, line⟩ : ∃ mutation ∈ RouterOs.interface iface, mutation.commands =
        [s!"/ip address add address={address}/{prefixLength iface.subnetMask} interface={iface.name}"] := by
      simp [RouterOs.interface, RouterOs.change, given, ← String.toList_inj]
    exact change .interfaces (List.mem_flatMap.mpr ⟨iface, member, made⟩) List.nil_prefix
      (by rw [line]; exact List.mem_cons_self)

theorem onFortiOs_isIn (rendered : render intent .fortigate = .ok rollout) :
    (item.onFortiOs (dottedMask item.mask)).IsIn .fortigate rollout.commands := by
  have change := @isIn_of_planned _ _ _ _ _ (item.onFortiOs (dottedMask item.mask)) rendered rfl
    (FortiOs.plan_eq_ofParts intent)
  cases given with
  | @static route member =>
    obtain ⟨place, bound, rfl⟩ := List.getElem_of_mem member
    apply change .routing (List.mem_mapIdx.mpr ⟨place, bound, rfl⟩)
    · simp [FortiOs.route, FortiOs.change, FortiOs.entryBlock_eq, Addressed.onFortiOs]
    · simp [FortiOs.route, FortiOs.change, FortiOs.entryBlock_eq, Addressed.onFortiOs,
        Addressed.mask, routeTarget, FortiOs.indented, ← String.toList_inj]
  | gateway member given =>
    apply change .vlan (List.mem_map_of_mem member)
    · simp [FortiOs.vlan, FortiOs.change, FortiOs.quote, FortiOs.entryBlock_eq,
        Addressed.onFortiOs, FortiOs.indented, ← String.toList_inj]
    · simp [FortiOs.vlan, FortiOs.change, FortiOs.entryBlock_eq, Addressed.onFortiOs,
        Addressed.mask, FortiOs.indented, given, ← String.toList_inj]
  | port member given =>
    apply change .interfaces (List.mem_map_of_mem member)
    · simp [FortiOs.interface, FortiOs.change, FortiOs.quote, FortiOs.entryBlock_eq,
        Addressed.onFortiOs, FortiOs.indented, ← String.toList_inj]
    · simp [FortiOs.interface, FortiOs.interfaceSettings, FortiOs.change,
        FortiOs.entryBlock_eq, Addressed.onFortiOs, Addressed.mask, FortiOs.indented,
        given, ← String.toList_inj]

end

/-- The dotted form of a mask has as many ones as its length says exactly where no length other than 24 is
read between two slashes. These are the masks that routes, gateways and ports get from the vendors. -/
theorem masks_agree_iff (mask : Option String) :
    (∃ quad, readQuad? (dottedMask mask).toList = some quad ∧
      prefixOfMask (dottedMask mask) = toString (quad.bits.count true)) ∧
    (prefixOfMask (dottedMask mask) = prefixLength mask ↔
      ∀ length ∈ lengthBetweenSlashes? mask, length = 24) ∧
    ∀ (intent : Intent) (ios routeros fortios : Rollout) (item : Addressed),
      render intent .cisco = .ok ios → render intent .mikrotik = .ok routeros →
      render intent .fortigate = .ok fortios → item.Given intent → item.mask = mask →
      (item.onIos (dottedMask mask)).IsIn .cisco ios.commands ∧
      (item.onFortiOs (dottedMask mask)).IsIn .fortigate fortios.commands ∧
      (item.onRouterOs (prefixLength mask)).IsIn .mikrotik routeros.commands := by
  refine ⟨readQuad?_dottedMask mask, prefixOfMask_dottedMask_iff mask, ?_⟩
  rintro intent ios routeros fortios item onIos onRouterOs onFortiOs given rfl
  exact ⟨onIos_isIn given onIos, onFortiOs_isIn given onFortiOs, onRouterOs_isIn given onRouterOs⟩

/-- An intent for one route only. -/
def routedTo (destination : String) : Intent :=
  { routing := { staticRoutes := [{ destination, nextHop := "10.0.0.1" }] } }

theorem renders_routedTo {destination : String} (given : isBlankText destination = false) :
    (∃ ios, render (routedTo destination) .cisco = .ok ios) ∧
      (∃ routeros, render (routedTo destination) .mikrotik = .ok routeros) ∧
      ∃ fortios, render (routedTo destination) .fortigate = .ok fortios := by
  have nextHop : isBlankText "10.0.0.1" = false := by decide
  have faultless : fault? (routedTo destination) = none := by
    simp [fault?, firstFault?, routedTo, routeFault?, given, nextHop]
  exact ⟨⟨_, render_eq_ok_iff.mpr ⟨_, rfl, faultless, rfl⟩⟩,
    ⟨_, render_eq_ok_iff.mpr ⟨_, rfl, faultless, rfl⟩⟩,
    ⟨_, render_eq_ok_iff.mpr ⟨_, rfl, faultless, rfl⟩⟩⟩

theorem given_routedTo (destination : String) :
    (Addressed.static { destination, nextHop := "10.0.0.1" }).Given (routedTo destination) :=
  .static (by simp [routedTo])

theorem mask_routedTo {destination : String} (slash : '/' ∈ destination.toList)
    (tight : trim destination = destination) :
    (Addressed.static { destination, nextHop := "10.0.0.1" }).mask = some destination := by
  simp [Addressed.mask, routeTarget, given?, String.contains_char_eq, slash, tight]

theorem masks_agree_one_slash :
    ∃ ios routeros fortios, render (routedTo "10.1.0.0/16") .cisco = .ok ios ∧
      render (routedTo "10.1.0.0/16") .mikrotik = .ok routeros ∧
      render (routedTo "10.1.0.0/16") .fortigate = .ok fortios ∧
      Setting.IsIn ⟨[], "ip route 10.1.0.0 255.255.0.0 10.0.0.1"⟩ .cisco ios.commands ∧
      Setting.IsIn ⟨["config router static"], "        set dst 10.1.0.0 255.255.0.0"⟩ .fortigate
        fortios.commands ∧
      Setting.IsIn ⟨[], "/ip route add dst-address=10.1.0.0/16 gateway=10.0.0.1"⟩ .mikrotik
        routeros.commands ∧
      prefixOfMask "255.255.0.0" = "16" := by
  obtain ⟨⟨ios, onIos⟩, ⟨routeros, onRouterOs⟩, ⟨fortios, onFortiOs⟩⟩ :=
    renders_routedTo (by decide : isBlankText "10.1.0.0/16" = false)
  have given : given? (some "10.1.0.0/16") = some "10.1.0.0/16" := by decide
  have shape : "10.1.0.0/16".toList = "10.1.0.0".toList ++ '/' :: "16".toList := by decide
  have dotted : dottedMask (some "10.1.0.0/16") = "255.255.0.0" :=
    (dottedMask_slash given shape (by decide)).trans (by decide)
  have length : prefixLength (some "10.1.0.0/16") = "16" :=
    (prefixLength_slash given shape (by decide)).trans (by decide)
  have single : lengthBetweenSlashes? (some "10.1.0.0/16") = none := by decide
  obtain ⟨_, agree, settings⟩ := masks_agree_iff (some "10.1.0.0/16")
  have same := agree.mpr (by simp [single])
  obtain ⟨cisco, fortigate, mikrotik⟩ := settings _ ios routeros fortios _ onIos onRouterOs
    onFortiOs (given_routedTo "10.1.0.0/16") (mask_routedTo (by decide) (by decide))
  rw [dotted] at cisco fortigate same
  rw [length] at mikrotik same
  exact ⟨ios, routeros, fortios, onIos, onRouterOs, onFortiOs, cisco, fortigate, mikrotik, same⟩

/-- A second slash: IOS routes to 24 bits, RouterOS to 16. -/
theorem masks_differ_two_slashes :
    prefixOfMask (dottedMask (some "10.0.0.0/16/8")) ≠ prefixLength (some "10.0.0.0/16/8") ∧
    ∃ ios routeros, render (routedTo "10.0.0.0/16/8") .cisco = .ok ios ∧
      render (routedTo "10.0.0.0/16/8") .mikrotik = .ok routeros ∧
      Setting.IsIn ⟨[], "ip route 10.0.0.0 255.255.255.0 10.0.0.1"⟩ .cisco ios.commands ∧
      Setting.IsIn ⟨[], "/ip route add dst-address=10.0.0.0/16 gateway=10.0.0.1"⟩ .mikrotik
        routeros.commands ∧
      prefixOfMask "255.255.255.0" = "24" := by
  obtain ⟨⟨ios, onIos⟩, ⟨routeros, onRouterOs⟩, _⟩ :=
    renders_routedTo (by decide : isBlankText "10.0.0.0/16/8" = false)
  have mask : (Addressed.static { destination := "10.0.0.0/16/8", nextHop := "10.0.0.1" }).mask =
      some "10.0.0.0/16/8" := mask_routedTo (by decide) (by decide)
  have given : given? (some "10.0.0.0/16/8") = some "10.0.0.0/16/8" := by decide
  have shape : "10.0.0.0/16/8".toList = "10.0.0.0".toList ++ '/' :: "16/8".toList := by decide
  have dotted : dottedMask (some "10.0.0.0/16/8") = "255.255.255.0" :=
    (dottedMask_slash given shape (by decide)).trans (by decide)
  have length : prefixLength (some "10.0.0.0/16/8") = "16" :=
    (prefixLength_slash given shape (by decide)).trans (by decide)
  have cisco := onIos_isIn (given_routedTo "10.0.0.0/16/8") onIos
  have mikrotik := onRouterOs_isIn (given_routedTo "10.0.0.0/16/8") onRouterOs
  rw [mask, dotted] at cisco
  rw [mask, length] at mikrotik
  rw [dotted, length]
  exact ⟨by decide, ios, routeros, onIos, onRouterOs, cisco, mikrotik, by decide⟩

end DeviceConfig.Rollout
