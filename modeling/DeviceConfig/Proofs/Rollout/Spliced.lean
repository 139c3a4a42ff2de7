import DeviceConfig.Intent.Basic
import DeviceConfig.Proofs.Address.Netmask
import DeviceConfig.Proofs.Text.Interpolation
import DeviceConfig.Rollout.Plan

/-!
Texts of an intent inside commands. A command has a line break just where one of the texts put into it has, so
it is enough to know which texts these are.
-/

namespace DeviceConfig

open Address Rollout Text

namespace Text

theorem isLine_trim {text : String} (whole : IsLine text) : IsLine (trim text) := by
  rw [IsLine, trim, String.toList_ofList]
  exact fun broken => whole (mem_of_mem_trimChars broken)

theorem isLine_of_solid {text : String} (solid : ∀ c ∈ text.toList, isBlank c = false) : IsLine text :=
  fun broken => absurd (solid _ broken) (by decide)

end Text

/-! ### Texts about addresses -/

namespace Address

theorem isLine_text (quad : Quad) : IsLine quad.text := isLine_of_solid (solid_text quad)

theorem isLine_maskOfCidr (cidr : String) : IsLine (maskOfCidr cidr) := by
  unfold maskOfCidr
  cases cidrLength? cidr with
  | none => decide
  | some length => exact isLine_text _

theorem isLine_wildcardOfCidr (cidr : String) : IsLine (wildcardOfCidr cidr) := by
  unfold wildcardOfCidr
  cases cidrLength? cidr with
  | none => decide
  | some length => exact isLine_text _

theorem isLine_network {address : String} (whole : IsLine address) : IsLine (network address) := by
  rw [IsLine, network, String.toList_ofList]
  exact fun broken => whole ((List.takeWhile_sublist _).subset (mem_of_mem_trimChars broken))

theorem isLine_given? {mask : Option String} (whole : ∀ text ∈ mask, IsLine text) :
    ∀ text ∈ given? mask, IsLine text := by
  intro text given
  obtain ⟨trimmed, _⟩ := Option.filter_eq_some_iff.mp given
  obtain ⟨raw, same, rfl⟩ := Option.map_eq_some_iff.mp trimmed
  exact isLine_trim (whole raw same)

/-- A dotted mask is the only text that a mask hands on. -/
theorem isLine_dottedMask {mask : Option String} (whole : ∀ text ∈ mask, IsLine text) :
    IsLine (dottedMask mask) := by
  have fallback : ∀ dotted, IsLine dotted → IsLine (if dotted = "" then defaultMask else dotted) := by
    intro dotted line
    split
    · decide
    · exact line
  unfold dottedMask
  cases given : given? mask with
  | none => decide
  | some text =>
    apply fallback
    split
    · exact isLine_maskOfCidr _
    · split
      · split
        · decide
        · exact isLine_given? whole text given
      · exact isLine_maskOfCidr _

theorem isLine_prefixLength (mask : Option String) : IsLine (prefixLength mask) := by
  unfold prefixLength
  cases given? mask with
  | none => decide
  | some text =>
    dsimp only
    cases readNat? 32 _ with
    | none => decide
    | some length => exact isLine_toString length

theorem isLine_routeTarget {destination : String} {mask : Option String} (whole : IsLine destination)
    (masked : ∀ text ∈ mask, IsLine text) :
    IsLine (network destination) ∧ ∀ text ∈ (routeTarget destination mask).2, IsLine text := by
  refine ⟨isLine_network whole, ?_⟩
  intro text given
  rw [routeTarget, Option.mem_def, Option.orElse_eq_some] at given
  rcases given with own | ⟨-, behind⟩
  · exact isLine_given? masked text own
  · split at behind
    · obtain rfl := Option.some.inj behind
      exact isLine_trim whole
    · cases behind

end Address

/-! ### Texts of intents -/

namespace Intent

def Interface.texts (iface : Interface) : List String :=
  [iface.name] ++ iface.ipAddress.toList ++ iface.subnetMask.toList ++ iface.description.toList

def Vlan.texts (vlan : Vlan) : List String :=
  vlan.name.toList ++ vlan.subnet.toList ++ vlan.gateway.toList

def Route.texts (route : Route) : List String :=
  [route.destination] ++ route.netmask.toList ++ [route.nextHop]

def Services.texts (services : Services) : List String :=
  services.ntpServers ++ services.dnsServers ++ services.syslogServers

/-- All that an intent says in words of its own. -/
def texts (intent : Intent) : List String :=
  intent.hostname.toList ++ intent.interfaces.flatMap (·.texts) ++ intent.vlans.flatMap (·.texts) ++
    intent.routing.staticRoutes.flatMap (·.texts) ++ intent.services.texts ++
    intent.firewall.allowMgmtFrom.toList

/-! An address and its mask, where the mask is dotted. -/

def Interface.dotted (iface : Interface) : List String :=
  iface.ipAddress.toList.flatMap fun ip => [ip, dottedMask iface.subnetMask]

def Vlan.dotted (vlan : Vlan) : List String :=
  vlan.gateway.toList.flatMap fun gateway => [gateway, dottedMask vlan.subnet]

def Route.dotted (route : Route) : List String :=
  [network route.destination, dottedMask (routeTarget route.destination route.netmask).2, route.nextHop]

theorem lines_masked {address mask : Option String} (whole : ∀ text ∈ address, IsLine text)
    (masked : ∀ text ∈ mask, IsLine text) :
    ∀ text ∈ address.toList.flatMap fun ip => [ip, dottedMask mask], IsLine text := by
  cases address with
  | none => simp
  | some ip => simpa using ⟨whole ip rfl, isLine_dottedMask masked⟩

theorem lines_interface {iface : Interface} (whole : ∀ text ∈ iface.texts, IsLine text) :
    IsLine iface.name ∧ (∀ text ∈ iface.ipAddress, IsLine text) ∧
      (∀ text ∈ iface.description, IsLine text) ∧ ∀ text ∈ iface.dotted, IsLine text := by
  simp only [Interface.texts, List.forall_mem_append, List.forall_mem_singleton, Option.mem_toList] at whole
  obtain ⟨⟨⟨name, ip⟩, mask⟩, description⟩ := whole
  exact ⟨name, ip, description, lines_masked ip mask⟩

theorem lines_vlan {vlan : Vlan} (whole : ∀ text ∈ vlan.texts, IsLine text) :
    (∀ text ∈ vlan.name, IsLine text) ∧ (∀ text ∈ vlan.gateway, IsLine text) ∧
      ∀ text ∈ vlan.dotted, IsLine text := by
  simp only [Vlan.texts, List.forall_mem_append, Option.mem_toList] at whole
  obtain ⟨⟨name, subnet⟩, gateway⟩ := whole
  exact ⟨name, gateway, lines_masked gateway subnet⟩

theorem lines_route {route : Route} (whole : ∀ text ∈ route.texts, IsLine text) :
    IsLine (network route.destination) ∧ IsLine route.nextHop ∧ ∀ text ∈ route.dotted, IsLine text := by
  simp only [Route.texts, List.forall_mem_append, List.forall_mem_singleton, Option.mem_toList] at whole
  obtain ⟨⟨destination, netmask⟩, nextHop⟩ := whole
  obtain ⟨target, masked⟩ := isLine_routeTarget destination netmask
  refine ⟨target, nextHop, ?_⟩
  simpa [Route.dotted] using ⟨target, isLine_dottedMask masked, nextHop⟩

theorem lines_intent {intent : Intent} (whole : ∀ text ∈ intent.texts, IsLine text) :
    (∀ text ∈ intent.givenHostname?, IsLine text) ∧
      (∀ iface ∈ intent.interfaces, ∀ text ∈ iface.texts, IsLine text) ∧
      (∀ vlan ∈ intent.vlans, ∀ text ∈ vlan.texts, IsLine text) ∧
      (∀ route ∈ intent.routing.staticRoutes, ∀ text ∈ route.texts, IsLine text) ∧
      (∀ text ∈ intent.services.texts, IsLine text) ∧
      ∀ text ∈ intent.firewall.allowMgmtFrom, IsLine text := by
  simp only [texts, List.forall_mem_append, List.forall_mem_flatMap, Option.mem_toList] at whole
  obtain ⟨⟨⟨⟨⟨hostname, interfaces⟩, vlans⟩, routes⟩, services⟩, source⟩ := whole
  refine ⟨fun text given => ?_, interfaces, vlans, routes, services, source⟩
  exact hostname text (Option.mem_filter_iff.mp given).1

end Intent

/-! ### Changes and the texts in them -/

namespace Rollout

/-- The commands of the change are lines just if the texts are. -/
def Mutation.Carries (mutation : Mutation) (texts : List String) : Prop :=
  (∀ command ∈ mutation.commands, IsLine command) ↔ ∀ text ∈ texts, IsLine text

def Plan.Carries (plan : Plan) (texts : List String) : Prop :=
  (∀ mutation ∈ plan, ∀ command ∈ mutation.commands, IsLine command) ↔ ∀ text ∈ texts, IsLine text

section
variable {α : Type} {texts others : List String} {plan rest : Plan}

/-- Commands that are the same for all intents. -/
theorem carries_of_lines (whole : ∀ mutation ∈ plan, ∀ command ∈ mutation.commands, IsLine command) :
    plan.Carries [] :=
  iff_of_true whole (by simp)

theorem carries_nil : Plan.Carries [] [] := carries_of_lines (by simp)

theorem carries_append (first : plan.Carries texts) (second : rest.Carries others) :
    Plan.Carries (plan ++ rest) (texts ++ others) := by
  rw [Plan.Carries, List.forall_mem_append, List.forall_mem_append]
  exact and_congr first second

theorem carries_append_lines (first : plan.Carries texts)
    (whole : ∀ mutation ∈ rest, ∀ command ∈ mutation.commands, IsLine command) :
    Plan.Carries (plan ++ rest) texts := by
  have both := carries_append first (carries_of_lines whole)
  rwa [List.append_nil] at both

theorem carries_cons {mutation : Mutation} (first : mutation.Carries texts) (second : rest.Carries others) :
    Plan.Carries (mutation :: rest) (texts ++ others) := by
  rw [Plan.Carries, List.forall_mem_cons, List.forall_mem_append]
  exact and_congr first second

theorem carries_single {mutation : Mutation} (carries : mutation.Carries texts) :
    Plan.Carries [mutation] texts := by
  simpa using carries_cons carries carries_nil

theorem carries_ite {condition : Prop} [Decidable condition] (first : plan.Carries texts)
    (second : rest.Carries others) :
    Plan.Carries (if condition then plan else rest) (if condition then texts else others) := by
  split
  · exact first
  · exact second

theorem carries_flatMap {changes : α → Plan} {spliced : α → List String}
    (each : ∀ item, (changes item).Carries (spliced item)) (items : List α) :
    Plan.Carries (items.flatMap changes) (items.flatMap spliced) := by
  induction items with
  | nil => exact carries_nil
  | cons item items ih =>
    rw [List.flatMap_cons, List.flatMap_cons]
    exact carries_append (each item) ih

theorem carries_map {change : α → Mutation} {spliced : α → List String}
    (each : ∀ item, (change item).Carries (spliced item)) (items : List α) :
    Plan.Carries (items.map change) (items.flatMap spliced) := by
  rw [List.map_eq_flatMap]
  exact carries_flatMap (fun item => carries_single (each item)) items

theorem carries_mapIdx {change : Nat → α → Mutation} {spliced : α → List String}
    (each : ∀ place item, (change place item).Carries (spliced item)) (items : List α) :
    Plan.Carries (items.mapIdx change) (items.flatMap spliced) := by
  induction items generalizing change with
  | nil => exact carries_nil
  | cons item items ih =>
    rw [List.mapIdx_cons, List.flatMap_cons]
    exact carries_cons (each 0 item) (ih fun place => each (place + 1))

theorem carries_optional {change : α → Mutation} {spliced : α → List String}
    (each : ∀ item, (change item).Carries (spliced item)) (item : Option α) :
    Plan.Carries (item.map change).toList (item.toList.flatMap spliced) := by
  cases item with
  | none => exact carries_nil
  | some item => simpa using carries_single (each item)

/-- A text that is put into a change of its own, if it is there. -/
theorem carries_given {change : String → Mutation} (each : ∀ text, (change text).Carries [text])
    (given : Option String) : Plan.Carries (given.map change).toList given.toList := by
  have whole := carries_optional each given
  rwa [List.flatMap_singleton'] at whole

end

end Rollout

end DeviceConfig
