import DeviceConfig.Proofs.Rollout.Order
import DeviceConfig.Rollout.Preflight

/-!
Findings before a rollout. What they say of the device can be read off the commands that the rollout then brings,
whatever texts of the intent stand in these.
-/

namespace DeviceConfig

open Rollout

namespace Rollout

/-! ### Lines of a plan -/

/-- The line is one of the commands. -/
def Plan.Shows (line : String) (plan : Plan) : Prop := ∃ mutation ∈ plan, line ∈ mutation.commands

section
variable {α : Type} {line : String}

theorem mem_commands {plan : Plan} : line ∈ plan.flatMap (·.commands) ↔ plan.Shows line := List.mem_flatMap

@[simp] theorem shows_nil : ¬Plan.Shows line [] := by simp [Plan.Shows]

@[simp] theorem shows_cons {mutation : Mutation} {plan : Plan} :
    Plan.Shows line (mutation :: plan) ↔ line ∈ mutation.commands ∨ plan.Shows line := by
  simp [Plan.Shows]

@[simp] theorem shows_append {left right : Plan} :
    Plan.Shows line (left ++ right) ↔ left.Shows line ∨ right.Shows line := by
  simp only [Plan.Shows, List.mem_append, or_and_right, exists_or]

theorem not_shows_map {change : α → Mutation} {items : List α}
    (each : ∀ item, line ∉ (change item).commands) : ¬Plan.Shows line (items.map change) := by
  simpa [Plan.Shows] using fun item _ => each item

theorem not_shows_mapIdx {change : Nat → α → Mutation} {items : List α}
    (each : ∀ place item, line ∉ (change place item).commands) : ¬Plan.Shows line (items.mapIdx change) := by
  rintro ⟨mutation, member, shown⟩
  obtain ⟨place, _, rfl⟩ := List.mem_mapIdx.mp member
  exact each place _ shown

theorem not_shows_optional {change : α → Mutation} {item : Option α}
    (each : ∀ item, line ∉ (change item).commands) : ¬Plan.Shows line (item.map change).toList := by
  cases item <;> simp [each]

end

end Rollout

namespace Ios

/-- The version of SSH is set where SSH is asked for, whatever servers are named. -/
theorem services_shows_version (intent : Intent) :
    (services intent).Shows "ip ssh version 2" ↔ intent.sshEnabled := by
  have server (word : String) (names : List String) (apart : ∀ name, "ip ssh version 2" ≠ word ++ name) :
      ¬Plan.Shows "ip ssh version 2" (names.map fun name => line .services (word ++ name)) :=
    not_shows_map fun name => by simpa [line] using apart name
  have times := server "ntp server " intent.services.ntpServers (by simp [← String.toList_inj])
  have names := server "ip name-server " intent.services.dnsServers (by simp [← String.toList_inj])
  have syslog := server "logging host " intent.services.syslogServers (by simp [← String.toList_inj])
  simp only [services, Text.toString_text, shows_append, times, names]
  cases intent.sshEnabled <;> cases intent.services.syslogServers.isEmpty <;> simp [syslog]

end Ios

namespace RouterOs

/-- The changes that an intent for SSH comes to. -/
def sshChanges (ssh : Intent.Ssh) : Plan :=
  let (now, before) := if ssh.enabled then ("no", "yes") else ("yes", "no")
  [change .services s!"/ip service set ssh disabled={now}" s!"/ip service set ssh disabled={before}",
    change .services "/ip service set telnet disabled=yes" "/ip service set telnet disabled=no"]

theorem services_eq (services : Intent.Services) : RouterOs.services services =
    (services.ssh.map sshChanges).getD [] ++ RouterOs.services { services with ssh := none } := by
  cases given : services.ssh <;> simp [RouterOs.services, given, sshChanges]

/-- SSH is switched off where it is asked to be off, and left alone where nothing is asked. -/
theorem services_shows_disabled (services : Intent.Services) :
    (RouterOs.services services).Shows "/ip service set ssh disabled=yes" ↔ services.ssh.any (!·.enabled) := by
  have others : ¬(RouterOs.services { services with ssh := none }).Shows "/ip service set ssh disabled=yes" := by
    simp only [RouterOs.services, List.nil_append, shows_append, not_or]
    refine ⟨⟨?_, ?_⟩, ?_⟩
    · unfold ntpClient?
      split <;> simp [change, ← String.toList_inj]
    · split <;> simp [change, ← String.toList_inj]
    · split <;> simp [change, ← String.toList_inj]
  rw [services_eq, shows_append, or_iff_left others]
  cases services.ssh with
  | none => simp
  | some ssh => cases enabled : ssh.enabled <;> simp +decide [sshChanges, enabled, change]

end RouterOs

namespace FortiOs

theorem indented_injective (depth : Nat) : Function.Injective (indented depth) := by
  intro line other same
  simpa [indented, ← String.toList_inj] using same

def passwordSetting : String := "set admin-ssh-password enable"

def passwordLine : String := "    set admin-ssh-password enable"

section
variable {target : Section} {path : String} {undo : List String}

/-- The setting is one of the table itself, and of no entry in it. -/
theorem passwordLine_mem_block {lines : List String} :
    passwordLine ∈ (change target (block path lines) undo).commands ↔ passwordSetting ∈ lines := by
  have setting : passwordLine = indented 1 passwordSetting := by decide
  have first : indented 1 passwordSetting ≠ "config " ++ path := by
    simp [passwordSetting, indented, ← String.toList_inj]
  have last : indented 1 passwordSetting ≠ "end" := by decide
  rw [setting]
  simp [change, block, first, last, (indented_injective 1).eq_iff]

theorem passwordLine_mem_settings {commands back : List String} :
    passwordLine ∈ (changeSettings target path commands back).commands ↔ passwordSetting ∈ commands :=
  passwordLine_mem_block

theorem passwordLine_not_mem_entry {name : String} {settings : List String} :
    passwordLine ∉ (change target (entryBlock path name settings) undo).commands := by
  rw [entryBlock, passwordLine_mem_block]
  simp [passwordSetting, indented, ← String.toList_inj]

end

def sshChanges (ssh : Intent.Ssh) : Plan :=
  let password := if ssh.allowPassword then "enable" else "disable"
  [changeSettings .services "system global" ["set admin-ssh-port 22", s!"set admin-ssh-password {password}"]
      ["unset admin-ssh-port", "unset admin-ssh-password"],
    changeSettings .services "system global" ["set admin-telnet disable"] ["unset admin-telnet"]]

theorem services_eq (services : Intent.Services) : FortiOs.services services =
    (services.ssh.map sshChanges).getD [] ++ FortiOs.services { services with ssh := none } := by
  cases given : services.ssh <;> simp [FortiOs.services, given, sshChanges]

theorem sshChanges_show_password (ssh : Intent.Ssh) : (sshChanges ssh).Shows passwordLine ↔ ssh.allowPassword := by
  simp only [sshChanges, shows_cons, shows_nil, passwordLine_mem_settings]
  cases ssh.allowPassword <;> decide

theorem passwordSetting_not_mem_ntpLines (servers : List String) : passwordSetting ∉ ntpLines servers := by
  have entry (place : Nat) (server : String) : (∀ line ∈ [s!"    edit {place + 1}",
      s!"        set server \"{server}\"", "    next"], line ≠ passwordSetting) ↔ True := by
    simp only [List.forall_mem_cons]
    simp [passwordSetting, ← String.toList_inj]
  have others : ∀ line ∈ ntpLines servers, line ≠ passwordSetting :=
    (forall_mem_ntpLines entry).mpr ⟨by decide, fun _ _ => trivial⟩
  exact fun member => others _ member rfl

theorem services_show_password (services : Intent.Services) :
    (FortiOs.services services).Shows passwordLine ↔ services.ssh.any (·.allowPassword) := by
  have others : ¬(FortiOs.services { services with ssh := none }).Shows passwordLine := by
    simp only [FortiOs.services, List.nil_append, shows_append, not_or]
    refine ⟨⟨?_, ?_⟩, ?_⟩
    · split <;> simp [passwordLine_mem_settings, passwordSetting_not_mem_ntpLines]
    · split <;> simp [passwordLine_mem_settings, passwordSetting, ← String.toList_inj]
    · refine not_shows_mapIdx fun place server => ?_
      rw [syslog, passwordLine_mem_settings]
      simp [passwordSetting, ← String.toList_inj]
  rw [services_eq, shows_append, or_iff_left others]
  cases services.ssh with
  | none => simp
  | some ssh => simpa using sshChanges_show_password ssh

theorem firewall_shows_no_password (firewall : Intent.Firewall) :
    ¬(FortiOs.firewall firewall).Shows passwordLine := by
  unfold FortiOs.firewall
  split
  · simp only [shows_cons, shows_nil, passwordLine_not_mem_entry, passwordLine_mem_settings]
    simp [localInPolicy, passwordSetting, ← String.toList_inj]
  · exact shows_nil

theorem plan_shows_password (intent : Intent) :
    (plan intent).Shows passwordLine ↔ intent.services.ssh.any (·.allowPassword) := by
  have base : ¬(base intent).Shows passwordLine := by
    refine not_shows_optional fun hostname => ?_
    rw [passwordLine_mem_settings]
    simp [passwordSetting, ← String.toList_inj]
  have vlans : ¬Plan.Shows passwordLine (intent.vlans.map (vlan (vlanParent intent))) :=
    not_shows_map fun _ => passwordLine_not_mem_entry
  have interfaces : ¬Plan.Shows passwordLine (intent.interfaces.map interface) :=
    not_shows_map fun _ => passwordLine_not_mem_entry
  have routes : ¬Plan.Shows passwordLine (intent.routing.staticRoutes.mapIdx route) :=
    not_shows_mapIdx fun _ _ => passwordLine_not_mem_entry
  simp only [plan, shows_append, base, vlans, interfaces, routes, firewall_shows_no_password, services_show_password,
    false_or, or_false]

/-- A firewall without a source network is left as it is. -/
theorem firewall_commands_eq_nil_iff {firewall : Intent.Firewall} (enabled : firewall.enabled) :
    (FortiOs.firewall firewall).flatMap (·.commands) = [] ↔ firewall.allowMgmtFrom = none := by
  unfold FortiOs.firewall
  cases firewall.allowMgmtFrom <;> simp [enabled, change, entryBlock, block]

end FortiOs

namespace Rollout

open Audit

/-! ### Findings -/

/-- A check of this id has found something. -/
def Reports (findings : List Finding) (id : String) : Prop := ∃ finding ∈ findings, finding.ruleId = id

@[simp] theorem reports_append {first second : List Finding} {id : String} :
    Reports (first ++ second) id ↔ Reports first id ∨ Reports second id := by
  simp only [Reports, List.mem_append, or_and_right, exists_or]

@[simp] theorem reports_itemIf {condition : Bool} {finding : Finding} {id : String} :
    Reports (itemIf condition finding) id ↔ condition = true ∧ finding.ruleId = id := by
  cases condition <;> simp [Reports, itemIf]

theorem preflight_eq_error_iff {intent : Intent} {vendor : Vendor} {cause : RolloutError} :
    preflight intent vendor = .error cause ↔ vendor = .generic ∧ cause = .unsupportedVendor .generic := by
  cases vendor <;> simp [preflight, vendorFindings, bind, Except.bind, pure, Except.pure, eq_comm]

theorem firstFault?_eq_some {α : Type} {fault? : Nat → α → Option RolloutError} {items : List α}
    {fault : RolloutError} (found : firstFault? fault? items = some fault) :
    ∃ place item, fault? place item = some fault := by
  obtain ⟨result, member, same⟩ := List.exists_of_findSome?_eq_some found
  obtain ⟨place, _, rfl⟩ := List.mem_mapIdx.mp member
  exact ⟨_, _, same⟩

/-- What is wrong with an intent is never the vendor. -/
theorem fault?_ne_unsupported (intent : Intent) (vendor : Vendor) :
    fault? intent ≠ some (.unsupportedVendor vendor) := by
  intro found
  simp only [fault?, Option.orElse_eq_orElse, Option.orElse_eq_or, Option.or_eq_some_iff] at found
  rcases found with port | ⟨_, vlan | ⟨_, route⟩⟩
  · obtain ⟨place, item, same⟩ := firstFault?_eq_some port
    simp [interfaceFault?] at same
  · obtain ⟨place, item, same⟩ := firstFault?_eq_some vlan
    simp [vlanFault?] at same
  · obtain ⟨place, item, same⟩ := firstFault?_eq_some route
    unfold routeFault? at same
    split at same
    · simp at same
    · split at same <;> simp at same

theorem render_eq_unsupported_iff {intent : Intent} {vendor named : Vendor} :
    render intent vendor = .error (.unsupportedVendor named) ↔ vendor = .generic ∧ named = .generic := by
  unfold render
  cases known : languageOf vendor with
  | error cause =>
    cases vendor with
    | generic =>
      cases known
      simp [bind, Except.bind, eq_comm]
    | _ => cases known
  | ok language =>
    have spoken : vendor ≠ .generic := by
      rintro rfl
      cases known
    cases faulty : fault? intent with
    | none => simp [bind, Except.bind, pure, Except.pure, spoken]
    | some fault =>
      have other : fault ≠ .unsupportedVendor named :=
        fun same => fault?_ne_unsupported intent named (same ▸ faulty)
      simp [bind, Except.bind, throw, throwThe, MonadExceptOf.throw, other, spoken]

/-! ### What the findings foretell -/

/-- What is found of SSH and of the firewall can be read off the commands, vendor by vendor. -/
structure Foretells (intent : Intent) (vendor : Vendor) (findings : List Finding) (rollout : Rollout) : Prop where
  /-- SSH is required of IOS, and not set up. -/
  required : vendor = .cisco → ∃ services, rollout.section? "services" = some (.services, services) ∧
    (Reports findings "ssh-required" ↔ "ip ssh version 2" ∉ services)
  /-- SSH is switched off on RouterOS. -/
  disabled : vendor = .mikrotik → ∃ services, rollout.section? "services" = some (.services, services) ∧
    (Reports findings "ssh-enabled" ↔ "/ip service set ssh disabled=yes" ∈ services)
  /-- The firewall of FortiOS is asked for, and left as it is. -/
  unrestricted : vendor = .fortigate → ∃ firewall, rollout.section? "firewall" = some (.firewall, firewall) ∧
    (Reports findings "mgmt-source" ↔ intent.firewall.enabled ∧ firewall = [])
  /-- FortiOS lets passwords in on a device in production. -/
  passwords : vendor = .fortigate → (Reports findings "prod-ssh-password" ↔
    intent.metadata.environment = some .prod ∧ "    set admin-ssh-password enable" ∈ rollout.commands)

theorem preflight_eq_ok {intent : Intent} {vendor : Vendor} {findings : List Finding}
    (found : vendorFindings intent vendor = .ok findings) :
    preflight intent vendor = .ok (findings ++ itemIf
      (intent.metadata.environment == some .prod && intent.services.ssh.any (·.allowPassword)) prodSshPassword) := by
  rw [preflight, found]
  rfl

variable {intent : Intent} {rollout : Rollout}

theorem foretells_cisco (rendered : render intent .cisco = .ok rollout) :
    ∃ findings, preflight intent .cisco = .ok findings ∧ Foretells intent .cisco findings rollout := by
  refine ⟨_, preflight_eq_ok rfl, fun _ => ⟨_, render_section? rendered .services, ?_⟩, nofun, nofun, nofun⟩
  rw [mem_commands, partOf, Ios.part, Ios.services_shows_version]
  simp [ciscoSshRequired, ciscoSshVersion, prodSshPassword, preflightFinding]

theorem foretells_mikrotik (rendered : render intent .mikrotik = .ok rollout) :
    ∃ findings, preflight intent .mikrotik = .ok findings ∧ Foretells intent .mikrotik findings rollout := by
  refine ⟨_, preflight_eq_ok rfl, nofun, fun _ => ⟨_, render_section? rendered .services, ?_⟩, nofun, nofun⟩
  rw [mem_commands, partOf, RouterOs.part, RouterOs.services_shows_disabled]
  simp [mikrotikSshEnabled, prodSshPassword, preflightFinding]

theorem foretells_fortigate (rendered : render intent .fortigate = .ok rollout) :
    ∃ findings, preflight intent .fortigate = .ok findings ∧ Foretells intent .fortigate findings rollout := by
  refine ⟨_, preflight_eq_ok rfl, nofun, nofun, fun _ => ⟨_, render_section? rendered .firewall, ?_⟩,
    fun _ => ?_⟩
  · have left : intent.firewall.enabled ∧ (FortiOs.firewall intent.firewall).flatMap (·.commands) = [] ↔
        intent.firewall.enabled ∧ intent.firewall.allowMgmtFrom = none :=
      and_congr_right fun enabled => FortiOs.firewall_commands_eq_nil_iff enabled
    rw [partOf, FortiOs.part, left]
    simp [fortigateSshEnabled, fortigateMgmtSource, prodSshPassword, preflightFinding]
  · have shown := FortiOs.plan_shows_password intent
    rw [← mem_commands, ← commands_of_render rendered rfl] at shown
    rw [← FortiOs.passwordLine, shown]
    simp [fortigateSshEnabled, fortigateMgmtSource, prodSshPassword, preflightFinding]

/-- Both look at the same vendors. Of whatever is rendered the findings say what its commands show. -/
theorem preflight_foretells (intent : Intent) (vendor : Vendor) :
    (∀ cause, preflight intent vendor = .error cause ↔
      vendor = .generic ∧ cause = .unsupportedVendor .generic) ∧
    (∀ named, render intent vendor = .error (.unsupportedVendor named) ↔
      vendor = .generic ∧ named = .generic) ∧
    ∀ rollout, render intent vendor = .ok rollout →
      ∃ findings, preflight intent vendor = .ok findings ∧ Foretells intent vendor findings rollout := by
  refine ⟨fun _ => preflight_eq_error_iff, fun _ => render_eq_unsupported_iff, fun rollout rendered => ?_⟩
  cases vendor with
  | cisco => exact foretells_cisco rendered
  | mikrotik => exact foretells_mikrotik rendered
  | fortigate => exact foretells_fortigate rendered
  | generic =>
    rw [render_eq_unsupported_iff.mpr ⟨rfl, rfl⟩] at rendered
    cases rendered

/-- An office in production that lets passwords in, and anyone from anywhere. -/
def openOffice : Intent :=
  { services := { ssh := some { allowPassword := true }, dnsServers := ["192.0.2.53"] }
    firewall := { enabled := true }
    metadata := { environment := some .prod } }

theorem preflight_foretells_openOffice : ∃ rollout, render openOffice .fortigate = .ok rollout ∧
    (∃ findings, preflight openOffice .fortigate = .ok findings ∧
      Foretells openOffice .fortigate findings rollout) ∧
    "    set admin-ssh-password enable" ∈ rollout.commands ∧
    rollout.section? "firewall" = some (.firewall, []) := by
  have rendered : render openOffice .fortigate = .ok _ := render_eq_ok_iff.mpr ⟨_, rfl, by decide, rfl⟩
  exact ⟨_, rendered, (preflight_foretells openOffice .fortigate).2.2 _ rendered, by decide, by decide⟩

end Rollout

end DeviceConfig
