import DeviceConfig.Proofs.NameMap
import DeviceConfig.Proofs.Rollout.Rollback
import DeviceConfig.Proofs.Snippet.Parameters

/-!
Servers that an intent and the parameters of a baseline may both name. What a rollout says of them and what a snippet
says of them are the same lines.
-/

namespace DeviceConfig

open Intent Rollout Snippet

/-! ### The lines, word for word -/

namespace FortiOs

/-- Every time server has an entry, numbered from one. -/
def timeServerLines (servers : List String) : List String :=
  if servers = [] then []
  else
    ["config system ntp", "    set ntpsync enable", "    set type custom", "    config ntpserver"] ++
    (servers.mapIdx fun place server =>
      [s!"        edit {place + 1}", s!"            set server \"{server}\"", "        next"]).flatten ++
    ["    end", "end"]

/-- Only the first two name servers are of use. -/
def nameServerLines : List String → List String
  | [] => []
  | [primary] => ["config system dns", s!"    set primary {primary}", "end"]
  | primary :: secondary :: _ =>
    ["config system dns", s!"    set primary {primary}", s!"    set secondary {secondary}", "end"]

def systemCalls (hostname timezone : String) : List Call :=
  table "system global" [.set s!"hostname \"{hostname}\"", .set s!"timezone {timezone}"]

def systemLines (hostname timezone : String) : List String :=
  ["config system global", s!"    set hostname \"{hostname}\"", s!"    set timezone {timezone}", "end"]

/-! The generator counts the depth call by call, the renderer indents its lines by hand. -/

theorem written_ntpCalls (servers : List String) : written 0 (ntpCalls servers) = timeServerLines servers := by
  cases servers with
  | nil => rfl
  | cons server servers =>
    have each (server : String) : Balanced [.set s!"server \"{server}\""] := by simp
    have entries := balanced_numbered each (server :: servers)
    have settings : Balanced [.set "ntpsync enable", .set "type custom"] := by simp
    have inner := balanced_append settings (balanced_calls .table "ntpserver" entries)
    have something : ¬(server :: servers).isEmpty = true := by simp
    rw [ntpCalls, if_neg something, written_calls .table _ 0 inner, written_append_of_balanced settings,
      written_calls .table _ 1 entries, written_numbered each]
    simp [timeServerLines, written_set, indented, Level.opening, Level.closing, ← String.append_assoc]

theorem written_dnsCalls (servers : List String) : written 0 (dnsCalls servers) = nameServerLines servers := by
  have around (calls : List Call) (inner : Balanced calls) := written_calls .table "system dns" 0 inner
  rcases servers with _ | ⟨primary, _ | ⟨secondary, others⟩⟩
  · rfl
  · rw [dnsCalls, around _ (by simp)]
    simp [nameServerLines, written_set, indented, Level.opening, Level.closing, ← String.append_assoc]
  · rw [dnsCalls, around _ (by simp)]
    simp [nameServerLines, written_set, indented, Level.opening, Level.closing, ← String.append_assoc]

theorem written_system (hostname timezone : String) :
    written 0 (systemCalls hostname timezone) = systemLines hostname timezone := by
  rw [systemCalls, written_calls .table _ 0 (by simp)]
  simp [systemLines, written_set, indented, Level.opening, Level.closing, ← String.append_assoc]

theorem block_ntpLines (server : String) (servers : List String) :
    block "system ntp" (ntpLines (server :: servers)) = timeServerLines (server :: servers) := by
  simp [block, ntpLines, timeServerLines, indented, List.map_flatten, List.mapIdx_eq_zipIdx_map, Function.comp_def,
    ← String.append_assoc]

end FortiOs

namespace RouterOs

/-- Only the first two time servers are of use. -/
def timeServerLines : List String → List String
  | [] => []
  | [primary] => [s!"/system ntp client set enabled=yes primary-ntp={primary}"]
  | primary :: secondary :: _ =>
    [s!"/system ntp client set enabled=yes primary-ntp={primary} secondary-ntp={secondary}"]

theorem ntpClient?_toList (servers : List String) : (ntpClient? servers).toList = timeServerLines servers := by
  rcases servers with _ | ⟨primary, _ | ⟨secondary, others⟩⟩ <;> rfl

end RouterOs

namespace Snippet

/-- A list of servers that a vendor's intents and baselines both have. -/
inductive ServerList where
  | fortigateTime
  | fortigateNames
  | mikrotikTime

namespace ServerList

def vendor : ServerList → Vendor
  | fortigateTime | fortigateNames => .fortigate
  | mikrotikTime => .mikrotik

def key : ServerList → String
  | fortigateTime | mikrotikTime => "ntpServers"
  | fortigateNames => "dnsServers"

/-- An intent that asks for the servers and for nothing else. -/
def intent (list : ServerList) (servers : List String) : Intent :=
  match list with
  | fortigateTime | mikrotikTime => { services := { ntpServers := servers } }
  | fortigateNames => { services := { dnsServers := servers } }

def lines : ServerList → List String → List String
  | fortigateTime => FortiOs.timeServerLines
  | fortigateNames => FortiOs.nameServerLines
  | mikrotikTime => RouterOs.timeServerLines

theorem lines_nil (list : ServerList) : list.lines [] = [] := by
  cases list <;> rfl

/-- A snippet leaves no line of them out. -/
theorem lines_ne_empty (list : ServerList) (servers : List String) :
    ∀ line ∈ list.lines servers, line ≠ "" := by
  cases list with
  | fortigateTime =>
    simp only [lines, FortiOs.timeServerLines]
    split
    · simp
    · simp only [List.forall_mem_append, List.forall_mem_cons, List.mem_flatten, List.mem_mapIdx]
      refine ⟨⟨by decide, ?_⟩, by decide⟩
      rintro line ⟨_, ⟨place, bound, rfl⟩, member⟩
      simp only [List.mem_cons, List.not_mem_nil, or_false] at member
      rcases member with rfl | rfl | rfl <;> simp
  | fortigateNames =>
    rcases servers with _ | ⟨primary, _ | ⟨secondary, others⟩⟩ <;> simp [lines, FortiOs.nameServerLines]
  | mikrotikTime =>
    rcases servers with _ | ⟨primary, _ | ⟨secondary, others⟩⟩ <;> simp [lines, RouterOs.timeServerLines]

end ServerList

/-! ### Rollouts -/

theorem commands_services (list : ServerList) (servers : List String) :
    (partOf list.vendor (list.intent servers) .services).flatMap (·.commands) = list.lines servers := by
  cases list with
  | fortigateTime =>
    cases servers with
    | nil => rfl
    | cons server servers =>
      rw [ServerList.lines, ← FortiOs.block_ntpLines]
      simp [partOf, ServerList.vendor, ServerList.intent, FortiOs.part, FortiOs.services, FortiOs.changeSettings,
        FortiOs.change]
  | fortigateNames =>
    rcases servers with _ | ⟨primary, _ | ⟨secondary, others⟩⟩
    · rfl
    · simp [partOf, ServerList.vendor, ServerList.intent, FortiOs.part, FortiOs.services, FortiOs.changeSettings,
        FortiOs.change, ServerList.lines, FortiOs.nameServerLines, FortiOs.block, FortiOs.indented, ← String.append_assoc]
    · simp [partOf, ServerList.vendor, ServerList.intent, FortiOs.part, FortiOs.services, FortiOs.changeSettings,
        FortiOs.change, ServerList.lines, FortiOs.nameServerLines, FortiOs.block, FortiOs.indented, ← String.append_assoc]
  | mikrotikTime =>
    rw [ServerList.lines, ← RouterOs.ntpClient?_toList]
    cases made : RouterOs.ntpClient? servers <;>
      simp [partOf, ServerList.vendor, ServerList.intent, RouterOs.part, RouterOs.services, made, RouterOs.change]

theorem render_servers (list : ServerList) (servers : List String) : ∃ rollout,
    render (list.intent servers) list.vendor = .ok rollout ∧
      rollout.section? "services" = some (.services, list.lines servers) := by
  have rendered : ∃ rollout, render (list.intent servers) list.vendor = .ok rollout := by
    cases list <;> exact ⟨_, render_eq_ok_iff.mpr ⟨_, rfl, rfl, rfl⟩⟩
  obtain ⟨rollout, rendered⟩ := rendered
  refine ⟨rollout, rendered, ?_⟩
  rw [← commands_services]
  exact render_section? rendered .services

/-! ### Snippets -/

def Params.set (params : Params) (key : String) (value : Json) : Params :=
  ⟨NameMap.insert key value params.members⟩

theorem mapM_scalar?_string (texts : List String) : (texts.map Json.string).mapM scalar? = some texts := by
  induction texts with
  | nil => rfl
  | cons text texts ih =>
    rw [List.map_cons, List.mapM_cons, ih]
    rfl

theorem read_set_own (params : Params) (key : String) (servers : List String) :
    (Parameter.optionalList key).read (params.set key (.strings servers)) = .ok servers := by
  have found : (params.set key (.strings servers)).present? key = some (.strings servers) := by
    rw [Params.present?, Params.set, NameMap.lookup_insert, if_pos rfl]
    rfl
  rw [Parameter.read, Parameter.key, found]
  simp only [Parameter.readValue, Json.strings, readList, mapM_scalar?_string]
  rfl

theorem read_set_other {α : Type} {parameter : Parameter α} {key : String} (other : parameter.key ≠ key)
    (params : Params) (value : Json) : parameter.read (params.set key value) = parameter.read params := by
  apply parameter.read_congr
  rw [Params.set, NameMap.lookup_insert, if_neg other]

theorem fill_fortigate {params : Params} {hostname timezone : String} {names times : List String}
    (hostnameRead : (Parameter.required "hostname").read params = .ok hostname)
    (timezoneRead : (Parameter.withDefault "timezone" "04").read params = .ok timezone)
    (namesRead : (Parameter.optionalList "dnsServers").read params = .ok names)
    (timesRead : (Parameter.optionalList "ntpServers").read params = .ok times) :
    (FortiOs.template .baseline).fill params =
      .ok (FortiOs.systemLines hostname timezone ++ FortiOs.nameServerLines names ++
        FortiOs.timeServerLines times) := by
  have read : FortiOs.baselineTemplate.parameters.read params = .ok (hostname, timezone, names, times, ()) := by
    simp only [FortiOs.baselineTemplate, Parameters.required, Parameters.withDefault, Parameters.optionalList,
      Parameters.read, hostnameRead, timezoneRead, namesRead, timesRead]
    rfl
  have filled : (FortiOs.template .baseline).fill params =
      (FortiOs.baselineTemplate.parameters.read params).map fun values =>
        FortiOs.written 0 (FortiOs.baselineTemplate.calls values) := rfl
  rw [filled, read, ← FortiOs.written_dnsCalls, ← FortiOs.written_ntpCalls, ← FortiOs.written_system]
  have system : FortiOs.Balanced (FortiOs.systemCalls hostname timezone) := FortiOs.balanced_calls .table _ (by simp)
  have names := FortiOs.balanced_append system (FortiOs.balanced_dnsCalls names)
  rw [← FortiOs.written_append_of_balanced system, ← FortiOs.written_append_of_balanced names]
  rfl

theorem fill_mikrotik {params : Params} {hostname : String} {names times : List String}
    (hostnameRead : (Parameter.required "hostname").read params = .ok hostname)
    (namesRead : (Parameter.optionalList "dnsServers").read params = .ok names)
    (timesRead : (Parameter.optionalList "ntpServers").read params = .ok times) :
    (RouterOs.template .baseline).fill params =
      .ok ([s!"/system identity set name={hostname}"] ++
        (if names.isEmpty then []
          else ["/ip dns set servers=" ++ Text.join "," names ++ " allow-remote-requests=yes"]) ++
        RouterOs.timeServerLines times ++ ["/system logging add topics=firewall action=memory"]) := by
  have read : RouterOs.baselineTemplate.parameters.read params = .ok (hostname, names, times, ()) := by
    simp only [RouterOs.baselineTemplate, Parameters.required, Parameters.optionalList, Parameters.read, hostnameRead,
      namesRead, timesRead]
    rfl
  have filled : (RouterOs.template .baseline).fill params =
      (RouterOs.baselineTemplate.parameters.read params).map RouterOs.baselineTemplate.lines := rfl
  rw [filled, read, ← RouterOs.ntpClient?_toList]
  rfl

/-- The servers stand where they always stand, whatever else the baseline says. -/
theorem fill_servers (list : ServerList) {params : Params}
    (others : ∀ read ∈ readsOf list.vendor .baseline, read.key ≠ list.key → read.Succeeds params) :
    ∃ template before after, templateOf? list.vendor .baseline = some template ∧
      (∀ line ∈ before ++ after, line ≠ "") ∧ ∀ servers,
        template.fill (params.set list.key (.strings servers)) = .ok (before ++ list.lines servers ++ after) := by
  have given {α : Type} (parameter : Parameter α) (named : parameter.asRead ∈ readsOf list.vendor .baseline)
      (other : parameter.key ≠ list.key) : ∃ value, ∀ servers : List String,
        parameter.read (params.set list.key (.strings servers)) = .ok value := by
    have succeeds := others _ named (by rwa [parameter.key_asRead])
    obtain ⟨value, read⟩ := parameter.read_eq_ok_iff.mpr succeeds
    exact ⟨value, fun servers => (read_set_other other params _).trans read⟩
  have own := read_set_own params list.key
  obtain ⟨hostname, hostnameRead⟩ :=
    given (.required "hostname") (by cases list <;> decide) (by cases list <;> decide)
  cases list with
  | fortigateTime =>
    obtain ⟨timezone, timezoneRead⟩ := given (.withDefault "timezone" "04") (by decide) (by decide)
    obtain ⟨names, namesRead⟩ := given (.optionalList "dnsServers") (by decide) (by decide)
    have solid : ∀ line ∈ FortiOs.nameServerLines names, line ≠ "" :=
      ServerList.fortigateNames.lines_ne_empty names
    refine ⟨_, FortiOs.systemLines hostname timezone ++ FortiOs.nameServerLines names, [], rfl, ?_,
      fun servers => ?_⟩
    · simpa [FortiOs.systemLines, or_imp, forall_and] using solid
    · rw [List.append_nil]
      exact fill_fortigate (hostnameRead servers) (timezoneRead servers) (namesRead servers) (own servers)
  | fortigateNames =>
    obtain ⟨timezone, timezoneRead⟩ := given (.withDefault "timezone" "04") (by decide) (by decide)
    obtain ⟨times, timesRead⟩ := given (.optionalList "ntpServers") (by decide) (by decide)
    have solid : ∀ line ∈ FortiOs.timeServerLines times, line ≠ "" :=
      ServerList.fortigateTime.lines_ne_empty times
    refine ⟨_, FortiOs.systemLines hostname timezone, FortiOs.timeServerLines times, rfl, ?_, fun servers =>
      fill_fortigate (hostnameRead servers) (timezoneRead servers) (own servers) (timesRead servers)⟩
    simpa [FortiOs.systemLines, or_imp, forall_and] using solid
  | mikrotikTime =>
    obtain ⟨names, namesRead⟩ := given (.optionalList "dnsServers") (by decide) (by decide)
    refine ⟨_, _, _, rfl, ?_, fun servers =>
      fill_mikrotik (hostnameRead servers) (namesRead servers) (own servers)⟩
    split <;> simp

theorem joinLines_of_solid {lines : List String} (solid : ∀ line ∈ lines, line ≠ "") :
    joinLines lines = Text.unlines lines := by
  have kept : lines.filter (!·.isEmpty) = lines := List.filter_eq_self.mpr (by simpa using solid)
  rw [joinLines, kept]

/-- What a rollout says of servers and what a baseline says of them are the same lines, and none if there are no
servers. -/
theorem servers_written_alike (list : ServerList) {params : Params}
    (others : ∀ read ∈ readsOf list.vendor .baseline, read.key ≠ list.key → read.Succeeds params) :
    list.lines [] = [] ∧
    ∃ template before after, templateOf? list.vendor .baseline = some template ∧ ∀ servers,
      (∃ rollout, render (list.intent servers) list.vendor = .ok rollout ∧
        rollout.section? "services" = some (.services, list.lines servers)) ∧
      template.fill (params.set list.key (.strings servers)) = .ok (before ++ list.lines servers ++ after) ∧
      Request.generate ⟨list.vendor, .baseline, params.set list.key (.strings servers)⟩ =
        .ok (Text.unlines (before ++ list.lines servers ++ after)) := by
  obtain ⟨template, before, after, made, solid, filled⟩ := fill_servers list others
  refine ⟨list.lines_nil, template, before, after, made, fun servers =>
    ⟨render_servers list servers, filled servers, ?_⟩⟩
  have whole : ∀ line ∈ before ++ list.lines servers ++ after, line ≠ "" := by
    have own := list.lines_ne_empty servers
    simp only [List.forall_mem_append] at solid ⊢
    exact ⟨⟨solid.1, own⟩, solid.2⟩
  simp only [generate_eq, made, filled, Except.map, joinLines_of_solid whole]

/-- A host name and a single name server. -/
def smallBaseline : Params := ⟨[("dnsServers", .string "192.0.2.53"), ("hostname", .string "fw1")]⟩

theorem servers_written_alike_smallBaseline :
    (∀ read ∈ readsOf .fortigate .baseline, read.key ≠ "ntpServers" → read.Succeeds smallBaseline) ∧
    FortiOs.timeServerLines ["192.0.2.1", "192.0.2.2"] =
      ["config system ntp", "    set ntpsync enable", "    set type custom", "    config ntpserver",
        "        edit 1", "            set server \"192.0.2.1\"", "        next",
        "        edit 2", "            set server \"192.0.2.2\"", "        next", "    end", "end"] ∧
    ServerList.fortigateTime.lines [] = [] ∧
    ∃ template before after, templateOf? .fortigate .baseline = some template ∧ ∀ servers,
      (∃ rollout, render (ServerList.fortigateTime.intent servers) .fortigate = .ok rollout ∧
        rollout.section? "services" = some (.services, FortiOs.timeServerLines servers)) ∧
      template.fill (smallBaseline.set "ntpServers" (.strings servers)) =
        .ok (before ++ FortiOs.timeServerLines servers ++ after) ∧
      Request.generate ⟨.fortigate, .baseline, smallBaseline.set "ntpServers" (.strings servers)⟩ =
        .ok (Text.unlines (before ++ FortiOs.timeServerLines servers ++ after)) := by
  have complete : ∀ read ∈ readsOf .fortigate .baseline, read.Succeeds smallBaseline :=
    FortiOs.baselineTemplate.parameters.read_eq_ok_iff.mp ⟨_, rfl⟩
  have others : ∀ read ∈ readsOf .fortigate .baseline, read.key ≠ "ntpServers" → read.Succeeds smallBaseline :=
    fun read member _ => complete read member
  exact ⟨others, by decide, servers_written_alike .fortigateTime others⟩

end Snippet

end DeviceConfig
