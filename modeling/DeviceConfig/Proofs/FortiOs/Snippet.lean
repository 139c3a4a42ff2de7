import DeviceConfig.FortiOs.Snippet
import DeviceConfig.Proofs.FortiOs.Writer
import DeviceConfig.Proofs.Snippet.Template

/-!
The templates that the scripts of FortiOS commands fill: for each action the parameters, and the calls of the writer that
are made of their values.
-/

namespace DeviceConfig.FortiOs

open Rollout Snippet

structure CallTemplate where
  {Values : Type}
  parameters : Parameters Values
  calls : Values → List Call

abbrev table (path : String) (calls : List Call) : List Call := Level.table.calls path calls

abbrev entry (name : String) (calls : List Call) : List Call := Level.entry.calls name calls

abbrev tableEntry (path name : String) (calls : List Call) : List Call := table path (entry name calls)

/-- Entries numbered from one. -/
def numbered {α : Type} (calls : α → List Call) (items : List α) : List Call :=
  (items.mapIdx fun place item => entry (toString (place + 1)) (calls item)).flatten

def dnsCalls : List String → List Call
  | [] => []
  | primary :: others => table "system dns"
    ([.set s!"primary {primary}"] ++ (others.head?.map fun server => .set s!"secondary {server}").toList)

def ntpCalls (servers : List String) : List Call :=
  if servers.isEmpty then []
  else table "system ntp"
    ([.set "ntpsync enable", .set "type custom"] ++
      table "ntpserver" (numbered (fun server => [.set s!"server \"{server}\""]) servers))

/-- A policy between two interfaces, for all addresses and services. -/
def policy (number : Nat) (source target action : String) (more : List Call) : List Call :=
  tableEntry "firewall policy" (toString number)
    ([.set s!"srcintf \"{source}\"",
      .set s!"dstintf \"{target}\"",
      .set "srcaddr \"all\"",
      .set "dstaddr \"all\"",
      .set s!"action {action}",
      .set "schedule \"always\"",
      .set "service \"ALL\""] ++ more)

def baselineTemplate : CallTemplate where
  parameters :=
    .required "hostname" <|
    .withDefault "timezone" "04" <|
    .optionalList "dnsServers" <|
    .optionalList "ntpServers" <|
    .done
  calls := fun (hostname, timezone, dns, ntp, _) =>
    table "system global" [.set s!"hostname \"{hostname}\"", .set s!"timezone {timezone}"] ++
    dnsCalls dns ++ ntpCalls ntp

def wanUplinkTemplate : CallTemplate where
  parameters :=
    .required "interface" <|
    .required "ip" <|
    .required "mask" <|
    .required "gateway" <|
    .done
  calls := fun (interface, ip, mask, gateway, _) =>
    tableEntry "system interface" s!"\"{interface}\""
      [.set s!"ip {ip} {mask}", .set "allowaccess ping https ssh"] ++
    tableEntry "router static" "1"
      [.set "dst 0.0.0.0 0.0.0.0", .set s!"gateway {gateway}", .set s!"device \"{interface}\""]

def lanVlanTemplate : CallTemplate where
  parameters :=
    .vlanId "vlanId" <|
    .required "interface" <|
    .optional "name" <|
    .required "ip" <|
    .required "mask" <|
    .done
  calls := fun (id, interface, name, ip, mask, _) =>
    let name := name.getD s!"vlan{id}"
    tableEntry "system interface" s!"\"{name}\""
      [.set "vdom \"root\"",
       .set s!"interface \"{interface}\"",
       .set s!"vlanid {id}",
       .set s!"ip {ip} {mask}",
       .set "allowaccess ping"]

def dhcpServerTemplate : CallTemplate where
  parameters :=
    .required "interface" <|
    .required "start" <|
    .required "end" <|
    .required "gateway" <|
    .optionalList "dnsServers" <|
    .done
  calls := fun (interface, first, last, gateway, dns, _) =>
    tableEntry "system dhcp server" "1"
      ([.set s!"interface \"{interface}\"", .set s!"default-gateway {gateway}"] ++
        (dns.head?.map fun server => .set s!"dns-server1 {server}").toList ++
        tableEntry "ip-range" "1" [.set s!"start-ip {first}", .set s!"end-ip {last}"])

def staticRouteTemplate : CallTemplate where
  parameters :=
    .required "network" <|
    .required "mask" <|
    .required "nextHop" <|
    .optional "device" <|
    .done
  calls := fun (network, mask, nextHop, device, _) =>
    tableEntry "router static" "0"
      ([.set s!"dst {network} {mask}", .set s!"gateway {nextHop}"] ++
        (device.map fun device => .set s!"device \"{device}\"").toList)

def ospfTemplate : CallTemplate where
  parameters :=
    .withDefault "routerId" "1.1.1.1" <|
    .withDefault "area" "0.0.0.0" <|
    .list "networks" <|
    .done
  calls := fun (routerId, area, networks, _) =>
    let entries := numbered
      (fun network => [.set s!"prefix {network}", .set s!"area \"{area}\""]) networks
    table "router ospf"
      ([.set s!"router-id {routerId}"] ++ if networks.isEmpty then [] else table "network" entries)

def natOverloadTemplate : CallTemplate where
  parameters :=
    .withDefault "srcintf" "lan" <|
    .withDefault "dstintf" "wan" <|
    .done
  calls := fun (source, target, _) => policy 0 source target "accept" [.set "nat enable"]

def firewallBasicTemplate : CallTemplate where
  parameters :=
    .withDefault "srcintf" "lan" <|
    .withDefault "dstintf" "wan" <|
    .done
  calls := fun (inside, outside, _) =>
    policy 1 inside outside "accept" [.set "nat enable"] ++ policy 2 outside inside "deny" []

def loadBalancingTemplate : CallTemplate where
  parameters :=
    .required "gateway1" <|
    .required "gateway2" <|
    .withDefault "dstintf1" "wan1" <|
    .withDefault "dstintf2" "wan2" <|
    .done
  calls := fun (gateway1, gateway2, device1, device2, _) =>
    let route (gateway device : String) (distance : Nat) : List Call :=
      [.set "dst 0.0.0.0 0.0.0.0",
       .set s!"gateway {gateway}",
       .set s!"device \"{device}\"",
       .set s!"distance {distance}"]
    table "router static"
      (entry (toString 1) (route gateway1 device1 10) ++ entry (toString 2) (route gateway2 device2 20))

def bridgeTemplate : CallTemplate where
  parameters :=
    .withDefault "name" "br0" <|
    .list "ports" <|
    .done
  calls := fun (name, ports, _) =>
    let members := Text.join " " (ports.map fun name => s!"\"{name}\"")
    tableEntry "system interface" s!"\"{name}\"" [.set "type bridge"] ++
    tableEntry "system switch-interface" s!"\"{name}\"" [.set s!"member {members}"]

def secureBaselineTemplate : CallTemplate where
  parameters :=
    .withDefault "hostname" "FGT-01" <|
    .required "adminPassword" <|
    .withDefault "syslog" "10.0.200.10" <|
    .optionalList "ntpServers" <|
    .withDefault "mgmtSubnet" "10.0.100.0 255.255.255.0" <|
    .withDefault "mgmtInterface" "mgmt" <|
    .withDefault "wanInterface" "wan1" <|
    .done
  calls := fun (hostname, password, syslog, ntp, subnet, mgmt, wan, _) =>
    table "system global"
      [.set s!"hostname \"{hostname}\"",
       .set "admin-https disable",
       .set "admin-scp enable",
       .set "admin-ssh-port 22",
       .set "admin-lockout-threshold 3",
       .set "admin-lockout-duration 300"] ++
    tableEntry "system admin" "\"admin\"" [.set s!"password \"{password}\""] ++
    ntpCalls ntp ++
    table "log syslogd setting"
      [.set "status enable", .set s!"server \"{syslog}\"", .set "facility local7"] ++
    tableEntry "firewall address" "\"MGMT_NET\"" [.set s!"subnet {subnet}"] ++
    tableEntry "firewall policy" "10"
      [.set s!"srcintf \"{mgmt}\"",
       .set s!"dstintf \"{wan}\"",
       .set "srcaddr \"MGMT_NET\"",
       .set "dstaddr \"all\"",
       .set "action accept",
       .set "schedule \"always\"",
       .set "service \"ALL\"",
       .set "logtraffic all"]

def callTemplate : Action → CallTemplate
  | .baseline => baselineTemplate
  | .wanUplink => wanUplinkTemplate
  | .lanVlan => lanVlanTemplate
  | .dhcpServer => dhcpServerTemplate
  | .staticRoute => staticRouteTemplate
  | .ospf => ospfTemplate
  | .natOverload => natOverloadTemplate
  | .firewallBasic => firewallBasicTemplate
  | .loadBalancing => loadBalancingTemplate
  | .bridge => bridgeTemplate
  | .secureBaseline => secureBaselineTemplate

def template (action : Action) : Template where
  parameters := (callTemplate action).parameters
  lines := fun values => written 0 ((callTemplate action).calls values)

/-! ### Scripts -/

section
variable (before : List Call)

theorem run_numbered {α : Type} {body : α × Nat → PUnit → Script Call (ForInStep PUnit)} (calls : α → List Call)
    (each : ∀ item before, (body item ⟨⟩).run before =
      pure (.yield ⟨⟩, before ++ entry (toString (item.2 + 1)) (calls item.1))) (items : List α) :
    (forIn items.zipIdx PUnit.unit body : Script Call PUnit).run before =
      pure (⟨⟩, before ++ numbered calls items) := by
  rw [numbered, List.mapIdx_eq_zipIdx_map, ← List.flatMap_def]
  exact run_for each items.zipIdx before

@[simp] theorem run_dnsScript (servers : List String) :
    (dnsScript servers).run before = pure ((), before ++ dnsCalls servers) := by
  rcases servers with _ | ⟨primary, _ | ⟨secondary, others⟩⟩ <;> simp [dnsScript, dnsCalls, Level.calls]

@[simp] theorem run_ntpScript (servers : List String) :
    (ntpScript servers).run before = pure ((), before ++ ntpCalls servers) := by
  cases servers with
  | nil => simp [ntpScript, ntpCalls]
  | cons server servers =>
    simp only [ntpScript, List.isEmpty_cons, Bool.false_eq_true, if_false, StateT.run_bind, run_emitAll, pure_bind]
    rw [run_numbered _ (fun server => [.set s!"server \"{server}\""]) fun _ _ => by simp [Level.calls]]
    simp [ntpCalls, Level.calls]

end

/-- Where a call depends on what is given, the values read up to there are named. -/
theorem fills_script (action : Action) :
    Fills (script action) (callTemplate action).parameters (callTemplate action).calls := by
  intro params before
  cases action with
  | baseline => simp [script, callTemplate, baselineScript, baselineTemplate, Level.calls]
  | wanUplink => simp [script, callTemplate, wanUplinkScript, wanUplinkTemplate, Level.calls]
  | lanVlan => simp [script, callTemplate, lanVlanScript, lanVlanTemplate, Params.withDefault, Level.calls]
  | dhcpServer =>
    simp only [script, callTemplate, dhcpServerScript, dhcpServerTemplate, StateT.run_bind, StateT.run_monadLift,
      monadLift_self, run_emitAll, pure_bind, bind_assoc, Parameters.read_required, Parameters.read_optionalList,
      Parameters.read_done]
    refine bind_congr fun interface => bind_congr fun first => bind_congr fun last => bind_congr fun gateway =>
      bind_congr fun dns => ?_
    cases dns <;> simp [Level.calls]
  | staticRoute =>
    simp only [script, callTemplate, staticRouteScript, staticRouteTemplate, StateT.run_bind, StateT.run_monadLift,
      monadLift_self, run_emitAll, pure_bind, bind_assoc, Parameters.read_required, Parameters.read_optional,
      Parameters.read_done]
    refine bind_congr fun network => bind_congr fun mask => bind_congr fun nextHop => bind_congr fun device => ?_
    cases device <;> simp [Level.calls]
  | ospf =>
    simp only [script, callTemplate, ospfScript, ospfTemplate, StateT.run_bind, StateT.run_monadLift, monadLift_self,
      run_emitAll, pure_bind, bind_assoc, Parameters.read_withDefault, Parameters.read_list, Parameters.read_done]
    refine bind_congr fun routerId => bind_congr fun area => bind_congr fun networks => ?_
    cases networks with
    | nil => simp [Level.calls]
    | cons network networks =>
      simp only [List.isEmpty_cons, Bool.false_eq_true, if_false, StateT.run_bind, run_emit, pure_bind]
      rw [run_numbered _ (fun network => [.set s!"prefix {network}", .set s!"area \"{area}\""])
        fun _ _ => by simp [Level.calls]]
      simp [Level.calls]
  | natOverload => simp [script, callTemplate, natOverloadScript, natOverloadTemplate, policyScript, policy, Level.calls]
  | firewallBasic =>
    simp [script, callTemplate, firewallBasicScript, firewallBasicTemplate, policyScript, policy, Level.calls]
  | loadBalancing => simp [script, callTemplate, loadBalancingScript, loadBalancingTemplate, Level.calls]
  | bridge => simp [script, callTemplate, bridgeScript, bridgeTemplate, Level.calls]
  | secureBaseline => simp [script, callTemplate, secureBaselineScript, secureBaselineTemplate, Level.calls]

theorem snippetLines_eq (action : Action) (params : Params) :
    snippetLines action params = (template action).fill params := by
  rw [snippetLines, (fills_script action).output, Template.fill, template]
  cases (callTemplate action).parameters.read params with
  | error cause => rfl
  | ok values =>
    have whole := Writer.foldl_call {} ((callTemplate action).calls values)
    exact congrArg (fun writer : Writer => Except.ok writer.lines) whole

/-! ### Balance -/

section
variable {calls : List Call} {α : Type} {body : α → List Call}

@[simp] theorem balanced_set {setting : String} : Balanced (.set setting :: calls) ↔ Balanced calls := by
  rw [Call.set, balanced_line]
  simp [isCommand, begins]

@[simp] theorem balanced_optional {made : Option α} {setting : α → String} :
    Balanced (made.map fun value => .set (setting value)).toList := by
  cases made <;> simp

theorem written_set (depth : Nat) (setting : String) :
    written depth (.set setting :: calls) = indented depth ("set " ++ setting) :: written depth calls := rfl

theorem balanced_numbered (each : ∀ item, Balanced (body item)) (items : List α) : Balanced (numbered body items) := by
  refine balanced_flatten fun part listed => ?_
  obtain ⟨place, _, rfl⟩ := List.mem_mapIdx.mp listed
  exact balanced_calls .entry _ (each _)

theorem written_numbered (each : ∀ item, Balanced (body item)) (depth : Nat) (items : List α) :
    written depth (numbered body items) = (items.mapIdx fun place item =>
      [indented depth s!"edit {place + 1}"] ++ written (depth + 1) (body item) ++ [indented depth "next"]).flatten := by
  have entries : ∀ part ∈ items.mapIdx fun place item => entry (toString (place + 1)) (body item), Balanced part := by
    intro part listed
    obtain ⟨place, _, rfl⟩ := List.mem_mapIdx.mp listed
    exact balanced_calls .entry _ (each _)
  rw [numbered, written_flatten entries, List.mapIdx_eq_zipIdx_map, List.mapIdx_eq_zipIdx_map, List.map_map]
  exact congrArg List.flatten (List.map_congr_left fun item _ => written_calls .entry _ depth (each item.1))

end

@[simp] theorem balanced_dnsCalls (servers : List String) : Balanced (dnsCalls servers) := by
  rcases servers with _ | ⟨primary, _ | ⟨secondary, others⟩⟩
  · exact balanced_nil
  · exact balanced_calls .table _ (by simp)
  · exact balanced_calls .table _ (by simp)

@[simp] theorem balanced_ntpCalls (servers : List String) : Balanced (ntpCalls servers) := by
  unfold ntpCalls
  split
  · exact balanced_nil
  · refine balanced_calls .table _ (balanced_append (by simp) (balanced_calls .table _ ?_))
    exact balanced_numbered (by simp) servers

theorem balanced_policy (number : Nat) (source target action : String) {more : List Call} (inner : Balanced more) :
    Balanced (policy number source target action more) :=
  balanced_calls .table _ (balanced_calls .entry _ (balanced_append (by simp) inner))

/-- Every template closes what it opens. -/
theorem balanced_template (action : Action) (values : (callTemplate action).Values) :
    Balanced ((callTemplate action).calls values) := by
  have block (path : String) {calls : List Call} (inner : Balanced calls) : Balanced (table path calls) :=
    balanced_calls .table path inner
  have single (path name : String) {calls : List Call} (inner : Balanced calls) : Balanced (tableEntry path name calls) :=
    block path (balanced_calls .entry name inner)
  cases action with
  | baseline =>
    obtain ⟨hostname, timezone, dns, ntp, _⟩ := values
    exact balanced_append (balanced_append (block _ (by simp)) (balanced_dnsCalls dns)) (balanced_ntpCalls ntp)
  | wanUplink => exact balanced_append (single _ _ (by simp)) (single _ _ (by simp))
  | lanVlan => exact single _ _ (by simp)
  | dhcpServer =>
    exact single _ _ (balanced_append (balanced_append (by simp) (by simp)) (single _ _ (by simp)))
  | staticRoute =>
    exact single _ _ (balanced_append (by simp) (by simp))
  | ospf =>
    obtain ⟨routerId, area, networks, _⟩ := values
    refine block _ (balanced_append (by simp) ?_)
    split
    · exact balanced_nil
    · exact block _ (balanced_numbered (by simp) networks)
  | natOverload => exact balanced_policy _ _ _ _ (by simp)
  | firewallBasic => exact balanced_append (balanced_policy _ _ _ _ (by simp)) (balanced_policy _ _ _ _ (by simp))
  | loadBalancing =>
    exact block _ (balanced_append (balanced_calls .entry _ (by simp)) (balanced_calls .entry _ (by simp)))
  | bridge => exact balanced_append (single _ _ (by simp)) (single _ _ (by simp))
  | secureBaseline =>
    obtain ⟨hostname, password, syslog, ntp, subnet, mgmt, wan, _⟩ := values
    refine balanced_append (balanced_append (balanced_append (balanced_append (balanced_append ?_ ?_)
      (balanced_ntpCalls ntp)) ?_) ?_) ?_
    · exact block _ (by simp)
    · exact single _ _ (by simp)
    · exact block _ (by simp)
    · exact single _ _ (by simp)
    · exact single _ _ (by simp)

end DeviceConfig.FortiOs
