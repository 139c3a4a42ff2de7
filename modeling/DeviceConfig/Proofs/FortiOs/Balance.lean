import DeviceConfig.Proofs.Except
import DeviceConfig.Proofs.FortiOs.Snippet
import DeviceConfig.Proofs.FortiOs.Spliced
import Mathlib.Data.List.Forall2

/-!
All that is written for FortiOS nests: the lines of every template, the commands of every section of a rollout, and
every undo command. A change is taken back in the table that it is made in.
-/

namespace DeviceConfig.FortiOs

open Rollout Snippet Text

/-! ### Changes -/

/-- A change of one table, taken back in the same table. The undo command falls into its lines if the texts in it
have no line break. -/
def TakesBack (clean : Prop) (mutation : Mutation) : Prop :=
  ∃ target path lines undo, mutation = change target (block path lines) (block path undo) ∧
    IsLine path ∧ Nests [.table] lines ∧ Nests [.table] undo ∧
    (clean → ∀ line ∈ block path undo, IsLine line)

theorem TakesBack.mono {clean cleaner : Prop} {mutation : Mutation} (weaker : cleaner → clean)
    (takesBack : TakesBack clean mutation) : TakesBack cleaner mutation := by
  obtain ⟨target, path, lines, undo, made, whole, nests, nestsUndo, clean⟩ := takesBack
  exact ⟨target, path, lines, undo, made, whole, nests, nestsUndo, fun given => clean (weaker given)⟩

theorem takesBack_settings {clean : Prop} {target : Section} {path : String} {lines undo : List String}
    (whole : IsLine path) (nests : Nests [.table] lines)
    (settings : ∀ command ∈ undo, isCommand command = true ∧ IsLine command) :
    TakesBack clean (change target (block path lines) (block path undo)) := by
  refine ⟨target, path, lines, undo, rfl, whole, nests, ?_, fun _ => ?_⟩
  · exact nests_commands fun command listed => (settings command listed).1
  · rw [isLine_block, List.forall_mem_cons]
    exact ⟨whole, fun command listed => (settings command listed).2⟩

theorem nests_entry (name : String) {settings : List String}
    (commands : ∀ command ∈ settings, isCommand command = true) :
    Nests [.table] (Level.entry.around name settings) :=
  nests_around name (nests_commands commands)

theorem takesBack_base (intent : Intent) : ∀ mutation ∈ base intent, TakesBack True mutation := by
  unfold base
  cases intent.givenHostname? with
  | none => simp
  | some hostname =>
    have nests : Nests [.table] [s!"set hostname \"{hostname}\""] :=
      nests_commands (by simp [isCommand, begins])
    exact List.forall_mem_singleton.mpr (takesBack_settings (by decide) nests (by decide))

theorem takesBack_vlan (parent : String) (vlan : Intent.Vlan) :
    TakesBack True (FortiOs.vlan parent vlan) := by
  have whole : IsLine ("delete " ++ quote ("vlan" ++ toString vlan.id)) := by
    have words : IsLine "delete " ∧ IsLine "vlan" ∧ IsLine "\"" := by decide
    simp [quote, words, isLine_toString_uInt16]
  refine takesBack_settings (by decide) (nests_entry _ ?_) ?_
  · cases vlan.gateway <;> cases vlan.name <;> simp [isCommand, begins]
  · refine List.forall_mem_singleton.mpr ⟨?_, whole⟩
    simp [isCommand, begins]

theorem takesBack_interface (iface : Intent.Interface) :
    TakesBack (IsLine iface.name) (FortiOs.interface iface) := by
  have commands : ∀ setting ∈ interfaceSettings iface, isCommand setting.1 = true ∧
      isCommand setting.2 = true ∧ IsLine setting.2 := by
    have undone : IsLine "unset alias" ∧ IsLine "unset ip" ∧ IsLine "unset role" ∧
        IsLine "set status up" := by decide
    unfold interfaceSettings
    cases iface.description <;> cases iface.ipAddress <;> cases iface.isEnabled <;>
      simp [isCommand, begins, undone]
  have nests := nests_entry (quote iface.name)
    (List.forall_mem_map.mpr fun setting listed => (commands setting listed).1)
  have nestsUndo := nests_entry (quote iface.name)
    (List.forall_mem_map.mpr fun setting listed => (commands setting listed).2.1)
  refine ⟨_, _, _, _, rfl, by decide, nests, nestsUndo, fun named => ?_⟩
  -- The name is the only text of the intent that the undo command holds.
  have quoted : IsLine (quote iface.name) := by
    have mark : IsLine "\"" := by decide
    simp [quote, mark, named]
  have undone : ∀ part ∈ (interfaceSettings iface).map (·.2), IsLine part :=
    List.forall_mem_map.mpr fun setting listed => (commands setting listed).2.2
  exact isLine_entryBlock.mpr
    (List.forall_mem_cons.mpr ⟨by decide, List.forall_mem_cons.mpr ⟨quoted, undone⟩⟩)

theorem takesBack_route (place : Nat) (route : Intent.Route) :
    TakesBack True (FortiOs.route place route) := by
  have whole : IsLine ("delete " ++ toString (place + 1)) :=
    isLine_append.mpr ⟨by decide, isLine_toString _⟩
  refine takesBack_settings (by decide) (nests_entry _ ?_) (List.forall_mem_singleton.mpr ⟨?_, whole⟩)
  · simp [isCommand, begins]
  · simp [isCommand, begins]

theorem takesBack_syslog (place : Nat) (server : String) :
    TakesBack True (FortiOs.syslog place server) := by
  have path : IsLine (syslogPath place) := by
    unfold syslogPath
    split
    · decide
    · exact isLine_append.mpr ⟨isLine_append.mpr ⟨by decide, isLine_toString _⟩, by decide⟩
  have nests : Nests [.table] ["set status enable", s!"set server \"{server}\""] :=
    nests_commands (by simp [isCommand, begins])
  exact takesBack_settings path nests (by decide)

/-- The lines that are indented by hand stand where the table of the servers and its entries have them. -/
theorem nests_ntpLines (servers : List String) : Nests [.table] (ntpLines servers) := by
  have shape : ntpLines servers = ["set ntpsync enable", "set type custom"] ++
      Level.table.around "ntpserver" (servers.mapIdx fun place server =>
        Level.entry.around (toString (place + 1)) [s!"set server \"{server}\""]).flatten := by
    simp [ntpLines, Level.around, Level.opening, Level.closing, indented, List.map_flatten, List.mapIdx_eq_zipIdx_map,
      Function.comp_def, ← String.append_assoc]
  rw [shape]
  refine (nests_commands (by decide)).append (nests_around _ (nests_flatten fun part listed => ?_))
  obtain ⟨place, _, rfl⟩ := List.mem_mapIdx.mp listed
  exact nests_around _ (nests_commands (by simp [isCommand, begins]))

theorem nests_localInPolicy (number : Nat) (source action : String) :
    Nests [.table] (localInPolicy number source action) := by
  have shape : localInPolicy number source action = Level.entry.around (toString number)
      ["set intf \"any\"", s!"set srcaddr {source}", "set dstaddr \"all\"", s!"set action {action}",
        "set service \"SSH\" \"HTTPS\"", "set schedule \"always\""] := by
    simp [localInPolicy, Level.around, Level.opening, Level.closing, indented, ← String.append_assoc]
  rw [shape]
  exact nests_around _ (nests_commands (by simp [isCommand, begins]))

theorem takesBack_services (services : Intent.Services) :
    ∀ mutation ∈ FortiOs.services services, TakesBack True mutation := by
  simp only [FortiOs.services, List.forall_mem_append]
  refine ⟨⟨⟨?_, ?_⟩, ?_⟩, ?_⟩
  · split
    · simp
    · simp only [List.forall_mem_cons, List.not_mem_nil, false_implies, implies_true, and_true]
      refine ⟨takesBack_settings (by decide) (nests_commands ?_) (by decide),
        takesBack_settings (by decide) (nests_commands (by decide)) (by decide)⟩
      simp [isCommand, begins]
  · split
    · simp
    · exact List.forall_mem_singleton.mpr (takesBack_settings (by decide) (nests_ntpLines _) (by decide))
  · split
    · simp
    · rename_i primary others _
      refine List.forall_mem_singleton.mpr (takesBack_settings (by decide) (nests_commands ?_) ?_)
      · cases others <;> simp [isCommand, begins]
      · cases others <;> simp <;> decide
  · intro mutation member
    obtain ⟨place, _, rfl⟩ := List.mem_mapIdx.mp member
    exact takesBack_syslog _ _

theorem takesBack_firewall (firewall : Intent.Firewall) :
    ∀ mutation ∈ FortiOs.firewall firewall, TakesBack True mutation := by
  unfold FortiOs.firewall
  split
  · simp only [List.forall_mem_cons, List.not_mem_nil, false_implies, implies_true, and_true]
    refine ⟨takesBack_settings (by decide) (nests_entry _ ?_) (by decide), takesBack_settings (by decide) ?_ (by decide)⟩
    · simp [isCommand, begins]
    · exact (nests_localInPolicy _ _ _).append (nests_localInPolicy _ _ _)
  · simp

/-- The names of the interfaces have no line breaks. -/
def NamesWhole (intent : Intent) : Prop := ∀ iface ∈ intent.interfaces, IsLine iface.name

theorem takesBack_plan (intent : Intent) :
    ∀ mutation ∈ plan intent, TakesBack (NamesWhole intent) mutation := by
  have always {mutation : Mutation} (takesBack : TakesBack True mutation) :
      TakesBack (NamesWhole intent) mutation := takesBack.mono fun _ => trivial
  simp only [plan, List.forall_mem_append]
  refine ⟨⟨⟨⟨⟨?_, ?_⟩, ?_⟩, ?_⟩, ?_⟩, ?_⟩
  · exact fun mutation member => always (takesBack_base intent mutation member)
  · exact List.forall_mem_map.mpr fun vlan _ => always (takesBack_vlan _ vlan)
  · exact List.forall_mem_map.mpr fun iface listed =>
      (takesBack_interface iface).mono fun whole => whole iface listed
  · intro mutation member
    obtain ⟨place, _, rfl⟩ := List.mem_mapIdx.mp member
    exact always (takesBack_route _ _)
  · exact fun mutation member => always (takesBack_services _ mutation member)
  · exact fun mutation member => always (takesBack_firewall _ mutation member)

/-! ### What is written -/

section
variable {clean : Prop} {mutation : Mutation}

theorem TakesBack.isNested (takesBack : TakesBack clean mutation) : IsNested mutation.commands := by
  obtain ⟨target, path, lines, undo, rfl, _, nests, _⟩ := takesBack
  exact isNested_block path nests

theorem TakesBack.isNested_undo (takesBack : TakesBack clean mutation) (given : clean) :
    IsNested (linesOf mutation.undo) := by
  obtain ⟨target, path, lines, undo, rfl, _, _, nests, whole⟩ := takesBack
  have something : block path undo ≠ [] := by simp [block]
  rw [change, linesOf_unlines something (whole given)]
  exact isNested_block path nests

/-- The first line of the undo command is the first line of the change. -/
theorem TakesBack.opens_same (takesBack : TakesBack clean mutation) :
    ∃ path, mutation.commands.head? = some ("config " ++ path) ∧
      (linesOf mutation.undo).head? = some ("config " ++ path) := by
  obtain ⟨target, path, lines, undo, rfl, whole, _⟩ := takesBack
  have first : IsLine ("config " ++ path) := isLine_append.mpr ⟨by decide, whole⟩
  refine ⟨path, rfl, ?_⟩
  rw [change, block, List.append_assoc, List.singleton_append]
  exact head?_linesOf _ first

end

/-- The lines of a snippet are those that the calls of its script write. -/
theorem isNested_snippet {action : Action} {params : Params} {lines : List String}
    (made : snippetLines action params = .ok lines) :
    IsNested lines ∧ ∃ calls, (script action params).output = .ok calls ∧
      calls.foldlM Writer.call? {} = some ⟨lines, 0⟩ := by
  rw [snippetLines_eq] at made
  obtain ⟨values, read, rfl⟩ := map_eq_ok.mp made
  obtain ⟨nested, strict⟩ := isNested_written (balanced_template action values)
  refine ⟨nested, (callTemplate action).calls values, ?_, strict⟩
  rw [(fills_script action).output]
  exact congrArg (Except.map _) read

variable {intent : Intent} {rollout : Rollout}

theorem isNested_sections (rendered : render intent .fortigate = .ok rollout) :
    ∀ part ∈ rollout.sections, IsNested part.2 := by
  obtain ⟨language, known, _, rfl⟩ := render_eq_ok_iff.mp rendered
  cases known
  rw [finish_eq]
  refine List.forall_mem_map.mpr fun target _ => isNested_flatMap fun mutation member => ?_
  exact (takesBack_plan intent mutation (List.mem_of_mem_filter member)).isNested

theorem isNested_rollback (rendered : render intent .fortigate = .ok rollout)
    (whole : NamesWhole intent) : ∀ undo ∈ rollout.rollback, IsNested (linesOf undo) := by
  obtain ⟨language, known, _, rfl⟩ := render_eq_ok_iff.mp rendered
  cases known
  rw [finish_eq]
  intro undo member
  obtain ⟨mutation, planned, rfl⟩ := List.mem_map.mp (List.mem_reverse.mp member)
  exact (takesBack_plan intent mutation planned).isNested_undo whole

/-- A block and the undo command for it begin with the line that opens the same table. -/
def OpenSame (block : List String) (undo : String) : Prop :=
  ∃ path, block.head? = some ("config " ++ path) ∧ (linesOf undo).head? = some ("config " ++ path)

theorem blocks_open_same (rendered : render intent .fortigate = .ok rollout) :
    ∃ blocks, blocks? .fortigate rollout.commands = some blocks ∧ blocks.flatten = rollout.commands ∧
      List.Forall₂ OpenSame blocks rollout.rollback.reverse := by
  obtain ⟨language, known, _, rfl⟩ := render_eq_ok_iff.mp rendered
  cases known
  refine ⟨_, blocks?_finish rfl intent _, (commands_finish_plan rfl intent _).symm, ?_⟩
  rw [finish_eq, List.reverse_reverse, List.forall₂_map_left_iff, List.forall₂_map_right_iff,
    List.forall₂_same]
  exact fun mutation planned => (takesBack_plan intent mutation planned).opens_same

/-- All that is written nests. The calls of a script never go out of the margin and come back to it at the end. In a
rollout the blocks, from the front, and the rollback, from its end, open the same tables. -/
theorem output_nests :
    (∀ action params lines, snippetLines action params = .ok lines →
      IsNested lines ∧ ∃ calls, (script action params).output = .ok calls ∧
        calls.foldlM Writer.call? {} = some ⟨lines, 0⟩) ∧
    ∀ intent rollout, render intent .fortigate = .ok rollout →
      (∀ part ∈ rollout.sections, IsNested part.2) ∧
      (NamesWhole intent → ∀ undo ∈ rollout.rollback, IsNested (linesOf undo)) ∧
      ∃ blocks, blocks? .fortigate rollout.commands = some blocks ∧
        blocks.flatten = rollout.commands ∧ List.Forall₂ OpenSame blocks rollout.rollback.reverse :=
  ⟨fun _ _ _ made => isNested_snippet made, fun _ _ rendered =>
    ⟨isNested_sections rendered, isNested_rollback rendered, blocks_open_same rendered⟩⟩

/-- A site with an uplink and time servers. -/
def uplinkSite : Intent where
  interfaces := [{ name := "wan1", role := .uplink, ipAddress := some "198.51.100.2" }]
  services := { ntpServers := ["10.0.0.1", "10.0.0.2"] }

theorem output_nests_uplinkSite :
    let lines := ["config router ospf", "    set router-id 1.1.1.1", "    config network", "        edit 1",
      "            set prefix 10.0.0.0/24", "            set area \"0.0.0.0\"", "        next", "    end",
      "end"]
    let params : Params := ⟨[("networks", .string "10.0.0.0/24")]⟩
    snippetLines .ospf params = .ok lines ∧
      (IsNested lines ∧ ∃ calls, (script .ospf params).output = .ok calls ∧
        calls.foldlM Writer.call? {} = some ⟨lines, 0⟩) ∧
      ∃ rollout, render uplinkSite .fortigate = .ok rollout ∧ NamesWhole uplinkSite ∧
        ∀ undo ∈ rollout.rollback, IsNested (linesOf undo) := by
  intro lines params
  have made : snippetLines .ospf params = .ok lines := by rfl
  have rendered : render uplinkSite .fortigate =
      .ok ((plan uplinkSite).finish .fortigate (verify uplinkSite)) :=
    render_eq_ok_iff.mpr ⟨_, rfl, by decide, rfl⟩
  have whole : NamesWhole uplinkSite := List.forall_mem_singleton.mpr (by decide)
  obtain ⟨snippets, rollouts⟩ := output_nests
  exact ⟨made, snippets .ospf _ _ made, _, rendered, whole, (rollouts uplinkSite _ rendered).2.1 whole⟩

end DeviceConfig.FortiOs
