import DeviceConfig.Proofs.Snippet.Gaps
import DeviceConfig.Proofs.Snippet.Rephrased
import DeviceConfig.Proofs.Snippet.Servers
import DeviceConfig.Proofs.Text.Interpolation

/-!
Where a snippet says what a parameter is. Each template puts the text of a parameter into gaps of its lines, as it is
and into no other place, and each parameter that is read as one text has such a gap.
-/

namespace DeviceConfig

open Snippet

namespace Ios

theorem places (action : Action) (key : String) : (template action).Places key := by
  intro found
  cases action
  all_goals
    simp only [template, body, baselineTemplate, wanUplinkTemplate, lanVlanTemplate, dhcpServerTemplate,
      staticRouteTemplate, ospfTemplate, natOverloadTemplate, firewallBasicTemplate, loadBalancingTemplate,
      bridgeTemplate, secureBaselineTemplate, Parameters.required, Parameters.optional, Parameters.withDefault,
      Parameters.vlanId, Parameters.list, Parameters.optionalList, Parameters.reads, Parameter.asRead, Parameters.put,
      Parameter.put, Parameters.HasEmpty, Parameter.IsEmpty, Text.toString_text]
    apply SpellsAll.weaken
    -- One step for each piece of each line. What does not depend on the text is left whole.
    · with_reducible repeat' first
        | exact Spells.fixed _
        | exact SpellsAll.fixed _
        | exact Spells.self
        | apply Spells.append
        | apply Spells.choice
        | apply SpellsAll.cons
        | apply SpellsAll.append
        | apply SpellsAll.given
        | apply SpellsAll.map
        | intro _
    · simp [Kind.IsScalar] <;> tauto

end Ios

namespace RouterOs

theorem filter_eq (rule : String) : filter rule = "/ip firewall filter add " ++ rule := rfl

theorem places (action : Action) (key : String) : (template action).Places key := by
  intro found
  cases action
  all_goals
    simp only [template, baselineTemplate, wanUplinkTemplate, lanVlanTemplate, dhcpServerTemplate,
      staticRouteTemplate, ospfTemplate, natOverloadTemplate, firewallBasicTemplate, loadBalancingTemplate,
      bridgeTemplate, secureBaselineTemplate, filter_eq, uplinkMarks, List.zipWith_cons_cons, List.zipWith_nil_right,
      Parameters.required, Parameters.optional, Parameters.withDefault, Parameters.vlanId, Parameters.list,
      Parameters.optionalList, Parameters.reads, Parameter.asRead, Parameters.put, Parameter.put, Parameters.HasEmpty,
      Parameter.IsEmpty, Text.toString_text]
    apply SpellsAll.weaken
    · with_reducible repeat' first
        | exact Spells.fixed _
        | exact SpellsAll.fixed _
        | exact Spells.self
        | apply Spells.append
        | apply Spells.choice
        | apply Spells.given
        | apply Spells.headD
        | apply SpellsAll.cons
        | apply SpellsAll.append
        | apply SpellsAll.map
        | intro _
    · simp [Kind.IsScalar] <;> tauto

end RouterOs

namespace FortiOs

/-- The calls close what they open, and wherever they stand their lines are texts with gaps. -/
structure SpellsCalls (placed : Prop) (calls : String → List Call) : Prop where
  balanced : ∀ text, Balanced (calls text)
  spells : ∀ depth, SpellsAll placed fun text => written depth (calls text)

namespace SpellsCalls

variable {p q : Prop} {f : String → String} {calls more : String → List Call}

theorem lines (spells : SpellsCalls p calls) : SpellsAll p fun text => written 0 (calls text) := spells.spells 0

theorem fixed {calls : List Call} (balanced : Balanced calls) : SpellsCalls False fun _ => calls :=
  ⟨fun _ => balanced, fun _ => .fixed _⟩

theorem append (front : SpellsCalls p calls) (behind : SpellsCalls q more) :
    SpellsCalls (p ∨ q) fun text => calls text ++ more text := by
  refine ⟨fun text => balanced_append (front.balanced text) (behind.balanced text), fun depth => ?_⟩
  simp only [written_append_of_balanced (front.balanced _)]
  exact (front.spells depth).append (behind.spells depth)

theorem set (setting : Spells p f) (others : SpellsCalls q calls) :
    SpellsCalls (p ∨ q) fun text => .set (f text) :: calls text := by
  refine ⟨fun text => balanced_set.mpr (others.balanced text), fun depth => ?_⟩
  have line : Spells (False ∨ False ∨ p) fun text => indented depth ("set " ++ f text) :=
    .append (.fixed _) (.append (.fixed _) setting)
  exact (SpellsAll.cons line (others.spells depth)).weaken (by tauto)

/-- A table or an entry, the name of which may be a gap too. -/
theorem level (level : Level) (name : Spells p f) (body : SpellsCalls q calls) :
    SpellsCalls (p ∨ q) fun text => level.calls (f text) (calls text) := by
  refine ⟨fun text => balanced_calls level _ (body.balanced text), fun depth => ?_⟩
  have opening : Spells (False ∨ False ∨ p) fun text => indented depth (level.opening (f text)) := by
    cases level <;> exact .append (.fixed _) (.append (.fixed _) name)
  have lines := SpellsAll.append (.append (.cons opening (.fixed [])) (body.spells (depth + 1)))
    (.fixed [indented depth level.closing])
  simp only [written_calls level _ depth (body.balanced _)]
  exact lines.weaken (by tauto)

theorem given {c : Prop} [Decidable c] (other : Option String) (setting : Spells p f) :
    SpellsCalls (c ∧ p) fun text => ((if c then some text else other).map fun text => .set (f text)).toList := by
  by_cases own : c
  · simpa [own] using set setting (fixed balanced_nil)
  · simpa [own] using fixed balanced_optional

theorem numbered {α : Type} (items : List α) {body : String → α → List Call}
    (each : ∀ item, SpellsCalls p (body · item)) :
    SpellsCalls (p ∧ items ≠ []) fun text => FortiOs.numbered (body text) items := by
  refine ⟨fun text => balanced_numbered (fun item => (each item).balanced text) items, fun depth => ?_⟩
  simp only [written_numbered fun item => (each item).balanced _]
  refine .mapIdx items fun place item => ?_
  exact (SpellsAll.append (.append (.fixed _) ((each item).spells (depth + 1))) (.fixed _)).weaken (by tauto)

theorem choice {c : Prop} [Decidable c] (yes : SpellsCalls p calls) (no : SpellsCalls q more) :
    SpellsCalls (c ∧ p ∨ ¬c ∧ q) fun text => if c then calls text else more text := by
  by_cases holds : c
  · simpa [holds] using yes
  · simpa [holds] using no

end SpellsCalls

theorem places (action : Action) (key : String) : (template action).Places key := by
  intro found
  cases action
  all_goals
    simp only [template, callTemplate, baselineTemplate, wanUplinkTemplate, lanVlanTemplate, dhcpServerTemplate,
      staticRouteTemplate, ospfTemplate, natOverloadTemplate, firewallBasicTemplate, loadBalancingTemplate,
      bridgeTemplate, secureBaselineTemplate, policy, Parameters.required, Parameters.optional, Parameters.withDefault,
      Parameters.vlanId, Parameters.list, Parameters.optionalList, Parameters.reads, Parameter.asRead, Parameters.put,
      Parameter.put, Parameters.HasEmpty, Parameter.IsEmpty, Text.toString_text]
    apply SpellsAll.weaken
    · apply SpellsCalls.lines
      with_reducible repeat' first
        | exact Spells.fixed _
        | exact SpellsCalls.fixed (by simp)
        | exact Spells.self
        | apply Spells.append
        | apply Spells.choice
        | apply Spells.given
        | apply SpellsCalls.append
        | apply SpellsCalls.set
        | apply SpellsCalls.level
        | apply SpellsCalls.given
        | apply SpellsCalls.numbered
        | apply SpellsCalls.choice
        | intro _
    · simp [Kind.IsScalar] <;> tauto

end FortiOs

namespace Snippet

theorem places {vendor : Vendor} {action : Action} {template : Template}
    (made : templateOf? vendor action = some template) (key : String) : template.Places key := by
  cases vendor with
  | cisco =>
    obtain rfl := Option.some.inj made
    exact Ios.places action key
  | mikrotik =>
    obtain rfl := Option.some.inj made
    exact RouterOs.places action key
  | fortigate =>
    obtain rfl := Option.some.inj made
    exact FortiOs.places action key
  | generic => cases made

/-- The other parameters settle what stands around the gaps, and any text of the parameter goes into the gaps. -/
theorem generate_gapped {vendor : Vendor} {action : Action} {read : Read} {base : Params}
    (member : read ∈ readsOf vendor action) (scalar : read.kind.IsScalar)
    (others : ∀ other ∈ readsOf vendor action, other.key ≠ read.key → other.Succeeds base) :
    ∃ lines : List Gapped,
      ((∃ line ∈ lines, none ∈ line) ∨
        read.key = "area" ∧ base.members.lookup "networks" = some (.array [])) ∧
      ∀ params value text,
        (∀ other, other ≠ read.key → params.members.lookup other = base.members.lookup other) →
        params.Gives read.key value → scalar? value = some text →
          Request.generate ⟨vendor, action, params⟩ = .ok (joinLines (lines.map (·.fill text))) := by
  cases made : templateOf? vendor action with
  | none => simp [readsOf, made] at member
  | some template =>
    have reads : readsOf vendor action = template.parameters.reads := by
      rw [readsOf, made, Option.map_some, Option.getD_some]
    have alone : ∀ other ∈ template.parameters.reads, other.key = read.key → other.kind.IsScalar := by
      intro other also same
      obtain rfl := List.inj_on_of_nodup_map (keys_distinct vendor action) (reads ▸ also) member same
      exact scalar
    obtain ⟨found, aside⟩ := template.parameters.exists_readAside (reads ▸ others)
    obtain ⟨lines, placed, same⟩ := places made read.key found
    refine ⟨lines, ?_, fun params value text agree given printed => ?_⟩
    · by_cases bare : read.key = "area" ∧ template.parameters.HasEmpty "networks" found
      · obtain ⟨area, empty⟩ := bare
        exact .inr ⟨area, template.parameters.lookup_of_hasEmpty aside (by rw [area]; decide) empty⟩
      · exact .inl (placed ⟨⟨read, reads ▸ member, rfl, scalar⟩, fun area empty => bare ⟨area, empty⟩⟩)
    · have values := template.parameters.read_put aside alone agree given printed
      simp only [generate_eq, made, Template.fill, values, Except.map, same]

end Snippet

end DeviceConfig
