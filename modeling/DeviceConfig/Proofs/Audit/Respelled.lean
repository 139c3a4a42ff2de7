import DeviceConfig.Proofs.Audit.NatRules
import DeviceConfig.Proofs.Snapshot.Respelled

/-!
How far the built-in predicates look through the spelling of a snapshot. All of them do but the one for NAT rules,
which holds ports against one another as they are spelled. What it passes stays passed under every spelling just when
no two rules have ports that differ in spelling alone.
-/

namespace DeviceConfig.Snapshot

/-! ### Keys in one spelling -/

/-- The key with the port in its text. -/
def NatKey.spelledOut : NatKey → NatKey
  | .dnat destination port => .dnat destination (port.map fun port => .text port.toText)
  | .snat source translated => .snat source translated

/-- No two rules have keys that differ in the spelling of the port alone. -/
def PortsAlike (rules : List NatRule) : Prop :=
  ∀ key ∈ rules.filterMap NatRule.key?, ∀ other ∈ rules.filterMap NatRule.key?,
    key.spelledOut = other.spelledOut → key = other

theorem PortsAlike.tail {rule : NatRule} {rules : List NatRule} (alike : PortsAlike (rule :: rules)) :
    PortsAlike rules := by
  have kept : ∀ key ∈ rules.filterMap NatRule.key?, key ∈ (rule :: rules).filterMap NatRule.key? :=
    fun key member => ((List.sublist_cons_self rule rules).filterMap _).subset member
  exact fun key member other also => alike key (kept key member) other (kept other also)

namespace NatRule

def spelledOut (rule : NatRule) : NatRule :=
  { rule with dstPort := rule.dstPort.map fun port => .text port.toText }

theorem key?_spelledOut (rule : NatRule) : rule.spelledOut.key? = rule.key?.map NatKey.spelledOut := by
  unfold spelledOut key?
  cases rule.kind <;> rfl

theorem respelled_spelledOut (rule : NatRule) : rule.Respelled rule.spelledOut := by
  have port : Option.Rel TextOrNumber.Respelled rule.dstPort rule.spelledOut.dstPort := by
    unfold spelledOut
    cases rule.dstPort with
    | none => exact .none
    | some port => exact .some (TextOrNumber.respelled_iff.mpr rfl)
  exact .intro (.same _) (rel_same _) port (rel_same _)

theorem Respelled.toText_id {rule other : NatRule} (respelled : rule.Respelled other) :
    other.id.toText = rule.id.toText := by
  obtain ⟨sameId, _, _, _⟩ := respelled
  exact (TextOrNumber.respelled_iff.mp sameId).symm

theorem Respelled.spelledOut_key? {rule other : NatRule} (respelled : rule.Respelled other) :
    other.key?.map NatKey.spelledOut = rule.key?.map NatKey.spelledOut := by
  obtain ⟨_, _, sameDstPort, _⟩ := respelled
  have port := congrArg (Option.map TextOrNumber.text) (toText_eq_of_rel sameDstPort)
  simp only [Option.map_map] at port
  unfold key?
  cases rule.kind <;> simp [NatKey.spelledOut]
  exact port

/-- Where ports are spelled alike, a clash is one in the text of the keys. -/
theorem clashes_iff {rules : List NatRule} (alike : PortsAlike rules) {rule other : NatRule}
    (member : rule ∈ rules) (also : other ∈ rules) : rule.Clashes other ↔
      ∃ key, rule.key?.map NatKey.spelledOut = some key ∧ other.key?.map NatKey.spelledOut = some key := by
  constructor
  · rintro ⟨key, first, second⟩
    exact ⟨key.spelledOut, by rw [first]; rfl, by rw [second]; rfl⟩
  · rintro ⟨_, first, second⟩
    obtain ⟨key, found, rfl⟩ := Option.map_eq_some_iff.mp first
    obtain ⟨spelled, alsoFound, same⟩ := Option.map_eq_some_iff.mp second
    have equal := alike spelled (List.mem_filterMap.mpr ⟨other, also, alsoFound⟩)
      key (List.mem_filterMap.mpr ⟨rule, member, found⟩) same
    exact ⟨key, found, equal ▸ alsoFound⟩

end NatRule

section
variable {rules others : List NatRule} (respelled : List.Forall₂ NatRule.Respelled rules others)
include respelled

theorem spelledOut_keys_respelled : (others.filterMap NatRule.key?).map NatKey.spelledOut =
    (rules.filterMap NatRule.key?).map NatKey.spelledOut := by
  rw [List.map_filterMap, List.map_filterMap]
  induction respelled with
  | nil => rfl
  | cons first _ ih => rw [List.filterMap_cons, List.filterMap_cons, first.spelledOut_key?, ih]

theorem nodup_keys_respelled (alike : PortsAlike rules) (distinct : (rules.filterMap NatRule.key?).Nodup) :
    (others.filterMap NatRule.key?).Nodup := by
  -- Keys that stay apart when they are spelled out are those of the other rules as well.
  have spelled := distinct.map_on alike
  rw [← spelledOut_keys_respelled respelled] at spelled
  exact spelled.of_map

end

end DeviceConfig.Snapshot

namespace DeviceConfig.Audit

open Snapshot

/-- What is told of the items that are looked for, in two lists that agree item by item. -/
theorem map_filter_eq_of_forall₂ {α β γ : Type} {related : α → β → Prop} {p : α → Bool} {q : β → Bool}
    {f : α → γ} {g : β → γ} {left : List α} {right : List β} (agree : List.Forall₂ related left right)
    (same : ∀ a ∈ left, ∀ b ∈ right, related a b → q b = p a ∧ g b = f a) :
    (right.filter q).map g = (left.filter p).map f := by
  induction agree with
  | nil => rfl
  | @cons a b left right first _ ih =>
    obtain ⟨chosen, told⟩ := same a List.mem_cons_self b List.mem_cons_self first
    have rest := ih fun a member b also =>
      same a (List.mem_cons_of_mem _ member) b (List.mem_cons_of_mem _ also)
    rw [List.filter_cons, List.filter_cons, chosen]
    split
    · rw [List.map_cons, List.map_cons, told, rest]
    · exact rest

/-! ### Policies -/

theorem isAnyToAny_respelled {policy other : FirewallPolicy} (respelled : policy.Respelled other) :
    isAnyToAny other = isAnyToAny policy := by
  obtain ⟨_, _, _, sameSrcAddr, sameDstAddr, sameService⟩ := respelled
  simp only [isAnyToAny, sameSrcAddr.toList_eq, sameDstAddr.toList_eq, sameService.toList_eq]

theorem refusePolicies_respelled {offends : FirewallPolicy → Bool} (what : String)
    (same : ∀ {policy other}, policy.Respelled other → offends other = offends policy)
    {snapshot other : Snapshot} (respelled : snapshot.Respelled other) :
    refusePolicies offends what other = refusePolicies offends what snapshot := by
  obtain ⟨policies, _⟩ := respelled
  have texts := map_filter_eq_of_forall₂ (f := fun policy => s!"Policy {policy.id.toText}: {what}")
    (g := fun policy => s!"Policy {policy.id.toText}: {what}") policies
    fun policy _ other _ respelled => ⟨same respelled, by
      obtain ⟨sameId, _, _, _, _, _⟩ := respelled
      simp only [TextOrNumber.respelled_iff.mp sameId]⟩
  unfold refusePolicies
  dsimp only
  rw [texts]
  rfl

/-! ### NAT rules -/

theorem natViolations_respelled {rules others : List NatRule}
    (respelled : List.Forall₂ NatRule.Respelled rules others) (alike : PortsAlike rules)
    (alsoAlike : PortsAlike others) : natViolations others = natViolations rules := by
  induction respelled with
  | nil => rfl
  | @cons rule other rules others first rest ih =>
    rw [natViolations, natViolations, ih alike.tail alsoAlike.tail]
    congr 1
    refine map_filter_eq_of_forall₂ rest fun second member third also respelled => ⟨?_, ?_⟩
    · rw [Bool.eq_iff_iff, natOverlaps_iff, natOverlaps_iff,
        NatRule.clashes_iff alike List.mem_cons_self (List.mem_cons_of_mem _ member),
        NatRule.clashes_iff alsoAlike List.mem_cons_self (List.mem_cons_of_mem _ also),
        first.spelledOut_key?, respelled.spelledOut_key?]
    · rw [first.toText_id, respelled.toText_id]

/-! ### All predicates -/

/-- Every predicate but one comes to the same outcome. -/
theorem check_respelled {snapshot other : Snapshot} (respelled : snapshot.Respelled other)
    {builtin : Builtin} (member : builtin ∈ builtins) (apart : builtin.name ≠ "nat_no_overlap") :
    builtin.check other = builtin.check snapshot := by
  have logged : anyToAnyIsLogged other = anyToAnyIsLogged snapshot :=
    refusePolicies_respelled _ (fun respelled => by
      rw [isAnyToAny_respelled respelled]; cases respelled; rfl) respelled
  have restricted : acceptAllIsRestricted other = acceptAllIsRestricted snapshot :=
    refusePolicies_respelled _ (fun respelled => by
      rw [isAnyToAny_respelled respelled]; cases respelled; rfl) respelled
  cases respelled
  simp only [builtins, List.mem_cons, List.not_mem_nil, or_false] at member
  rcases member with rfl | rfl | rfl | rfl | rfl | rfl | rfl | rfl | rfl | rfl | rfl
  all_goals first | exact logged | exact restricted | contradiction | rfl

theorem exists_builtin_natNoOverlap : ∃ builtin ∈ builtins, builtin.check = natNoOverlap := by
  simp only [builtins, List.mem_cons, exists_eq_or_imp]
  simp

theorem check_eq_natNoOverlap {builtin : Builtin} (member : builtin ∈ builtins)
    (named : builtin.name = "nat_no_overlap") : builtin.check = natNoOverlap := by
  simp only [builtins, List.mem_cons, List.not_mem_nil, or_false] at member
  rcases member with rfl | rfl | rfl | rfl | rfl | rfl | rfl | rfl | rfl | rfl | rfl
  all_goals first | rfl | contradiction

/-- All predicates but one come to the same outcome on snapshots that differ in spelling, and that one does where in
both of them ports are spelled alike. What it passes stays passed under every spelling just when the ports in it are. -/
theorem respelled_verdicts_iff (snapshot : Snapshot) :
    (∀ other, snapshot.Respelled other → ∀ builtin ∈ builtins, builtin.name ≠ "nat_no_overlap" →
      builtin.check other = builtin.check snapshot) ∧
    (∀ other, snapshot.Respelled other → PortsAlike snapshot.security.natRules →
      PortsAlike other.security.natRules → natNoOverlap other = natNoOverlap snapshot) ∧
    ((natNoOverlap snapshot).passed = true →
      ((∀ other, snapshot.Respelled other → ∀ builtin ∈ builtins,
        (builtin.check other).passed = (builtin.check snapshot).passed) ↔
          PortsAlike snapshot.security.natRules)) := by
  refine ⟨fun other respelled builtin => check_respelled respelled, ?_, fun passed => ⟨?_, ?_⟩⟩
  · intro other respelled alike alsoAlike
    obtain ⟨_, rules⟩ := respelled
    exact congrArg Outcome.ofViolations (natViolations_respelled rules alike alsoAlike)
  · intro stays
    -- Keys that differ in the spelling of the port alone become one where all ports are told as texts.
    let rules := snapshot.security.natRules
    let spelledOut : Snapshot :=
      { snapshot with security := { snapshot.security with natRules := rules.map NatRule.spelledOut } }
    have respelled : snapshot.Respelled spelledOut :=
      .intro (List.forall₂_same.mpr fun policy _ => .refl policy)
        (List.forall₂_map_right_iff.mpr (List.forall₂_same.mpr fun rule _ => rule.respelled_spelledOut))
    obtain ⟨nat, member, check⟩ := exists_builtin_natNoOverlap
    have also : (natNoOverlap spelledOut).passed = true := by
      rw [← check, stays spelledOut respelled nat member, check, passed]
    rw [passed_natNoOverlap, List.filterMap_map] at also
    have keys : (rules.filterMap NatRule.key?).map NatKey.spelledOut =
        rules.filterMap (NatRule.key? ∘ NatRule.spelledOut) := by
      rw [List.map_filterMap]
      exact List.filterMap_congr fun rule _ => (rule.key?_spelledOut).symm
    rw [← keys] at also
    exact List.inj_on_of_nodup_map also
  · intro alike other respelled builtin member
    by_cases nat : builtin.name = "nat_no_overlap"
    · have distinct := (passed_natNoOverlap snapshot).mp passed
      rw [check_eq_natNoOverlap member nat, passed, passed_natNoOverlap]
      obtain ⟨_, rules⟩ := respelled
      exact nodup_keys_respelled rules alike distinct
    · rw [check_respelled respelled member nat]

/-- A port read from a text, and a service told as a list. -/
theorem respelled_verdicts_iff_ports :
    let policy : FirewallPolicy := { id := .number 1, service := .one "ALL" }
    let snapshot : Snapshot :=
      { device := { vendor := .fortigate }
        security := { firewallPolicies := [policy], natRules := [forwarded 1 443, forwarded 2 80] } }
    let other : Snapshot :=
      { snapshot with
        security :=
          { firewallPolicies := [{ policy with service := .many ["ALL"] }]
            natRules := [forwarded 1 443, { forwarded 2 80 with dstPort := some (.text "80") }] } }
    snapshot.Respelled other ∧ PortsAlike snapshot.security.natRules ∧
      PortsAlike other.security.natRules ∧ (natNoOverlap snapshot).passed = true ∧
      anyToAnyIsLogged other = anyToAnyIsLogged snapshot ∧ natNoOverlap other = natNoOverlap snapshot ∧
      ∀ builtin ∈ builtins, (builtin.check other).passed = (builtin.check snapshot).passed := by
  intro policy snapshot other
  have respelled : snapshot.Respelled other :=
    .intro (.cons (.intro (.same _) (.same _) (.same _) (.same _) (.same _) (.listed _)) .nil)
      (.cons (.intro (.same _) (rel_same _) (rel_same _) (rel_same _))
        (.cons (.intro (.same _) (rel_same _) (.some (.written 80)) (rel_same _)) .nil))
  have alike : PortsAlike snapshot.security.natRules := by unfold PortsAlike; decide
  have alsoAlike : PortsAlike other.security.natRules := by unfold PortsAlike; decide
  have passed : (natNoOverlap snapshot).passed = true := by decide
  obtain ⟨others, nat, stays⟩ := respelled_verdicts_iff snapshot
  have logged : anyToAnyIsLogged other = anyToAnyIsLogged snapshot :=
    others other respelled builtins[3] (List.getElem_mem _) (by decide)
  exact ⟨respelled, alike, alsoAlike, passed, logged, nat other respelled alike alsoAlike,
    (stays passed).mpr alike other respelled⟩

/-- One port for two rules, told as a text by one of them and as a number by the other. -/
theorem respelled_verdicts_differ :
    let snapshot := translating [forwarded 1 443, { forwarded 2 443 with dstPort := some (.text "443") }]
    let other := translating [forwarded 1 443, forwarded 2 443]
    snapshot.Respelled other ∧
      ∃ builtin ∈ builtins,
        (builtin.check snapshot).passed = true ∧ (builtin.check other).passed = false := by
  intro snapshot other
  refine ⟨.intro .nil (.cons (.intro (.same _) (rel_same _) (rel_same _) (rel_same _))
    (.cons (.intro (.same _) (rel_same _) (.some (.read 443)) (rel_same _)) .nil)), ?_⟩
  obtain ⟨nat, member, check⟩ := exists_builtin_natNoOverlap
  refine ⟨nat, member, ?_⟩
  rw [check]
  decide

end DeviceConfig.Audit
