import DeviceConfig.Proofs.Audit.Builtin
import Mathlib.Data.List.FinRange

/-!
Which NAT rules are reported as overlapping: those that have a key in common, two by two and in the order of their
places. How many there are does not depend on that order.
-/

namespace DeviceConfig.Snapshot

/-- What two rules must not have in common. -/
inductive NatKey where
  | dnat (destination : Option String) (port : Option TextOrNumber)
  | snat (source translated : Option String)
deriving DecidableEq, Repr

namespace NatRule

/-- Only rules that translate one end of the traffic have a key. -/
def key? (rule : NatRule) : Option NatKey :=
  match rule.kind with
  | .dnat => some (.dnat rule.dstAddr rule.dstPort)
  | .snat => some (.snat rule.srcAddr rule.translatedAddr)
  | _ => none

def Clashes (rule other : NatRule) : Prop := ∃ key, rule.key? = some key ∧ other.key? = some key

theorem Clashes.symm {rule other : NatRule} (clash : rule.Clashes other) : other.Clashes rule := by
  obtain ⟨key, first, second⟩ := clash
  exact ⟨key, second, first⟩

end NatRule

end DeviceConfig.Snapshot

namespace DeviceConfig.Audit

open Snapshot

/-! ### Two rules -/

theorem natOverlaps_iff {rule other : NatRule} : natOverlaps rule other = true ↔ rule.Clashes other := by
  unfold natOverlaps NatRule.Clashes NatRule.key?
  cases rule.kind <;> cases other.kind <;> simp
  case dnat.dnat | snat.snat => exact and_congr eq_comm eq_comm

theorem natOverlaps_comm (rule other : NatRule) : natOverlaps rule other = natOverlaps other rule := by
  rw [Bool.eq_iff_iff, natOverlaps_iff, natOverlaps_iff]
  exact ⟨.symm, .symm⟩

/-! ### All of them -/

/-- The later rules that clash with the one at a place. -/
def clashesOf (rules : List NatRule) (i : Fin rules.length) : List (Fin rules.length) :=
  (List.finRange rules.length).filter fun j => decide (i < j) && natOverlaps rules[i] rules[j]

/-- The places of all clashes. -/
def clashes (rules : List NatRule) : List (Fin rules.length × Fin rules.length) :=
  (List.finRange rules.length).flatMap fun i => (clashesOf rules i).map (i, ·)

theorem mem_clashes {rules : List NatRule} {i j : Fin rules.length} :
    (i, j) ∈ clashes rules ↔ i < j ∧ rules[i].Clashes rules[j] := by
  simp [clashes, clashesOf, natOverlaps_iff]

theorem clashes_ordered (rules : List NatRule) : (clashes rules).Pairwise (Prod.Lex (· < ·) (· < ·)) := by
  rw [clashes, List.pairwise_flatMap]
  constructor
  · intro i _
    rw [List.pairwise_map]
    exact ((List.pairwise_lt_finRange _).filter _).imp (Prod.Lex.right i)
  · refine (List.pairwise_lt_finRange _).imp fun {i j} before => ?_
    intro pair first other second
    obtain ⟨_, _, rfl⟩ := List.mem_map.mp first
    obtain ⟨_, _, rfl⟩ := List.mem_map.mp second
    exact .left _ _ before

/-! ### What is reported of them -/

def clashText (rule other : NatRule) : String :=
  s!"NAT rules {rule.id.toText} and {other.id.toText} may overlap"

section
variable (rule : NatRule) (rest : List NatRule)

/-- The first place, and those of the other rules one further on. -/
theorem places_cons : List.finRange (rule :: rest).length = 0 :: (List.finRange rest.length).map Fin.succ :=
  List.finRange_succ

/-- No rule comes before the first one. -/
theorem clashesOf_cons (i : Fin (rest.length + 1)) : clashesOf (rule :: rest) i =
    ((List.finRange rest.length).filter fun j =>
      decide (i < j.succ) && natOverlaps (rule :: rest)[i] rest[j]).map Fin.succ := by
  rw [clashesOf, places_cons, List.filter_cons_of_neg (by simp), List.filter_map]
  rfl

theorem texts_first :
    (clashesOf (rule :: rest) (0 : Fin (rest.length + 1))).map (fun j => clashText rule (rule :: rest)[j]) =
      (rest.filter (natOverlaps rule)).map (clashText rule) := by
  have others : rest = (List.finRange rest.length).map (rest[·]) := by simp
  rw [clashesOf_cons, List.map_map]
  conv_rhs => rw [others, List.filter_map, List.map_map]
  simp [Function.comp_def]

theorem texts_later (i : Fin rest.length) :
    (clashesOf (rule :: rest) i.succ).map (fun j => clashText rest[i] (rule :: rest)[j]) =
      (clashesOf rest i).map fun j => clashText rest[i] rest[j] := by
  rw [clashesOf_cons, List.map_map, clashesOf]
  simp [Function.comp_def]

end

theorem natViolations_eq (rules : List NatRule) :
    natViolations rules = (clashes rules).map fun pair => clashText rules[pair.1] rules[pair.2] := by
  have rows : ∀ rules : List NatRule,
      (clashes rules).map (fun pair => clashText rules[pair.1] rules[pair.2]) =
        (List.finRange rules.length).flatMap fun i =>
          (clashesOf rules i).map fun j => clashText rules[i] rules[j] := by
    intro rules
    simp [clashes, List.map_flatMap, Function.comp_def]
  induction rules with
  | nil => rfl
  | cons rule rest ih =>
    -- The first row is what the first rule clashes with, the others are those of the rest.
    rw [natViolations, ih, rows, rows, places_cons, List.flatMap_cons, List.flatMap_map]
    congr 1
    · exact (texts_first rule rest).symm
    · exact List.flatMap_congr fun i _ => (texts_later rule rest i).symm

/-! ### Whether there are any, and how many -/

theorem natViolations_eq_nil_iff (rules : List NatRule) :
    natViolations rules = [] ↔ (rules.filterMap NatRule.key?).Nodup := by
  rw [List.Nodup, List.pairwise_filterMap]
  induction rules with
  | nil => simp [natViolations]
  | cons rule rest ih =>
    have apart : (∀ other ∈ rest, natOverlaps rule other = false) ↔
        ∀ other ∈ rest, ∀ key, rule.key? = some key → ∀ found, other.key? = some found → key ≠ found := by
      refine forall_congr' fun other => imp_congr_right fun _ => ?_
      rw [← Bool.not_eq_true, natOverlaps_iff]
      constructor
      · rintro none key first found second rfl
        exact none ⟨key, first, second⟩
      · rintro different ⟨key, first, second⟩
        exact different key first key second rfl
    rw [natViolations, List.append_eq_nil_iff, List.map_eq_nil_iff, ih, List.pairwise_cons, ← apart]
    simp

theorem passed_natNoOverlap (snapshot : Snapshot) : (natNoOverlap snapshot).passed = true ↔
    (snapshot.security.natRules.filterMap NatRule.key?).Nodup := by
  rw [natNoOverlap, passed_ofViolations, List.isEmpty_iff, natViolations_eq_nil_iff]

/-- Clashes go both ways, so two neighbours may change places. -/
theorem length_natViolations_perm {rules other : List NatRule} (perm : rules.Perm other) :
    (natViolations rules).length = (natViolations other).length := by
  induction perm with
  | nil => rfl
  | cons rule perm ih =>
    simp only [natViolations, List.length_append, List.length_map, ih, (perm.filter _).length_eq]
  | swap first second rest =>
    simp only [natViolations, List.length_append, List.length_map, List.filter_cons,
      natOverlaps_comm first second]
    cases natOverlaps second first with
    | false => simp only [Bool.false_eq_true, if_false]; omega
    | true => simp only [if_true, List.length_cons]; omega
  | trans _ _ ih ih' => exact ih.trans ih'

/-- The violations that an outcome tells of. -/
def Outcome.violations (outcome : Outcome) : List Json :=
  match outcome.value with
  | some (.array items) => items
  | _ => []

theorem violations_ofViolations (violations : List String) :
    (Outcome.ofViolations violations).violations = violations.map .string := by
  cases violations <;> rfl

/-- The predicate passes just when no two rules have a key in common. Otherwise it tells of every two rules that have,
once, in the order of their places. In which order the rules stand makes no difference to whether it passes and to how
many violations there are. -/
theorem nat_rules_clash_iff (snapshot : Snapshot) :
    let rules := snapshot.security.natRules
    let outcome := natNoOverlap snapshot
    (outcome.passed = true ↔ (rules.filterMap NatRule.key?).Nodup) ∧
      (∃ places : List (Fin rules.length × Fin rules.length),
        places.Pairwise (Prod.Lex (· < ·) (· < ·)) ∧
          (∀ i j, (i, j) ∈ places ↔ i < j ∧ rules[i].Clashes rules[j]) ∧
          outcome.violations.length = places.length ∧
          (outcome.passed = false → outcome.value = some (.strings (places.map fun (i, j) =>
            s!"NAT rules {rules[i].id.toText} and {rules[j].id.toText} may overlap")))) ∧
      ∀ other : Snapshot, other.security.natRules.Perm rules →
        (natNoOverlap other).passed = outcome.passed ∧
          (natNoOverlap other).violations.length = outcome.violations.length := by
  intro rules outcome
  have made : outcome = .ofViolations (natViolations rules) := rfl
  refine ⟨passed_natNoOverlap snapshot,
    ⟨clashes rules, clashes_ordered rules, fun _ _ => mem_clashes, ?_, ?_⟩, ?_⟩
  · rw [made, violations_ofViolations, natViolations_eq, List.length_map, List.length_map]
  · intro failed
    have listed := natViolations_eq rules
    rw [made, passed_ofViolations] at failed
    rw [made, Outcome.ofViolations, if_neg (by simp [failed]), listed]
    rfl
  · intro other perm
    have count := length_natViolations_perm perm
    rw [made, natNoOverlap, passed_ofViolations, passed_ofViolations, violations_ofViolations,
      violations_ofViolations, List.length_map, List.length_map]
    refine ⟨?_, count⟩
    rw [Bool.eq_iff_iff, List.isEmpty_iff_length_eq_zero, List.isEmpty_iff_length_eq_zero, count]

def forwarded (id port : Int64) : NatRule :=
  { id := .number id, kind := .dnat, dstAddr := some "203.0.113.5", dstPort := some (.number port) }

def translating (rules : List NatRule) : Snapshot := { security := { natRules := rules } }

/-- Three rules for one port and a fourth for another: three violations, also from the last rule to the first. -/
theorem nat_rules_clash_iff_ports :
    let rules := [forwarded 1 443, forwarded 2 80, forwarded 3 443, forwarded 4 443]
    (natNoOverlap (translating rules)).passed = false ∧
      (∃ places : List (Fin rules.length × Fin rules.length), (0, 2) ∈ places ∧ (2, 0) ∉ places ∧
        (natNoOverlap (translating rules)).value = some (.strings (places.map fun (i, j) =>
          s!"NAT rules {rules[i].id.toText} and {rules[j].id.toText} may overlap"))) ∧
      rules.reverse.Perm rules ∧
      (natNoOverlap (translating rules.reverse)).passed = false ∧
      (natNoOverlap (translating rules.reverse)).violations.length = 3 := by
  intro rules
  obtain ⟨distinct, ⟨places, -, members, -, listed⟩, reordered⟩ := nat_rules_clash_iff (translating rules)
  have failed : (natNoOverlap (translating rules)).passed = false := by
    rw [← Bool.not_eq_true, distinct]
    decide
  have first : rules[(0 : Fin 4)].Clashes rules[(2 : Fin 4)] := ⟨_, rfl, rfl⟩
  obtain ⟨passed, count⟩ := reordered (translating rules.reverse) (List.reverse_perm rules)
  refine ⟨failed, ⟨places, (members _ _).mpr ⟨by decide, first⟩, fun member => ?_, listed failed⟩,
    List.reverse_perm rules, passed.trans failed, count.trans (by decide)⟩
  exact absurd ((members _ _).mp member).1 (by decide)

end DeviceConfig.Audit
