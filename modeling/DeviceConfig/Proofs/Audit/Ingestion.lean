import DeviceConfig.Proofs.Audit.Builtin
import DeviceConfig.Proofs.Audit.RuleDocument
import DeviceConfig.Proofs.Audit.Run
import DeviceConfig.Proofs.Except

/-!
What an audit can rely on in a rule that was read from a document, and for which reasons it skips one. A skipped
rule looks like one that is obeyed, so there are no others.
-/

namespace DeviceConfig.Audit

open Text

/-! ### What documents give -/

/-- A check that names what it is about. What has to be a pattern is a text. -/
inductive Check.Complete : Check → Prop
  | compare {path : String} {condition : Condition} (given : isBlankText path = false)
      (pattern : condition.operator = .matches →
        ∃ text, condition.expected = some (.string text)) :
      Complete (.compare path condition)
  | predicate {name : String} (given : isBlankText name = false) : Complete (.predicate name)
  | unconfigured : Complete .unconfigured

/-- A rule that can be told from others and talked about. -/
structure Rule.Complete (rule : Rule) : Prop where
  id_given : rule.id ≠ ""
  id_trimmed : trim rule.id = rule.id
  title_given : isBlankText rule.title = false
  check : rule.check.Complete

theorem not_blank_of_nonBlank? {given : Option String} {text : String}
    (found : nonBlank? given = some text) : isBlankText text = false := by
  simpa using (Option.filter_eq_some_iff.mp found).2

theorem not_blank_of_either {own other : Option String} {text : String}
    (found : (nonBlank? own <|> nonBlank? other) = some text) : isBlankText text = false := by
  cases first : nonBlank? own with
  | none =>
    rw [first] at found
    exact not_blank_of_nonBlank? found
  | some kept =>
    rw [first] at found
    obtain rfl : kept = text := Option.some.inj found
    exact not_blank_of_nonBlank? first

namespace RuleDocument

theorem complete_of_comparison {id : String} {request : CheckRequest} {check : Check}
    (given : ∀ path ∈ request.path, isBlankText path = false)
    (made : request.comparison id = .ok check) : check.Complete := by
  simp only [CheckRequest.comparison, throw, throwThe, MonadExceptOf.throw, pure, Except.pure, bind,
    Except.bind] at made
  split at made
  · contradiction
  split at made
  case h_2 => contradiction
  next path named =>
  split at made
  case h_2 => contradiction
  split at made
  case h_2 => contradiction
  split at made
  · next text value _ =>
    rw [Except.ok.injEq] at made
    subst made
    exact .compare (given path named) fun _ => ⟨text, value⟩
  · cases made
  · next other _ _ =>
    rw [Except.ok.injEq] at made
    subst made
    exact .compare (given path named) fun same => absurd same other

theorem complete_of_check {id : String} {request : CheckRequest} {check : Check}
    (path : ∀ path ∈ request.path, isBlankText path = false)
    (predicate : ∀ name ∈ request.predicate, isBlankText name = false)
    (made : request.check id = .ok check) : check.Complete := by
  obtain ⟨mode, _, made⟩ := bind_eq_ok.mp made
  cases mode with
  | compare => exact complete_of_comparison path made
  | predicate =>
    cases named : request.predicate with
    | none =>
      simp only [named] at made
      cases made
    | some name =>
      simp only [named, pure, Except.pure, Except.ok.injEq] at made
      subst made
      exact .predicate (predicate name named)
  | unconfigured =>
    simp only [pure, Except.pure, Except.ok.injEq] at made
    subst made
    exact .unconfigured

theorem complete_of_toRule {rule : RuleDocument} {made : Rule} (accepted : rule.toRule = .ok made) :
    made.Complete := by
  cases named : isBlankText rule.id with
  | true =>
    have empty : (trim rule.id).isEmpty = true := by
      rw [trim_eq_empty_iff.mpr named]
      rfl
    rw [toRule, if_pos empty] at accepted
    cases accepted
  | false =>
    have solid : trim rule.id ≠ "" := by
      rw [Ne, trim_eq_empty_iff, named]
      exact Bool.false_ne_true
    have trimmed : trim (trim rule.id) = trim rule.id := by
      simp only [trim, String.toList_ofList, trimChars_of_isTight (isTight_trimChars _)]
    rw [toRule_eq named] at accepted
    obtain ⟨check, checked, rfl⟩ := map_eq_ok.mp accepted
    refine ⟨solid, trimmed, ?_, ?_⟩
    · cases titled : (nonBlank? rule.title <|> nonBlank? rule.name) with
      | none =>
        rw [Option.getD_none]
        rwa [← Bool.not_eq_true, ← trim_eq_empty_iff, trimmed]
      | some title =>
        rw [Option.getD_some]
        exact not_blank_of_either titled
    · exact complete_of_check (fun _ => not_blank_of_either) (fun _ => not_blank_of_either) checked

end RuleDocument

/-! ### What keeps a check from an answer -/

/-- No built-in predicate aborts, and an unknown name is no fault. -/
theorem checkPredicate_builtin (rule : Rule) (name : String) (snapshot : Snapshot) :
    ∃ finding?, rule.checkPredicate name .builtin snapshot = .ok finding? := by
  unfold Rule.checkPredicate
  split
  · exact ⟨_, rfl⟩
  · next predicate known =>
    have listed : (name, predicate) ∈ Registry.builtin.entries := by
      obtain ⟨before, after, whole, _⟩ := List.lookup_eq_some_iff.mp known
      simp [whole]
    rw [Registry.builtin, entries_register_foldl] at listed
    obtain ⟨builtin, _, same⟩ := List.mem_map.mp (NameMap.mem_ofList listed)
    obtain ⟨rfl, rfl⟩ := Prod.mk.inj same
    exact ⟨_, rfl⟩

theorem isSkipped_ofCheck {result : Except EvalError (Option Finding)} :
    (Verdict.ofCheck result).isSkipped = true ↔ ∃ cause, result = .error cause := by
  rcases result with _ | _ | _ <;> simp [Verdict.ofCheck, Verdict.isSkipped]

section
variable [Pattern.Engine]

theorem apply_eq_error_iff {condition : Condition} {path : String} {actual : Option Json}
    {cause : EvalError} : condition.apply path actual = .error cause ↔
      condition.operator = .matches ∧ matchesPattern actual condition.expected = .error cause := by
  cases asked : condition.operator <;> simp [Condition.apply, asked, bind, Except.bind, pure, Except.pure]
  cases matchesPattern actual condition.expected <;> simp

theorem matchesPattern_text {actual : Option Json} {text : String} {cause : EvalError} :
    matchesPattern actual (some (.string text)) = .error cause ↔
      Pattern.Engine.compile? text = none ∧ cause = .invalidPattern text := by
  cases usable : Pattern.Engine.compile? text <;> simp [matchesPattern, usable, eq_comm]

theorem checkPathIn_eq_error_iff {rule : Rule} {view : Json} {path : String} {parsed : Path}
    {condition : Condition} {cause : EvalError} :
    rule.checkPathIn view path parsed condition = .error cause ↔
      condition.apply path (Path.resolve view parsed.steps) = .error cause := by
  rw [Rule.checkPathIn]
  cases condition.apply path (Path.resolve view parsed.steps) <;> simp [bind, Except.bind, pure, Except.pure]

variable {snapshot : Snapshot} {rule : Rule} {shared : SharedView} (faithful : shared.Faithful snapshot)

include faithful in
/-- A path that cannot be read, or a text that is no pattern. -/
theorem checkPath_eq_error_iff {path : String} {condition : Condition} {cause : EvalError}
    (complete : (Check.compare path condition).Complete) :
    (rule.checkPath path condition snapshot shared).1 = .error cause ↔
      (∃ fault, Path.parse path = .error fault ∧ cause = .invalidPath fault) ∨
      ∃ parsed text, Path.parse path = .ok parsed ∧ condition.operator = .matches ∧
        condition.expected = some (.string text) ∧ Pattern.Engine.compile? text = none ∧
        cause = .invalidPattern text := by
  rw [checkPath_of_faithful faithful]
  cases complete with
  | compare _ pattern =>
    cases read : Path.parse path with
    | error fault => simp [eq_comm]
    | ok parsed =>
      simp only [checkPathIn_eq_error_iff, apply_eq_error_iff, reduceCtorEq, false_and,
        exists_false, false_or, Except.ok.injEq]
      constructor
      · rintro ⟨operator, unusable⟩
        obtain ⟨text, expected⟩ := pattern operator
        rw [expected, matchesPattern_text] at unusable
        exact ⟨parsed, text, rfl, operator, expected, unusable⟩
      · rintro ⟨_, text, _, operator, expected, unusable⟩
        rw [expected, matchesPattern_text]
        exact ⟨operator, unusable⟩

/-! ### Skipped rules -/

/-- The reasons for which an audit skips a rule. Which texts are patterns, the engine says. -/
inductive Rule.SkippedOn (snapshot : Snapshot) (rule : Rule) : Prop
  | disabled (off : rule.enabled = false)
  | outOfScope (limited : rule.vendorScope ≠ []) (other : snapshot.vendor ∉ rule.vendorScope)
  | unconfigured (nothing : rule.check = .unconfigured)
  | unreadablePath {path : String} {condition : Condition} {fault : PathError}
      (asked : rule.check = .compare path condition) (unread : Path.parse path = .error fault)
  | unusablePattern {path text : String} {condition : Condition}
      (asked : rule.check = .compare path condition) (operator : condition.operator = .matches)
      (expected : condition.expected = some (.string text))
      (unusable : Pattern.Engine.compile? text = none)

omit [Pattern.Engine] in
theorem appliesTo_eq_false_iff {vendor : Vendor} :
    rule.appliesTo vendor = false ↔ rule.vendorScope ≠ [] ∧ vendor ∉ rule.vendorScope := by
  simp [Rule.appliesTo]

include faithful in
theorem isSkipped_judge_iff (complete : rule.check.Complete) :
    (rule.judge .builtin snapshot shared).1.isSkipped = true ↔ rule.SkippedOn snapshot := by
  unfold Rule.judge
  split
  · next unasked =>
    rw [Bool.or_eq_true, Bool.not_eq_true', Bool.not_eq_true', appliesTo_eq_false_iff] at unasked
    refine iff_of_true rfl ?_
    rcases unasked with off | ⟨limited, other⟩
    · exact .disabled off
    · exact .outOfScope limited other
  · next unskipped =>
    rw [Bool.or_eq_true, Bool.not_eq_true', Bool.not_eq_true', appliesTo_eq_false_iff] at unskipped
    constructor
    · intro skipped
      cases check : rule.check with
      | unconfigured => exact .unconfigured check
      | compare path condition =>
        rw [check] at skipped complete
        obtain ⟨cause, failed⟩ := isSkipped_ofCheck.mp skipped
        rcases (checkPath_eq_error_iff faithful complete).mp failed with
          ⟨fault, unread, _⟩ | ⟨_, text, _, operator, expected, unusable, _⟩
        · exact .unreadablePath check unread
        · exact .unusablePattern check operator expected unusable
      | predicate name =>
        rw [check] at skipped
        obtain ⟨cause, failed⟩ := isSkipped_ofCheck.mp skipped
        obtain ⟨finding?, answered⟩ := checkPredicate_builtin rule name snapshot
        rw [answered] at failed
        contradiction
    · intro reason
      cases reason with
      | disabled off => exact absurd (.inl off) unskipped
      | outOfScope limited other => exact absurd (.inr ⟨limited, other⟩) unskipped
      | unconfigured nothing =>
        rw [nothing]
        rfl
      | unreadablePath asked unread =>
        rw [asked] at complete ⊢
        exact isSkipped_ofCheck.mpr
          ⟨_, (checkPath_eq_error_iff faithful complete).mpr (.inl ⟨_, unread, rfl⟩)⟩
      | @unusablePattern path text _ asked operator expected unusable =>
        rw [asked] at complete ⊢
        -- The pattern is looked at only behind the path, and a path that cannot be read skips the rule too.
        refine isSkipped_ofCheck.mpr ?_
        cases read : Path.parse path with
        | error fault => exact ⟨_, (checkPath_eq_error_iff faithful complete).mpr (.inl ⟨_, read, rfl⟩)⟩
        | ok parsed =>
          exact ⟨_, (checkPath_eq_error_iff faithful complete).mpr
            (.inr ⟨parsed, text, read, operator, expected, unusable, rfl⟩)⟩

/-! ### From documents to audits -/

/-- What the next rule shares with these. -/
def sharedAfter (snapshot : Snapshot) (rules : List Rule) : SharedView :=
  (rules.foldl (Progress.step .builtin snapshot) {}).shared

theorem faithful_after (snapshot : Snapshot) (rules : List Rule) :
    (sharedAfter snapshot rules).Faithful snapshot :=
  (foldl_collects .builtin (collects_nil snapshot) rules).faithful

/-- A rule read from a document is complete. With the built-in predicates an audit of any snapshot skips it for
one of the reasons given and for no other, whatever rules come before it. A path that cannot be read and a text that
the engine refuses are the only faults a check can come to: what has to be a pattern is a text, the view is always
made, and no predicate aborts. -/
theorem read_rules_are_answered {document : RuleDocument} {rule : Rule}
    (accepted : document.toRule = .ok rule) :
    rule.Complete ∧ ∀ snapshot : Snapshot,
      ((run .builtin snapshot [rule]).skipped = 1 ↔ rule.SkippedOn snapshot) ∧
      ∀ before : List Rule,
        let shared := sharedAfter snapshot before
        ((rule.judge .builtin snapshot shared).1.isSkipped = true ↔ rule.SkippedOn snapshot) ∧
        (∀ path condition, rule.check = .compare path condition → ∀ cause,
          (rule.checkPath path condition snapshot shared).1 = .error cause →
            cause ≠ .patternNotString ∧ (∀ why, cause ≠ .unviewable why) ∧
            ((∃ fault, Path.parse path = .error fault ∧ cause = .invalidPath fault) ∨
              ∃ text, condition.operator = .matches ∧ condition.expected = some (.string text) ∧
                Pattern.Engine.compile? text = none ∧ cause = .invalidPattern text)) ∧
        ∀ name, rule.check = .predicate name →
          ∃ finding?, rule.checkPredicate name .builtin snapshot = .ok finding? := by
  have complete := RuleDocument.complete_of_toRule accepted
  refine ⟨complete, fun snapshot => ⟨?_, fun before => ⟨?_, ?_, fun name _ => checkPredicate_builtin rule name snapshot⟩⟩⟩
  · rw [← isSkipped_judge_iff (faithful_none snapshot) complete.check, run_eq]
    change List.countP _ [rule.verdict .builtin snapshot] = 1 ↔
      (rule.verdict .builtin snapshot).isSkipped = true
    rw [List.countP_singleton]
    split <;> simp_all
  · exact isSkipped_judge_iff (faithful_after snapshot before) complete.check
  · intro path condition asked cause failed
    rcases (checkPath_eq_error_iff (faithful_after snapshot before) (asked ▸ complete.check)).mp failed with
      ⟨fault, unread, rfl⟩ | ⟨_, text, -, operator, expected, unusable, rfl⟩
    · exact ⟨nofun, nofun, .inl ⟨fault, unread, rfl⟩⟩
    · exact ⟨nofun, nofun, .inr ⟨text, operator, expected, unusable, rfl⟩⟩

end

/-- A rule whose pattern leaves a group open. It is read all the same. -/
def openGroup : RuleDocument :=
  { id := " R-1 "
    path := some "$.device.hostname"
    condition := some { operator := some "matches", value := some (.string "(") } }

theorem read_rules_are_answered_openGroup :
    ∃ rule, openGroup.toRule = .ok rule ∧ rule.Complete ∧
      ∀ snapshot : Snapshot, (run .builtin snapshot [rule]).skipped = 1 := by
  have accepted : openGroup.toRule = .ok
      { id := "R-1", title := "R-1",
        check := .compare "$.device.hostname" ⟨.matches, some (.string "(")⟩ } := by decide
  have unusable : Pattern.Engine.compile? "(" = none := Option.map_eq_none_iff.mpr (by decide)
  obtain ⟨complete, answered⟩ := read_rules_are_answered accepted
  exact ⟨_, accepted, complete, fun snapshot =>
    (answered snapshot).1.mpr (.unusablePattern rfl rfl rfl unusable)⟩

end DeviceConfig.Audit
