import DeviceConfig.Proofs.Except
import DeviceConfig.Proofs.Snippet.Generate

/-!
What a snippet makes of its parameters. A template reads a fixed list of them in order: the first that is missing or
of no use is reported, and nothing else in the request makes a difference.
-/

namespace DeviceConfig.Snippet

/-! ### What can be wrong with a parameter -/

inductive Kind where
  | required
  | optional
  | withDefault
  | vlanId
  | list
  | optionalList
deriving DecidableEq

structure Read where
  key : String
  kind : Kind
deriving DecidableEq

def Kind.IsNeeded (kind : Kind) : Prop := kind = .required ∨ kind = .vlanId ∨ kind = .list

def IsScalar : Json → Prop
  | .string _ | .number _ | .bool _ => True
  | .null | .array _ | .object _ => False

/-- A whole number from 1 to 4094, or a text of one. -/
def IsVlanId (value : Json) : Prop :=
  ∃ id, 1 ≤ id ∧ id ≤ 4094 ∧
    (value = .nat id ∨
      ∃ text, value = .string text ∧ Text.readNat? 65535 (Text.trimChars text.toList) = some id)

/-- Scalars in a list, or one alone. -/
def IsList : Json → Prop
  | .array items => ∀ item ∈ items, IsScalar item
  | value => IsScalar value

/-- The values of use. -/
def Kind.Accepts : Kind → Json → Prop
  | .required | .optional | .withDefault => IsScalar
  | .vlanId => IsVlanId
  | .list | .optionalList => IsList

/-- What is asked for in place of what is given as a list. -/
def expectedList : Json → String
  | .array _ => "a list of strings"
  | _ => "a string"

def Kind.expected : Kind → Json → String
  | .required, _ | .optional, _ | .withDefault, _ => "a string"
  | .vlanId, _ => "a VLAN id between 1 and 4094"
  | .list, value | .optionalList, value => expectedList value

namespace Params

variable (params : Params) (key : String)

/-- No value, or one that counts as none. -/
def Lacks : Prop :=
  params.members.lookup key = none ∨ params.members.lookup key = some .null ∨
    params.members.lookup key = some (.string "")

def Gives (value : Json) : Prop :=
  params.members.lookup key = some value ∧ value ≠ .null ∧ value ≠ .string ""

theorem present?_eq_none_iff : params.present? key = none ↔ params.Lacks key := by
  unfold present? Lacks
  generalize params.members.lookup key = found
  rcases found with _ | value
  · simp
  · cases value <;> simp [String.isEmpty_iff]

theorem present?_eq_some_iff {value : Json} :
    params.present? key = some value ↔ params.Gives key value := by
  unfold present? Gives
  generalize params.members.lookup key = found
  rcases found with _ | given
  · simp
  · cases given with
    | null =>
      constructor
      · rintro ⟨⟩
      · rintro ⟨same, something, _⟩
        exact absurd (Option.some.inj same).symm something
    | string text =>
      simp only [String.isEmpty_iff, Option.ite_none_left_eq_some, Option.some.injEq]
      constructor
      · rintro ⟨something, rfl⟩
        simpa using something
      · rintro ⟨rfl, _, something⟩
        exact ⟨by simpa using something, rfl⟩
    | _ =>
      constructor
      · rintro ⟨⟩
        simp
      · exact And.left

end Params

/-- The causes for which a parameter cannot be read. -/
inductive Read.Fails (params : Params) (read : Read) : SnippetError → Prop
  | missing (needed : read.kind.IsNeeded) (lacking : params.Lacks read.key) :
    Fails params read (.missingParam read.key)
  | invalid {value : Json} (given : params.Gives read.key value)
    (refused : ¬read.kind.Accepts value) :
    Fails params read (.invalidParam read.key (read.kind.expected value))

/-- Nothing keeps the parameter from being read. -/
def Read.Succeeds (params : Params) (read : Read) : Prop := ∀ cause, ¬read.Fails params cause

/-! ### One parameter -/

theorem scalar?_eq_none_iff {value : Json} : scalar? value = none ↔ ¬IsScalar value := by
  cases value <;> simp [scalar?, IsScalar]

theorem vlanId?_eq_some_iff {value : Json} {id : Nat} : vlanId? value = some id ↔
    1 ≤ id ∧ id ≤ 4094 ∧ (value = .nat id ∨
      ∃ text, value = .string text ∧
        Text.readNat? 65535 (Text.trimChars text.toList) = some id) := by
  have range (found : Option Nat) :
      found.filter (fun id => decide (1 ≤ id ∧ id ≤ 4094)) = some id ↔
        1 ≤ id ∧ id ≤ 4094 ∧ found = some id := by
    rw [Option.filter_eq_some_iff, decide_eq_true_eq, and_comm, and_assoc]
  unfold vlanId?
  rw [range]
  refine and_congr_right fun _ => and_congr_right fun _ => ?_
  cases value with
  | number number =>
    cases number with
    | int number =>
      have whole : (if 0 ≤ number then some number.toNat else none) = some id ↔ number = id := by
        rw [Option.ite_none_right_eq_some, Option.some.injEq]
        omega
      simpa [Json.nat, Json.int] using whole
    | float number => simp [Json.nat, Json.int]
  | _ => simp [Json.nat, Json.int]

theorem vlanId?_eq_none_iff {value : Json} : vlanId? value = none ↔ ¬IsVlanId value := by
  simp only [Option.eq_none_iff_forall_ne_some, Ne, vlanId?_eq_some_iff, IsVlanId, not_exists]

theorem readScalar_eq_error_iff {key : String} {value : Json} {cause : SnippetError} :
    readScalar key value = .error cause ↔
      ¬IsScalar value ∧ cause = .invalidParam key "a string" := by
  rw [← scalar?_eq_none_iff, readScalar]
  cases scalar? value <;> simp [eq_comm]

theorem mapM_scalar?_eq_none_iff {items : List Json} :
    items.mapM scalar? = none ↔ ¬∀ item ∈ items, IsScalar item := by
  induction items with
  | nil => simp
  | cons item items ih =>
    rw [List.mapM_cons, List.forall_mem_cons, Classical.not_and_iff_not_or_not,
      ← scalar?_eq_none_iff, ← ih]
    cases scalar? item <;> cases items.mapM scalar? <;> simp

theorem readList_eq_error_iff {key : String} {value : Json} {cause : SnippetError} :
    readList key value = .error cause ↔
      ¬IsList value ∧ cause = .invalidParam key (expectedList value) := by
  cases value with
  | array items =>
    rw [IsList, ← mapM_scalar?_eq_none_iff, readList]
    cases items.mapM scalar? <;> simp [eq_comm, expectedList]
  | _ =>
    rw [readList, map_eq_error, readScalar_eq_error_iff, IsList, expectedList]
    all_goals simp

namespace Parameter

def asRead {α : Type} : Parameter α → Read
  | .required key => ⟨key, .required⟩
  | .optional key => ⟨key, .optional⟩
  | .withDefault key _ => ⟨key, .withDefault⟩
  | .vlanId key => ⟨key, .vlanId⟩
  | .list key => ⟨key, .list⟩
  | .optionalList key => ⟨key, .optionalList⟩

variable {α : Type} (parameter : Parameter α)

theorem readValue_none_eq_error_iff {cause : SnippetError} :
    parameter.readValue none = .error cause ↔
      parameter.asRead.kind.IsNeeded ∧ cause = .missingParam parameter.key := by
  cases parameter <;> simp [readValue, asRead, Kind.IsNeeded, key, eq_comm]

theorem readValue_some_eq_error_iff {value : Json} {cause : SnippetError} :
    parameter.readValue (some value) = .error cause ↔ ¬parameter.asRead.kind.Accepts value ∧
      cause = .invalidParam parameter.key (parameter.asRead.kind.expected value) := by
  cases parameter with
  | required key | withDefault key => exact readScalar_eq_error_iff
  | optional key => exact map_eq_error.trans readScalar_eq_error_iff
  | vlanId key =>
    have refused := @vlanId?_eq_none_iff value
    simp only [asRead, Kind.Accepts, Kind.expected, Parameter.key, readValue, ← refused]
    cases Snippet.vlanId? value <;> simp [eq_comm]
  | list key | optionalList key => exact readList_eq_error_iff

theorem key_asRead : parameter.asRead.key = parameter.key := by
  cases parameter <;> rfl

variable {params : Params}

theorem read_eq_error_iff {cause : SnippetError} :
    parameter.read params = .error cause ↔ parameter.asRead.Fails params cause := by
  rw [Parameter.read]
  cases found : params.present? parameter.key with
  | none =>
    have lacking := (params.present?_eq_none_iff _).mp found
    rw [readValue_none_eq_error_iff]
    constructor
    · rintro ⟨needed, rfl⟩
      rw [← key_asRead] at lacking ⊢
      exact .missing needed lacking
    · rintro (⟨needed, _⟩ | ⟨given, _⟩)
      · exact ⟨needed, by rw [key_asRead]⟩
      · rw [key_asRead, ← params.present?_eq_some_iff, found] at given
        cases given
  | some value =>
    have given := (params.present?_eq_some_iff _).mp found
    rw [readValue_some_eq_error_iff]
    constructor
    · rintro ⟨refused, rfl⟩
      rw [← key_asRead] at given ⊢
      exact .invalid given refused
    · rintro (⟨_, lacking⟩ | ⟨other, refused⟩)
      · rw [key_asRead, ← params.present?_eq_none_iff, found] at lacking
        cases lacking
      · rw [key_asRead, ← params.present?_eq_some_iff, found] at other
        cases other
        exact ⟨refused, by rw [key_asRead]⟩

theorem read_eq_ok_iff :
    (∃ value, parameter.read params = .ok value) ↔ parameter.asRead.Succeeds params := by
  simp only [Read.Succeeds, ← read_eq_error_iff]
  cases parameter.read params <;> simp

theorem read_congr {other : Params}
    (agree : other.members.lookup parameter.key = params.members.lookup parameter.key) :
    parameter.read other = parameter.read params := by
  rw [Parameter.read, Parameter.read, Params.present?, Params.present?, agree]

end Parameter

/-! ### Parameters in order -/

namespace Parameters

def reads {values : Type} : Parameters values → List Read
  | .done => []
  | .also first rest => first.asRead :: rest.reads

variable {values : Type} (parameters : Parameters values) {params : Params}

/-- The error is that of the first parameter that cannot be read. -/
theorem read_eq_error_iff {cause : SnippetError} : parameters.read params = .error cause ↔
    ∃ before read after, parameters.reads = before ++ read :: after ∧
      (∀ earlier ∈ before, earlier.Succeeds params) ∧ read.Fails params cause := by
  induction parameters with
  | done => simp [Parameters.read, reads]
  | also first rest ih =>
    rw [Parameters.read, bind_eq_error]
    constructor
    -- The rest is read only behind a first that succeeds, which joins those before the one that fails.
    · rintro (failed | ⟨value, read, failed⟩)
      · exact ⟨[], _, _, rfl, by simp, first.read_eq_error_iff.mp failed⟩
      · obtain failed | ⟨_, _, failed⟩ := bind_eq_error.mp failed
        · obtain ⟨before, later, after, whole, earlier, fails⟩ := ih.mp failed
          have succeeds := first.read_eq_ok_iff.mp ⟨value, read⟩
          exact ⟨first.asRead :: before, later, after, congrArg (first.asRead :: ·) whole,
            List.forall_mem_cons.mpr ⟨succeeds, earlier⟩, fails⟩
        · cases failed
    · rintro ⟨before, read, after, whole, earlier, fails⟩
      cases before with
      | nil =>
        obtain ⟨rfl, _⟩ := List.cons.inj whole
        exact .inl (first.read_eq_error_iff.mpr fails)
      | cons head before =>
        obtain ⟨rfl, others⟩ := List.cons.inj whole
        obtain ⟨succeeds, earlier⟩ := List.forall_mem_cons.mp earlier
        obtain ⟨value, succeeded⟩ := first.read_eq_ok_iff.mpr succeeds
        have failed := ih.mpr ⟨before, read, after, others, earlier, fails⟩
        exact .inr ⟨value, succeeded, bind_eq_error.mpr (.inl failed)⟩

theorem read_eq_ok_iff : (∃ found, parameters.read params = .ok found) ↔
    ∀ read ∈ parameters.reads, read.Succeeds params := by
  induction parameters with
  | done => simp [Parameters.read, reads]
  | also first rest ih =>
    rw [reads, List.forall_mem_cons, ← ih, ← Parameter.read_eq_ok_iff, Parameters.read]
    cases first.read params <;> cases rest.read params <;> simp [bind, Except.bind, pure, Except.pure]

theorem read_congr {other : Params} (agree : ∀ read ∈ parameters.reads,
      other.members.lookup read.key = params.members.lookup read.key) :
    parameters.read other = parameters.read params := by
  induction parameters with
  | done => rfl
  | also first rest ih =>
    obtain ⟨own, others⟩ := List.forall_mem_cons.mp agree
    rw [first.key_asRead] at own
    rw [Parameters.read, Parameters.read, first.read_congr own, ih others]

end Parameters

/-! ### Snippets -/

/-- The parameters that a snippet is made of. -/
def readsOf (vendor : Vendor) (action : Action) : List Read :=
  ((templateOf? vendor action).map (·.parameters.reads)).getD []

/-- A snippet fails for the first parameter, in a fixed order, that is missing or of no use, and for that cause. If
there is none it is made of the values of these parameters alone. -/
theorem generate_reads {vendor : Vendor} (known : vendor ≠ .generic) (action : Action)
    (params : Params) :
    (∀ cause, Request.generate ⟨vendor, action, params⟩ = .error cause ↔
      ∃ before read after, readsOf vendor action = before ++ read :: after ∧
        (∀ earlier ∈ before, earlier.Succeeds params) ∧ read.Fails params cause) ∧
    ((∃ text, Request.generate ⟨vendor, action, params⟩ = .ok text) ↔
      ∀ read ∈ readsOf vendor action, read.Succeeds params) ∧
    ∀ other : Params, (∀ read ∈ readsOf vendor action,
        other.members.lookup read.key = params.members.lookup read.key) →
      Request.generate ⟨vendor, action, other⟩ = Request.generate ⟨vendor, action, params⟩ := by
  obtain ⟨template, made⟩ : ∃ template, templateOf? vendor action = some template := by
    cases vendor with
    | generic => contradiction
    | _ => exact ⟨_, rfl⟩
  have reads : readsOf vendor action = template.parameters.reads := by
    rw [readsOf, made, Option.map_some, Option.getD_some]
  have generated (given : Params) : Request.generate ⟨vendor, action, given⟩ =
      (template.fill given).map joinLines := by
    simp only [generate_eq, made]
  simp only [generated, reads, Template.fill]
  refine ⟨fun cause => ?_, ?_, fun other agree => ?_⟩
  · rw [map_eq_error, map_eq_error, Parameters.read_eq_error_iff]
  · rw [← Parameters.read_eq_ok_iff]
    cases template.parameters.read params <;> simp [Except.map]
  · rw [template.parameters.read_congr agree]

example : readsOf .fortigate .lanVlan = [⟨"vlanId", .vlanId⟩, ⟨"interface", .required⟩,
    ⟨"name", .optional⟩, ⟨"ip", .required⟩, ⟨"mask", .required⟩] := rfl

/-- Of an uplink no mask is given, and a list where the gateway should be. -/
def halfUplink : Params :=
  ⟨[("gateway", .array []), ("interface", .string "Gi0/0"), ("ip", .string "198.51.100.2")]⟩

/-- The mask comes before the gateway, so it is the mask that is reported. -/
theorem generate_reads_halfUplink : Vendor.cisco ≠ .generic ∧
    Request.generate ⟨.cisco, .wanUplink, halfUplink⟩ = .error (.missingParam "mask") ∧
    ∃ before read after, readsOf .cisco .wanUplink = before ++ read :: after ∧
      (∀ earlier ∈ before, earlier.Succeeds halfUplink) ∧
      read.Fails halfUplink (.missingParam "mask") := by
  have known : Vendor.cisco ≠ .generic := by decide
  have failed : Request.generate ⟨.cisco, .wanUplink, halfUplink⟩ = .error (.missingParam "mask") := by
    rfl
  exact ⟨known, failed, ((generate_reads known .wanUplink halfUplink).1 _).mp failed⟩

end DeviceConfig.Snippet
