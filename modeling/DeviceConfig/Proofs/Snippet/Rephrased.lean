import DeviceConfig.Json.Writer
import DeviceConfig.Proofs.Snippet.Parameters
import DeviceConfig.Proofs.Text.Digits
import Mathlib.Data.List.Nodup
import Mathlib.Logic.Relation

/-!
Parameters given in other words: null or an empty text for what is not there, a text for a number or a truth value, one
value for the list of it alone. The snippet is the same, and so is the error if there is none.
-/

namespace DeviceConfig

/-! ### Texts of numbers -/

namespace Decimal

/-- A double has a point or an exponent in its text, also where it is a whole number. -/
theorem mem_text (x : Binary64) : ∃ c ∈ x.text.toList, c = '.' ∨ c = 'e' := by
  suffices marked : '.' ∈ x.text.toList ∨ 'e' ∈ x.text.toList by
    rcases marked with point | exponent
    · exact ⟨_, point, .inl rfl⟩
    · exact ⟨_, exponent, .inr rfl⟩
  unfold Binary64.text
  generalize (if x.negative then "-" else "") = sign
  generalize shortest x.units = found
  dsimp only
  split
  · simp
  · rw [String.toList_append, String.toList_ofList]
    refine Or.imp (List.mem_append_right _) (List.mem_append_right _) ?_
    split_ifs <;> simp

end Decimal

namespace Json

open Text

theorem Number.text_ne_empty (number : Number) : number.text ≠ "" := by
  cases number with
  | int value => cases value <;> simp [Number.text, toString, Int.repr]
  | float value =>
    intro empty
    obtain ⟨_, member, _⟩ := Decimal.mem_text value
    have empty : value.text = "" := empty
    simp [empty] at member

end Json

namespace Snippet

open Json Text

/-! ### What is read of a value -/

/-- A value, and the same one with some of its numbers and truth values put into words. -/
inductive Printed : Json → Json → Prop
  | same (value : Json) : Printed value value
  | number (number : Json.Number) : Printed (.number number) (.string number.text)
  | bool (flag : Bool) : Printed (.bool flag) (.string (Json.bool flag).compact)
  | items {items others : List Json} (each : List.Forall₂ Printed items others) :
    Printed (.array items) (.array others)

theorem readNat?_trimmed_strange {bound : Nat} {cs : List Char} {c : Char} (member : c ∈ cs)
    (solid : isBlank c = false) (unsigned : c ≠ '+') (strange : digit? 10 c = none) :
    readNat? bound (trimChars cs) = none :=
  readNat?_strange (mem_trimChars member solid) unsigned strange

/-- From the text of a number that same number is read, if it is a natural one and within the bound. -/
theorem readNat?_text {bound id : Nat} (number : Json.Number) :
    readNat? bound (trimChars number.text.toList) = some id ↔ number = .int id ∧ id ≤ bound := by
  cases number with
  | int value =>
    cases value with
    | ofNat n =>
      have digits : (Number.int (Int.ofNat n)).text.toList = Nat.toDigits 10 n := by
        simp [Number.text, toString, Int.repr, Nat.repr]
      rw [digits, trimChars_toDigits, readNat?_of_digits Nat.toDigits_ne_nil
        fun c member => isDigit_of_mem_toDigits member, Nat.ofDigitChars_ten_toDigits]
      simp only [Option.filter_eq_some_iff, Option.some.injEq, decide_eq_true_eq, Number.int.injEq,
        Int.ofNat_eq_natCast, Int.natCast_inj]
    | negSucc n =>
      have sign : '-' ∈ (Number.int (Int.negSucc n)).text.toList := by
        simp [Number.text, toString, Int.repr]
      rw [readNat?_trimmed_strange sign (by decide) (by decide) (by decide)]
      simp
  | float value =>
    obtain ⟨c, member, mark⟩ := Decimal.mem_text value
    have unread : readNat? bound (trimChars value.text.toList) = none := by
      rcases mark with rfl | rfl
      · exact readNat?_trimmed_strange member (by decide) (by decide) (by decide)
      · exact readNat?_trimmed_strange member (by decide) (by decide) (by decide)
    simp [Number.text, unread]

theorem vlanId?_text (number : Json.Number) :
    vlanId? (.string number.text) = vlanId? (.number number) := by
  ext id
  rw [vlanId?_eq_some_iff, vlanId?_eq_some_iff]
  refine and_congr_right fun _ => and_congr_right fun within => ?_
  have small : id ≤ 65535 := by omega
  simp [Json.nat, Json.int, readNat?_text, small]

section
variable {value other : Json} (printed : Printed value other)
include printed

theorem scalar?_printed : scalar? other = scalar? value := by
  cases printed with
  | bool flag => cases flag <;> rfl
  | _ => rfl

theorem vlanId?_printed : vlanId? other = vlanId? value := by
  cases printed with
  | number number => exact vlanId?_text number
  | bool flag => cases flag <;> decide
  | _ => rfl

theorem readScalar_printed (key : String) : readScalar key other = readScalar key value := by
  rw [readScalar, readScalar, scalar?_printed printed]

end

theorem mapM_scalar?_printed {items others : List Json} (each : List.Forall₂ Printed items others) :
    others.mapM scalar? = items.mapM scalar? := by
  induction each with
  | nil => rfl
  | cons first _ ih => rw [List.mapM_cons, List.mapM_cons, scalar?_printed first, ih]

theorem readList_printed {value other : Json} (printed : Printed value other) (key : String) :
    readList key other = readList key value := by
  cases printed with
  | same => rfl
  | items each => rw [readList, readList, mapM_scalar?_printed each]
  | number number =>
    rw [readList, readList, readScalar_printed (.number number)]
    all_goals simp
  | bool flag =>
    rw [readList, readList, readScalar_printed (.bool flag)]
    all_goals simp

theorem readList_alone {value : Json} (scalar : IsScalar value) (key : String) :
    readList key (.array [value]) = readList key value := by
  cases value with
  | null | array _ | object _ => contradiction
  | _ => rfl

/-! ### What is given of a parameter -/

/-- The value that counts, of what stands under a key. -/
def counted? : Option Json → Option Json
  | none => none
  | some .null => none
  | some (.string text) => if text.isEmpty then none else some (.string text)
  | some value => some value

theorem present?_eq (params : Params) (key : String) :
    params.present? key = counted? (params.members.lookup key) := rfl

/-- What stands under a key, and the same in other words. One value alone may stand for the list of it where a list is
asked for; the empty text may not, it would count as none. -/
inductive Rephrases (listed : Prop) : Option Json → Option Json → Prop
  | null : Rephrases listed none (some .null)
  | empty : Rephrases listed none (some (.string ""))
  | printed {value other : Json} (printed : Printed value other) : Rephrases listed (some value) (some other)
  | alone {value : Json} (asked : listed) (scalar : IsScalar value) (given : value ≠ .string "") :
    Rephrases listed (some (.array [value])) (some value)

def Kind.IsListed (kind : Kind) : Prop := kind = .list ∨ kind = .optionalList

theorem counted?_scalar {value : Json} (scalar : IsScalar value) (given : value ≠ .string "") :
    counted? (some value) = some value := by
  cases value with
  | string text =>
    have something : text.isEmpty = false := by simpa using given
    simp [counted?, something]
  | number _ | bool _ => rfl
  | null | array _ | object _ => contradiction

namespace Parameter

variable {α : Type} (parameter : Parameter α)

theorem readValue_printed {value other : Json} (printed : Printed value other) :
    parameter.readValue (some other) = parameter.readValue (some value) := by
  cases parameter with
  | required key | withDefault key => exact readScalar_printed printed key
  | optional key => rw [readValue, readValue, readScalar_printed printed]
  | vlanId key => rw [readValue, readValue, vlanId?_printed printed]
  | list key | optionalList key => exact readList_printed printed key

theorem readValue_alone {value : Json} (scalar : IsScalar value)
    (listed : parameter.asRead.kind.IsListed) :
    parameter.readValue (some (.array [value])) = parameter.readValue (some value) := by
  cases parameter with
  | list key | optionalList key => exact readList_alone scalar key
  | _ => simp [asRead, Kind.IsListed] at listed

variable {listed : Prop}

theorem readValue_rephrased {found other : Option Json} (rephrases : Rephrases listed found other)
    (own : listed → parameter.asRead.kind.IsListed) :
    parameter.readValue (counted? other) = parameter.readValue (counted? found) := by
  cases rephrases with
  | null | empty => rfl
  | @printed value other printed =>
    cases printed with
    | same => rfl
    | items each => exact parameter.readValue_printed (.items each)
    | number number =>
      have something : Json.string number.text ≠ .string "" := by simpa using number.text_ne_empty
      have counts : counted? (some (.string number.text)) = some (.string number.text) :=
        counted?_scalar trivial something
      rw [counts]
      exact parameter.readValue_printed (.number number)
    | bool flag =>
      have something : Json.string (Json.bool flag).compact ≠ .string "" := by cases flag <;> decide
      have counts : counted? (some (.string (Json.bool flag).compact)) = some (.string (Json.bool flag).compact) :=
        counted?_scalar trivial something
      rw [counts]
      exact parameter.readValue_printed (.bool flag)
  | alone asked scalar given =>
    rw [counted?_scalar scalar given]
    exact (parameter.readValue_alone scalar (own asked)).symm

/-- However many changes lie between the two. -/
theorem read_rephrased {params other : Params}
    (rephrased : Relation.EqvGen (Rephrases listed) (params.members.lookup parameter.key)
      (other.members.lookup parameter.key))
    (own : listed → parameter.asRead.kind.IsListed) :
    parameter.read other = parameter.read params := by
  have agree : ∀ found given, Rephrases listed found given →
      parameter.readValue (counted? found) = parameter.readValue (counted? given) :=
    fun found given rephrases => (parameter.readValue_rephrased rephrases own).symm
  rw [Parameter.read, Parameter.read, present?_eq, present?_eq]
  exact (congrArg (Quot.lift _ agree) (Quot.eqvGen_sound rephrased)).symm

end Parameter

theorem Parameters.read_rephrased {values : Type} (parameters : Parameters values)
    {params other : Params} {listed : String → Prop}
    (rephrased : ∀ key, Relation.EqvGen (Rephrases (listed key)) (params.members.lookup key)
      (other.members.lookup key))
    (own : ∀ read ∈ parameters.reads, listed read.key → read.kind.IsListed) :
    parameters.read other = parameters.read params := by
  induction parameters with
  | done => rfl
  | also first rest ih =>
    obtain ⟨head, tail⟩ := List.forall_mem_cons.mp own
    rw [first.key_asRead] at head
    rw [Parameters.read, Parameters.read, first.read_rephrased (rephrased first.key) head, ih tail]

/-! ### Snippets -/

/-- The template reads the key as a list. -/
def IsListKey (vendor : Vendor) (action : Action) (key : String) : Prop :=
  ∃ read ∈ readsOf vendor action, read.key = key ∧ read.kind.IsListed

/-- The same parameters, each in words of its own: any number of changes, in either direction. -/
def Params.Rephrased (vendor : Vendor) (action : Action) (params other : Params) : Prop :=
  ∀ key, Relation.EqvGen (Rephrases (IsListKey vendor action key)) (params.members.lookup key)
    (other.members.lookup key)

/-- No template reads a key twice. -/
theorem keys_distinct (vendor : Vendor) (action : Action) :
    ((readsOf vendor action).map (·.key)).Nodup := by
  cases vendor <;> cases action <;> decide

/-- A key that is read as a list is read as nothing else. -/
theorem isListed_of_isListKey {vendor : Vendor} {action : Action} {read : Read}
    (member : read ∈ readsOf vendor action) (listed : IsListKey vendor action read.key) :
    read.kind.IsListed := by
  obtain ⟨other, also, same, kind⟩ := listed
  obtain rfl := List.inj_on_of_nodup_map (keys_distinct vendor action) also member same
  exact kind

/-- The words in which parameters are given make no difference to what is made of them. -/
theorem generate_rephrased {vendor : Vendor} {action : Action} {params other : Params}
    (rephrased : params.Rephrased vendor action other) :
    Request.generate ⟨vendor, action, other⟩ = Request.generate ⟨vendor, action, params⟩ := by
  cases made : templateOf? vendor action with
  | none => simp only [generate_eq, made]
  | some template =>
    have reads : readsOf vendor action = template.parameters.reads := by
      rw [readsOf, made, Option.map_some, Option.getD_some]
    have same : template.parameters.read other = template.parameters.read params :=
      template.parameters.read_rephrased rephrased fun read member =>
        isListed_of_isListKey (reads ▸ member)
    simp only [generate_eq, made, Template.fill, same]

/-- A list of one number told as a text, an id told as a text, and null for a name that was not there. -/
theorem generate_rephrased_port :
    let params : Params := ⟨[("ports", .array [.int 3]), ("vlanId", .int 20)]⟩
    let other : Params := ⟨[("name", .null), ("ports", .string "3"), ("vlanId", .string "20")]⟩
    params.Rephrased .cisco .bridge other ∧
      Request.generate ⟨.cisco, .bridge, params⟩ = .ok ("configure terminal\nvlan 20\ninterface 3\n" ++
        " switchport access vlan 20\n switchport mode access\nend") ∧
      Request.generate ⟨.cisco, .bridge, other⟩ = Request.generate ⟨.cisco, .bridge, params⟩ := by
  intro params other
  have rephrased : params.Rephrased .cisco .bridge other := by
    intro key
    by_cases ports : key = "ports"
    · subst ports
      have asked : IsListKey .cisco .bridge "ports" :=
        ⟨_, List.mem_cons_of_mem _ List.mem_cons_self, rfl, .inl rfl⟩
      exact .trans _ _ _ (.rel _ _ (.alone asked trivial (by decide)))
        (.rel _ _ (.printed (.number (.int 3))))
    · by_cases id : key = "vlanId"
      · subst id
        exact .rel _ _ (.printed (.number (.int 20)))
      · by_cases name : key = "name"
        · subst name
          exact .rel _ _ .null
        · have absent : params.members.lookup key = other.members.lookup key := by
            simp [params, other, List.lookup_cons, beq_false_of_ne ports, beq_false_of_ne id,
              beq_false_of_ne name]
          rw [absent]
          exact .refl _
  exact ⟨rephrased, rfl, generate_rephrased rephrased⟩

end Snippet

end DeviceConfig
