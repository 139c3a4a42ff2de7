import DeviceConfig.CommandLine.Run
import DeviceConfig.Proofs.Except
import DeviceConfig.Proofs.NameMap
import DeviceConfig.Proofs.Text.Split

/-!
What parameters come to when they are overridden. Every key goes by its own values alone: the one in the document
if it is given none, the one it is given, or all that it is given in one list.
-/

namespace DeviceConfig.CommandLine

open Snippet Text

/-! ### Texts -/

/-- What stands before the first equals sign, blanks around it aside. -/
def keyOf (text : String) : String := String.ofList (trimChars (text.toList.takeWhile (· != '=')))

/-- What stands behind the first equals sign. -/
def valueOf (text : String) : Json :=
  overrideValue (String.ofList (text.toList.dropWhile (· != '=')).tail)

def IsOverride (text : String) : Prop := '=' ∈ text.toList ∧ keyOf text ≠ ""

instance (text : String) : Decidable (IsOverride text) := inferInstanceAs (Decidable (_ ∧ _))

def faultOf (text : String) : OverrideError := if '=' ∈ text.toList then .noKey text else .noValue text

theorem message_faultOf (text : String) : (faultOf text).message =
    if '=' ∈ text.toList then s!"invalid --param '{text}': empty key"
    else s!"invalid --param '{text}': expected KEY=VALUE" := by
  unfold faultOf
  split <;> rfl

theorem readOverride_eq (text : String) : readOverride text =
    if IsOverride text then .ok (keyOf text, valueOf text) else .error (faultOf text) := by
  by_cases sign : '=' ∈ text.toList
  · obtain ⟨front, behind, shape, absent⟩ := List.eq_append_cons_of_mem sign
    have key : keyOf text = String.ofList (trimChars front) := by rw [keyOf, shape, takeWhile_append absent]
    have value : valueOf text = overrideValue (String.ofList behind) := by
      rw [valueOf, shape, List.dropWhile_append_of_pos (ne_of_absent absent)]
      simp
    have named : IsOverride text ↔ trimChars front ≠ [] := by simp [IsOverride, sign, key]
    rw [readOverride, shape, splitOnce?_append absent, key, value, faultOf, if_pos sign]
    by_cases empty : trimChars front = []
    · simp [empty, named]
    · simp [empty, named]
  · have unnamed : ¬IsOverride text := fun given => sign given.1
    rw [readOverride, splitOnce?_of_not_mem sign, if_neg unnamed, faultOf, if_neg sign]

/-! ### Values of a key -/

/-- The values that a key is given, in the order of the texts. -/
def valuesFor (key : String) (texts : List String) : List Json :=
  (texts.filter (keyOf · = key)).map valueOf

theorem valuesFor_cons (key text : String) (texts : List String) : valuesFor key (text :: texts) =
    if keyOf text = key then valueOf text :: valuesFor key texts else valuesFor key texts := by
  rw [valuesFor, List.filter_cons]
  split <;> simp_all [valuesFor]

/-- What a key comes to: what it is at first, the one value it is given, or the list of all of them. -/
def accumulated (first : Option Json) : List Json → Option Json
  | [] => first
  | [value] => some value
  | values => some (.array (values.flatMap itemsOf))

theorem accumulated_append (first : Option Json) {values : List Json} (given : values ≠ []) (value : Json) :
    accumulated first (values ++ [value]) =
      some (.array (((accumulated first values).map itemsOf).getD [] ++ itemsOf value)) := by
  match values with
  | [only] => simp [accumulated]
  | one :: two :: more => simp [accumulated, itemsOf]

/-! ### One override after the other -/

namespace Overriding

/-- A key was given these values, and has come to what they make. -/
def Holds (state : Overriding) (key : String) (first : Option Json) (values : List Json) : Prop :=
  (key ∈ state.seen ↔ values ≠ []) ∧ state.params.members.lookup key = accumulated first values

theorem holds_start (params : Params) (key : String) :
    Holds { params } key (params.members.lookup key) [] := by
  simp [Holds, accumulated]

theorem holds_give {state : Overriding} {key : String} {first : Option Json} {values : List Json}
    (holds : state.Holds key first values) (given : String) (value : Json) :
    (state.give given value).Holds key first (if given = key then values ++ [value] else values) := by
  obtain ⟨seen, found⟩ := holds
  unfold Holds give
  by_cases same : given = key
  · subst same
    by_cases known : given ∈ state.seen
    · have earlier := accumulated_append first (seen.mp known) value
      simp [known, NameMap.lookup_insert, found, earlier]
    · have none : values = [] := by simpa [known] using seen
      simp [known, NameMap.lookup_insert, none, accumulated]
  · have other : key ≠ given := Ne.symm same
    split <;> simp [other, NameMap.lookup_insert, found, seen]

theorem sorted_give {state : Overriding} (sorted : NameMap.Sorted state.params.members) (key : String)
    (value : Json) : NameMap.Sorted (state.give key value).params.members := by
  unfold give
  dsimp only
  split <;> exact NameMap.sorted_insert sorted _ _

/-- All texts added, where each gives a value. -/
def addAll (state : Overriding) (texts : List String) : Overriding :=
  texts.foldl (fun state text => state.give (keyOf text) (valueOf text)) state

theorem holds_addAll {state : Overriding} {key : String} {first : Option Json} {values : List Json}
    (holds : state.Holds key first values) (texts : List String) :
    (state.addAll texts).Holds key first (values ++ valuesFor key texts) := by
  induction texts generalizing state values with
  | nil => simpa [addAll, valuesFor] using holds
  | cons text texts ih =>
    have rest := ih (holds_give holds (keyOf text) (valueOf text))
    rw [valuesFor_cons]
    by_cases same : keyOf text = key
    · rw [if_pos same, List.append_assoc] at rest
      rwa [if_pos same]
    · rw [if_neg same] at rest
      rwa [if_neg same]

theorem sorted_addAll {state : Overriding} (sorted : NameMap.Sorted state.params.members)
    (texts : List String) : NameMap.Sorted (state.addAll texts).params.members := by
  induction texts generalizing state with
  | nil => exact sorted
  | cons text texts ih => exact ih (sorted_give sorted _ _)

theorem foldlM_add {texts : List String} (given : ∀ text ∈ texts, IsOverride text) (state : Overriding) :
    texts.foldlM add state = .ok (state.addAll texts) := by
  induction texts generalizing state with
  | nil => rfl
  | cons text texts ih =>
    obtain ⟨first, given⟩ := List.forall_mem_cons.mp given
    rw [List.foldlM_cons, add, readOverride_eq, if_pos first]
    exact ih given _

theorem foldlM_add_error {texts : List String} {text : String}
    (found : texts.find? (¬IsOverride ·) = some text) (state : Overriding) :
    texts.foldlM add state = .error (faultOf text) := by
  induction texts generalizing state with
  | nil => cases found
  | cons first texts ih =>
    rw [List.foldlM_cons, add, readOverride_eq]
    by_cases given : IsOverride first
    · rw [if_pos given]
      exact ih (by simpa [given] using found) _
    · obtain rfl : first = text := by simpa [given] using found
      rw [if_neg given]
      rfl

end Overriding

/-- With overrides alone, each key comes to what its own values make. -/
theorem applyOverrides_ok (params : Params) {texts : List String} (given : ∀ text ∈ texts, IsOverride text) :
    ∃ result, applyOverrides params texts = .ok result ∧
      (NameMap.Sorted params.members → NameMap.Sorted result.members) ∧
      ∀ key, result.members.lookup key = accumulated (params.members.lookup key) (valuesFor key texts) := by
  refine ⟨(Overriding.addAll { params } texts).params, ?_, fun sorted => Overriding.sorted_addAll sorted texts,
    fun key => (Overriding.holds_addAll (Overriding.holds_start params key) texts).2⟩
  rw [applyOverrides, Overriding.foldlM_add given]
  rfl

theorem applyOverrides_error (params : Params) {texts : List String} {text : String}
    (found : texts.find? (¬IsOverride ·) = some text) :
    applyOverrides params texts = .error (faultOf text) := by
  rw [applyOverrides, Overriding.foldlM_add_error found]
  rfl

/-! ### The command -/

theorem run_generate_error [Pattern.Engine] (world : Surroundings) {options : GenerateOptions} {text : String}
    (found : options.overrides.find? (¬IsOverride ·) = some text) :
    ∃ failure, (Command.generate options).run world = .failed failure ∧
      ∀ params, documentParams world options = .ok params →
        failure = { context := (faultOf text).message } := by
  rw [Command.run, runGenerate]
  cases documentParams world options with
  | error failure => exact ⟨failure, rfl, fun _ loaded => nomatch loaded⟩
  | ok params =>
    refine ⟨{ context := (faultOf text).message }, ?_, fun _ _ => rfl⟩
    have fails := applyOverrides_error params found
    simp only [bind, Except.bind, fails]
    rfl

/-- Every key goes by its own values alone, so the order of the texts counts only among those of one key. Of texts
that are no overrides the first is named, and nothing is printed. -/
theorem overrides_accumulate [Pattern.Engine] (params : Params) (texts : List String) :
    ((∀ text ∈ texts, IsOverride text) →
      ∃ result, applyOverrides params texts = .ok result ∧
        (∀ key, result.members.lookup key =
          accumulated (params.members.lookup key) (valuesFor key texts)) ∧
        (NameMap.Sorted params.members → NameMap.Sorted result.members ∧
          ∀ others, (∀ text ∈ others, IsOverride text) →
            (∀ key, valuesFor key others = valuesFor key texts) →
              applyOverrides params others = .ok result)) ∧
    ∀ text, texts.find? (¬IsOverride ·) = some text →
      ∀ (world : Surroundings) (options : GenerateOptions), options.overrides = texts →
        let outcome := (Command.generate options).run world
        outcome.output = "" ∧ outcome.exitCode = 1 ∧
          (documentParams world options = .ok params → outcome.failure = some
            { context :=
                if '=' ∈ text.toList then s!"invalid --param '{text}': empty key"
                else s!"invalid --param '{text}': expected KEY=VALUE" }) := by
  constructor
  · intro given
    obtain ⟨result, added, sorted, values⟩ := applyOverrides_ok params given
    refine ⟨result, added, values, fun ordered => ⟨sorted ordered, fun others alsoGiven same => ?_⟩⟩
    obtain ⟨other, alsoAdded, alsoSorted, alsoValues⟩ := applyOverrides_ok params alsoGiven
    have equal : other.members = result.members :=
      NameMap.eq_of_lookup (alsoSorted ordered) (sorted ordered) fun key => by
        rw [values, alsoValues, same]
    exact alsoAdded.trans (congrArg (Except.ok <| Params.mk ·) equal)
  · intro text found world options same
    subst same
    obtain ⟨failure, failed, named⟩ := run_generate_error world found
    simp only [failed]
    refine ⟨rfl, rfl, fun loaded => ?_⟩
    rw [named params loaded, message_faultOf]
    rfl

def documentPorts : Params := ⟨[("ports", .string "Gi0/9"), ("vlanId", .int 10)]⟩

/-- The ports of the document give way to those on the command line, of which the last come as a list. -/
theorem overrides_accumulate_ports :
    (∃ result,
      applyOverrides documentPorts ["ports=Gi0/1", "hostname=r1", " ports =[\"Gi0/2\", null]"] = .ok result ∧
        result.members.lookup "ports" = some (.array [.string "Gi0/1", .string "Gi0/2", .null]) ∧
        result.members.lookup "hostname" = some (.string "r1") ∧
        result.members.lookup "vlanId" = some (.int 10) ∧
        applyOverrides documentPorts ["hostname=r1", "ports=Gi0/1", " ports =[\"Gi0/2\", null]"] =
          .ok result) ∧
      ((Command.generate { vendor := .cisco, action := .ospf, params := none, overrides := ["area=0", " =x", "y"] }).run
        { reader := fun _ => .ok "" }).failure = some { context := "invalid --param ' =x': empty key" } := by
  constructor
  · obtain ⟨result, added, values, ordered⟩ := (overrides_accumulate documentPorts
      ["ports=Gi0/1", "hostname=r1", " ports =[\"Gi0/2\", null]"]).1 (by decide +kernel)
    obtain ⟨-, reordered⟩ := ordered (by decide)
    refine ⟨result, added, ?_, ?_, ?_, reordered _ (by decide +kernel) fun key => ?_⟩
    · rw [values]
      decide +kernel
    · rw [values]
      decide +kernel
    · rw [values]
      decide +kernel
    · have apart : keyOf "ports=Gi0/1" ≠ keyOf "hostname=r1" := by decide +kernel
      simp only [valuesFor_cons]
      split <;> split <;> simp_all
  · exact ((overrides_accumulate {} ["area=0", " =x", "y"]).2 " =x" (by decide +kernel) _ _ rfl).2.2 rfl

end DeviceConfig.CommandLine
