import DeviceConfig.Proofs.CommandLine.Override
import DeviceConfig.Proofs.Json.Scalar
import DeviceConfig.Proofs.Snippet.Places

/-!
Values typed on the command line, and what a snippet says for them. What is no JSON stands in the snippet as it was
typed; a number or a truth value stands there as JSON prints it.
-/

namespace DeviceConfig.CommandLine

open Decimal Json Snippet Text

/-! ### Typed values -/

/-- What is typed is JSON for a truth value or a number, and this is the text of it. -/
inductive StandsFor (typed : String) : String → Prop
  | flag (truth : Bool) (padded : Padded (toString truth).toList typed.toList) : StandsFor typed (toString truth)
  | integer {n : Numeral} (exact : n.IsExact) (padded : Padded n.chars typed.toList) :
    StandsFor typed (String.ofList n.chars)
  | double {n : Numeral} {x : Binary64} (read : n.parts.toNode = .float x) (padded : Padded n.chars typed.toList) :
    StandsFor typed x.text

/-- What a snippet says for what is typed. -/
inductive Inserts (typed : String) : String → Prop
  | value {text : String} (stands : StandsFor typed text) : Inserts typed text
  | verbatim (word : ∀ text, ¬StandsFor typed text) : Inserts typed typed

/-- Something is typed that has no quotes or brackets in it and is not null. -/
structure IsPlain (typed : String) : Prop where
  given : typed ≠ ""
  bare : IsBare typed.toList
  something : ¬Padded "null".toList typed.toList

section
variable {typed : String} (plain : IsPlain typed)
include plain

theorem parse?_of_standsFor {text : String} (stands : StandsFor typed text) :
    ∃ value, Reader.parse? typed = some value ∧ scalar? value = some text := by
  simp only [Reader.parse?_eq_some_iff plain.bare]
  obtain ⟨truth, padded⟩ | ⟨exact, padded⟩ | ⟨read, padded⟩ := stands
  · exact ⟨.bool truth, ⟨_, _, .bool truth, padded, rfl⟩, by cases truth <;> rfl⟩
  · next n =>
    refine ⟨.int n.value, ⟨_, _, .number n, padded, by rw [n.toNode_of_exact exact]; rfl⟩, ?_⟩
    rw [← n.toString_value exact]
    rfl
  · next n x => exact ⟨.number (.float x), ⟨_, _, .number n, padded, by rw [read]; rfl⟩, rfl⟩

theorem standsFor_of_parse? {value : Json} (read : Reader.parse? typed = some value) :
    (∀ text, value ≠ .string text) ∧ ∃ text, scalar? value = some text ∧ StandsFor typed text := by
  obtain ⟨node, core, bare, padded, read⟩ := (Reader.parse?_eq_some_iff plain.bare).mp read
  cases bare with
  | null => exact absurd padded plain.something
  | bool truth =>
    obtain rfl := Option.some.inj read
    exact ⟨nofun, toString truth, by cases truth <;> rfl, .flag truth padded⟩
  | number n =>
    by_cases exact : n.IsExact
    · rw [n.toNode_of_exact exact] at read
      obtain rfl := Option.some.inj read
      have text : (Number.int n.value).text = String.ofList n.chars := n.toString_value exact
      exact ⟨nofun, _, congrArg some text, .integer exact padded⟩
    · obtain unread | ⟨x, double⟩ := n.toNode_of_not_exact exact
      · rw [unread] at read
        cases read
      · rw [double] at read
        obtain rfl := Option.some.inj read
        exact ⟨nofun, x.text, rfl, .double double padded⟩

/-- One text is inserted for what is typed. -/
theorem exists_inserts : overrideValue typed ≠ .string "" ∧
    ∃ text, scalar? (overrideValue typed) = some text ∧ ∀ other, Inserts typed other ↔ other = text := by
  -- What is typed is a text exactly where it is no JSON.
  cases parsed : Reader.parse? typed with
  | none =>
    have word : ∀ text, ¬StandsFor typed text := by
      intro text stands
      obtain ⟨value, read, -⟩ := parse?_of_standsFor plain stands
      rw [parsed] at read
      cases read
    rw [overrideValue, parsed]
    refine ⟨fun empty => plain.given (Json.string.inj empty), typed, rfl, fun other => ⟨?_, ?_⟩⟩
    · rintro (stands | _)
      · exact absurd stands (word other)
      · rfl
    · rintro rfl
      exact .verbatim word
  | some value =>
    obtain ⟨noText, text, printed, stands⟩ := standsFor_of_parse? plain parsed
    rw [overrideValue, parsed]
    refine ⟨noText "", text, printed, fun other => ⟨?_, ?_⟩⟩
    · rintro (also | word)
      · obtain ⟨same, read, alsoPrinted⟩ := parse?_of_standsFor plain also
        obtain rfl := Option.some.inj (parsed.symm.trans read)
        exact Option.some.inj (alsoPrinted.symm.trans printed)
      · exact absurd stands (word text)
    · rintro rfl
      exact .value stands

end

/-! ### Overrides -/

theorem key_solid {vendor : Vendor} {action : Action} {read : Read} (member : read ∈ readsOf vendor action) :
    read.key ≠ "" ∧ '=' ∉ read.key.toList ∧ trimChars read.key.toList = read.key.toList := by
  have solid : ∀ read ∈ readsOf vendor action,
      read.key ≠ "" ∧ '=' ∉ read.key.toList ∧ trimChars read.key.toList = read.key.toList := by
    cases vendor <;> cases action <;> decide +kernel
  exact solid read member

theorem keyOf_append {key : String} (typed : String) (absent : '=' ∉ key.toList)
    (trimmed : trimChars key.toList = key.toList) :
    keyOf (key ++ "=" ++ typed) = key ∧ valueOf (key ++ "=" ++ typed) = overrideValue typed := by
  have shape : (key ++ "=" ++ typed).toList = key.toList ++ '=' :: typed.toList := by simp
  constructor
  · rw [keyOf, shape, takeWhile_append absent, trimmed, String.ofList_toList]
  · rw [valueOf, shape, List.dropWhile_append_of_pos (ne_of_absent absent)]
    simp

theorem valuesFor_append (key : String) (front behind : List String) :
    valuesFor key (front ++ behind) = valuesFor key front ++ valuesFor key behind := by
  simp [valuesFor]

theorem isOverride_of_applied {params result : Params} {texts : List String}
    (applied : applyOverrides params texts = .ok result) : ∀ text ∈ texts, IsOverride text := by
  by_contra faulty
  have found : (texts.find? (¬IsOverride ·)).isSome := by
    simpa [List.find?_isSome] using faulty
  obtain ⟨text, found⟩ := Option.isSome_iff_exists.mp found
  rw [applyOverrides_error params found] at applied
  cases applied

/-- One more override of a key that is not overridden gives the key its value and changes no other. -/
theorem applyOverrides_insert {params base : Params} {key : String} (typed : String) {before after : List String}
    (named : key ≠ "") (absent : '=' ∉ key.toList) (trimmed : trimChars key.toList = key.toList)
    (others : ∀ text ∈ before ++ after, keyOf text ≠ key)
    (applied : applyOverrides params (before ++ after) = .ok base) :
    ∃ result, applyOverrides params (before ++ (key ++ "=" ++ typed) :: after) = .ok result ∧
      result.members.lookup key = some (overrideValue typed) ∧
      ∀ other, other ≠ key → result.members.lookup other = base.members.lookup other := by
  obtain ⟨own, value⟩ := keyOf_append typed absent trimmed
  have given := isOverride_of_applied applied
  have also : ∀ text ∈ before ++ (key ++ "=" ++ typed) :: after, IsOverride text := by
    have inserted : IsOverride (key ++ "=" ++ typed) := ⟨by simp, by rwa [own]⟩
    simp only [List.forall_mem_append, List.forall_mem_cons] at given ⊢
    exact ⟨given.1, inserted, given.2⟩
  -- Every key goes by its own values, and those differ for the one key only.
  obtain ⟨same, alsoApplied, -, kept⟩ := applyOverrides_ok params given
  obtain rfl := Except.ok.inj (applied.symm.trans alsoApplied)
  obtain ⟨result, resulted, -, values⟩ := applyOverrides_ok params also
  refine ⟨result, resulted, ?_, fun other different => ?_⟩
  · have none : ∀ texts : List String, (∀ text ∈ texts, keyOf text ≠ key) → valuesFor key texts = [] := by
      intro texts apart
      simpa [valuesFor, List.filter_eq_nil_iff] using apart
    simp only [List.forall_mem_append] at others
    rw [values, valuesFor_append, valuesFor_cons, if_pos own, none _ others.1, none _ others.2, value]
    rfl
  · have apart : keyOf (key ++ "=" ++ typed) ≠ other := fun same => different (same.symm.trans own)
    rw [values, kept, valuesFor_append, valuesFor_append, valuesFor_cons, if_neg apart]

/-! ### The command -/

/-- A value that is typed for a parameter stands in every gap that the snippet has for the parameter, and nothing else
in the snippet depends on it. What is no JSON stands there as it was typed. -/
theorem typed_text_inserted [Pattern.Engine] (world : Surroundings) (options : GenerateOptions) {read : Read}
    (member : read ∈ readsOf options.vendor options.action) (scalar : read.kind.IsScalar)
    {document base : Params} (loaded : documentParams world options = .ok document)
    {before after : List String} (split : options.overrides = before ++ after)
    (others : ∀ text ∈ options.overrides, keyOf text ≠ read.key)
    (applied : applyOverrides document options.overrides = .ok base)
    (ready : ∀ other ∈ readsOf options.vendor options.action, other.key ≠ read.key → other.Succeeds base) :
    ∃ lines : List Gapped,
      ((∃ line ∈ lines, none ∈ line) ∨
        read.key = "area" ∧ base.members.lookup "networks" = some (.array [])) ∧
      ∀ typed, IsPlain typed → ∃ text, (∀ other, Inserts typed other ↔ other = text) ∧
        (Command.generate { options with overrides := before ++ (read.key ++ "=" ++ typed) :: after }).run world =
          { output := joinLines (lines.map (·.fill text)) ++ "\n" } := by
  obtain ⟨lines, placed, generated⟩ := generate_gapped member scalar ready
  obtain ⟨named, absent, trimmed⟩ := key_solid member
  refine ⟨lines, placed, fun typed plain => ?_⟩
  obtain ⟨noText, text, printed, inserts⟩ := exists_inserts plain
  rw [split] at others applied
  obtain ⟨params, overridden, own, kept⟩ := applyOverrides_insert typed named absent trimmed others applied
  have given : params.Gives read.key (overrideValue typed) := by
    refine ⟨own, ?_, noText⟩
    intro nothing
    rw [nothing] at printed
    cases printed
  refine ⟨text, inserts, ?_⟩
  have snippet := generated params _ text kept given printed
  have same : documentParams world { options with overrides := before ++ (read.key ++ "=" ++ typed) :: after } =
      .ok document := loaded
  simp only [Command.run, runGenerate, same, bind, Except.bind, overridden, Except.mapError, snippet]
  rfl

theorem not_padded {core cs : List Char} {c : Char} (inside : c ∈ core) (absent : c ∉ cs) : ¬Padded core cs := by
  rintro ⟨before, after, rfl, -⟩
  exact absent (List.mem_append_right _ (List.mem_append_left _ inside))

def switchOptions (overrides : List String) : GenerateOptions :=
  { vendor := .cisco, action := .baseline, params := none, overrides }

def switchText (hostname domain : String) : String :=
  Text.unlines
    ["configure terminal", "hostname " ++ hostname, "ip domain-name " ++ domain,
     "service timestamps debug datetime msec", "service timestamps log datetime msec", "no ip domain-lookup",
     "line con 0", " logging synchronous", " exec-timeout 10 0", " privilege level 15", "line vty 0 4",
     " transport input ssh", " login local", " exec-timeout 10 0", "end"] ++ "\n"

/-- The domain is typed behind the name of the switch, which settles the rest. -/
theorem typed_text_inserted_domain :
    (⟨"domain", .withDefault⟩ : Read) ∈ readsOf .cisco .baseline ∧
    (∀ world : Surroundings, ∃ lines : List Gapped, (∃ line ∈ lines, none ∈ line) ∧
      ∀ typed, IsPlain typed → ∃ text, (∀ other, Inserts typed other ↔ other = text) ∧
        (Command.generate (switchOptions ["hostname=r1", "domain=" ++ typed])).run world =
          { output := joinLines (lines.map (·.fill text)) ++ "\n" }) ∧
    ((Command.generate (switchOptions ["hostname=r1", "domain=lab"])).run { reader := fun _ => .ok "" }).output =
      switchText "r1" "lab" := by
  have member : (⟨"domain", .withDefault⟩ : Read) ∈ readsOf .cisco .baseline := by decide
  refine ⟨member, fun world => ?_, by decide +kernel⟩
  have named : (applyOverrides {} ["hostname=r1"]).toOption.map (·.members) = some [("hostname", .string "r1")] := by
    decide +kernel
  obtain ⟨⟨members⟩, applied, rfl⟩ := Option.map_eq_some_iff.mp named
  have ready : ∀ other ∈ readsOf .cisco .baseline, other.Succeeds ⟨[("hostname", .string "r1")]⟩ :=
    Ios.baselineTemplate.parameters.read_eq_ok_iff.mp ⟨_, rfl⟩
  obtain ⟨lines, placed, inserted⟩ :=
    typed_text_inserted world (switchOptions ["hostname=r1"]) member (.inr (.inr rfl)) rfl
      (List.append_nil _).symm (by decide +kernel) (toOption_eq_some.mp applied) fun other also _ => ready other also
  refine ⟨lines, placed.resolve_right fun area => absurd area.1 (by decide), fun typed plain => ?_⟩
  simpa [switchOptions] using inserted typed plain

/-- A name that ends in a zero loses it if the name is a number. -/
theorem typed_text_altered :
    (⟨"hostname", .required⟩ : Read) ∈ readsOf .cisco .baseline ∧ IsPlain "1.10" ∧
    ((Command.generate (switchOptions ["hostname=1.10"])).run { reader := fun _ => .ok "" }).output =
      switchText "1.1" "local" ∧
    switchText "1.1" "local" ≠ switchText "1.10" "local" := by
  refine ⟨by decide, ⟨by decide, ⟨by decide, by decide, by decide⟩, ?_⟩, by decide +kernel, by decide +kernel⟩
  exact not_padded (c := 'n') (by decide) (by decide)

end DeviceConfig.CommandLine
