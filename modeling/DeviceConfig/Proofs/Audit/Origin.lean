import DeviceConfig.Proofs.Audit.BaselineText
import DeviceConfig.Proofs.Audit.Ingestion
import DeviceConfig.Proofs.Audit.Pack

/-!
What an audit can rely on in a pack of rules, wherever it comes from. It has an id and a name, its rules are those of
its document, and no two of them have the same id.
-/

namespace DeviceConfig.Audit.Pack

open Document Text

variable {pack : Pack}

/-! ### Packs ready for use -/

/-- A rule of a pack is that of its document. It is for the vendors of the pack if it names none itself. -/
def Brings (scope : List Vendor) (part : Node) (rule : Rule) : Prop :=
  ∃ own, readRule part = .ok own ∧ rule = { own with vendorScope := rule.vendorScope } ∧
    (own.vendorScope ≠ [] → rule.vendorScope = own.vendorScope) ∧
    (own.vendorScope = [] → rule.vendorScope = scope ∧
      (scope ≠ [] → ∀ vendor, rule.appliesTo vendor = true ↔ vendor ∈ scope))

/-- A pack that an audit can use, and what its document has to do with it. -/
structure Ready (node : Node) (pack : Pack) : Prop where
  id : ((membersOf node).lookup "id").bind read? = some pack.id
  name : ∃ given, ((membersOf node).lookup "name").elim (some "") read? = some given ∧
    pack.name = if isBlankText given then pack.id else given
  version : ((membersOf node).lookup "version").elim (some "") read? = some pack.version
  description : ((membersOf node).lookup "description").elim (some none) read? =
    some pack.description
  id_given : isBlankText pack.id = false
  name_given : isBlankText pack.name = false
  distinct : (pack.rules.map (trim ·.id)).Nodup
  vendorScope : scopeOf? node = some pack.vendorScope
  rules : ∃ parts, rulesOf? node = some parts ∧
    List.Forall₂ (Brings pack.vendorScope) parts pack.rules

theorem brings_scopeRule {scope : List Vendor} {part : Node} {own : Rule}
    (found : readRule part = .ok own) : Brings scope part (scopeRule scope own) := by
  refine ⟨own, found, ?_, fun limited => ?_, fun free => ?_⟩
  · unfold scopeRule
    split <;> rfl
  · rw [scopeRule, if_neg (by simpa using limited)]
  · rw [scopeRule, if_pos (by simpa using free)]
    refine ⟨rfl, fun limited vendor => ?_⟩
    simp [Rule.appliesTo, limited]

theorem complete_of_readRule {part : Node} {rule : Rule} (found : readRule part = .ok rule) :
    rule.Complete := by
  unfold readRule at found
  split at found
  · exact RuleDocument.complete_of_toRule (mapError_eq_ok.mp found)
  · cases found

theorem complete_of_parts {parts : List Node} {rules : List Rule}
    (found : List.Forall₂ (fun part rule => readRule part = .ok rule) parts rules) :
    ∀ rule ∈ rules, rule.Complete := by
  induction found with
  | nil => simp
  | cons first _ ih => exact List.forall_mem_cons.mpr ⟨complete_of_readRule first, ih⟩

theorem ready_of_finish {node : Node} {raw pack : Pack} {source : String} (read : raw.ReadFrom node)
    (finished : raw.finish source = .ok pack) : pack.Ready node := by
  obtain ⟨named, distinct, rfl⟩ := finish_eq_ok_iff.mp finished
  obtain ⟨parts, listed, rules⟩ := read.rules
  have trimmed : raw.filled.rules.map (trim ·.id) = raw.rules.map (·.id) := by
    rw [filled, List.map_map]
    refine List.map_congr_left fun rule member => ?_
    rw [Function.comp_apply, id_scopeRule, (complete_of_parts rules rule member).id_trimmed]
  exact {
    id := read.id
    name := ⟨raw.name, read.name, rfl⟩
    version := read.version
    description := read.description
    id_given := named
    name_given := name_filled named
    distinct := trimmed ▸ distinct
    vendorScope := read.vendorScope
    rules := ⟨parts, listed,
      List.forall₂_map_right_iff.mpr (rules.imp fun _ _ => brings_scopeRule)⟩ }

/-! ### Where packs come from -/

/-- The text is a document, and the pack is made of it. -/
def MadeOf (format : Format) (text : String) (pack : Pack) : Prop :=
  ∃ node, format.read text = (node, true) ∧ pack.Ready node

/-- The pack that a text gives before it is made ready. -/
def Opened (format : Format) (text : String) (raw : Pack) : Prop :=
  format.load .malformed Pack.read text = .ok raw

theorem readFrom_of_opened {format : Format} {text : String} {raw : Pack}
    (opened : Opened format text raw) :
    ∃ node, format.read text = (node, true) ∧ raw.ReadFrom node := by
  unfold Opened Format.load at opened
  generalize format.read text = document at opened ⊢
  obtain ⟨node, whole⟩ := document
  obtain ⟨found, read, opened⟩ := bind_eq_ok.mp opened
  cases whole with
  | false => cases opened
  | true =>
    obtain rfl := Except.ok.inj opened
    exact ⟨node, rfl, readFrom_of_read read⟩

/-- What has been loaded is made ready. A fault in loading is no repeated id. -/
theorem finish_loaded {ε : Type} {loaded : Except ε Pack} {wrap : ε → PackError} {source : String}
    (faults : ∀ cause, ∃ fault, wrap cause = .load fault) :
    (∀ pack, (loaded.mapError wrap >>= finish source) = .ok pack ↔
      ∃ raw, loaded = .ok raw ∧ raw.finish source = .ok pack) ∧
    ∀ label id, (loaded.mapError wrap >>= finish source) = .error (.duplicateRule label id) ↔
      ∃ raw, loaded = .ok raw ∧ raw.finish source = .error (.duplicateRule label id) := by
  cases loaded with
  | error cause =>
    obtain ⟨fault, wrapped⟩ := faults cause
    simp [Except.mapError, bind, Except.bind, wrapped]
  | ok raw => simp [Except.mapError, bind, Except.bind]

theorem madeOf_of_opened {format : Format} {text source : String} {raw pack : Pack}
    (opened : Opened format text raw) (finished : raw.finish source = .ok pack) :
    MadeOf format text pack := by
  obtain ⟨node, whole, read⟩ := readFrom_of_opened opened
  exact ⟨node, whole, ready_of_finish read finished⟩

section
variable {format : Format} {source text file label id : String} {reader : Files.Reader} {raw : Pack}

theorem parse_eq_ok_iff : Pack.parse format source text = .ok pack ↔
    ∃ raw, Opened format text raw ∧ raw.finish source = .ok pack :=
  (finish_loaded fun _ => ⟨_, rfl⟩).1 pack

theorem madeOf_of_parse (parsed : Pack.parse format source text = .ok pack) :
    MadeOf format text pack := by
  obtain ⟨raw, opened, finished⟩ := parse_eq_ok_iff.mp parsed
  exact madeOf_of_opened opened finished

theorem parse_eq_duplicateRule_iff : Pack.parse format source text = .error (.duplicateRule label id) ↔
    ∃ raw, Opened format text raw ∧ isBlankText raw.id = false ∧ label = source ∧
      IsFirstRepeat id (raw.rules.map (·.id)) := by
  refine ((finish_loaded fun _ => ⟨_, rfl⟩).2 label id).trans ?_
  simp only [finish_eq_duplicateRule_iff]
  rfl

/-- The file is of a known format and can be read. -/
def HasText (reader : Files.Reader) (file : String) (format : Format) (text : String) : Prop :=
  Format.ofFileName? file = some format ∧ reader file = .ok text

theorem loadFile_eq_ok_iff : loadFile reader .malformed Pack.read file = .ok raw ↔
    ∃ format text, HasText reader file format text ∧ Opened format text raw := by
  unfold loadFile HasText Opened
  cases Format.ofFileName? file with
  | none => simp
  | some format =>
    cases reader file with
    | error cause => simp
    | ok text => simp [mapError_eq_ok]

theorem madeOf_of_load (loaded : Pack.load reader file = .ok pack) :
    ∃ format text, HasText reader file format text ∧ MadeOf format text pack := by
  obtain ⟨raw, found, finished⟩ := ((finish_loaded fun _ => ⟨_, rfl⟩).1 pack).mp loaded
  obtain ⟨format, text, given, opened⟩ := loadFile_eq_ok_iff.mp found
  exact ⟨format, text, given, madeOf_of_opened opened finished⟩

theorem load_eq_duplicateRule_iff : Pack.load reader file = .error (.duplicateRule label id) ↔
    ∃ format text raw, HasText reader file format text ∧ Opened format text raw ∧
      isBlankText raw.id = false ∧ label = file ∧ IsFirstRepeat id (raw.rules.map (·.id)) := by
  refine ((finish_loaded fun _ => ⟨_, rfl⟩).2 label id).trans ?_
  simp only [loadFile_eq_ok_iff, finish_eq_duplicateRule_iff]
  constructor
  · rintro ⟨raw, ⟨format, text, given, opened⟩, repeated⟩
    exact ⟨format, text, raw, given, opened, repeated⟩
  · rintro ⟨format, text, raw, given, opened, repeated⟩
    exact ⟨raw, ⟨format, text, given, opened⟩, repeated⟩

theorem madeOf_of_resolve {choice : PackChoice} (resolved : choice.resolve reader = .ok (pack, source)) :
    (∃ file format text, choice.file? = some file ∧ source = s!"file:{file}" ∧
        HasText reader file format text ∧ MadeOf format text pack) ∨
      source = "embedded" ∧ pack = .baseline ∧ MadeOf .toml baselineText pack := by
  have embedded : MadeOf .toml baselineText .baseline := madeOf_of_parse (parse_baselineText "")
  obtain ⟨rules, rulesDir, name⟩ := choice
  cases rules with
  | some file =>
    obtain ⟨loaded, found, made⟩ := bind_eq_ok.mp resolved
    obtain ⟨rfl, rfl⟩ := Prod.mk.inj (Except.ok.inj made)
    obtain ⟨format, text, given, madeOf⟩ := madeOf_of_load found
    exact .inl ⟨file, format, text, rfl, rfl, given, madeOf⟩
  | none =>
    cases rulesDir with
    | some directory =>
      -- A directory whose file cannot be used gives the pack that is built in.
      simp only [PackChoice.resolve] at resolved
      split at resolved
      · next loaded found =>
        obtain ⟨rfl, rfl⟩ := Prod.mk.inj (Except.ok.inj resolved)
        obtain ⟨format, text, given, madeOf⟩ := madeOf_of_load found
        exact .inl ⟨_, format, text, rfl, rfl, given, madeOf⟩
      · obtain ⟨rfl, rfl⟩ := Prod.mk.inj (Except.ok.inj resolved)
        exact .inr ⟨rfl, rfl, embedded⟩
    | none =>
      simp only [PackChoice.resolve] at resolved
      split at resolved
      · obtain ⟨rfl, rfl⟩ := Prod.mk.inj (Except.ok.inj resolved)
        exact .inr ⟨rfl, rfl, embedded⟩
      · cases resolved

/-- Only a file that has to be there is refused for a repeated id. -/
theorem resolve_eq_duplicateRule_iff {choice : PackChoice} :
    choice.resolve reader = .error (.duplicateRule label id) ↔
      ∃ file, choice.rules = some file ∧ Pack.load reader file = .error (.duplicateRule label id) := by
  obtain ⟨rules, rulesDir, name⟩ := choice
  cases rules with
  | some file =>
    simp only [PackChoice.resolve, bind_eq_error, Option.some.injEq, exists_eq_left']
    simp [pure, Except.pure]
  | none =>
    cases rulesDir with
    | some directory =>
      simp only [PackChoice.resolve]
      split <;> simp [pure, Except.pure]
    | none =>
      simp only [PackChoice.resolve]
      split <;> simp [pure, Except.pure, throw, throwThe, MonadExceptOf.throw]

end

/-- Every pack that is given out is ready for use and made of its document, wherever it comes from. A repeated id is
the cause of refusal exactly if the pack has an id, and then it is the first that stands for a second time. A pack
that is ready stays as it is. -/
theorem given_out_ready :
    (∀ format source text pack, Pack.parse format source text = .ok pack → MadeOf format text pack) ∧
    (∀ reader file pack, Pack.load reader file = .ok pack →
      ∃ format text, HasText reader file format text ∧ MadeOf format text pack) ∧
    (∀ reader (choice : PackChoice) pack source, choice.resolve reader = .ok (pack, source) →
      (∃ file format text, choice.file? = some file ∧ source = s!"file:{file}" ∧
        HasText reader file format text ∧ MadeOf format text pack) ∨
      source = "embedded" ∧ pack = .baseline ∧ MadeOf .toml baselineText pack) ∧
    (∀ source, Pack.parse .toml source baselineText = .ok .baseline ∧
      MadeOf .toml baselineText .baseline) ∧
    (∀ format source text label id,
      Pack.parse format source text = .error (.duplicateRule label id) ↔
        ∃ raw, Opened format text raw ∧ isBlankText raw.id = false ∧ label = source ∧
          IsFirstRepeat id (raw.rules.map (·.id))) ∧
    (∀ reader file label id, Pack.load reader file = .error (.duplicateRule label id) ↔
      ∃ format text raw, HasText reader file format text ∧ Opened format text raw ∧
        isBlankText raw.id = false ∧ label = file ∧ IsFirstRepeat id (raw.rules.map (·.id))) ∧
    (∀ reader (choice : PackChoice) label id,
      choice.resolve reader = .error (.duplicateRule label id) ↔
        ∃ file, choice.rules = some file ∧
          Pack.load reader file = .error (.duplicateRule label id)) ∧
    (∀ raw : Pack, ¬(raw.rules.map (·.id)).Nodup ↔
      ∃ id, IsFirstRepeat id (raw.rules.map (·.id))) ∧
    ∀ (raw pack : Pack) source, raw.finish source = .ok pack →
      ∀ other, pack.finish other = .ok pack :=
  ⟨fun _ _ _ _ => madeOf_of_parse, fun _ _ _ => madeOf_of_load, fun _ _ _ _ => madeOf_of_resolve,
    fun source => ⟨parse_baselineText source, madeOf_of_parse (parse_baselineText source)⟩,
    fun _ _ _ _ _ => parse_eq_duplicateRule_iff, fun _ _ _ _ => load_eq_duplicateRule_iff,
    fun _ _ _ _ => resolve_eq_duplicateRule_iff, fun _ => not_nodup_iff,
    fun _ _ _ finished => finish_finished finished⟩

/-- A pack for one vendor, with a rule for another. -/
def scopedText : String :=
  "\x7b\"id\": \"P\", \"vendorScope\": [\"cisco\"], \"rules\": [\x7b\"id\": \" A \"\x7d, " ++
    "\x7b\"id\": \"B\", \"vendorScope\": [\"mikrotik\"]\x7d]\x7d"

def scopedPack : Pack :=
  { id := "P"
    vendorScope := [.cisco]
    rules := [.ofCheck "A" .unconfigured,
      { id := "B", title := "B", vendorScope := [.mikrotik], check := .unconfigured }] }

theorem given_out_ready_scoped :
    Pack.parse .json "p.json" scopedText = .ok scopedPack.filled ∧
      scopedPack.filled.rules.map (·.vendorScope) = [[.cisco], [.mikrotik]] ∧
      MadeOf .json scopedText scopedPack.filled := by
  have opened : Opened .json scopedText scopedPack := by
    unfold Opened
    decide +kernel
  have finished : scopedPack.finish "p.json" = .ok scopedPack.filled :=
    finish_eq_ok_iff.mpr ⟨by decide, by decide, rfl⟩
  have parsed := parse_eq_ok_iff.mpr ⟨_, opened, finished⟩
  exact ⟨parsed, by decide, given_out_ready.1 _ _ _ _ parsed⟩

/-- A pack with a blank id and two rules of one id. -/
def unnamedText : String :=
  "\x7b\"id\": \" \", \"rules\": [\x7b\"id\": \"X\"\x7d, \x7b\"id\": \"X\"\x7d]\x7d"

def unnamedPack : Pack :=
  { id := " ", rules := [.ofCheck "X" .unconfigured, .ofCheck "X" .unconfigured] }

/-- The id of the pack is looked at before the ids of its rules. -/
theorem unnamed_not_duplicateRule :
    Opened .json unnamedText unnamedPack ∧ ¬(unnamedPack.rules.map (·.id)).Nodup ∧
      Pack.parse .json "p.json" unnamedText = .error (.emptyId "p.json") ∧
      ∀ label id, Pack.parse .json "p.json" unnamedText ≠ .error (.duplicateRule label id) := by
  have opened : Opened .json unnamedText unnamedPack := by
    unfold Opened
    decide +kernel
  have parsed : Pack.parse .json "p.json" unnamedText = .error (.emptyId "p.json") := by
    rw [Pack.parse, show Format.json.load _ _ _ = .ok unnamedPack from opened]
    rfl
  refine ⟨opened, by decide, parsed, fun label id => ?_⟩
  rw [parsed]
  rintro ⟨⟩

end DeviceConfig.Audit.Pack
