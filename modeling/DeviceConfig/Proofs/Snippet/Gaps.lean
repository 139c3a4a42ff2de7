import DeviceConfig.Proofs.Snippet.Parameters

/-!
Lines with gaps for the text of one parameter. What stands around the gaps does not depend on that text, and neither do
the other values that a template reads.
-/

namespace DeviceConfig

namespace Snippet

/-! ### Gaps -/

/-- A text with gaps for another one. -/
abbrev Gapped := List (Option String)

def Gapped.fill (text : String) : Gapped → String
  | [] => ""
  | piece :: rest => piece.getD text ++ fill text rest

theorem Gapped.fill_append (text : String) (front behind : Gapped) :
    fill text (front ++ behind) = fill text front ++ fill text behind := by
  induction front with
  | nil => simp [fill]
  | cons piece front ih => rw [List.cons_append, fill, fill, ih, String.append_assoc]

/-- What becomes of a text is a text with gaps for it. Is one asked for, there is one. -/
def Spells (placed : Prop) (f : String → String) : Prop :=
  ∃ gapped : Gapped, (placed → none ∈ gapped) ∧ ∀ text, f text = gapped.fill text

/-- The same of several lines, where the gap can be in any of them. -/
def SpellsAll (placed : Prop) (f : String → List String) : Prop :=
  ∃ lines : List Gapped, (placed → ∃ line ∈ lines, none ∈ line) ∧ ∀ text, f text = lines.map (·.fill text)

section
variable {p q : Prop} {f g : String → String} {F G : String → List String} {α : Type}

namespace Spells

theorem fixed (s : String) : Spells False fun _ => s :=
  ⟨[some s], False.elim, fun _ => by simp [Gapped.fill]⟩

theorem self : Spells True fun text => text :=
  ⟨[none], fun _ => List.mem_singleton_self _, fun _ => by simp [Gapped.fill]⟩

theorem append (front : Spells p f) (behind : Spells q g) : Spells (p ∨ q) fun text => f text ++ g text := by
  obtain ⟨front, inFront, frontSame⟩ := front
  obtain ⟨behind, inBehind, behindSame⟩ := behind
  refine ⟨front ++ behind, fun placed => List.mem_append.mpr (placed.imp inFront inBehind), fun text => ?_⟩
  simp only [frontSame, behindSame, Gapped.fill_append]

theorem choice {c : Prop} [Decidable c] (yes : Spells p f) (no : Spells q g) :
    Spells (c ∧ p ∨ ¬c ∧ q) fun text => if c then f text else g text := by
  by_cases holds : c
  · simpa [holds] using yes
  · simpa [holds] using no

theorem given {c : Prop} [Decidable c] (other : Option String) (standIn : Spells q g) :
    Spells (c ∨ other = none ∧ q) fun text => (if c then some text else other).getD (g text) := by
  by_cases own : c
  · simpa [own] using self
  · cases other with
    | none => simpa [own] using standIn
    | some other => simpa [own] using fixed other

theorem headD (items : List String) (standIn : Spells q g) :
    Spells (items = [] ∧ q) fun text => items.headD (g text) := by
  cases items with
  | nil => simpa using standIn
  | cons item items => simpa using fixed item

end Spells

namespace SpellsAll

theorem fixed (lines : List String) : SpellsAll False fun _ => lines :=
  ⟨lines.map ([some ·]), False.elim, fun _ => by simp [Gapped.fill, Function.comp_def]⟩

theorem cons (first : Spells p f) (others : SpellsAll q F) : SpellsAll (p ∨ q) fun text => f text :: F text := by
  obtain ⟨line, inLine, lineSame⟩ := first
  obtain ⟨lines, inLines, linesSame⟩ := others
  refine ⟨line :: lines, fun placed => ?_, fun text => by simp only [lineSame, linesSame, List.map_cons]⟩
  obtain here | later := placed
  · exact ⟨line, List.mem_cons_self, inLine here⟩
  · obtain ⟨other, member, gap⟩ := inLines later
    exact ⟨other, List.mem_cons_of_mem _ member, gap⟩

theorem append (front : SpellsAll p F) (behind : SpellsAll q G) : SpellsAll (p ∨ q) fun text => F text ++ G text := by
  obtain ⟨front, inFront, frontSame⟩ := front
  obtain ⟨behind, inBehind, behindSame⟩ := behind
  refine ⟨front ++ behind, fun placed => ?_, fun text => by simp only [frontSame, behindSame, List.map_append]⟩
  obtain here | later := placed
  · obtain ⟨line, member, gap⟩ := inFront here
    exact ⟨line, List.mem_append_left _ member, gap⟩
  · obtain ⟨line, member, gap⟩ := inBehind later
    exact ⟨line, List.mem_append_right _ member, gap⟩

theorem flatMap (items : List α) {lines : String → α → List String} (each : ∀ item, SpellsAll p (lines · item)) :
    SpellsAll (p ∧ items ≠ []) fun text => items.flatMap (lines text) := by
  choose gapped inside same using each
  refine ⟨items.flatMap gapped, fun ⟨placed, given⟩ => ?_, fun text => ?_⟩
  · obtain ⟨item, rest, rfl⟩ := List.exists_cons_of_ne_nil given
    obtain ⟨line, member, gap⟩ := inside item placed
    exact ⟨line, List.mem_flatMap.mpr ⟨item, List.mem_cons_self, member⟩, gap⟩
  · rw [List.map_flatMap]
    exact List.flatMap_congr fun item _ => same item text

theorem map (items : List α) {line : String → α → String} (each : ∀ item, Spells p (line · item)) :
    SpellsAll ((p ∨ False) ∧ items ≠ []) fun text => items.map (line text) := by
  have alone := flatMap items fun item => cons (each item) (fixed [])
  simpa only [← List.map_eq_flatMap] using alone

theorem mapIdx (items : List α) {lines : String → Nat → α → List String}
    (each : ∀ place item, SpellsAll p (lines · place item)) :
    SpellsAll (p ∧ items ≠ []) fun text => (items.mapIdx (lines text)).flatten := by
  have paired := flatMap items.zipIdx fun item => each item.2 item.1
  simpa [List.mapIdx_eq_zipIdx_map, List.flatMap_def] using paired

theorem given {c : Prop} [Decidable c] (other : Option String) (spells : Spells p f) :
    SpellsAll (c ∧ p) fun text => ((if c then some text else other).map f).toList := by
  by_cases own : c
  · simpa [own] using cons spells (fixed [])
  · simpa [own] using fixed _

theorem weaken (spells : SpellsAll p F) (asked : q → p) : SpellsAll q F := by
  obtain ⟨lines, inside, same⟩ := spells
  exact ⟨lines, inside ∘ asked, same⟩

end SpellsAll

end

/-! ### The value of a parameter -/

def Kind.IsScalar (kind : Kind) : Prop := kind = .required ∨ kind = .optional ∨ kind = .withDefault

/-- The value of a parameter, if it is read under the key, is the text. -/
def Parameter.put {α : Type} (key text : String) : Parameter α → α → α
  | .required own, value => if own = key then text else value
  | .optional own, value => if own = key then some text else value
  | .withDefault own _, value => if own = key then text else value
  | _, value => value

/-- It is a list that is asked for under the key, and there is nothing in it. -/
def Parameter.IsEmpty {α : Type} (key : String) : Parameter α → α → Prop
  | .list own, items => own = key ∧ items = []
  | _, _ => False

namespace Parameters

def put {values : Type} (key text : String) : Parameters values → values → values
  | .done, _ => ()
  | .also first rest, found => (first.put key text found.1, rest.put key text found.2)

def HasEmpty {values : Type} (key : String) : Parameters values → values → Prop
  | .done, _ => False
  | .also first rest, found => first.IsEmpty key found.1 ∨ rest.HasEmpty key found.2

/-- The values are those that are read, that of the key aside. -/
def ReadAside {values : Type} (key : String) (params : Params) : Parameters values → values → Prop
  | .done, _ => True
  | .also first rest, found =>
    (first.key ≠ key → first.read params = .ok found.1) ∧ rest.ReadAside key params found.2

end Parameters

section
variable {key text : String} {base params : Params} {value : Json}

theorem eq_of_readList_nil (read : readList key value = .ok []) : value = .array [] := by
  cases value with
  | array items =>
    cases items with
    | nil => rfl
    | cons item items =>
      rw [readList, List.mapM_cons] at read
      cases first : scalar? item <;> cases others : items.mapM scalar? <;> simp [first, others] at read
  | _ => simp [readList, map_eq_ok] at read

namespace Parameter

variable {α : Type} (parameter : Parameter α)

theorem put_of_ne (other : parameter.key ≠ key) (found : α) : parameter.put key text found = found := by
  cases parameter <;> first | rfl | exact if_neg other

theorem read_put (own : parameter.key = key) (scalar : parameter.asRead.kind.IsScalar)
    (given : params.Gives key value) (printed : scalar? value = some text) (found : α) :
    parameter.read params = .ok (parameter.put key text found) := by
  rw [Parameter.read, own, (params.present?_eq_some_iff key).mpr given]
  have read (key : String) : readScalar key value = .ok text := by rw [readScalar, printed]; rfl
  cases parameter with
  | required name | withDefault name =>
    have own : name = key := own
    rw [readValue, read, put, if_pos own]
  | optional name =>
    have own : name = key := own
    rw [readValue, read, put, if_pos own]
    rfl
  | _ => simp [asRead, Kind.IsScalar] at scalar

theorem nonempty_values {α : Type} (parameter : Parameter α) : Nonempty α := by
  cases parameter <;> exact ⟨default⟩

theorem lookup_of_isEmpty {found : α} (read : parameter.read params = .ok found) (empty : parameter.IsEmpty key found) :
    params.members.lookup key = some (.array []) := by
  cases parameter with
  | list own =>
    obtain ⟨rfl, rfl⟩ := empty
    rw [Parameter.read] at read
    cases given : params.present? (Parameter.list own).key with
    | none =>
      rw [given] at read
      cases read
    | some value =>
      rw [given] at read
      obtain rfl := eq_of_readList_nil read
      exact ((params.present?_eq_some_iff own).mp given).1
  | _ => contradiction

theorem key_of_isEmpty {found : α} (empty : parameter.IsEmpty key found) : parameter.key = key := by
  cases parameter with
  | list own => exact empty.1
  | _ => contradiction

end Parameter

namespace Parameters

variable {values : Type} (parameters : Parameters values)

theorem exists_readAside (others : ∀ read ∈ parameters.reads, read.key ≠ key → read.Succeeds base) :
    ∃ found, parameters.ReadAside key base found := by
  induction parameters with
  | done => exact ⟨(), trivial⟩
  | also first rest ih =>
    obtain ⟨own, others⟩ := List.forall_mem_cons.mp others
    obtain ⟨behind, aside⟩ := ih others
    rw [first.key_asRead] at own
    -- What the key itself has does not matter, it is put there later.
    by_cases same : first.key = key
    · obtain ⟨value⟩ := first.nonempty_values
      exact ⟨(value, behind), fun other => absurd same other, aside⟩
    · obtain ⟨value, read⟩ := first.read_eq_ok_iff.mpr (own same)
      exact ⟨(value, behind), fun _ => read, aside⟩

theorem read_put {found : values} (aside : parameters.ReadAside key base found)
    (scalar : ∀ read ∈ parameters.reads, read.key = key → read.kind.IsScalar)
    (same : ∀ other, other ≠ key → params.members.lookup other = base.members.lookup other)
    (given : params.Gives key value) (printed : scalar? value = some text) :
    parameters.read params = .ok (parameters.put key text found) := by
  induction parameters with
  | done => rfl
  | also first rest ih =>
    obtain ⟨kept, aside⟩ := aside
    obtain ⟨own, scalar⟩ := List.forall_mem_cons.mp scalar
    rw [first.key_asRead] at own
    -- The parameter of the key takes the text, any other one is read as it was.
    have here : first.read params = .ok (first.put key text found.1) := by
      by_cases named : first.key = key
      · exact first.read_put named (own named) given printed _
      · rw [first.read_congr (same _ named), kept named, first.put_of_ne named]
    rw [Parameters.read, here, ih aside scalar]
    rfl

theorem lookup_of_hasEmpty {found : values} {list : String} (aside : parameters.ReadAside key base found)
    (other : list ≠ key) (empty : parameters.HasEmpty list found) :
    base.members.lookup list = some (.array []) := by
  induction parameters with
  | done => contradiction
  | also first rest ih =>
    obtain ⟨kept, aside⟩ := aside
    obtain here | later := empty
    · exact first.lookup_of_isEmpty (kept (first.key_of_isEmpty here ▸ other)) here
    · exact ih aside later

end Parameters

end

/-! ### Templates -/

/-- The text of a parameter has its places in the lines. The area of networks has none if there are no networks. -/
def Template.Places (template : Template) (key : String) : Prop :=
  ∀ found, SpellsAll ((∃ read ∈ template.parameters.reads, read.key = key ∧ read.kind.IsScalar) ∧
      (key = "area" → ¬template.parameters.HasEmpty "networks" found))
    fun text => template.lines (template.parameters.put key text found)

end Snippet

end DeviceConfig
