import DeviceConfig.FortiOs.Writer
import DeviceConfig.Proofs.FortiOs.Nesting

/-!
Calls of the writer. Calls that close what they open, each level by its own call, are written as lines that nest, and the
writer goes out of no level that it did not enter.
-/

namespace DeviceConfig.FortiOs

/-! ### The lines of calls -/

namespace Call

def lineAt (depth : Nat) : Call → String
  | line command => indented depth command
  | config path => indented depth (Level.table.opening path)
  | edit name => indented depth (Level.entry.opening name)
  | next => indented (depth - 1) Level.entry.closing
  | close => indented (depth - 1) Level.table.closing

def depthBehind (depth : Nat) : Call → Nat
  | line _ => depth
  | config _ | edit _ => depth + 1
  | next | close => depth - 1

end Call

/-- What calls write from a depth on. -/
def written : Nat → List Call → List String
  | _, [] => []
  | depth, call :: calls => call.lineAt depth :: written (call.depthBehind depth) calls

def depthBehind (depth : Nat) (calls : List Call) : Nat := calls.foldl Call.depthBehind depth

@[simp] theorem written_nil (depth : Nat) : written depth [] = [] := rfl

theorem written_append (depth : Nat) (front back : List Call) :
    written depth (front ++ back) = written depth front ++ written (depthBehind depth front) back := by
  induction front generalizing depth with
  | nil => rfl
  | cons call front ih =>
    rw [List.cons_append, written, ih]
    rfl

theorem Writer.call_eq (writer : Writer) (call : Call) :
    writer.call call = ⟨writer.lines ++ [call.lineAt writer.depth], call.depthBehind writer.depth⟩ := by
  cases call <;> rfl

theorem Writer.foldl_call (writer : Writer) (calls : List Call) : calls.foldl Writer.call writer =
    ⟨writer.lines ++ written writer.depth calls, depthBehind writer.depth calls⟩ := by
  induction calls generalizing writer with
  | nil => simp [written, depthBehind]
  | cons call calls ih => simp [ih, Writer.call_eq, written, depthBehind]

/-! ### Calls that are followed -/

/-- The levels around the innermost one, if that is the level. -/
def Level.leave? (level : Level) : List Level → Option (List Level)
  | [] => none
  | innermost :: outer => if innermost = level then some outer else none

theorem Level.leave?_eq_some {level : Level} {levels behind : List Level} :
    level.leave? levels = some behind ↔ levels = level :: behind := by
  cases levels with
  | nil => simp [leave?]
  | cons innermost outer => simp [leave?]

/-- The levels open behind a call, the innermost first. A call that closes another level than the innermost, and a line
that no table or entry can hold, are not followed. -/
def Call.follow? (levels : List Level) : Call → Option (List Level)
  | line command => if isCommand command then some levels else none
  | config _ => some (.table :: levels)
  | edit _ => some (.entry :: levels)
  | next => Level.entry.leave? levels
  | close => Level.table.leave? levels

/-- A call of a writer that does not go out of the margin. -/
def Writer.call? (writer : Writer) (call : Call) : Option Writer :=
  match call with
  | .next | .close => if writer.depth = 0 then none else some (writer.call call)
  | _ => some (writer.call call)

section
variable {levels behind : List Level}

/-- A call that is followed is written as a line that is read so. -/
theorem Call.read_of_follow? {call : Call} (followed : call.follow? levels = some behind) :
    readLine? levels (call.lineAt levels.length) = some behind ∧
      call.depthBehind levels.length = behind.length := by
  cases call with
  | line command =>
    obtain ⟨command, same⟩ := Option.ite_none_right_eq_some.mp followed
    obtain rfl := Option.some.inj same
    exact ⟨readLine?_command levels command, rfl⟩
  | config path =>
    obtain rfl := Option.some.inj followed
    exact ⟨readLine?_opening levels .table path, rfl⟩
  | edit name =>
    obtain rfl := Option.some.inj followed
    exact ⟨readLine?_opening levels .entry name, rfl⟩
  | next =>
    obtain rfl := Level.leave?_eq_some.mp followed
    exact ⟨readLine?_closing behind .entry, rfl⟩
  | close =>
    obtain rfl := Level.leave?_eq_some.mp followed
    exact ⟨readLine?_closing behind .table, rfl⟩

theorem Writer.call?_of_follow? {writer : Writer} {call : Call} (followed : call.follow? levels = some behind)
    (depth : writer.depth = levels.length) : writer.call? call = some (writer.call call) := by
  cases call with
  | line command | config path | edit name => rfl
  | next | close =>
    obtain rfl := Level.leave?_eq_some.mp followed
    exact if_neg (by simp [depth])

/-- What calls that are followed write is read back to the same levels, and none of them closes at the margin. -/
theorem written_of_follow? {calls : List Call} (followed : calls.foldlM Call.follow? levels = some behind) :
    readLines? levels (written levels.length calls) = some behind ∧
      depthBehind levels.length calls = behind.length ∧
      ∀ writer : Writer, writer.depth = levels.length →
        calls.foldlM Writer.call? writer = some (calls.foldl Writer.call writer) := by
  induction calls generalizing levels with
  | nil =>
    obtain rfl := Option.some.inj followed
    exact ⟨rfl, rfl, fun _ _ => rfl⟩
  | cons call calls ih =>
    rw [List.foldlM_cons] at followed
    obtain ⟨next, first, followed⟩ := Option.bind_eq_some_iff.mp followed
    obtain ⟨line, deep⟩ := Call.read_of_follow? first
    obtain ⟨lines, depths, strict⟩ := ih followed
    rw [← deep] at lines depths
    refine ⟨?_, depths, fun writer depth => ?_⟩
    · rw [written, readLines?, List.foldlM_cons, line]
      exact lines
    · rw [List.foldlM_cons, Writer.call?_of_follow? first depth, List.foldl_cons]
      refine strict (writer.call call) ?_
      rw [Writer.call_eq, ← deep, depth]

end

/-! ### Balanced calls -/

/-- The calls are followed from any levels, and back to them. -/
def Balanced (calls : List Call) : Prop := ∀ levels, calls.foldlM Call.follow? levels = some levels

def Level.calls (level : Level) (name : String) (calls : List Call) : List Call :=
  match level with
  | table => [.config name] ++ calls ++ [.close]
  | entry => [.edit name] ++ calls ++ [.next]

section
variable {front back calls : List Call}

@[simp] theorem balanced_nil : Balanced [] := fun _ => rfl

theorem balanced_append (first : Balanced front) (second : Balanced back) : Balanced (front ++ back) := by
  intro levels
  rw [List.foldlM_append, first levels]
  exact second levels

@[simp] theorem balanced_line {command : String} :
    Balanced (.line command :: calls) ↔ isCommand command = true ∧ Balanced calls := by
  have step (levels : List Level) : (Call.line command :: calls).foldlM Call.follow? levels =
      if isCommand command then calls.foldlM Call.follow? levels else none := by
    rw [List.foldlM_cons, Call.follow?]
    split <;> rfl
  simp only [Balanced, step]
  cases isCommand command <;> simp

theorem balanced_calls (level : Level) (name : String) (inner : Balanced calls) :
    Balanced (level.calls name calls) := by
  intro levels
  cases level with
  | table =>
    have within := inner (.table :: levels)
    simp [Level.calls, Call.follow?, Level.leave?, within]
  | entry =>
    have within := inner (.entry :: levels)
    simp [Level.calls, Call.follow?, Level.leave?, within]

theorem balanced_flatten {parts : List (List Call)} (each : ∀ part ∈ parts, Balanced part) :
    Balanced parts.flatten := by
  induction parts with
  | nil => exact balanced_nil
  | cons part parts ih =>
    obtain ⟨first, others⟩ := List.forall_mem_cons.mp each
    exact balanced_append first (ih others)

theorem depthBehind_of_balanced (balanced : Balanced calls) (depth : Nat) : depthBehind depth calls = depth := by
  -- Any levels will do, as long as there are so many of them.
  have levels : (List.replicate depth Level.table).length = depth := List.length_replicate
  have back := (written_of_follow? (balanced (List.replicate depth .table))).2.1
  rwa [levels] at back

theorem written_append_of_balanced (balanced : Balanced front) (depth : Nat) (back : List Call) :
    written depth (front ++ back) = written depth front ++ written depth back := by
  rw [written_append, depthBehind_of_balanced balanced]

theorem written_flatten {parts : List (List Call)} (each : ∀ part ∈ parts, Balanced part) (depth : Nat) :
    written depth parts.flatten = (parts.map (written depth)).flatten := by
  induction parts with
  | nil => rfl
  | cons part parts ih =>
    obtain ⟨first, others⟩ := List.forall_mem_cons.mp each
    rw [List.flatten_cons, written_append_of_balanced first, ih others]
    rfl

theorem written_calls (level : Level) (name : String) (depth : Nat) (balanced : Balanced calls) :
    written depth (level.calls name calls) =
      [indented depth (level.opening name)] ++ written (depth + 1) calls ++ [indented depth level.closing] := by
  have back := depthBehind_of_balanced balanced (depth + 1)
  cases level <;>
    simp [Level.calls, written, written_append, back, Call.lineAt, Call.depthBehind]

/-- The lines of balanced calls nest, and the writer comes back to the margin without going out of it. -/
theorem isNested_written (balanced : Balanced calls) :
    IsNested (written 0 calls) ∧ calls.foldlM Writer.call? {} = some ⟨written 0 calls, 0⟩ := by
  obtain ⟨nested, depth, strict⟩ := written_of_follow? (balanced [])
  refine ⟨nested, ?_⟩
  rw [strict {} rfl, Writer.foldl_call]
  exact congrArg some (congrArg₂ Writer.mk (List.nil_append _) depth)

end

end DeviceConfig.FortiOs
