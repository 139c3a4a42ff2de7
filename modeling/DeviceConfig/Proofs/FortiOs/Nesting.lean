import DeviceConfig.Proofs.FortiOs.Rollout
import DeviceConfig.Proofs.Rollout.Order

/-!
How lines of FortiOS nest, read off the lines alone. The first word of a line says whether it opens a table or an
entry or closes the innermost one, and the line stands as far from the margin as there are levels around it.
-/

namespace DeviceConfig.FortiOs

open Rollout

/-- What can be open around a line. -/
inductive Level where
  | table
  | entry
deriving DecidableEq

/-- What the first word of a line says about the lines behind it. -/
inductive Mark where
  | opens (level : Level)
  | closes (level : Level)
  | command
deriving DecidableEq

def indentation (line : String) : Nat := (line.toList.takeWhile (· == ' ')).length

def firstWord (line : String) : List Char :=
  (line.toList.dropWhile (· == ' ')).takeWhile (· != ' ')

def markOf (line : String) : Mark :=
  let word := firstWord line
  if word = "config".toList then .opens .table
  else if word = "edit".toList then .opens .entry
  else if word = "end".toList then .closes .table
  else if word = "next".toList then .closes .entry
  else .command

/-- The levels open behind a line, the innermost first. A line that closes what is not open, or that does not stand
as far from the margin as its level, cannot be read. -/
def readLine? (levels : List Level) (line : String) : Option (List Level) :=
  match markOf line with
  | .opens level => if indentation line = 4 * levels.length then some (level :: levels) else none
  | .command => if indentation line = 4 * levels.length then some levels else none
  | .closes level =>
    match levels with
    | [] => none
    | innermost :: outer =>
      if innermost = level ∧ indentation line = 4 * outer.length then some outer else none

def readLines? (levels : List Level) (lines : List String) : Option (List Level) :=
  lines.foldlM readLine? levels

/-- What is opened is closed, by its own word, and no line stands too far in or out. -/
def IsNested (lines : List String) : Prop := readLines? [] lines = some []

theorem readLines?_append (levels : List Level) (front back : List String) :
    readLines? levels (front ++ back) = (readLines? levels front).bind (readLines? · back) := by
  rw [readLines?, List.foldlM_append]
  rfl

theorem isNested_nil : IsNested [] := rfl

theorem IsNested.append {front back : List String} (first : IsNested front) (second : IsNested back) :
    IsNested (front ++ back) := by
  rw [IsNested, readLines?_append, first, Option.bind_some, second]

theorem isNested_flatMap {α : Type} {lines : α → List String} {items : List α}
    (each : ∀ item ∈ items, IsNested (lines item)) : IsNested (items.flatMap lines) := by
  induction items with
  | nil => exact isNested_nil
  | cons item items ih =>
    obtain ⟨first, others⟩ := List.forall_mem_cons.mp each
    rw [List.flatMap_cons]
    exact first.append (ih others)

/-! ### Lines -/

theorem indentation_indented {line : String} (depth : Nat) (solid : line.toList.head? ≠ some ' ') :
    indentation (indented depth line) = 4 * depth ∧
      firstWord (indented depth line) = line.toList.takeWhile (· != ' ') := by
  have margin : line.toList.takeWhile (· == ' ') = [] ∧ line.toList.dropWhile (· == ' ') = line.toList := by
    cases chars : line.toList with
    | nil => simp
    | cons c cs =>
      have other : c ≠ ' ' := by simpa [chars] using solid
      simp [other]
  have blanks : ∀ c ∈ List.replicate (4 * depth) ' ', (c == ' ') = true := by simp
  rw [indentation, firstWord, indented, String.toList_append, String.toList_ofList,
    List.takeWhile_append_of_pos blanks, List.dropWhile_append_of_pos blanks, margin.1, margin.2]
  simp

theorem markOf_indented {line : String} (depth : Nat) (solid : line.toList.head? ≠ some ' ') :
    markOf (indented depth line) = markOf line := by
  have own := (indentation_indented 0 solid).2
  rw [indented_zero] at own
  rw [markOf, markOf, (indentation_indented depth solid).2, own]

/-- What a template or a change says inside a table or an entry. -/
def isCommand (line : String) : Bool :=
  begins "set " line || begins "unset " line || begins "delete " line

/-- The first word of a line that begins with a word and a space. -/
theorem firstWord_of_begins {word line : String} (solid : ' ' ∉ word.toList) (something : word ≠ "")
    (start : begins (word ++ " ") line = true) :
    firstWord line = word.toList ∧ line.toList.head? ≠ some ' ' := by
  obtain ⟨rest, whole⟩ := begins_iff.mp start
  have chars : line.toList = word.toList ++ ' ' :: rest := by
    rw [← whole, String.toList_append, List.append_assoc]
    rfl
  obtain ⟨first, others, parts⟩ := List.exists_cons_of_ne_nil (mt String.toList_eq_nil_iff.mp something)
  have margin : line.toList.head? ≠ some ' ' := by
    rw [chars, parts]
    rintro same
    exact solid (by simp_all)
  refine ⟨?_, margin⟩
  have own := (indentation_indented 0 margin).2
  rw [indented_zero, chars, Text.takeWhile_append solid] at own
  exact own

namespace Level

def opening : Level → String → String
  | table, path => "config " ++ path
  | entry, name => "edit " ++ name

def closing : Level → String
  | table => "end"
  | entry => "next"

/-- The lines of a table or an entry around others. -/
def around (level : Level) (name : String) (lines : List String) : List String :=
  [level.opening name] ++ lines.map (indented 1) ++ [level.closing]

theorem opening_mark (level : Level) (name : String) :
    markOf (level.opening name) = .opens level ∧ (level.opening name).toList.head? ≠ some ' ' := by
  cases level <;> simp [opening, markOf, firstWord]

theorem closing_mark (level : Level) :
    markOf level.closing = .closes level ∧ level.closing.toList.head? ≠ some ' ' := by
  cases level <;> decide

end Level

theorem markOf_command {line : String} (command : isCommand line = true) :
    markOf line = .command ∧ line.toList.head? ≠ some ' ' := by
  have start : ∃ word ∈ ["set", "unset", "delete"], begins (word ++ " ") line = true := by
    simpa [isCommand, or_assoc] using command
  obtain ⟨word, listed, start⟩ := start
  simp only [List.mem_cons, List.not_mem_nil, or_false] at listed
  rcases listed with rfl | rfl | rfl
  all_goals
    obtain ⟨first, solid⟩ := firstWord_of_begins (by decide) (by decide) start
    exact ⟨by rw [markOf, first]; decide, solid⟩

/-! ### Tables and entries -/

section
variable (levels : List Level)

theorem readLine?_opening (level : Level) (name : String) :
    readLine? levels (indented levels.length (level.opening name)) = some (level :: levels) := by
  obtain ⟨mark, solid⟩ := level.opening_mark name
  rw [readLine?, markOf_indented _ solid, mark, (indentation_indented _ solid).1]
  exact if_pos rfl

theorem readLine?_closing (level : Level) :
    readLine? (level :: levels) (indented levels.length level.closing) = some levels := by
  obtain ⟨mark, solid⟩ := level.closing_mark
  rw [readLine?, markOf_indented _ solid, mark, (indentation_indented _ solid).1]
  exact if_pos ⟨rfl, rfl⟩

theorem readLine?_command {line : String} (command : isCommand line = true) :
    readLine? levels (indented levels.length line) = some levels := by
  obtain ⟨mark, solid⟩ := markOf_command command
  rw [readLine?, markOf_indented _ solid, mark, (indentation_indented _ solid).1]
  exact if_pos rfl

end

/-- The lines, set at the depth of the levels around them, leave these levels as they are. -/
def Nests (levels : List Level) (lines : List String) : Prop :=
  readLines? levels (lines.map (indented levels.length)) = some levels

section
variable {levels : List Level} {front back lines : List String}

theorem nests_nil : Nests levels [] := rfl

theorem Nests.append (first : Nests levels front) (second : Nests levels back) : Nests levels (front ++ back) := by
  rw [Nests, List.map_append, readLines?_append, first, Option.bind_some, second]

theorem nests_cons {line : String} (command : isCommand line = true) (others : Nests levels lines) :
    Nests levels (line :: lines) := by
  rw [Nests, List.map_cons, readLines?, List.foldlM_cons, readLine?_command levels command]
  exact others

theorem nests_commands (commands : ∀ line ∈ lines, isCommand line = true) : Nests levels lines := by
  induction lines with
  | nil => exact nests_nil
  | cons line lines ih =>
    obtain ⟨command, others⟩ := List.forall_mem_cons.mp commands
    exact nests_cons command (ih others)

theorem nests_flatten {parts : List (List String)} (each : ∀ part ∈ parts, Nests levels part) :
    Nests levels parts.flatten := by
  induction parts with
  | nil => exact nests_nil
  | cons part parts ih =>
    obtain ⟨first, others⟩ := List.forall_mem_cons.mp each
    exact first.append (ih others)

theorem nests_around {level : Level} (name : String) (inner : Nests (level :: levels) lines) :
    Nests levels (level.around name lines) := by
  have deeper : (lines.map (indented 1)).map (indented levels.length) =
      lines.map (indented (level :: levels).length) := by
    rw [List.map_map]
    exact List.map_congr_left fun line _ => indented_indented levels.length 1 line
  rw [Nests, Level.around, List.map_append, List.map_append, deeper, readLines?_append, readLines?_append]
  have opened : readLines? levels (List.map (indented levels.length) [level.opening name]) =
      some (level :: levels) := by
    rw [readLines?, List.map_singleton, List.foldlM_cons, readLine?_opening]
    rfl
  have closed : readLines? (level :: levels) (List.map (indented levels.length) [level.closing]) = some levels := by
    rw [readLines?, List.map_singleton, List.foldlM_cons, readLine?_closing]
    rfl
  rw [opened, Option.bind_some, inner, Option.bind_some, closed]

/-- A block nests if its lines do inside the table. -/
theorem isNested_block (path : String) (inner : Nests [.table] lines) : IsNested (block path lines) := by
  have whole : Nests [] (Level.table.around path lines) := nests_around path inner
  have margin : indented 0 = id := funext indented_zero
  rwa [Nests, List.length_nil, margin, List.map_id] at whole

end

end DeviceConfig.FortiOs
