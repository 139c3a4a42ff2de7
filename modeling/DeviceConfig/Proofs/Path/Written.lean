import DeviceConfig.Path.Basic
import DeviceConfig.Proofs.Except
import DeviceConfig.Proofs.Text.Digits

/-!
Paths in writing. A list of steps has one written form, and reading that form gives the same steps back. Every
path that can be read has steps that can be written.
-/

namespace DeviceConfig.Path

open Text

namespace Step

/-- A step as it is written behind others. -/
def chars : Step → List Char
  | .field name => '.' :: name.toList
  | .index position => '[' :: Nat.toDigits 10 position ++ [']']
  | .all => ['[', '*', ']']

/-- What a name needs for it to be told from what stands around it. -/
def IsName (name : String) : Prop :=
  name ≠ "" ∧ IsTight name.toList ∧ '.' ∉ name.toList ∧ '[' ∉ name.toList

/-- A step that is read back as it is written. -/
def Writable : Step → Prop
  | .field name => IsName name
  | .index position => position < UInt64.size
  | .all => True

/-- Steps in brackets. -/
def IsGroup : Step → Prop
  | .field _ => False
  | _ => True

end Step

/-- The sign for the document itself and the steps behind it. -/
def written (steps : List Step) : String := String.ofList ('$' :: steps.flatMap Step.chars)

variable {raw other : String} {groups : List Step}

/-! ### What is read in one step -/

section
variable {c : Char} {cs inner seen : List Char} {step : Step} {taken : List Step}

theorem readIndex_eq_ok : readIndex raw inner = .ok step ↔
    trimChars inner = ['*'] ∧ step = .all ∨
      trimChars inner ≠ ['*'] ∧
        ∃ position, readNat? maxIndex (trimChars inner) = some position ∧ step = .index position := by
  rw [readIndex]
  by_cases star : trimChars inner = ['*']
  · simp [star, eq_comm]
  · cases readNat? maxIndex (trimChars inner) <;> simp [star, eq_comm]

/-- The whole path is looked at for faults only. -/
theorem readIndex_other (read : readIndex raw inner = .ok step) : readIndex other inner = .ok step :=
  readIndex_eq_ok.mpr (readIndex_eq_ok.mp read)

theorem readGroups_cons_eq_ok :
    readGroups raw (c :: cs) = .ok taken ↔ c = '[' ∧ readGroup raw [] cs = .ok taken := by
  rw [readGroups]
  by_cases bracket : c = '[' <;> simp [bracket]

theorem readGroup_cons_eq_ok : readGroup raw seen (c :: cs) = .ok taken ↔
    c = ']' ∧ (∃ step others, readIndex raw seen.reverse = .ok step ∧
        readGroups raw cs = .ok others ∧ taken = step :: others) ∨
      c ≠ ']' ∧ readGroup raw (c :: seen) cs = .ok taken := by
  rw [readGroup]
  by_cases bracket : c = ']'
  · simp [bracket, bind_eq_ok, pure, Except.pure, eq_comm (a := taken)]
  · simp [bracket]

end

/-! ### Groups -/

theorem readGroup_append {inner : List Char} (open' : ']' ∉ inner) (seen rest : List Char) :
    readGroup raw seen (inner ++ ']' :: rest) = (do
      let step ← readIndex raw (seen.reverse ++ inner)
      return step :: (← readGroups raw rest)) := by
  induction inner generalizing seen with
  | nil => rw [List.nil_append, readGroup, if_pos rfl, List.append_nil]
  | cons c inner ih =>
    obtain ⟨different, open'⟩ := not_or.mp (mt List.mem_cons.mpr open')
    rw [List.cons_append, readGroup, if_neg (Ne.symm different), ih open', List.reverse_cons,
      List.append_assoc, List.singleton_append]

theorem readIndex_toDigits {position : Nat} (small : position < UInt64.size) :
    readIndex raw (Nat.toDigits 10 position) = .ok (.index position) := by
  have digits : ∀ c ∈ Nat.toDigits 10 position, isDigit c = true :=
    fun c member => isDigit_of_mem_toDigits member
  have number : Nat.toDigits 10 position ≠ ['*'] := by
    intro same
    exact absurd (digits '*' (by rw [same]; exact List.mem_singleton_self _)) (by decide)
  have within : position ≤ maxIndex := Nat.le_of_lt_succ small
  rw [readIndex, trimChars_toDigits, if_neg number, readNat?_toDigits within]

theorem readGroups_cons {group : Step} (grouped : group.IsGroup) (writable : group.Writable)
    (rest : List Char) :
    readGroups raw (group.chars ++ rest) = (do return group :: (← readGroups raw rest)) := by
  cases group with
  | field name => exact grouped.elim
  | index position =>
    have open' : ']' ∉ Nat.toDigits 10 position := fun member =>
      absurd (isDigit_of_mem_toDigits member) (by decide)
    rw [Step.chars, List.cons_append, List.cons_append, List.append_assoc, List.singleton_append,
      readGroups, if_pos rfl, readGroup_append open', List.reverse_nil, List.nil_append,
      readIndex_toDigits writable]
    rfl
  | all =>
    have star : readIndex raw ['*'] = .ok .all := rfl
    have shape : Step.all.chars ++ rest = '[' :: (['*'] ++ ']' :: rest) := rfl
    rw [shape, readGroups, if_pos rfl, readGroup_append (by decide), List.reverse_nil,
      List.nil_append, star]
    rfl

theorem readGroups_flatMap (fine : ∀ group ∈ groups, group.IsGroup ∧ group.Writable) :
    readGroups raw (groups.flatMap Step.chars) = .ok groups := by
  induction groups with
  | nil => rfl
  | cons group groups ih =>
    obtain ⟨⟨grouped, writable⟩, others⟩ := List.forall_mem_cons.mp fine
    rw [List.flatMap_cons, readGroups_cons grouped writable, ih others]
    rfl

/-- Between groups and inside one: what is read of a text is read with more groups behind it. -/
theorem readGroups_append (fine : ∀ group ∈ groups, group.IsGroup ∧ group.Writable) (cs : List Char) :
    (∀ taken, readGroups raw cs = .ok taken →
      readGroups other (cs ++ groups.flatMap Step.chars) = .ok (taken ++ groups)) ∧
    ∀ seen taken, readGroup raw seen cs = .ok taken →
      readGroup other seen (cs ++ groups.flatMap Step.chars) = .ok (taken ++ groups) := by
  induction cs with
  | nil =>
    constructor
    · intro taken read
      rw [← Except.ok.inj read]
      exact readGroups_flatMap fine
    · intro seen taken read
      cases read
  | cons c cs ih =>
    obtain ⟨outside, inside⟩ := ih
    constructor
    · intro taken read
      obtain ⟨bracket, read⟩ := readGroups_cons_eq_ok.mp read
      exact readGroups_cons_eq_ok.mpr ⟨bracket, inside [] taken read⟩
    · intro seen taken read
      rw [List.cons_append, readGroup_cons_eq_ok]
      rcases readGroup_cons_eq_ok.mp read with ⟨bracket, step, others, index, rest, rfl⟩ | ⟨bracket, read⟩
      · exact .inl ⟨bracket, step, others ++ groups, readIndex_other index, outside others rest, rfl⟩
      · exact .inr ⟨bracket, inside (c :: seen) taken read⟩

/-! ### Parts -/

theorem readPart_eq_ok {part : List Char} {steps : List Step} : readPart raw part = .ok steps ↔
    ∃ groups, readGroups raw (part.dropWhile (· != '[')) = .ok groups ∧
      (trimChars (part.takeWhile (· != '[')) = [] ∧ part.dropWhile (· != '[') ≠ [] ∧ steps = groups ∨
        trimChars (part.takeWhile (· != '[')) ≠ [] ∧
          steps = .field (String.ofList (trimChars (part.takeWhile (· != '[')))) :: groups) := by
  unfold readPart
  generalize trimChars (part.takeWhile (· != '[')) = name
  generalize part.dropWhile (· != '[') = behind
  cases name with
  | nil =>
    cases behind with
    | nil => simp [throw, throwThe, MonadExceptOf.throw, bind, Except.bind]
    | cons c behind =>
      simp [bind_eq_ok, pure, Except.pure, eq_comm (a := steps), -bind_pure]
  | cons c name => simp [bind_eq_ok, pure, Except.pure, eq_comm (a := steps)]

theorem dot_not_mem_group {group : Step} (grouped : group.IsGroup) : '.' ∉ group.chars := by
  cases group with
  | field name => exact grouped.elim
  | index position =>
    have digits : '.' ∉ Nat.toDigits 10 position := fun member =>
      absurd (isDigit_of_mem_toDigits member) (by decide)
    simp [Step.chars, digits]
  | all => decide

theorem head?_chars_of_isGroup {group : Step} (grouped : group.IsGroup) :
    ∃ rest, group.chars = '[' :: rest := by
  cases group with
  | field name => exact grouped.elim
  | index position => exact ⟨_, rfl⟩
  | all => exact ⟨_, rfl⟩

/-- Groups begin with a bracket, so they leave the name of a part as it is. -/
theorem cut_append (grouped : ∀ group ∈ groups, group.IsGroup) (part : List Char) :
    (part ++ groups.flatMap Step.chars).takeWhile (· != '[') = part.takeWhile (· != '[') ∧
      (part ++ groups.flatMap Step.chars).dropWhile (· != '[') =
        part.dropWhile (· != '[') ++ groups.flatMap Step.chars := by
  induction part with
  | nil =>
    cases groups with
    | nil => exact ⟨rfl, rfl⟩
    | cons group groups =>
      obtain ⟨rest, shape⟩ := head?_chars_of_isGroup (grouped group List.mem_cons_self)
      simp [shape]
  | cons c part ih =>
    by_cases bracket : c = '['
    · simp [bracket]
    · simp [bracket, ih]

theorem readPart_append (fine : ∀ group ∈ groups, group.IsGroup ∧ group.Writable)
    {part : List Char} {taken : List Step} (read : readPart raw part = .ok taken) :
    readPart other (part ++ groups.flatMap Step.chars) = .ok (taken ++ groups) := by
  obtain ⟨name, behind⟩ := cut_append (fun group member => (fine group member).1) part
  obtain ⟨inner, groupsRead, made⟩ := readPart_eq_ok.mp read
  have longer : readGroups other (part.dropWhile (· != '[') ++ groups.flatMap Step.chars) =
      .ok (inner ++ groups) :=
    (readGroups_append fine _).1 inner groupsRead
  rw [readPart_eq_ok, name, behind]
  refine ⟨inner ++ groups, longer, ?_⟩
  rcases made with ⟨bare, given, rfl⟩ | ⟨given, rfl⟩
  · exact .inl ⟨bare, List.append_ne_nil_of_left_ne_nil given _, rfl⟩
  · exact .inr ⟨given, rfl⟩

theorem readPart_other {part : List Char} {taken : List Step} (read : readPart raw part = .ok taken) :
    readPart other part = .ok taken := by
  have alone : readPart other (part ++ [].flatMap Step.chars) = .ok (taken ++ []) :=
    readPart_append (by simp) read
  simpa using alone

/-- What stands in front of a part gives these steps, and any groups behind it are read as well. -/
structure Begins (raw : String) (front : List Char) (taken : List Step) : Prop where
  whole : '.' ∉ front
  something : front ≠ []
  reads : ∀ groups, (∀ group ∈ groups, group.IsGroup ∧ group.Writable) →
    readPart raw (front ++ groups.flatMap Step.chars) = .ok (taken ++ groups)

theorem begins_name {name : String} (fine : Step.IsName name) :
    Begins raw name.toList [.field name] := by
  obtain ⟨something, tight, whole, unbracketed⟩ := fine
  have given : name.toList ≠ [] := mt String.toList_eq_nil_iff.mp something
  have alone : readPart raw name.toList = .ok [.field name] := by
    rw [readPart_eq_ok, takeWhile_of_not_mem unbracketed,
      List.dropWhile_eq_nil_iff.mpr (ne_of_absent unbracketed), trimChars_of_isTight tight,
      String.ofList_toList]
    exact ⟨[], rfl, .inr ⟨given, rfl⟩⟩
  exact ⟨whole, given, fun groups fine => readPart_append fine alone⟩

theorem begins_group {group : Step} (grouped : group.IsGroup) (writable : group.Writable) :
    Begins raw group.chars [group] := by
  obtain ⟨rest, shape⟩ := head?_chars_of_isGroup grouped
  have alone : readPart raw group.chars = .ok [group] := by
    have read : readGroups raw ([group].flatMap Step.chars) = .ok [group] :=
      readGroups_flatMap (List.forall_mem_singleton.mpr ⟨grouped, writable⟩)
    rw [List.flatMap_singleton, shape] at read
    rw [readPart_eq_ok, shape]
    exact ⟨[group], read, .inl ⟨rfl, List.cons_ne_nil _ _, rfl⟩⟩
  exact ⟨dot_not_mem_group grouped, by simp [shape], fun groups fine => readPart_append fine alone⟩

theorem Begins.more {front : List Char} {taken : List Step} {group : Step}
    (begins : Begins raw front taken) (grouped : group.IsGroup) (writable : group.Writable) :
    Begins raw (front ++ group.chars) (taken ++ [group]) := by
  refine ⟨?_, by simp [begins.something], fun groups fine => ?_⟩
  · rw [List.mem_append, not_or]
    exact ⟨begins.whole, dot_not_mem_group grouped⟩
  · have read := begins.reads (group :: groups)
      (List.forall_mem_cons.mpr ⟨⟨grouped, writable⟩, fine⟩)
    rw [List.flatMap_cons] at read
    rw [List.append_assoc, read, List.append_assoc, List.singleton_append]

/-- Steps behind the front of a part. Groups make the part longer, and a field begins another. -/
theorem readParts_append {front : List Char} {taken steps : List Step} (begins : Begins raw front taken)
    (writable : ∀ step ∈ steps, step.Writable) :
    ∃ parts, (splitOn '.' (front ++ steps.flatMap Step.chars)).mapM (readPart raw) = .ok parts ∧
      parts.flatten = taken ++ steps := by
  induction steps generalizing front taken with
  | nil =>
    have read := begins.reads [] (by simp)
    refine ⟨[taken], ?_, by simp⟩
    rw [List.flatMap_nil, List.append_nil] at read ⊢
    rw [splitOn_of_not_mem begins.whole, mapM_eq_ok, List.forall₂_cons, read, List.append_nil]
    exact ⟨rfl, .nil⟩
  | cons step steps ih =>
    obtain ⟨first, others⟩ := List.forall_mem_cons.mp writable
    cases step with
    | field name =>
      obtain ⟨parts, read, made⟩ := ih (begins_name first) others
      have alone := begins.reads [] (by simp)
      rw [List.flatMap_nil, List.append_nil, List.append_nil] at alone
      refine ⟨taken :: parts, ?_, by rw [List.flatten_cons, made, List.singleton_append]⟩
      rw [List.flatMap_cons, Step.chars, List.cons_append, splitOn_append,
        splitOn_of_not_mem begins.whole, List.singleton_append, mapM_eq_ok]
      exact .cons alone (mapM_eq_ok.mp read)
    | index _ | all =>
      obtain ⟨parts, read, made⟩ := ih (begins.more (by exact trivial) first) others
      rw [List.append_assoc] at read made
      exact ⟨parts, read, made⟩

/-! ### Whole paths -/

theorem Step.solid_getLast? {step : Step} (writable : step.Writable) :
    ∀ c ∈ step.chars.getLast?, isBlank c = false := by
  cases step with
  | field name =>
    obtain ⟨something, tight, _⟩ := writable
    have given : name.toList ≠ [] := mt String.toList_eq_nil_iff.mp something
    intro c member
    rw [Step.chars, List.getLast?_cons_of_ne_nil given] at member
    exact tight.2 c member
  | index position =>
    intro c member
    rw [Step.chars, List.getLast?_append] at member
    obtain rfl : ']' = c := by simpa using member
    decide
  | all => simp [Step.chars]; decide

theorem isTight_append {cs : List Char} (given : cs ≠ []) (tight : IsTight cs) {steps : List Step}
    (writable : ∀ step ∈ steps, step.Writable) : IsTight (cs ++ steps.flatMap Step.chars) := by
  refine ⟨by rw [List.head?_append_of_ne_nil _ given]; exact tight.1, ?_⟩
  rcases List.eq_nil_or_concat steps with rfl | ⟨front, last, rfl⟩
  · rw [List.flatMap_nil, List.append_nil]
    exact tight.2
  · have something : last.chars ≠ [] := by cases last <;> simp [Step.chars]
    intro c member
    rw [List.concat_eq_append, List.flatMap_append, List.flatMap_singleton, ← List.append_assoc,
      List.getLast?_append_of_ne_nil _ something] at member
    exact Step.solid_getLast? (writable last (by simp)) c member

theorem isTight_written (steps : List Step) (writable : ∀ step ∈ steps, step.Writable) :
    IsTight ('$' :: steps.flatMap Step.chars) :=
  isTight_append (List.cons_ne_nil '$' []) (by simp [IsTight]; decide) writable

theorem parse_eq_ok {text : String} {path : Path} : parse text = .ok path ↔
    trimChars text.toList ≠ [] ∧ path.raw = String.ofList (trimChars text.toList) ∧
      (body (trimChars text.toList) = [] ∧ path.steps = [] ∨
        body (trimChars text.toList) ≠ [] ∧ ∃ parts,
          (splitOn '.' (body (trimChars text.toList))).mapM
            (readPart (String.ofList (trimChars text.toList))) = .ok parts ∧
          path.steps = parts.flatten) := by
  obtain ⟨raw, steps⟩ := path
  unfold parse
  generalize trimChars text.toList = cs
  cases cs with
  | nil => simp [throw, throwThe, MonadExceptOf.throw, bind, Except.bind]
  | cons c cs =>
    by_cases root : body (c :: cs) = []
    · simp [root, pure, Except.pure, eq_comm]
    · simp only [root, List.isEmpty_cons, List.isEmpty_iff, if_false, ne_eq, not_false_eq_true,
        reduceCtorEq, false_and, true_and, false_or, Bool.false_eq_true, pure, Except.pure]
      rw [bind_eq_ok]
      constructor
      · rintro ⟨parts, read, made⟩
        obtain ⟨rfl, rfl⟩ := Path.mk.inj (Except.ok.inj made)
        exact ⟨rfl, parts, read, rfl⟩
      · rintro ⟨rfl, parts, read, rfl⟩
        exact ⟨parts, read, rfl⟩

theorem parse_written {steps : List Step} (writable : ∀ step ∈ steps, step.Writable) :
    parse (written steps) = .ok ⟨written steps, steps⟩ := by
  have tight := trimChars_of_isTight (isTight_written steps writable)
  rw [parse_eq_ok, written, String.toList_ofList, tight]
  refine ⟨List.cons_ne_nil _ _, rfl, ?_⟩
  cases steps with
  | nil => exact .inl ⟨rfl, rfl⟩
  | cons step steps =>
    obtain ⟨first, others⟩ := List.forall_mem_cons.mp writable
    -- The first field loses its dot with the sign for the document; a first group has none.
    obtain ⟨front, given, begins⟩ : ∃ front,
        body ('$' :: (step :: steps).flatMap Step.chars) = front ++ steps.flatMap Step.chars ∧
          ∀ raw, Begins raw front [step] := by
      cases step with
      | field name => exact ⟨name.toList, rfl, fun raw => begins_name first⟩
      | index _ | all => exact ⟨_, rfl, fun raw => begins_group trivial first⟩
    obtain ⟨parts, read, made⟩ := readParts_append (begins _) others
    rw [given]
    refine .inr ⟨?_, parts, read, made.symm⟩
    exact List.append_ne_nil_of_left_ne_nil (begins "").something _

/-! ### Whatever can be read -/

theorem writable_of_readIndex {inner : List Char} {step : Step} (read : readIndex raw inner = .ok step) :
    step.IsGroup ∧ step.Writable := by
  rcases readIndex_eq_ok.mp read with ⟨-, rfl⟩ | ⟨-, position, number, rfl⟩
  · exact ⟨trivial, trivial⟩
  · have within : position ≤ maxIndex := readNat?_le number
    exact ⟨trivial, Nat.lt_succ_of_le within⟩

/-- Between groups and inside one: what is left of the text gives groups that can be written. -/
theorem writable_of_readGroups (cs : List Char) :
    (∀ groups, readGroups raw cs = .ok groups → ∀ group ∈ groups, group.IsGroup ∧ group.Writable) ∧
    ∀ seen groups, readGroup raw seen cs = .ok groups →
      ∀ group ∈ groups, group.IsGroup ∧ group.Writable := by
  induction cs with
  | nil =>
    constructor
    · intro groups read
      rw [← Except.ok.inj read]
      exact fun group member => absurd member List.not_mem_nil
    · intro seen groups read
      cases read
  | cons c cs ih =>
    obtain ⟨outside, inside⟩ := ih
    constructor
    · intro groups read
      exact inside [] groups (readGroups_cons_eq_ok.mp read).2
    · intro seen groups read
      rcases readGroup_cons_eq_ok.mp read with ⟨-, step, others, index, rest, rfl⟩ | ⟨-, read⟩
      · exact List.forall_mem_cons.mpr ⟨writable_of_readIndex index, outside others rest⟩
      · exact inside (c :: seen) groups read

theorem writable_of_readPart {part : List Char} {steps : List Step} (undotted : '.' ∉ part)
    (read : readPart raw part = .ok steps) : ∀ step ∈ steps, step.Writable := by
  obtain ⟨groups, behind, made⟩ := readPart_eq_ok.mp read
  have grouped : ∀ group ∈ groups, group.Writable :=
    fun group member => ((writable_of_readGroups _).1 groups behind group member).2
  rcases made with ⟨-, -, rfl⟩ | ⟨given, rfl⟩
  · exact grouped
  · have named : Step.IsName (String.ofList (trimChars (part.takeWhile (· != '[')))) := by
      rw [Step.IsName, String.toList_ofList]
      refine ⟨by simpa using given, isTight_trimChars _, fun dot => ?_, fun bracket => ?_⟩
      · exact undotted ((List.takeWhile_sublist _).subset (mem_of_mem_trimChars dot))
      · have other := List.mem_takeWhile_imp (mem_of_mem_trimChars bracket)
        exact absurd other (by decide)
    exact List.forall_mem_cons.mpr ⟨named, grouped⟩

theorem writable_of_parse {text : String} {path : Path} (parsed : parse text = .ok path) :
    ∀ step ∈ path.steps, step.Writable := by
  obtain ⟨-, -, ⟨-, none⟩ | ⟨-, parts, read, made⟩⟩ := parse_eq_ok.mp parsed
  · rw [none]
    exact fun step member => absurd member List.not_mem_nil
  · intro step member
    rw [made] at member
    obtain ⟨taken, fromPart, inside⟩ := List.mem_flatten.mp member
    obtain ⟨part, piece, given⟩ := exists_of_mem_mapM read fromPart
    exact writable_of_readPart (not_mem_of_mem_splitOn piece) given step inside

/-- Writing steps and reading them are inverse to one another: just the steps that can be written come back,
and whatever a text is read as can be written. -/
theorem written_parse_correspond :
    (∀ steps : List Step, (∀ step ∈ steps, step.Writable) ↔
      parse (written steps) = .ok ⟨written steps, steps⟩) ∧
    ∀ (text : String) (path : Path), parse text = .ok path →
      (∀ step ∈ path.steps, step.Writable) ∧
        parse (written path.steps) = .ok ⟨written path.steps, path.steps⟩ := by
  constructor
  · intro steps
    constructor
    · intro writable
      exact parse_written writable
    · intro parsed
      exact writable_of_parse parsed
  · intro text path parsed
    have writable := writable_of_parse parsed
    exact ⟨writable, parse_written writable⟩

theorem written_parse_correspond_brackets :
    parse " $ports[ +3 ][*].a] b " =
        .ok ⟨"$ports[ +3 ][*].a] b", [.field "ports", .index 3, .all, .field "a] b"]⟩ ∧
      parse "$.ports[3][*].a] b" =
        .ok ⟨"$.ports[3][*].a] b", [.field "ports", .index 3, .all, .field "a] b"]⟩ ∧
      parse "$[18446744073709551615].$x" =
        .ok ⟨"$[18446744073709551615].$x", [.index 18446744073709551615, .field "$x"]⟩ := by
  have read : parse " $ports[ +3 ][*].a] b " =
      .ok ⟨"$ports[ +3 ][*].a] b", [.field "ports", .index 3, .all, .field "a] b"]⟩ := by
    decide +kernel
  have again : written [.field "ports", .index 3, .all, .field "a] b"] = "$.ports[3][*].a] b" := by
    decide +kernel
  have last : written [.index 18446744073709551615, .field "$x"] = "$[18446744073709551615].$x" := by
    decide +kernel
  have writable : ∀ step ∈ [Step.index 18446744073709551615, .field "$x"], step.Writable := by
    simp [Step.Writable, Step.IsName, IsTight]
    decide
  have first := (written_parse_correspond.2 _ _ read).2
  have second := (written_parse_correspond.1 _).mp writable
  rw [again] at first
  rw [last] at second
  exact ⟨read, first, second⟩

end DeviceConfig.Path
