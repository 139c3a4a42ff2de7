import DeviceConfig.Json.Reader
import DeviceConfig.Proofs.Json.Numeral

/-!
Texts of JSON without quotes and brackets. Such a text is a number, a truth value or null, with blanks around it, or it
is no JSON at all.
-/

namespace DeviceConfig.Json

open Document

/-- A value as it is written, if it needs no quotes or brackets. -/
inductive Bare : Node → List Char → Prop
  | null : Bare .null "null".toList
  | bool (truth : Bool) : Bare (.bool truth) (toString truth).toList
  | number (n : Numeral) : Bare n.parts.toNode n.chars

/-- A text with blanks around it, those of JSON. -/
def Padded (core cs : List Char) : Prop :=
  ∃ before after, cs = before ++ (core ++ after) ∧ (∀ c ∈ before, Reader.isSpace c) ∧ ∀ c ∈ after, Reader.isSpace c

/-- No text, list or object begins anywhere in it. -/
def IsBare (cs : List Char) : Prop := '"' ∉ cs ∧ '[' ∉ cs ∧ '\x7b' ∉ cs

theorem of_isSpace {c : Char} (blank : Reader.isSpace c) : c = ' ' ∨ c = '\t' ∨ c = '\n' ∨ c = '\r' := by
  simpa [Reader.isSpace, or_assoc] using blank

theorem ends_of_space {cs : List Char} (blank : ∀ c ∈ cs, Reader.isSpace c) : Ends cs := by
  have apart : ∀ c rest, cs = c :: rest → c = ' ' ∨ c = '\t' ∨ c = '\n' ∨ c = '\r' := by
    rintro c rest rfl
    exact of_isSpace (blank c List.mem_cons_self)
  refine ⟨fun c rest begins => ?_, fun c rest begins => ?_, fun rest begins => ?_⟩
  · obtain rfl | rfl | rfl | rfl := apart c rest begins <;> rfl
  · obtain rfl | rfl | rfl | rfl := apart c rest begins <;> decide
  · obtain same | same | same | same := apart _ rest begins <;> exact absurd same (by decide)

namespace Reader

theorem skipSpace_append {before cs : List Char} (blank : ∀ c ∈ before, isSpace c) :
    skipSpace (before ++ cs) = skipSpace cs :=
  List.dropWhile_append_of_pos blank

theorem exists_skipSpace (cs : List Char) : ∃ before, cs = before ++ skipSpace cs ∧ ∀ c ∈ before, isSpace c :=
  ⟨cs.takeWhile isSpace, List.takeWhile_append_dropWhile.symm, fun _ => List.mem_takeWhile_imp⟩

theorem skipSpace_eq_nil_iff {cs : List Char} : skipSpace cs = [] ↔ ∀ c ∈ cs, isSpace c :=
  List.dropWhile_eq_nil_iff

theorem literal_append (word : String) (node : Node) (rest : List Char) :
    literal word node (word.toList ++ rest) = (node, some rest) := by
  simp [literal, ← String.length_toList]

theorem of_literal {word : String} {node found : Node} {cs rest : List Char}
    (read : literal word node cs = (found, some rest)) : cs = word.toList ++ rest ∧ found = node := by
  unfold literal at read
  split at read
  · next begins =>
    obtain ⟨behind, rfl⟩ := List.isPrefixOf_iff_prefix.mp begins
    obtain ⟨rfl, same⟩ := Prod.mk.inj read
    rw [← String.length_toList, List.drop_left] at same
    exact ⟨congrArg (_ ++ ·) (Option.some.inj same), rfl⟩
  · cases read

/-- Of a text without quotes and brackets nothing else is read. -/
theorem of_value {fuel : Nat} {cs rest : List Char} {node : Node} (bare : IsBare cs)
    (read : value (fuel + 1) 0 cs = (node, some rest)) :
    ∃ before core, cs = before ++ (core ++ rest) ∧ (∀ c ∈ before, isSpace c) ∧ Bare node core := by
  obtain ⟨quote, bracket, brace⟩ := bare
  obtain ⟨before, split, blank⟩ := exists_skipSpace cs
  rw [split] at quote bracket brace
  -- What is left is read by its first character; a quote or a bracket would be in the text.
  suffices found : ∃ core, skipSpace cs = core ++ rest ∧ Bare node core by
    obtain ⟨core, shape, written⟩ := found
    exact ⟨before, core, shape ▸ split, blank, written⟩
  unfold value at read
  split at read
  · next begins => simp [begins] at brace
  · next begins => simp [begins] at bracket
  · next begins => simp [begins] at quote
  · next begins =>
    obtain ⟨shape, rfl⟩ := of_literal read
    exact ⟨_, begins.trans shape, .null⟩
  · next begins =>
    obtain ⟨shape, rfl⟩ := of_literal read
    exact ⟨_, begins.trans shape, .bool true⟩
  · next begins =>
    obtain ⟨shape, rfl⟩ := of_literal read
    exact ⟨_, begins.trans shape, .bool false⟩
  · split at read
    · next found after taken =>
      obtain ⟨rfl, same⟩ := Prod.mk.inj read
      obtain rfl := Option.some.inj same
      obtain ⟨n, shape, rfl⟩ := of_read? taken
      exact ⟨_, shape, .number n⟩
    · cases read

theorem skipSpace_number (n : Numeral) (rest : List Char) : skipSpace (n.chars ++ rest) = n.chars ++ rest := by
  obtain ⟨c, more, shape, first⟩ := n.exists_head
  have solid : isSpace c = false := by
    by_contra blank
    obtain rfl | rfl | rfl | rfl := of_isSpace (Bool.not_eq_false _ ▸ blank)
    all_goals exact absurd first (by decide)
  rw [shape]
  exact List.dropWhile_cons_of_neg (by simp [solid])

theorem value_append (fuel : Nat) {before core rest : List Char} {node : Node} (blank : ∀ c ∈ before, isSpace c)
    (written : Bare node core) (ends : Ends rest) :
    value (fuel + 1) 0 (before ++ (core ++ rest)) = (node, some rest) := by
  rw [value, skipSpace_append blank]
  cases written with
  | null => exact literal_append "null" .null rest
  | bool truth =>
    cases truth with
    | true => exact literal_append "true" (.bool true) rest
    | false => exact literal_append "false" (.bool false) rest
  | number n =>
    rw [skipSpace_number]
    obtain ⟨c, more, shape, first⟩ := n.exists_head
    have begins : n.chars ++ rest = c :: (more ++ rest) := by rw [shape, List.cons_append]
    have taken := read?_append n ends
    -- No other value begins with a sign or a digit.
    split
    case h_7 => rw [taken]
    all_goals
      next other =>
      obtain ⟨rfl, -⟩ := List.cons.inj (begins.symm.trans other)
      exact absurd first (by decide)

theorem read_eq_iff {text : String} (bare : IsBare text.toList) {node : Node} :
    read text = (node, true) ↔ ∃ core, Bare node core ∧ Padded core text.toList := by
  unfold read
  constructor
  · dsimp only
    intro whole
    split at whole
    · next found rest read =>
      obtain ⟨rfl, same⟩ := Prod.mk.inj whole
      obtain ⟨before, core, shape, blank, written⟩ := of_value bare read
      have behind : ∀ c ∈ rest, isSpace c := skipSpace_eq_nil_iff.mp (List.isEmpty_iff.mp same)
      exact ⟨core, written, before, rest, shape, blank, behind⟩
    · cases whole
  · rintro ⟨core, written, before, rest, shape, blank, behind⟩
    dsimp only
    have read := value_append (2 * text.toList.length + 1) blank written (ends_of_space behind)
    rw [← shape] at read
    rw [read]
    simp [skipSpace_eq_nil_iff.mpr behind]

theorem parse?_eq_some_iff {text : String} (bare : IsBare text.toList) {value : Json} :
    parse? text = some value ↔
      ∃ node core, Bare node core ∧ Padded core text.toList ∧ node.toJson? = some value := by
  have whole : parse? text = some value ↔ ∃ node, read text = (node, true) ∧ node.toJson? = some value := by
    unfold parse?
    split <;> simp_all
  simp only [whole, read_eq_iff bare, ← exists_and_right, and_assoc]

end Reader

end DeviceConfig.Json
