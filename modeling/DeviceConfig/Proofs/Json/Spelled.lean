import DeviceConfig.Json.Writer
import DeviceConfig.Text.Digits
import Mathlib.Data.List.Forall2

/-!
The texts of a value by the grammar of JSON: blanks may stand around every value and every name, and there are
several ways to write a character. What is printed is such a text, at any depth.
-/

namespace DeviceConfig.Json

/-! ### The grammar -/

def IsGap (cs : List Char) : Prop := ∀ c ∈ cs, c = ' ' ∨ c = '\n' ∨ c = '\r' ∨ c = '\t'

/-- The letters behind a backslash, and what they stand for. -/
def letterEscapes : List (Char × Char) :=
  [('"', '"'), ('\\', '\\'), ('/', '/'), ('b', '\x08'), ('f', '\x0c'), ('n', '\n'), ('r', '\r'), ('t', '\t')]

/-- The ways to write a character between quotes. -/
inductive SpellsChar (c : Char) : List Char → Prop
  | itself (printable : 0x20 ≤ c.toNat) (noQuote : c ≠ '"') (noBackslash : c ≠ '\\') : SpellsChar c [c]
  | letter {letter : Char} (known : (letter, c) ∈ letterEscapes) : SpellsChar c ['\\', letter]
  | code {digits : List Char} (four : digits.length = 4)
      (value : Text.digitsValue? 16 digits = some c.toNat) : SpellsChar c ('\\' :: 'u' :: digits)

mutual

inductive Spells : Json → List Char → Prop
  | null : Spells .null "null".toList
  | true : Spells (.bool true) "true".toList
  | false : Spells (.bool false) "false".toList
  | number (value : Number) : Spells (.number value) value.text.toList
  | string {text : String} {pieces : List (List Char)} (each : List.Forall₂ SpellsChar text.toList pieces) :
      Spells (.string text) ('"' :: pieces.flatten ++ ['"'])
  | array {items : List Json} {pieces : List (List Char)} (each : List.Forall₂ Spells items pieces) :
      Spells (.array items) ('[' :: [','].intercalate pieces ++ [']'])
  | object {members : List (String × Json)} {pieces : List (List Char)}
      (each : List.Forall₂ SpellsMember members pieces) :
      Spells (.object members) ('\x7b' :: [','].intercalate pieces ++ ['\x7d'])
  | padded {value : Json} {front cs back : List Char} (before : IsGap front) (inside : Spells value cs)
      (after : IsGap back) : Spells value (front ++ cs ++ back)

inductive SpellsMember : String × Json → List Char → Prop
  | member {name : String} {value : Json} {cs ds : List Char} (named : Spells (.string name) cs)
      (given : Spells value ds) : SpellsMember (name, value) (cs ++ ':' :: ds)

end

/-! ### What is printed -/

theorem isGap_nil : IsGap [] := nofun

theorem isGap_indent (n : Nat) : IsGap ('\n' :: List.replicate n ' ') := by
  simp only [IsGap, List.mem_cons, List.mem_replicate]
  rintro c (rfl | ⟨-, rfl⟩) <;> simp

theorem SpellsMember.padded {member : String × Json} {front cs back : List Char} (before : IsGap front)
    (inside : SpellsMember member cs) (after : IsGap back) : SpellsMember member (front ++ cs ++ back) := by
  obtain ⟨named, given⟩ := inside
  simpa using SpellsMember.member (.padded before named isGap_nil) (.padded isGap_nil given after)

theorem digitsValue?_code : ∀ n < 0x20,
    Text.digitsValue? 16 ['0', '0', hexDigit (n / 16), hexDigit (n % 16)] = some n := by
  decide

theorem spells_escapeChar (c : Char) : SpellsChar c (escapeChar c) := by
  unfold escapeChar
  split
  case h_8 noQuote noBackslash _ _ _ _ _ =>
    split
    · next small => exact .code rfl (digitsValue?_code _ small)
    · next large => exact .itself (Nat.not_lt.mp large) noQuote noBackslash
  all_goals exact .letter (by decide)

theorem spells_quoted (text : String) : Spells (.string text) (quoted text).toList := by
  rw [quoted, String.toList_ofList, List.flatMap_def]
  refine .string (List.forall₂_map_right_iff.mpr (List.forall₂_same.mpr ?_))
  exact fun c _ => spells_escapeChar c

section
variable {α : Type} {spells : α → List Char → Prop}
  (padded : ∀ {entry front cs back}, IsGap front → spells entry cs → IsGap back → spells entry (front ++ cs ++ back))
include padded

/-- Joined with a comma and a gap, the entries stand between commas with gaps around them. -/
theorem exists_pieces {sep : String} {gap back : List Char} (comma : sep.toList = ',' :: gap) (before : IsGap gap)
    (after : IsGap back) {entries : List α} {texts : List String}
    (each : List.Forall₂ (fun entry text => spells entry text.toList) entries texts) (some : entries ≠ []) :
    ∃ pieces, List.Forall₂ spells entries pieces ∧
      gap ++ (Text.join sep texts).toList ++ back = [','].intercalate pieces := by
  induction each with
  | nil => contradiction
  | @cons entry text entries texts first others ih =>
    cases others with
    | nil =>
      exact ⟨[gap ++ text.toList ++ back], .cons (padded before first after) .nil, by simp [Text.join]⟩
    | cons second more =>
      obtain ⟨pieces, spelled, same⟩ := ih (List.cons_ne_nil _ _)
      cases spelled with
      | cons next rest =>
        have here := padded before first isGap_nil
        rw [List.append_nil] at here
        refine ⟨(gap ++ text.toList) :: _ :: _, .cons here (.cons next rest), ?_⟩
        rw [List.intercalate_cons_cons, ← same]
        simp [Text.join, comma]

theorem exists_pieces_bracketed (opening closing : String) (depth : Nat) {entries : List α} {texts : List String}
    (each : List.Forall₂ (fun entry text => spells entry text.toList) entries texts) :
    ∃ pieces, List.Forall₂ spells entries pieces ∧ (bracketed opening closing depth texts).toList =
      opening.toList ++ [','].intercalate pieces ++ closing.toList := by
  cases each with
  | nil => exact ⟨[], .nil, by simp [bracketed]⟩
  | cons first others =>
    have comma : ("," ++ ("\n" ++ String.ofList (List.replicate (2 * (depth + 1)) ' '))).toList =
        ',' :: '\n' :: List.replicate (2 * (depth + 1)) ' ' := by simp
    obtain ⟨pieces, spelled, same⟩ := exists_pieces padded comma (isGap_indent _) (isGap_indent (2 * depth))
      (.cons first others) (List.cons_ne_nil _ _)
    refine ⟨pieces, spelled, ?_⟩
    rw [← same]
    simp [bracketed]

end

mutual

/-- What is printed for a value, however deep, is a text of it. -/
theorem spells_pretty (depth : Nat) (value : Json) : Spells value (pretty depth value).toList := by
  cases value with
  | null => exact .null
  | bool value => cases value <;> constructor
  | number value => exact .number value
  | string text => exact spells_quoted text
  | array items =>
    obtain ⟨pieces, each, printed⟩ :=
      exists_pieces_bracketed .padded "[" "]" depth (spells_prettyItems (depth + 1) items)
    rw [pretty, printed]
    exact .array each
  | object members =>
    obtain ⟨pieces, each, printed⟩ :=
      exists_pieces_bracketed .padded "\x7b" "\x7d" depth (spells_prettyMembers (depth + 1) members)
    rw [pretty, printed]
    exact .object each

theorem spells_prettyItems (depth : Nat) (items : List Json) :
    List.Forall₂ (fun item text => Spells item text.toList) items (prettyItems depth items) := by
  cases items with
  | nil => exact .nil
  | cons item items => exact .cons (spells_pretty depth item) (spells_prettyItems depth items)

theorem spells_prettyMembers (depth : Nat) (members : List (String × Json)) :
    List.Forall₂ (fun member text => SpellsMember member text.toList) members (prettyMembers depth members) := by
  cases members with
  | nil => exact .nil
  | cons member members =>
    obtain ⟨name, value⟩ := member
    refine .cons ?_ (spells_prettyMembers depth members)
    have gap : IsGap [' '] := by simp [IsGap]
    have spaced := Spells.padded gap (spells_pretty depth value) isGap_nil
    simpa using SpellsMember.member (spells_quoted name) spaced

end

end DeviceConfig.Json
