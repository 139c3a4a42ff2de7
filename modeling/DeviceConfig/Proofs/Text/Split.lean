import DeviceConfig.Text.Blank
import DeviceConfig.Text.Split
import Mathlib.Data.List.DropRight
import Mathlib.Data.List.TakeDrop
import Mathlib.Data.List.TakeWhile

/-!
Cutting a text that was put together with separators gives its pieces back, and trimming leaves alone what
has no blanks.
-/

namespace DeviceConfig.Text

theorem splitOn_of_not_mem {sep : Char} {cs : List Char} (absent : sep ∉ cs) :
    splitOn sep cs = [cs] := by
  induction cs with
  | nil => rfl
  | cons c cs ih =>
    have different : c ≠ sep := fun same => absent (by simp [same])
    have rest := ih fun member => absent (List.mem_cons_of_mem _ member)
    rw [splitOn, if_neg different, rest]

theorem splitOn_ne_nil (sep : Char) (cs : List Char) : splitOn sep cs ≠ [] := by
  cases cs with
  | nil => simp [splitOn]
  | cons c rest =>
    rw [splitOn]
    split
    · simp
    · split <;> simp

theorem splitOn_append (sep : Char) (front rest : List Char) :
    splitOn sep (front ++ sep :: rest) = splitOn sep front ++ splitOn sep rest := by
  induction front with
  | nil => simp [splitOn]
  | cons c front ih =>
    rw [List.cons_append, splitOn, ih, splitOn]
    by_cases separator : c = sep
    · rw [if_pos separator, if_pos separator, List.cons_append]
    · obtain ⟨piece, pieces, split⟩ := List.exists_cons_of_ne_nil (splitOn_ne_nil sep front)
      rw [if_neg separator, if_neg separator, split]
      rfl

/-- The first piece is what stands before the first separator. -/
theorem splitOn_eq_cons (sep : Char) (cs : List Char) :
    ∃ pieces, splitOn sep cs = cs.takeWhile (· != sep) :: pieces := by
  induction cs with
  | nil => exact ⟨[], rfl⟩
  | cons c cs ih =>
    obtain ⟨pieces, split⟩ := ih
    rw [splitOn]
    by_cases separator : c = sep
    · exact ⟨splitOn sep cs, by simp [separator]⟩
    · exact ⟨pieces, by simp [separator, split]⟩

/-- Nothing but separators is lost. -/
theorem mem_splitOn {sep c : Char} {cs : List Char} (member : c ∈ cs) (different : c ≠ sep) :
    ∃ piece ∈ splitOn sep cs, c ∈ piece := by
  induction cs with
  | nil => contradiction
  | cons first rest ih =>
    rw [splitOn]
    by_cases separator : first = sep
    · have later : c ∈ rest := by
        rcases List.mem_cons.mp member with rfl | later
        · exact absurd separator different
        · exact later
      obtain ⟨piece, found, inside⟩ := ih later
      rw [if_pos separator]
      exact ⟨piece, List.mem_cons_of_mem _ found, inside⟩
    · obtain ⟨front, others, pieces⟩ := List.exists_cons_of_ne_nil (splitOn_ne_nil sep rest)
      rw [if_neg separator, pieces]
      rcases List.mem_cons.mp member with rfl | later
      · exact ⟨c :: front, List.mem_cons_self, List.mem_cons_self⟩
      · obtain ⟨piece, found, inside⟩ := ih later
        rw [pieces] at found
        rcases List.mem_cons.mp found with rfl | found
        · exact ⟨first :: piece, List.mem_cons_self, List.mem_cons_of_mem _ inside⟩
        · exact ⟨piece, List.mem_cons_of_mem _ found, inside⟩

/-- No piece has the separator in it. -/
theorem not_mem_of_mem_splitOn {sep : Char} {cs piece : List Char} (member : piece ∈ splitOn sep cs) :
    sep ∉ piece := by
  induction cs generalizing piece with
  | nil => simp_all [splitOn]
  | cons c cs ih =>
    rw [splitOn] at member
    by_cases separator : c = sep
    · rw [if_pos separator] at member
      rcases List.mem_cons.mp member with rfl | later
      · exact List.not_mem_nil
      · exact ih later
    · obtain ⟨front, others, pieces⟩ := List.exists_cons_of_ne_nil (splitOn_ne_nil sep cs)
      rw [if_neg separator, pieces] at member
      rcases List.mem_cons.mp member with rfl | later
      · have apart : sep ∉ front := ih (by rw [pieces]; exact List.mem_cons_self)
        exact List.not_mem_cons_of_ne_of_not_mem (Ne.symm separator) apart
      · exact ih (by rw [pieces]; exact List.mem_cons_of_mem _ later)

/-- What is put behind and has no separator in it belongs to the last piece. -/
theorem splitOn_append_not_mem {sep : Char} {back : List Char} (absent : sep ∉ back)
    (cs : List Char) : ∃ pieces last, splitOn sep cs = pieces ++ [last] ∧
      splitOn sep (cs ++ back) = pieces ++ [last ++ back] := by
  induction cs with
  | nil => exact ⟨[], [], rfl, splitOn_of_not_mem absent⟩
  | cons c cs ih =>
    obtain ⟨pieces, last, split, longer⟩ := ih
    rw [List.cons_append, splitOn, splitOn, split, longer]
    by_cases separator : c = sep
    · rw [if_pos separator, if_pos separator]
      exact ⟨[] :: pieces, last, rfl, rfl⟩
    · rw [if_neg separator, if_neg separator]
      cases pieces with
      | nil => exact ⟨[], c :: last, rfl, rfl⟩
      | cons piece pieces => exact ⟨(c :: piece) :: pieces, last, rfl, rfl⟩

/-! ### Words -/

/-- What stands between the spaces of a line. -/
def words (line : String) : List String :=
  ((splitOn ' ' line.toList).filter (!·.isEmpty)).map String.ofList

theorem words_append (front rest : String) :
    words (front ++ " " ++ rest) = words front ++ words rest := by
  have space : " ".toList = [' '] := rfl
  have joined : (front ++ " " ++ rest).toList = front.toList ++ ' ' :: rest.toList := by
    simp [space]
  simp only [words, joined, splitOn_append, List.filter_append, List.map_append]

theorem words_of_solid {word : String} (solid : ' ' ∉ word.toList) (something : word ≠ "") :
    words word = [word] := by
  simp [words, splitOn_of_not_mem solid, something]

/-! ### Lines -/

/-- What stands between the line breaks of a text. -/
def linesOf (text : String) : List String := (splitOn '\n' text.toList).map String.ofList

/-- A text with no line break in it. -/
def IsLine (text : String) : Prop := '\n' ∉ text.toList

instance (text : String) : Decidable (IsLine text) := inferInstanceAs (Decidable (_ ∉ _))

@[simp] theorem isLine_append {front rest : String} :
    IsLine (front ++ rest) ↔ IsLine front ∧ IsLine rest := by
  simp [IsLine]

theorem unlines_cons (line next : String) (rest : List String) :
    unlines (line :: next :: rest) = line ++ "\n" ++ unlines (next :: rest) := rfl

theorem linesOf_unlines {lines : List String} (something : lines ≠ [])
    (whole : ∀ line ∈ lines, IsLine line) : linesOf (unlines lines) = lines := by
  induction lines with
  | nil => contradiction
  | cons line rest ih =>
    obtain ⟨first, others⟩ := List.forall_mem_cons.mp whole
    cases rest with
    | nil => simp [linesOf, unlines, join, splitOn_of_not_mem first]
    | cons next rest =>
      have broken : "\n".toList = ['\n'] := rfl
      have behind := ih (by simp) others
      rw [linesOf] at behind
      rw [linesOf, unlines_cons, String.toList_append, String.toList_append, broken, List.append_assoc,
        List.singleton_append, splitOn_append, List.map_append, splitOn_of_not_mem first, behind]
      simp

/-- The first line of several is found whatever the others are. -/
theorem head?_linesOf {line : String} (rest : List String) (whole : IsLine line) :
    (linesOf (unlines (line :: rest))).head? = some line := by
  cases rest with
  | nil => rw [linesOf_unlines (by simp) (by simpa using whole), List.head?_cons]
  | cons next rest =>
    have broken : "\n".toList = ['\n'] := rfl
    rw [linesOf, unlines_cons, String.toList_append, String.toList_append, broken, List.append_assoc,
      List.singleton_append, splitOn_append, splitOn_of_not_mem whole]
    simp

/-! ### Joined texts -/

theorem join_cons {lines : List String} (something : lines ≠ []) (sep line : String) :
    join sep (line :: lines) = line ++ sep ++ join sep lines := by
  obtain ⟨next, rest, rfl⟩ := List.exists_cons_of_ne_nil something
  rfl

theorem isLine_join {sep : String} (whole : IsLine sep) {texts : List String} :
    IsLine (join sep texts) ↔ ∀ text ∈ texts, IsLine text := by
  induction texts with
  | nil => simp [join, IsLine]
  | cons text texts ih =>
    by_cases last : texts = []
    · subst last
      simp [join]
    · rw [join_cons last, isLine_append, isLine_append, ih, List.forall_mem_cons]
      simp [whole]

/-! ### Up to the first separator -/

section
variable {sep : Char} {front : List Char} (absent : sep ∉ front)
include absent

theorem ne_of_absent : ∀ c ∈ front, (c != sep) = true := by
  intro c member
  rw [bne_iff_ne]
  rintro rfl
  exact absent member

theorem takeWhile_of_not_mem : front.takeWhile (· != sep) = front :=
  List.takeWhile_eq_self_iff.mpr (ne_of_absent absent)

theorem takeWhile_append (rest : List Char) :
    (front ++ sep :: rest).takeWhile (· != sep) = front := by
  rw [List.takeWhile_append_of_pos (ne_of_absent absent)]
  simp

theorem splitOnce?_of_not_mem : splitOnce? sep front = none := by
  rw [splitOnce?, List.span_eq_takeWhile_dropWhile,
    List.dropWhile_eq_nil_iff.mpr (ne_of_absent absent)]

theorem splitOnce?_append (rest : List Char) :
    splitOnce? sep (front ++ sep :: rest) = some (front, rest) := by
  rw [splitOnce?, List.span_eq_takeWhile_dropWhile, takeWhile_append absent,
    List.dropWhile_append_of_pos (ne_of_absent absent)]
  simp

end

/-! ### One text inside another -/

theorem solid_iff {cs : List Char} :
    (∀ c ∈ cs, isBlank c = false) ↔ cs.all (!isBlank ·) = true := by
  simp

/-- No blank at either end. -/
def IsTight (cs : List Char) : Prop :=
  (∀ c ∈ cs.head?, isBlank c = false) ∧ ∀ c ∈ cs.getLast?, isBlank c = false

theorem trimChars_of_isTight {cs : List Char} (tight : IsTight cs) : trimChars cs = cs := by
  have front : ∀ ds : List Char, (∀ c ∈ ds.head?, isBlank c = false) → ds.dropWhile isBlank = ds := by
    intro ds solid
    cases ds with
    | nil => rfl
    | cons c ds => rw [List.dropWhile_cons_of_neg (by simp [solid c rfl])]
  rw [trimChars, front cs tight.1, front cs.reverse (by simpa using tight.2), List.reverse_reverse]

theorem isTight_trimChars (cs : List Char) : IsTight (trimChars cs) := by
  have first : ∀ ds : List Char, ∀ c ∈ (ds.dropWhile isBlank).head?, isBlank c = false := by
    intro ds c member
    have solid := List.head?_dropWhile_not isBlank ds
    rwa [Option.mem_def.mp member] at solid
  constructor
  · -- What is left in the end begins as what was left when the front had been trimmed.
    intro c member
    obtain ⟨dropped, whole⟩ : trimChars cs <+: cs.dropWhile isBlank := List.rdropWhile_prefix isBlank _
    apply first cs c
    rw [← whole, List.head?_append, Option.mem_def.mp member]
    rfl
  · intro c member
    exact first (cs.dropWhile isBlank).reverse c (by simpa [trimChars] using member)

theorem trimChars_of_no_blank {cs : List Char} (solid : ∀ c ∈ cs, isBlank c = false) :
    trimChars cs = cs :=
  trimChars_of_isTight
    ⟨fun c member => solid c (List.mem_of_head? member),
      fun c member => solid c (List.mem_of_getLast? member)⟩

theorem mem_dropWhile_isBlank {cs : List Char} {c : Char} (member : c ∈ cs)
    (solid : isBlank c = false) : c ∈ cs.dropWhile isBlank := by
  rw [← List.takeWhile_append_dropWhile (p := isBlank) (l := cs), List.mem_append] at member
  rcases member with dropped | kept
  · rw [List.mem_takeWhile_imp dropped] at solid
    contradiction
  · exact kept

/-- Nothing but blanks is lost. -/
theorem mem_trimChars {cs : List Char} {c : Char} (member : c ∈ cs) (solid : isBlank c = false) :
    c ∈ trimChars cs := by
  rw [trimChars, List.mem_reverse]
  exact mem_dropWhile_isBlank (List.mem_reverse.mpr (mem_dropWhile_isBlank member solid)) solid

theorem mem_of_mem_trimChars {cs : List Char} {c : Char} (member : c ∈ trimChars cs) : c ∈ cs := by
  have kept : c ∈ (cs.dropWhile isBlank).reverse :=
    (List.dropWhile_sublist isBlank).subset (List.mem_reverse.mp member)
  exact (List.dropWhile_sublist isBlank).subset (List.mem_reverse.mp kept)

theorem trim_eq_empty_iff {text : String} : trim text = "" ↔ isBlankText text = true := by
  rw [isBlankText, List.all_eq_true, ← String.toList_inj, trim, String.toList_ofList]
  constructor
  · intro empty c member
    by_contra solid
    have kept : c ∈ trimChars text.toList := mem_trimChars member (by simpa using solid)
    simp [empty] at kept
  · intro blank
    have dropped : text.toList.dropWhile isBlank = [] := List.dropWhile_eq_nil_iff.mpr blank
    simp [trimChars, dropped]

end DeviceConfig.Text
