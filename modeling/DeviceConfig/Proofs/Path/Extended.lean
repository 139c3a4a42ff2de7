import DeviceConfig.Proofs.Path.Written

/-!
Groups put behind a path. A text that reads as a path still does with any groups in brackets put behind it, and
they are the last steps of that path.
-/

namespace DeviceConfig.Path

open Text

variable {raw other : String} {groups : List Step}

section
variable (fine : ∀ group ∈ groups, group.IsGroup ∧ group.Writable)
include fine

theorem readParts_behind {cs : List Char} {parts : List (List Step)}
    (read : (splitOn '.' cs).mapM (readPart raw) = .ok parts) :
    ∃ longer, (splitOn '.' (cs ++ groups.flatMap Step.chars)).mapM (readPart other) = .ok longer ∧
      longer.flatten = parts.flatten ++ groups := by
  have undotted : '.' ∉ groups.flatMap Step.chars := by
    rw [List.mem_flatMap]
    rintro ⟨group, member, dot⟩
    exact dot_not_mem_group (fine group member).1 dot
  -- All parts are read as before, only the last one has become longer.
  obtain ⟨pieces, last, split, behind⟩ := splitOn_append_not_mem undotted cs
  rw [split, List.mapM_append] at read
  obtain ⟨before, piecesRead, rest⟩ := bind_eq_ok.mp read
  obtain ⟨final, lastRead, made⟩ := bind_eq_ok.mp rest
  rw [List.mapM_cons] at lastRead
  obtain ⟨taken, partRead, single⟩ := bind_eq_ok.mp lastRead
  have single : [taken] = final := Except.ok.inj single
  rw [behind, List.mapM_append]
  refine ⟨before ++ [taken ++ groups], ?_, ?_⟩
  · refine bind_eq_ok.mpr ⟨before, ?_, bind_eq_ok.mpr ⟨[taken ++ groups], ?_, rfl⟩⟩
    · rw [mapM_eq_ok] at piecesRead ⊢
      exact piecesRead.imp fun _ _ => readPart_other
    · rw [List.mapM_cons, readPart_append fine partRead]
      rfl
  · rw [← Except.ok.inj made, ← single]
    simp

omit fine in
theorem body_append (grouped : ∀ group ∈ groups, group.IsGroup) {cs : List Char} (given : cs ≠ []) :
    body (cs ++ groups.flatMap Step.chars) = body cs ++ groups.flatMap Step.chars := by
  -- A dot that belongs to the sign for the document cannot come from the groups.
  have undotted : ∀ rest, groups.flatMap Step.chars ≠ '.' :: rest := by
    intro rest same
    cases groups with
    | nil => cases same
    | cons group groups =>
      obtain ⟨inner, shape⟩ := head?_chars_of_isGroup (grouped group List.mem_cons_self)
      simp [shape] at same
  obtain ⟨c, rest, rfl⟩ := List.exists_cons_of_ne_nil given
  by_cases sign : c = '$'
  · subst sign
    cases rest with
    | nil =>
      rw [List.singleton_append]
      unfold body
      split
      · next dotted => exact absurd (List.cons.inj dotted).2 (undotted _)
      · next plain => exact (List.cons.inj plain).2.symm
      · next other => exact absurd rfl (other _)
    | cons d rest =>
      by_cases dot : d = '.'
      · subst dot
        rfl
      · simp [body, dot]
  · simp [body, sign]

/-- A path ends where groups can follow, if nothing blank does. -/
theorem parse_append {text : String} {path : Path} (tight : IsTight text.toList)
    (read : parse text = .ok path) :
    parse (text ++ String.ofList (groups.flatMap Step.chars)) =
      .ok ⟨text ++ String.ofList (groups.flatMap Step.chars), path.steps ++ groups⟩ := by
  have grouped : ∀ group ∈ groups, group.IsGroup := fun group member => (fine group member).1
  obtain ⟨given, -, steps⟩ := parse_eq_ok.mp read
  rw [trimChars_of_isTight tight] at given steps
  have longer := isTight_append given tight fun group member => (fine group member).2
  have chars : (text ++ String.ofList (groups.flatMap Step.chars)).toList =
      text.toList ++ groups.flatMap Step.chars := by
    simp
  rw [parse_eq_ok, chars, trimChars_of_isTight longer, body_append grouped given]
  refine ⟨List.append_ne_nil_of_left_ne_nil given _, by rw [← chars, String.ofList_toList], ?_⟩
  rcases steps with ⟨root, none⟩ | ⟨inner, parts, partsRead, made⟩
  · rw [root, none, List.nil_append, List.nil_append]
    cases groups with
    | nil => exact .inl ⟨rfl, rfl⟩
    | cons group groups =>
      obtain ⟨first, others⟩ := List.forall_mem_cons.mp fine
      have begins : ∀ raw, Begins raw group.chars [group] := fun _ => begins_group first.1 first.2
      obtain ⟨parts, partsRead, made⟩ :=
        readParts_append (begins _) fun group member => (others group member).2
      exact .inr ⟨List.append_ne_nil_of_left_ne_nil (begins "").something _, parts, partsRead,
        made.symm⟩
  · obtain ⟨parts, longerRead, whole⟩ := readParts_behind fine partsRead
    exact .inr ⟨List.append_ne_nil_of_left_ne_nil inner _, parts, longerRead, by rw [whole, made]⟩

end

theorem parse_index {text : String} {path : Path} (tight : IsTight text.toList)
    (read : parse text = .ok path) {position : Nat} (small : position < UInt64.size) :
    parse (text ++ "[" ++ toString position ++ "]") =
      .ok ⟨text ++ "[" ++ toString position ++ "]", path.steps ++ [.index position]⟩ := by
  have fine : ∀ group ∈ [Step.index position], group.IsGroup ∧ group.Writable :=
    List.forall_mem_singleton.mpr ⟨trivial, small⟩
  have bracketed : text ++ String.ofList ([Step.index position].flatMap Step.chars) =
      text ++ "[" ++ toString position ++ "]" := by
    simp [← String.toList_inj, Step.chars]
  have longer := parse_append fine tight read
  rwa [bracketed] at longer

end DeviceConfig.Path
