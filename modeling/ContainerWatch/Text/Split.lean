/-!
# Cutting and joining texts

A text is cut at the first place where a separator stands (`cutAt`), cut into all the pieces
between separators (`pieces`), and put together again (`join`).  Cutting loses nothing but the
separator (`eq_append_of_cutAt`) and finds the parts that were put together (`cutAt_append`).  A
beginning can be dropped as often as it is repeated (`dropCopies`), and a word at the first place
where it stands (`dropFirst`).
-/

namespace ContainerWatch.Text

/-- The parts before and after the first occurrence of a character. -/
def cutAt (sep : Char) : List Char → Option (List Char × List Char)
  | [] => none
  | c :: rest =>
    if c = sep then some ([], rest)
    else (cutAt sep rest).map fun parts => (c :: parts.1, parts.2)

/-- The parts of a text between the occurrences of a character, empty ones included. -/
def pieces (sep : Char) : List Char → List (List Char)
  | [] => [[]]
  | c :: rest =>
    if c = sep then [] :: pieces sep rest
    else match pieces sep rest with
      | [] => [[c]]
      | first :: others => (c :: first) :: others

/-- Texts put one after another with a separator between neighbours. -/
def join (sep : String) : List String → String
  | [] => ""
  | [s] => s
  | s :: t :: rest => s ++ sep ++ join sep (t :: rest)

/-- A text without the copies of a given beginning that stand at its front one after another. -/
def dropCopies (start s : List Char) : List Char :=
  if start ≠ [] ∧ start.isPrefixOf s then dropCopies start (s.drop start.length) else s
termination_by s.length
decreasing_by
  rename_i h
  have hstart := List.length_pos_iff.2 h.1
  have hle := (List.isPrefixOf_iff_prefix.1 h.2).length_le
  simp only [List.length_drop]
  omega

/-- A text without the first occurrence of a word. -/
def dropFirst (word : List Char) : List Char → List Char
  | [] => []
  | c :: rest =>
    if word.isPrefixOf (c :: rest) then (c :: rest).drop word.length else c :: dropFirst word rest

/-! ## Nothing but separators is lost -/

theorem cutAt_eq_none_iff {sep : Char} {s : List Char} : cutAt sep s = none ↔ sep ∉ s := by
  induction s with
  | nil => simp [cutAt]
  | cons c rest ih =>
    by_cases h : c = sep
    · simp [cutAt, h]
    · simp [cutAt, h, ih, Ne.symm h]

theorem eq_append_of_cutAt {sep : Char} {s before after : List Char}
    (h : cutAt sep s = some (before, after)) : s = before ++ sep :: after ∧ sep ∉ before := by
  induction s generalizing before after with
  | nil => simp [cutAt] at h
  | cons c rest ih =>
    by_cases hc : c = sep
    · rw [cutAt, if_pos hc] at h
      obtain ⟨rfl, rfl⟩ := Prod.mk.inj (Option.some.inj h)
      simp [hc]
    · rw [cutAt, if_neg hc] at h
      obtain ⟨⟨b, a⟩, hcut, hparts⟩ := Option.map_eq_some_iff.1 h
      obtain ⟨rfl, rfl⟩ := Prod.mk.inj hparts
      obtain ⟨rfl, hmem⟩ := ih hcut
      exact ⟨rfl, by simp [Ne.symm hc, hmem]⟩

theorem cutAt_append {sep : Char} {before : List Char} (after : List Char) (h : sep ∉ before) :
    cutAt sep (before ++ sep :: after) = some (before, after) := by
  induction before with
  | nil => simp [cutAt]
  | cons c rest ih =>
    obtain ⟨hc, hrest⟩ := not_or.1 (mt List.mem_cons.2 h)
    simp [cutAt, Ne.symm hc, ih hrest]

/-- A copy of the beginning at the front is dropped. -/
theorem dropCopies_append {start : List Char} (h : start ≠ []) (s : List Char) :
    dropCopies start (start ++ s) = dropCopies start s := by
  rw [dropCopies, if_pos ⟨h, List.isPrefixOf_iff_prefix.2 (List.prefix_append start s)⟩,
    List.drop_left]

@[simp] theorem join_singleton (sep s : String) : join sep [s] = s := rfl

theorem join_cons_cons (sep s t : String) (rest : List String) :
    join sep (s :: t :: rest) = s ++ sep ++ join sep (t :: rest) := rfl

end ContainerWatch.Text
