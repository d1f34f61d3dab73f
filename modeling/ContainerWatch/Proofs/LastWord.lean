/-!
# The last word

Where entries of a list are about the same thing, the last one of them counts (`LastWord`).  A run over the list that
lets every entry replace what was there about the same thing ends with the entries that have the last word, and with
what was there before that no entry is about.

This is the shape of several runs of the library: directives replace each other in a filter, and edits of a label
replace each other in a dictionary.  Such a run is settled by two facts about one step, that it tells of its own entry
and that it keeps what is about other things, and by an invariant of the states in which they hold.

Main statement: `foldl_iff_lastWord`.
-/

namespace ContainerWatch

variable {α σ : Type} {same : α → α → Prop} {l : List α} {a e : α}

/-- An entry stands in a list, and no later one is about the same thing. -/
def LastWord (same : α → α → Prop) (l : List α) (a : α) : Prop :=
  ∃ before after, l = before ++ a :: after ∧ ∀ e ∈ after, ¬ same e a

theorem not_lastWord_nil : ¬ LastWord same [] a := by
  rintro ⟨before, after, h, -⟩
  exact List.cons_ne_nil _ _ (List.append_eq_nil_iff.1 h.symm).2

/-- The entry in front has the last word when nothing after it is about the same thing; otherwise the rest of the list
settles who has. -/
theorem lastWord_cons_iff : LastWord same (e :: l) a ↔ LastWord same l a ∨ (a = e ∧ ∀ x ∈ l, ¬ same x a) := by
  constructor
  · rintro ⟨before, after, h, hafter⟩
    cases before with
    | nil =>
      obtain ⟨rfl, rfl⟩ := List.cons.inj h
      exact Or.inr ⟨rfl, hafter⟩
    | cons b before =>
      obtain ⟨-, rfl⟩ := List.cons.inj h
      exact Or.inl ⟨before, after, rfl, hafter⟩
  · rintro (⟨before, after, rfl, hafter⟩ | ⟨rfl, hafter⟩)
    · exact ⟨e :: before, after, rfl, hafter⟩
    · exact ⟨[], l, rfl, hafter⟩

/-- Where entries about the same thing agree, every entry has the last word: a later one that would take it away is
the same entry again. -/
theorem lastWord_iff_mem (h : ∀ x ∈ l, ∀ y ∈ l, same x y → x = y) : LastWord same l a ↔ a ∈ l := by
  induction l with
  | nil => exact iff_of_false not_lastWord_nil List.not_mem_nil
  | cons e rest ih =>
    have hrest := ih fun x hx y hy => h x (List.mem_cons_of_mem e hx) y (List.mem_cons_of_mem e hy)
    rw [lastWord_cons_iff, hrest, List.mem_cons]
    constructor
    · rintro (ha | ⟨rfl, -⟩)
      · exact Or.inr ha
      · exact Or.inl rfl
    · rintro (rfl | ha)
      · by_cases hmem : a ∈ rest
        · exact Or.inl hmem
        · refine Or.inr ⟨rfl, fun x hx hsame => hmem ?_⟩
          rwa [← h x (List.mem_cons_of_mem a hx) a List.mem_cons_self hsame]
      · exact Or.inl ha

/-- A run tells of an entry that has the last word, and of what was told before and no entry is about, when each step
tells of its own entry and keeps what is about other things.  The induction is on the list with the state left open;
`valid` is what the steps need to hold of the states and keep. -/
theorem foldl_iff_lastWord {step : σ → α → σ} (same : α → α → Prop) (valid tells : σ → Prop) {s : σ}
    (hvalid : ∀ s e, valid s → valid (step s e))
    (hstep : ∀ s e, valid s → (tells (step s e) ↔ a = e ∨ (tells s ∧ ¬ same e a))) (hs : valid s) :
    tells (l.foldl step s) ↔ LastWord same l a ∨ (tells s ∧ ∀ e ∈ l, ¬ same e a) := by
  induction l generalizing s with
  | nil => simp [not_lastWord_nil]
  | cons e rest ih =>
    rw [List.foldl_cons, ih (hvalid s e hs), hstep s e hs, lastWord_cons_iff, List.forall_mem_cons]
    constructor
    · rintro (hlast | ⟨rfl | ⟨htells, hnot⟩, hrest⟩)
      · exact Or.inl (Or.inl hlast)
      · exact Or.inl (Or.inr ⟨rfl, hrest⟩)
      · exact Or.inr ⟨htells, hnot, hrest⟩
    · rintro ((hlast | ⟨heq, hrest⟩) | ⟨htells, hnot, hrest⟩)
      · exact Or.inl hlast
      · exact Or.inr ⟨Or.inl heq, hrest⟩
      · exact Or.inr ⟨Or.inr ⟨htells, hnot⟩, hrest⟩

end ContainerWatch
