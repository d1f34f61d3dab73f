/-!
# Blank characters

The characters with the Unicode property `White_Space`, and the removal of blanks at both ends of
a text.  A text is trimmed by dropping blanks from its front and then from its back.

Main statement: a word is left of the texts that are this word between blanks, and of no others
(`trimBlanks_eq_iff`).
-/

namespace ContainerWatch.Text

/-- The code points of the property `White_Space`. -/
def blankCodes : List Nat :=
  [0x09, 0x0A, 0x0B, 0x0C, 0x0D, 0x20, 0x85, 0xA0, 0x1680, 0x2000, 0x2001, 0x2002, 0x2003, 0x2004,
    0x2005, 0x2006, 0x2007, 0x2008, 0x2009, 0x200A, 0x2028, 0x2029, 0x202F, 0x205F, 0x3000]

/-- Whether a character has the property `White_Space`. -/
def isBlank (c : Char) : Bool := blankCodes.contains c.toNat

/-- A text without the blanks at its front. -/
def trimFront (s : List Char) : List Char := s.dropWhile isBlank

/-- A text without the blanks at its back. -/
def trimBack (s : List Char) : List Char := (s.reverse.dropWhile isBlank).reverse

/-- A text without the blanks at its two ends. -/
def trimBlanks (s : List Char) : List Char := trimBack (trimFront s)

/-! ## What trimming leaves -/

/-- ASCII letters are not blank. -/
theorem isBlank_eq_false_of_isAlpha {c : Char} (h : c.isAlpha) : isBlank c = false := by
  have hrange : (65 ≤ c.toNat ∧ c.toNat ≤ 90) ∨ (97 ≤ c.toNat ∧ c.toNat ≤ 122) := by
    have hle {a b : UInt32} (hab : a ≤ b) : a.toNat ≤ b.toNat := UInt32.le_iff_toNat_le.1 hab
    rcases (Bool.or_eq_true_iff).1 h with hupper | hlower
    · obtain ⟨hlow, hhigh⟩ : 'A'.val ≤ c.val ∧ c.val ≤ 'Z'.val := of_decide_eq_true hupper
      exact Or.inl ⟨hle hlow, hle hhigh⟩
    · obtain ⟨hlow, hhigh⟩ := Bool.and_eq_true_iff.1 hlower
      exact Or.inr ⟨hle (of_decide_eq_true hlow), hle (of_decide_eq_true hhigh)⟩
  simp only [isBlank, blankCodes, List.contains_eq_mem, List.mem_cons, List.not_mem_nil, or_false,
    decide_eq_false_iff_not]
  omega

/-- Only blanks are dropped from the front. -/
theorem exists_eq_append_trimFront (s : List Char) : ∃ lead, s = lead ++ trimFront s ∧ ∀ c ∈ lead, isBlank c :=
  ⟨s.takeWhile isBlank, List.takeWhile_append_dropWhile.symm, List.all_eq_true.1 List.all_takeWhile⟩

/-- All blanks at the front are dropped, up to a word. -/
theorem trimFront_append {lead word : List Char} (hlead : ∀ c ∈ lead, isBlank c) (hne : word ≠ [])
    (hword : ∀ c ∈ word, isBlank c = false) (rest : List Char) :
    trimFront (lead ++ (word ++ rest)) = word ++ rest := by
  obtain ⟨c, word, rfl⟩ := List.exists_cons_of_ne_nil hne
  rw [trimFront, List.dropWhile_append_of_pos hlead, List.cons_append, List.dropWhile_cons_of_neg]
  rw [hword c List.mem_cons_self]
  exact Bool.false_ne_true

/-- What stands between blanks is a word exactly when the text is this word with blanks before and after it. -/
theorem trimBlanks_eq_iff {s word : List Char} (hne : word ≠ []) (hword : ∀ c ∈ word, isBlank c = false) :
    trimBlanks s = word ↔ ∃ lead trail, s = lead ++ (word ++ trail) ∧ (∀ c ∈ lead, isBlank c) ∧
      ∀ c ∈ trail, isBlank c := by
  have hback (t : List Char) : trimBack t = (trimFront t.reverse).reverse := rfl
  constructor
  · rintro rfl
    obtain ⟨lead, hs, hlead⟩ := exists_eq_append_trimFront s
    obtain ⟨trail, ht, htrail⟩ := exists_eq_append_trimFront (trimFront s).reverse
    refine ⟨lead, trail.reverse, ?_, hlead, fun c hc => htrail c (List.mem_reverse.1 hc)⟩
    rw [trimBlanks, hback, ← List.reverse_append, ← ht, List.reverse_reverse]
    exact hs
  · rintro ⟨lead, trail, rfl, hlead, htrail⟩
    have hreverse : (word ++ trail).reverse = trail.reverse ++ (word.reverse ++ []) := by
      rw [List.reverse_append, List.append_nil]
    rw [trimBlanks, trimFront_append hlead hne hword, hback, hreverse,
      trimFront_append (fun c hc => htrail c (List.mem_reverse.1 hc)) (mt List.reverse_eq_nil_iff.1 hne)
        (fun c hc => hword c (List.mem_reverse.1 hc)), List.append_nil, List.reverse_reverse]

end ContainerWatch.Text
