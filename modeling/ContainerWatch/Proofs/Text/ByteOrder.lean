/-!
# The order of texts and of their bytes

Texts are ordered by their code points.  Their UTF-8 bytes are ordered alike, beyond the Basic Multilingual
Plane too: of two characters the one with the smaller code point has the smaller byte where their bytes first
differ, and neither is the beginning of the other (`utf8EncodeChar_append_lt`).

This is what makes an order of texts by characters the order by bytes.  It would not hold of units of 16 bits, in which
characters beyond that plane come before some within it.

Main statement: `bytes_le_bytes_iff`.
-/

namespace ContainerWatch.Text

/-- The UTF-8 bytes of a text. -/
def bytes (s : String) : List UInt8 := s.toUTF8.data.toList

theorem bytes_eq_flatMap (s : String) : bytes s = s.toList.flatMap String.utf8EncodeChar := by
  have hbytes : s.toUTF8 = s.toList.utf8Encode := by
    rw [String.toUTF8_eq_toByteArray, ← String.toByteArray_ofList, String.ofList_toList]
  rw [bytes, hbytes]
  exact List.toList_data_toByteArray

/-! ## The bytes of one character -/

/-- A smaller first byte decides, and equal ones leave it to the rest. -/
theorem ofNat_cons_lt {a b : Nat} {s t : List UInt8} (hle : a ≤ b) (hb : b < 256) (h : a = b → s < t) :
    UInt8.ofNat a :: s < UInt8.ofNat b :: t := by
  obtain hlt | rfl := Nat.lt_or_eq_of_le hle
  · refine List.cons_lt_cons_iff.2 (Or.inl (UInt8.lt_iff_toNat_lt.2 ?_))
    rw [UInt8.toNat_ofNat', UInt8.toNat_ofNat', Nat.mod_eq_of_lt hb, Nat.mod_eq_of_lt (Nat.lt_trans hlt hb)]
    exact hlt
  · exact List.cons_lt_cons_iff.2 (Or.inr ⟨rfl, h rfl⟩)

/-- The bytes of a character are before those of a greater one, whatever comes after them.  The cases are how many
bytes the two characters have. -/
theorem utf8EncodeChar_append_lt {c d : Char} (h : c < d) (s t : List UInt8) :
    String.utf8EncodeChar c ++ s < String.utf8EncodeChar d ++ t := by
  have hlt : c.val.toNat < d.val.toNat := h
  have hmax : d.val.toNat < 1114112 := by
    have hvalid := d.valid
    unfold UInt32.isValidChar Nat.isValidChar at hvalid
    omega
  unfold String.utf8EncodeChar
  generalize c.val.toNat = m at hlt
  generalize d.val.toNat = n at hlt hmax
  simp only
  -- the first byte tells how many there are, and the others are digits in base 64
  by_cases hone : n ≤ 127
  · rw [if_pos hone, if_pos (by omega)]
    exact ofNat_cons_lt (by omega) (by omega) fun heq => by omega
  · rw [if_neg hone]
    by_cases htwo : n ≤ 2047
    · rw [if_pos htwo]
      split
      · exact ofNat_cons_lt (by omega) (by omega) fun heq => by omega
      · rw [if_pos (by omega)]
        refine ofNat_cons_lt (by omega) (by omega) fun hfirst => ?_
        exact ofNat_cons_lt (by omega) (by omega) fun heq => by omega
    · rw [if_neg htwo]
      by_cases hthree : n ≤ 65535
      · rw [if_pos hthree]
        split
        · exact ofNat_cons_lt (by omega) (by omega) fun heq => by omega
        · split
          · exact ofNat_cons_lt (by omega) (by omega) fun heq => by omega
          · rw [if_pos (by omega)]
            refine ofNat_cons_lt (by omega) (by omega) fun hfirst => ?_
            refine ofNat_cons_lt (by omega) (by omega) fun hsecond => ?_
            exact ofNat_cons_lt (by omega) (by omega) fun heq => by omega
      · rw [if_neg hthree]
        split
        · exact ofNat_cons_lt (by omega) (by omega) fun heq => by omega
        · split
          · exact ofNat_cons_lt (by omega) (by omega) fun heq => by omega
          · split
            · exact ofNat_cons_lt (by omega) (by omega) fun heq => by omega
            · refine ofNat_cons_lt (by omega) (by omega) fun hfirst => ?_
              refine ofNat_cons_lt (by omega) (by omega) fun hsecond => ?_
              refine ofNat_cons_lt (by omega) (by omega) fun hthird => ?_
              exact ofNat_cons_lt (by omega) (by omega) fun heq => by omega

/-! ## Texts -/

/-- Lists of characters are in the order of their bytes.  Where they first differ, the characters decide, and so do
their bytes. -/
theorem flatMap_utf8EncodeChar_lt {s t : List Char} (h : s < t) :
    s.flatMap String.utf8EncodeChar < t.flatMap String.utf8EncodeChar := by
  induction s generalizing t with
  | nil =>
    cases t with
    | nil => exact absurd h (List.not_lt_nil [])
    | cons d t =>
      obtain ⟨b, rest, hbytes⟩ := List.exists_cons_of_ne_nil (String.utf8EncodeChar_ne_nil (c := d))
      rw [List.flatMap_cons, hbytes]
      exact List.nil_lt_cons b _
  | cons c s ih =>
    cases t with
    | nil => exact absurd h (List.not_lt_nil _)
    | cons d t =>
      rw [List.flatMap_cons, List.flatMap_cons]
      obtain hlt | ⟨rfl, hrest⟩ := List.cons_lt_cons_iff.1 h
      · exact utf8EncodeChar_append_lt hlt _ _
      · exact List.append_left_lt (ih hrest)

/-- A text that stands before another one does so in the order of bytes. -/
theorem bytes_lt_bytes {s t : String} (h : s < t) : bytes s < bytes t := by
  rw [bytes_eq_flatMap, bytes_eq_flatMap]
  exact flatMap_utf8EncodeChar_lt h

/-- Texts are in the order of their UTF-8 bytes. -/
theorem bytes_le_bytes_iff {s t : String} : bytes s ≤ bytes t ↔ s ≤ t := by
  constructor
  · intro h
    exact String.not_lt.1 fun hlt => absurd (bytes_lt_bytes hlt) h
  · intro h hlt
    by_cases heq : s = t
    · exact absurd (heq ▸ hlt) (List.lt_irrefl (bytes s))
    · exact absurd hlt (List.lt_asymm (bytes_lt_bytes (Std.lt_of_le_of_ne h heq)))

end ContainerWatch.Text
