import ContainerWatch.Numeral
/-!
# Numerals can be read back

The printed form of a number is read back as the number, so no two numbers are printed alike.  Printed
digits are ASCII digits, whatever zeros stand before them, and a number that fits a width is printed with
exactly so many digits.

The readers of `ContainerWatch.Numeral` are folds over the digits.  What they accept is said here by grammars that
know nothing of the fold: a run of digits stands for `Nat.ofDigitChars 10`, and `Signed` and `Unsigned` say which
sign may stand before it.  The readers of a fixed size are these grammars with a bound, so a number is never cut down
to the bytes that hold it.

Main statements:

* `natural?_eq_some_iff` says which texts are decimal numerals, `int64?_eq_some_iff` which are numerals with a sign
  and `nat16?_eq_some_iff` which with a plus sign at most;
* `natural?_padded` reads a printed number back, and `padded_injective`, `decimal_injective` and
  `decimalInt_injective` follow from it;
* `length_padded` and `ofDigitChars_lt_pow` tie a number to the width that it is printed in.
-/

namespace ContainerWatch.Numeral

/-! ## Digits -/

theorem isDigit_of_mem_decimal {n : Nat} {c : Char} (h : c ∈ decimal n) : c.isDigit :=
  Nat.isDigit_of_mem_toDigits (by decide) (by decide) h

/-- The zeros in front of a number are digits as well. -/
theorem isDigit_of_mem_padded {width n : Nat} {c : Char} (h : c ∈ padded width n) : c.isDigit := by
  rcases List.mem_append.1 h with h | h
  · rw [List.eq_of_mem_replicate h]
    rfl
  · exact isDigit_of_mem_decimal h

/-- A character that is no digit stands in no printed number.  Texts around a number are told from it by this. -/
theorem notMem_decimal {c : Char} (hc : c.isDigit = false) (n : Nat) : c ∉ decimal n := by
  intro h
  rw [isDigit_of_mem_decimal h] at hc
  cases hc

@[inherit_doc notMem_decimal]
theorem notMem_padded {c : Char} (hc : c.isDigit = false) (width n : Nat) : c ∉ padded width n := by
  intro h
  rw [isDigit_of_mem_padded h] at hc
  cases hc

/-- A character that is no digit and no minus sign stands in no printed integer. -/
theorem notMem_decimalInt {c : Char} (hc : c.isDigit = false) (hminus : c ≠ '-') (n : Int) :
    c ∉ decimalInt n := by
  cases n with
  | ofNat n => exact notMem_decimal hc n
  | negSucc n =>
    intro h
    rcases List.mem_cons.1 h with rfl | h
    · exact hminus rfl
    · exact notMem_decimal hc (n + 1) h

/-! ## Numerals are runs of digits -/

/-- The value of a decimal digit is its distance from the digit zero. -/
theorem digitValue_of_isDigit {c : Char} (h : c.isDigit) : digitValue c = c.toNat - '0'.toNat := by
  rw [digitValue, if_pos h]
  rfl

/-- A run of digits is read as the number that it is in base ten.  The induction is on the run, with the value of what
stands before it left open. -/
theorem valueFrom_of_isDigit {s : List Char} (h : ∀ c ∈ s, c.isDigit) (acc : Nat) :
    valueFrom 10 acc s = some (Nat.ofDigitChars 10 s acc) := by
  induction s generalizing acc with
  | nil => rfl
  | cons c rest ih =>
    obtain ⟨hc, hrest⟩ := List.forall_mem_cons.1 h
    rw [valueFrom_cons, if_pos (digitValue_lt_ten_iff.2 hc), ih hrest, Nat.ofDigitChars_cons,
      digitValue_of_isDigit hc, Nat.mul_comm]

theorem natural?_of_ne_nil {s : List Char} (h : s ≠ []) : natural? s = valueFrom 10 0 s := by
  obtain ⟨c, rest, rfl⟩ := List.exists_cons_of_ne_nil h
  rfl

/-- The decimal numerals of a number are the runs of digits, not empty, that are the number in base ten.  So a numeral
may have any zeros at its front, and its value any size. -/
theorem natural?_eq_some_iff {s : List Char} {n : Nat} :
    natural? s = some n ↔ s ≠ [] ∧ (∀ c ∈ s, c.isDigit) ∧ Nat.ofDigitChars 10 s 0 = n := by
  constructor
  · intro h
    have hne : s ≠ [] := by
      rintro rfl
      cases h
    rw [natural?_of_ne_nil hne] at h
    have hdigits := isDigit_of_valueFrom h
    rw [valueFrom_of_isDigit hdigits] at h
    exact ⟨hne, hdigits, Option.some.inj h⟩
  · rintro ⟨hne, hdigits, rfl⟩
    rw [natural?_of_ne_nil hne, valueFrom_of_isDigit hdigits]

/-! ## Reading a printed number -/

theorem decimal_ne_nil (n : Nat) : decimal n ≠ [] := Nat.toDigits_ne_nil

theorem ofDigitChars_decimal (n : Nat) : Nat.ofDigitChars 10 (decimal n) 0 = n :=
  Nat.ofDigitChars_ten_toDigits

theorem natural?_decimal (n : Nat) : natural? (decimal n) = some n :=
  natural?_eq_some_iff.2 ⟨decimal_ne_nil n, fun _ => isDigit_of_mem_decimal, ofDigitChars_decimal n⟩

/-- A printed number is read back, whatever zeros stand before it. -/
theorem natural?_padded (width n : Nat) : natural? (padded width n) = some n := by
  have hne : padded width n ≠ [] := List.append_ne_nil_of_right_ne_nil _ (decimal_ne_nil n)
  refine natural?_eq_some_iff.2 ⟨hne, fun _ => isDigit_of_mem_padded, ?_⟩
  rw [padded, Nat.ofDigitChars_append, Nat.ofDigitChars_replicate_zero, Nat.mul_zero,
    ofDigitChars_decimal]

/-! ## Signs -/

/-- The decimal numerals with an optional sign: one digit or more after it. -/
inductive Signed : List Char → Int → Prop
  | plain {ds : List Char} (hne : ds ≠ []) (hdigits : ∀ c ∈ ds, c.isDigit) :
      Signed ds (Nat.ofDigitChars 10 ds 0)
  | plus {ds : List Char} (hne : ds ≠ []) (hdigits : ∀ c ∈ ds, c.isDigit) :
      Signed ('+' :: ds) (Nat.ofDigitChars 10 ds 0)
  | minus {ds : List Char} (hne : ds ≠ []) (hdigits : ∀ c ∈ ds, c.isDigit) :
      Signed ('-' :: ds) (-(Nat.ofDigitChars 10 ds 0 : Int))

/-- A text is read as an integer exactly when it is a numeral of it.  The reader looks for a minus sign first and for
a plus sign next; what has neither begins with a digit, so the three cases do not overlap. -/
theorem signed?_eq_some_iff {s : List Char} {n : Int} : signed? s = some n ↔ Signed s n := by
  constructor
  · intro h
    -- minus, plus and no sign, in this order
    unfold signed? at h
    split at h
    · rename_i rest
      cases hk : natural? rest with
      | none =>
        rw [hk] at h
        cases h
      | some k =>
        rw [hk] at h
        cases h
        obtain ⟨hne, hdigits, rfl⟩ := natural?_eq_some_iff.1 hk
        exact .minus hne hdigits
    · obtain ⟨k, hk, rfl⟩ := Option.map_eq_some_iff.1 h
      obtain ⟨hne, hdigits, rfl⟩ := natural?_eq_some_iff.1 hk
      exact .plus hne hdigits
    · obtain ⟨k, hk, rfl⟩ := Option.map_eq_some_iff.1 h
      obtain ⟨hne, hdigits, rfl⟩ := natural?_eq_some_iff.1 hk
      exact .plain hne hdigits
  · intro h
    cases h with
    | minus hne hdigits | plus hne hdigits =>
      rw [signed?, natural?_eq_some_iff.2 ⟨hne, hdigits, rfl⟩]
      rfl
    | plain hne hdigits =>
      unfold signed?
      split
      · exact absurd (hdigits '-' List.mem_cons_self) nofun
      · exact absurd (hdigits '+' List.mem_cons_self) nofun
      · rw [natural?_eq_some_iff.2 ⟨hne, hdigits, rfl⟩]
        rfl

theorem Signed.unique {s : List Char} {m n : Int} (hm : Signed s m) (hn : Signed s n) : m = n := by
  rw [← signed?_eq_some_iff] at hm hn
  exact Option.some.inj (hm.symm.trans hn)

/-- A numeral is neither empty nor a sign alone. -/
theorem Signed.exists_isDigit {s : List Char} {n : Int} (h : Signed s n) : ∃ c ∈ s, c.isDigit := by
  have hdigit {ds : List Char} (hne : ds ≠ []) (hdigits : ∀ c ∈ ds, c.isDigit) : ∃ c ∈ ds, c.isDigit := by
    obtain ⟨c, hc⟩ := List.exists_mem_of_ne_nil ds hne
    exact ⟨c, hc, hdigits c hc⟩
  cases h with
  | plain hne hdigits => exact hdigit hne hdigits
  | minus hne hdigits | plus hne hdigits =>
    obtain ⟨c, hc, hd⟩ := hdigit hne hdigits
    exact ⟨c, List.mem_cons_of_mem _ hc, hd⟩

/-- A numeral holds digits and signs only. -/
theorem Signed.isDigit_or {s : List Char} {n : Int} (h : Signed s n) {c : Char} (hc : c ∈ s) :
    c.isDigit ∨ c = '+' ∨ c = '-' := by
  cases h with
  | plain hne hdigits => exact Or.inl (hdigits c hc)
  | plus hne hdigits =>
    obtain rfl | hc := List.mem_cons.1 hc
    · exact Or.inr (Or.inl rfl)
    · exact Or.inl (hdigits c hc)
  | minus hne hdigits =>
    obtain rfl | hc := List.mem_cons.1 hc
    · exact Or.inr (Or.inr rfl)
    · exact Or.inl (hdigits c hc)

/-- The numerals that are read are those of the numbers that eight bytes hold.  The bound is on the number and not on
the digits: zeros at the front do not count against it. -/
theorem int64?_eq_some_iff {s : List Char} {n : Int} :
    int64? s = some n ↔ Signed s n ∧ int64Min ≤ n ∧ n ≤ int64Max := by
  rw [int64?, Option.filter_eq_some_iff, signed?_eq_some_iff, decide_eq_true_iff]

/-- The decimal numerals with an optional plus sign: one digit or more after it. -/
inductive Unsigned : List Char → Nat → Prop
  | plain {ds : List Char} (hne : ds ≠ []) (hdigits : ∀ c ∈ ds, c.isDigit) :
      Unsigned ds (Nat.ofDigitChars 10 ds 0)
  | plus {ds : List Char} (hne : ds ≠ []) (hdigits : ∀ c ∈ ds, c.isDigit) :
      Unsigned ('+' :: ds) (Nat.ofDigitChars 10 ds 0)

/-- A text is read as a number exactly when it is a numeral of it without a minus sign. -/
theorem unsigned?_eq_some_iff {s : List Char} {n : Nat} : unsigned? s = some n ↔ Unsigned s n := by
  constructor
  · intro h
    unfold unsigned? at h
    split at h
    · obtain ⟨hne, hdigits, rfl⟩ := natural?_eq_some_iff.1 h
      exact .plus hne hdigits
    · obtain ⟨hne, hdigits, rfl⟩ := natural?_eq_some_iff.1 h
      exact .plain hne hdigits
  · intro h
    cases h with
    | plus hne hdigits => exact natural?_eq_some_iff.2 ⟨hne, hdigits, rfl⟩
    | plain hne hdigits =>
      unfold unsigned?
      split
      · exact absurd (hdigits '+' List.mem_cons_self) nofun
      · exact natural?_eq_some_iff.2 ⟨hne, hdigits, rfl⟩

theorem Unsigned.unique {s : List Char} {m n : Nat} (hm : Unsigned s m) (hn : Unsigned s n) : m = n := by
  rw [← unsigned?_eq_some_iff] at hm hn
  exact Option.some.inj (hm.symm.trans hn)

/-- A numeral without a minus sign holds digits and a plus sign only. -/
theorem Unsigned.isDigit_or {s : List Char} {n : Nat} (h : Unsigned s n) {c : Char} (hc : c ∈ s) :
    c.isDigit ∨ c = '+' := by
  cases h with
  | plain hne hdigits => exact Or.inl (hdigits c hc)
  | plus hne hdigits =>
    obtain rfl | hc := List.mem_cons.1 hc
    · exact Or.inr rfl
    · exact Or.inl (hdigits c hc)

/-- So it holds no character that is neither. -/
theorem Unsigned.notMem {s : List Char} {n : Nat} (h : Unsigned s n) {c : Char} (hc : c.isDigit = false)
    (hplus : c ≠ '+') : c ∉ s := by
  intro hmem
  rcases h.isDigit_or hmem with hdigit | rfl
  · rw [hdigit] at hc
    cases hc
  · exact hplus rfl

/-- The numerals that are read are those of the numbers that two bytes hold: a larger number is refused and not cut
down. -/
theorem nat16?_eq_some_iff {s : List Char} {n : UInt16} : nat16? s = some n ↔ Unsigned s n.toNat := by
  rw [nat16?, Option.bind_eq_some_iff]
  constructor
  · rintro ⟨m, hm, hn⟩
    split at hn
    · rename_i hlt
      cases hn
      rw [UInt16.toNat_ofNat_of_lt' hlt]
      exact unsigned?_eq_some_iff.1 hm
    · cases hn
  · intro h
    refine ⟨n.toNat, unsigned?_eq_some_iff.2 h, ?_⟩
    rw [if_pos n.toNat_lt, UInt16.ofNat_toNat]

/-- A printed number is a numeral of it. -/
theorem unsigned_decimal (n : Nat) : Unsigned (decimal n) n := by
  have h : Unsigned (decimal n) (Nat.ofDigitChars 10 (decimal n) 0) :=
    .plain (decimal_ne_nil n) fun _ => isDigit_of_mem_decimal
  rw [ofDigitChars_decimal] at h
  exact h

/-- A printed integer is a numeral of it. -/
theorem signed_decimalInt (n : Int) : Signed (decimalInt n) n := by
  cases n with
  | ofNat n =>
    have h : Signed (decimal n) (Nat.ofDigitChars 10 (decimal n) 0) :=
      .plain (decimal_ne_nil n) fun _ => isDigit_of_mem_decimal
    rw [ofDigitChars_decimal] at h
    exact h
  | negSucc n =>
    have h : Signed ('-' :: decimal (n + 1)) (-(Nat.ofDigitChars 10 (decimal (n + 1)) 0 : Int)) :=
      .minus (decimal_ne_nil (n + 1)) fun _ => isDigit_of_mem_decimal
    rw [ofDigitChars_decimal] at h
    exact h

/-! ## No two numbers are printed alike -/

/-- No two numbers are printed alike, since each is read back. -/
theorem decimal_injective {m n : Nat} (h : decimal m = decimal n) : m = n := by
  have hread := congrArg natural? h
  rw [natural?_decimal, natural?_decimal] at hread
  exact Option.some.inj hread

/-- No two numbers are printed alike, whatever widths they are filled up to. -/
theorem padded_injective {v w m n : Nat} (h : padded v m = padded w n) : m = n := by
  have hread := congrArg natural? h
  rw [natural?_padded, natural?_padded] at hread
  exact Option.some.inj hread

/-- No two integers are printed alike. -/
theorem decimalInt_injective {m n : Int} (h : decimalInt m = decimalInt n) : m = n := by
  -- a minus sign tells a negative number from one that is not
  have hminus (j k : Nat) : '-' :: decimal j ≠ decimal k := by
    intro heq
    exact notMem_decimal rfl k (heq ▸ List.mem_cons_self)
  cases m with
  | ofNat m =>
    cases n with
    | ofNat n => rw [decimal_injective h]
    | negSucc n => exact absurd h.symm (hminus (n + 1) m)
  | negSucc m =>
    cases n with
    | ofNat n => exact absurd h (hminus (m + 1) n)
    | negSucc n =>
      have hsucc := decimal_injective (List.cons.inj h).2
      rw [Nat.succ.inj hsucc]

/-! ## Widths -/

/-- A number that fits a width has exactly so many digits: as many zeros are put in front as its own digits leave
open. -/
theorem length_padded {width n : Nat} (hwidth : 0 < width) (h : n < Nat.pow 10 width) :
    (padded width n).length = width := by
  have hle : (decimal n).length ≤ width := (Nat.length_toDigits_le_iff (by decide) hwidth).2 h
  rw [padded, List.length_append, List.length_replicate]
  omega

theorem pow_ten_pos (width : Nat) : 0 < Nat.pow 10 width := Nat.pow_pos (by decide)

/-- Powers of ten are put together from those of a part and of the rest. -/
theorem pow_ten_sub_mul {width total : Nat} (h : width ≤ total) :
    Nat.pow 10 (total - width) * Nat.pow 10 width = Nat.pow 10 total := by
  have hadd := Nat.pow_add 10 (total - width) width
  rw [Nat.sub_add_cancel h] at hadd
  exact hadd.symm

/-- Digits that are put behind others shift them by as many places. -/
theorem ofDigitChars_append (ds es : List Char) :
    Nat.ofDigitChars 10 (ds ++ es) 0 =
      Nat.pow 10 es.length * Nat.ofDigitChars 10 ds 0 + Nat.ofDigitChars 10 es 0 := by
  rw [Nat.ofDigitChars_append]
  exact Nat.ofDigitChars_eq_ofDigitChars_zero

/-- A number is smaller than its width allows.  The digit in front counts for less than ten at its place, and the rest
for less than one there. -/
theorem ofDigitChars_lt_pow {ds : List Char} (h : ∀ c ∈ ds, c.isDigit) :
    Nat.ofDigitChars 10 ds 0 < Nat.pow 10 ds.length := by
  induction ds with
  | nil => decide
  | cons c ds ih =>
    obtain ⟨hc, hds⟩ := List.forall_mem_cons.1 h
    have hdigit : c.toNat - '0'.toNat < 10 := by
      rw [← digitValue_of_isDigit hc]
      exact digitValue_lt_ten_iff.2 hc
    have hone : Nat.ofDigitChars 10 [c] 0 = c.toNat - '0'.toNat := by simp [Nat.ofDigitChars_cons]
    calc Nat.ofDigitChars 10 ([c] ++ ds) 0
        = Nat.pow 10 ds.length * (c.toNat - '0'.toNat) + Nat.ofDigitChars 10 ds 0 := by
          rw [ofDigitChars_append, hone]
      _ < Nat.pow 10 ds.length * (c.toNat - '0'.toNat) + Nat.pow 10 ds.length :=
          Nat.add_lt_add_left (ih hds) _
      _ ≤ Nat.pow 10 ds.length * 10 := Nat.mul_le_mul_left _ hdigit

end ContainerWatch.Numeral
