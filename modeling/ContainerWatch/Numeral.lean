/-!
# Numerals

Whole numbers as text.  A numeral is a non-empty run of digits in a base, with the sign that its
reader admits; leading zeros are allowed and the value may be of any size, so that a bound is a
separate question, settled by the readers `int64?` and `nat16?`.  The printed form of a number is
its shortest decimal numeral.

Main statement: a decimal numeral holds ASCII digits only (`isDigit_of_valueFrom`).
-/

namespace ContainerWatch.Numeral

/-- The value of a digit, letters counting from ten. -/
def digitValue (c : Char) : Nat :=
  if c.isDigit then c.toNat - 48
  else if 'a' ≤ c ∧ c ≤ 'z' then c.toNat - 87
  else if 'A' ≤ c ∧ c ≤ 'Z' then c.toNat - 55
  else 36

/-- The value of a run of digits, read from the left onto the value of those before it. -/
def valueFrom (base acc : Nat) : List Char → Option Nat
  | [] => some acc
  | c :: rest => if digitValue c < base then valueFrom base (acc * base + digitValue c) rest else none

/-- The value of a numeral in a base: one digit or more, and nothing else. -/
def inBase? (base : Nat) : List Char → Option Nat
  | [] => none
  | c :: rest => valueFrom base 0 (c :: rest)

/-- The value of a decimal numeral without a sign. -/
def natural? (s : List Char) : Option Nat := inBase? 10 s

/-- The value of a decimal numeral that may have a plus sign. -/
def unsigned? : List Char → Option Nat
  | '+' :: rest => natural? rest
  | s => natural? s

/-- The value of a decimal numeral that may have either sign. -/
def signed? : List Char → Option Int
  | '-' :: rest => (natural? rest).map fun n => -(n : Int)
  | '+' :: rest => (natural? rest).map Int.ofNat
  | s => (natural? s).map Int.ofNat

/-- The least and the greatest number that eight bytes hold with a sign. -/
def int64Min : Int := -9223372036854775808

@[inherit_doc int64Min] def int64Max : Int := 9223372036854775807

/-- The greatest number that eight bytes hold without a sign. -/
def nat64Max : Nat := 18446744073709551615

/-- A signed decimal numeral whose value fits eight bytes. -/
def int64? (s : List Char) : Option Int :=
  (signed? s).filter fun n => decide (int64Min ≤ n ∧ n ≤ int64Max)

/-- An unsigned decimal numeral whose value fits two bytes. -/
def nat16? (s : List Char) : Option UInt16 :=
  (unsigned? s).bind fun n => if n < 65536 then some (UInt16.ofNat n) else none

/-- The shortest decimal numeral of a number. -/
def decimal (n : Nat) : List Char := Nat.toDigits 10 n

/-- The shortest decimal numeral of an integer, a minus sign before negative ones. -/
def decimalInt : Int → List Char
  | .ofNat n => decimal n
  | .negSucc n => '-' :: decimal (n + 1)

/-- A decimal numeral of at least the given length, filled up with zeros on the left. -/
def padded (width n : Nat) : List Char :=
  List.replicate (width - (decimal n).length) '0' ++ decimal n

/-! ## Readers in terms of digits -/

theorem valueFrom_cons (base acc : Nat) (c : Char) (rest : List Char) :
    valueFrom base acc (c :: rest) =
      if digitValue c < base then valueFrom base (acc * base + digitValue c) rest else none := rfl

/-- A decimal digit is a character with a digit value below ten. -/
theorem digitValue_lt_ten_iff {c : Char} : digitValue c < 10 ↔ c.isDigit := by
  by_cases hd : c.isDigit = true
  · have hle : c.toNat ≤ 57 := by
      simp only [Char.isDigit, Bool.and_eq_true, decide_eq_true_eq, ge_iff_le,
        UInt32.le_iff_toNat_le] at hd
      exact hd.2
    simp only [digitValue, hd, if_true, iff_true]
    omega
  · simp only [digitValue, hd, Bool.false_eq_true, if_false, iff_false, Nat.not_lt]
    split
    · rename_i hc
      have : 97 ≤ c.toNat := hc.1
      omega
    · split
      · rename_i hc
        have : 65 ≤ c.toNat := hc.1
        omega
      · omega

/-- Every character of a numeral is a digit of its base. -/
theorem digitValue_lt_of_valueFrom {base acc n : Nat} {s : List Char} (h : valueFrom base acc s = some n) :
    ∀ c ∈ s, digitValue c < base := by
  induction s generalizing acc with
  | nil => simp
  | cons c rest ih =>
    rw [valueFrom_cons] at h
    split at h
    · rename_i hc
      intro d hd
      rcases List.mem_cons.1 hd with rfl | hd
      · exact hc
      · exact ih h d hd
    · simp at h

/-- Every character of a decimal numeral is an ASCII digit. -/
theorem isDigit_of_valueFrom {acc n : Nat} {s : List Char} (h : valueFrom 10 acc s = some n) :
    ∀ c ∈ s, c.isDigit :=
  fun c hc => digitValue_lt_ten_iff.1 (digitValue_lt_of_valueFrom h c hc)

end ContainerWatch.Numeral
