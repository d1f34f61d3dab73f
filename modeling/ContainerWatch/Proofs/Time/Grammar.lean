import ContainerWatch.Proofs.Numeral
import ContainerWatch.Time.Rfc3339
/-!
# How timestamps are written

The written form of a timestamp as a grammar, apart from the reader: numbers of a fixed width with signs
between them, a part of the second with any number of digits, and an offset at the end.  The reader takes
exactly what the grammar has, and takes it for the same timestamp.  Only the digits of the part of a second
have no fixed end; an offset never starts with a digit, so they end where it starts.

Each small reader has a lemma that says for which texts it gives what, with the rest of the text left over
(`digits?_eq_some_iff`, `after?_eq_some_iff`, `fraction?_append`, `offset?_eq_some_iff`).  The reader of a timestamp is
these readers one after another, so its lemma is theirs one after another.

Main statement: `Timestamp.read?_eq_some_iff`.
-/

namespace ContainerWatch.Timestamp

open Numeral

/-! ## The grammar -/

/-- A number written with exactly so many decimal digits.  Zeros fill it up at the front. -/
structure IsNumber (width n : Nat) (s : List Char) : Prop where
  length : s.length = width
  isDigit : ∀ c ∈ s, c.isDigit
  value : Nat.ofDigitChars 10 s 0 = n

/-- A part of a second in whole nanoseconds: nothing, or a point and one digit or more, rounded down.  There may be
any number of digits, and those after the ninth count for nothing. -/
inductive IsFraction : List Char → Nat → Prop
  | absent : IsFraction [] 0
  | digits {ds : List Char} (hne : ds ≠ []) (hdigits : ∀ c ∈ ds, c.isDigit) :
    IsFraction ('.' :: ds) (Nat.ofDigitChars 10 ds 0 * 1000000000 / Nat.pow 10 ds.length)

/-- An offset in minutes: a letter for none, or a sign with hours and minutes.  The minus sign may be the hyphen or
the mathematical one. -/
inductive IsOffset : List Char → Int → Prop
  | zulu {c : Char} (hc : c = 'Z' ∨ c = 'z') : IsOffset [c] 0
  | signed {c : Char} {sign : Int} {hs ms : List Char} {hours minutes : Nat}
    (hsign : c = '+' ∧ sign = 1 ∨ (c = '-' ∨ c = '\u2212') ∧ sign = -1)
    (hhours : IsNumber 2 hours hs) (hminutes : IsNumber 2 minutes ms) (h23 : hours ≤ 23)
    (h59 : minutes ≤ 59) : IsOffset (c :: (hs ++ ':' :: ms)) (sign * (hours * 60 + minutes))

/-- A text that is a timestamp as a whole.  Whether the calendar has the date and the clock can show the time is not
asked here. -/
inductive Spells : List Char → Timestamp → Prop
  | mk {ys mos ds hs mis ss fs os : List Char} {mark : Char}
    {year month day hour minute second fraction : Nat} {offset : Int}
    (hyear : IsNumber 4 year ys) (hmonth : IsNumber 2 month mos) (hday : IsNumber 2 day ds)
    (hmark : mark = 'T' ∨ mark = 't' ∨ mark = ' ') (hhour : IsNumber 2 hour hs)
    (hminute : IsNumber 2 minute mis) (hsecond : IsNumber 2 second ss)
    (hfraction : IsFraction fs fraction) (hoffset : IsOffset os offset) :
    Spells (ys ++ '-' :: (mos ++ '-' :: (ds ++ mark :: (hs ++ ':' :: (mis ++ ':' :: (ss ++ (fs ++ os)))))))
      ⟨⟨⟨year, month, day⟩, hour, minute, second, fraction⟩, offset⟩

/-! ## Numbers and signs -/

/-- A number of a fixed width is taken off the front of a text. -/
theorem digits?_eq_some_iff {width n : Nat} (hwidth : 0 < width) {s rest : List Char} :
    digits? width s = some (n, rest) ↔ ∃ ds, s = ds ++ rest ∧ IsNumber width n ds := by
  constructor
  · intro h
    unfold digits? at h
    split at h
    · rename_i hlength
      obtain ⟨m, hm, heq⟩ := Option.map_eq_some_iff.1 h
      cases heq
      obtain ⟨-, hdigits, hvalue⟩ := natural?_eq_some_iff.1 hm
      exact ⟨s.take width, (List.take_append_drop width s).symm, hlength, hdigits, hvalue⟩
    · cases h
  · rintro ⟨ds, rfl, hlength, hdigits, hvalue⟩
    have hne : ds ≠ [] := List.ne_nil_of_length_pos (hlength ▸ hwidth)
    rw [digits?, List.take_left' hlength, List.drop_left' hlength, if_pos hlength,
      natural?_eq_some_iff.2 ⟨hne, hdigits, hvalue⟩, Option.map_some]

theorem IsNumber.digits? {width n : Nat} (hwidth : 0 < width) {ds : List Char} (h : IsNumber width n ds)
    (rest : List Char) : digits? width (ds ++ rest) = some (n, rest) :=
  (digits?_eq_some_iff hwidth).2 ⟨ds, rfl, h⟩

theorem after?_eq_some_iff {accepted : Char → Bool} {s rest : List Char} :
    after? accepted s = some rest ↔ ∃ c, accepted c ∧ s = c :: rest := by
  cases s with
  | nil => simp [after?]
  | cons c s =>
    rw [after?]
    constructor
    · intro h
      split at h
      · rename_i hc
        exact ⟨c, hc, congrArg (c :: ·) (Option.some.inj h)⟩
      · cases h
    · rintro ⟨d, hd, heq⟩
      cases heq
      exact if_pos hd

/-! ## Parts of a second -/

/-- The digits after the ninth are dropped: what is left is the part of the second rounded down. -/
theorem fractionValue_eq {ds : List Char} (hne : ds ≠ []) (hdigits : ∀ c ∈ ds, c.isDigit) :
    fractionValue ds = Nat.ofDigitChars 10 ds 0 * 1000000000 / Nat.pow 10 ds.length := by
  have hkept : natural? (ds.take 9) = some (Nat.ofDigitChars 10 (ds.take 9) 0) := by
    have hkeptne : ds.take 9 ≠ [] := by simpa using hne
    exact natural?_eq_some_iff.2 ⟨hkeptne, fun c hc => hdigits c (List.mem_of_mem_take hc), rfl⟩
  rw [fractionValue, hkept, Option.getD_some]
  by_cases hlength : ds.length ≤ 9
  · have hpow : Nat.pow 10 (9 - ds.length) * Nat.pow 10 ds.length = 1000000000 := pow_ten_sub_mul hlength
    rw [List.take_of_length_le hlength, ← hpow, ← Nat.mul_assoc, Nat.mul_div_cancel _ (pow_ten_pos _)]
  · have hnine : (ds.take 9).length = 9 := by
      rw [List.length_take]
      omega
    have hpow : Nat.pow 10 ds.length = Nat.pow 10 (ds.drop 9).length * 1000000000 := by
      rw [List.length_drop]
      exact (pow_ten_sub_mul (Nat.le_of_not_le hlength)).symm
    have hvalue := ofDigitChars_append (ds.take 9) (ds.drop 9)
    have hdropped : Nat.ofDigitChars 10 (ds.drop 9) 0 < Nat.pow 10 (ds.drop 9).length :=
      ofDigitChars_lt_pow fun c hc => hdigits c (List.mem_of_mem_drop hc)
    rw [List.take_append_drop] at hvalue
    -- the digits after the ninth add less than one nanosecond, so they are lost in the division
    rw [hnine, hvalue, hpow, Nat.mul_div_mul_right _ _ (by decide), Nat.mul_add_div (pow_ten_pos _),
      Nat.div_eq_of_lt hdropped]
    exact Nat.mul_one _

/-- What is read as a part of a second is one, and it stands at the front of the text. -/
theorem exists_of_fraction? {s rest : List Char} {n : Nat} (h : fraction? s = some (n, rest)) :
    ∃ fs, s = fs ++ rest ∧ IsFraction fs n := by
  unfold fraction? at h
  split at h
  · rename_i after
    simp only at h
    split at h
    · cases h
    · rename_i hempty
      cases h
      have hne : after.takeWhile Char.isDigit ≠ [] := by simpa using hempty
      have hdigits : ∀ c ∈ after.takeWhile Char.isDigit, c.isDigit :=
        List.all_eq_true.1 List.all_takeWhile
      refine ⟨'.' :: after.takeWhile Char.isDigit, ?_, ?_⟩
      · rw [List.cons_append, List.takeWhile_append_dropWhile]
      · rw [fractionValue_eq hne hdigits]
        exact .digits hne hdigits
  · cases h
    exact ⟨[], rfl, .absent⟩

/-- A part of a second is read up to the end of its digits. -/
theorem fraction?_point {digits : List Char} (hne : digits ≠ []) (hdigits : ∀ d ∈ digits, d.isDigit)
    {c : Char} (hc : c.isDigit = false) (rest : List Char) :
    fraction? ('.' :: digits ++ c :: rest) = some (fractionValue digits, c :: rest) := by
  have htake : (digits ++ c :: rest).takeWhile Char.isDigit = digits := by
    rw [List.takeWhile_append_of_pos hdigits, List.takeWhile_cons_of_neg (by simp [hc]), List.append_nil]
  have hdrop : (digits ++ c :: rest).dropWhile Char.isDigit = c :: rest := by
    rw [List.dropWhile_append_of_pos hdigits, List.dropWhile_cons_of_neg (by simp [hc])]
  have hempty : digits.isEmpty = false := by
    rw [List.isEmpty_eq_false_iff]
    exact hne
  simp only [List.cons_append, fraction?, htake, hdrop, hempty]
  rfl

/-- Where no point stands there is no part of a second. -/
theorem fraction?_of_ne_point {c : Char} (hc : c ≠ '.') (rest : List Char) :
    fraction? (c :: rest) = some (0, c :: rest) := by
  unfold fraction?
  split
  · rename_i heq
    exact absurd (List.cons.inj heq).1 hc
  · rfl

/-- An offset starts with a character that no part of a second has. -/
theorem IsOffset.head {os : List Char} {offset : Int} (h : IsOffset os offset) :
    ∃ c rest, os = c :: rest ∧ c.isDigit = false ∧ c ≠ '.' := by
  cases h with
  | zulu hc => obtain rfl | rfl := hc <;> exact ⟨_, _, rfl, by decide, by decide⟩
  | signed hsign => obtain ⟨rfl, -⟩ | ⟨rfl | rfl, -⟩ := hsign <;> exact ⟨_, _, rfl, by decide, by decide⟩

/-- The digits of a part of a second end where the offset starts. -/
theorem fraction?_append {fs os : List Char} {n : Nat} {offset : Int} (hf : IsFraction fs n)
    (ho : IsOffset os offset) : fraction? (fs ++ os) = some (n, os) := by
  obtain ⟨c, rest, rfl, hdigit, hpoint⟩ := ho.head
  cases hf with
  | absent => exact fraction?_of_ne_point hpoint rest
  | digits hne hdigits => rw [fraction?_point hne hdigits hdigit, fractionValue_eq hne hdigits]

/-! ## Offsets -/

/-- The sign of an offset is a plus or one of two minus signs. -/
theorem offsetSign?_eq_some_iff {c : Char} {sign : Int} :
    offsetSign? c = some sign ↔ c = '+' ∧ sign = 1 ∨ (c = '-' ∨ c = '\u2212') ∧ sign = -1 := by
  unfold offsetSign?
  split
  · rename_i hplus
    subst hplus
    simp [eq_comm]
  · rename_i hplus
    simp [hplus, eq_comm]

/-- A text is read as an offset exactly when it is one, up to its end. -/
theorem offset?_eq_some_iff {s : List Char} {offset : Int} : offset? s = some offset ↔ IsOffset s offset := by
  constructor
  · intro h
    unfold offset? at h
    split at h
    · cases h
    · split at h
      · rename_i c rest hc
        split at h
        · rename_i hempty
          rw [List.isEmpty_iff] at hempty
          cases h
          rw [hempty]
          exact .zulu hc
        · cases h
      · simp only [bind, Option.bind_eq_some_iff, Prod.exists, digits?_eq_some_iff (Nat.succ_pos 1),
          after?_eq_some_iff, offsetSign?_eq_some_iff] at h
        obtain ⟨sign, hsign, hours, _, ⟨hs, rfl, hhours⟩, _, ⟨mark, hmark, rfl⟩, minutes, rest,
          ⟨ms, rfl, hminutes⟩, h⟩ := h
        split at h
        · rename_i hend
          simp only [Bool.and_eq_true, decide_eq_true_eq, List.isEmpty_iff] at hend
          obtain ⟨⟨rfl, h23⟩, h59⟩ := hend
          cases h
          rw [List.append_nil, eq_of_beq hmark]
          exact .signed hsign hhours hminutes h23 h59
        · cases h
  · intro h
    cases h with
    | zulu hc => obtain rfl | rfl := hc <;> rfl
    | @signed c sign hs ms hours minutes hsign hhours hminutes h23 h59 =>
      have hletter : ¬ (c = 'Z' ∨ c = 'z') := by
        obtain ⟨rfl, -⟩ | ⟨rfl | rfl, -⟩ := hsign <;> decide
      have hend := hminutes.digits? (Nat.succ_pos 1) []
      rw [List.append_nil] at hend
      rw [offset?, if_neg hletter, offsetSign?_eq_some_iff.2 hsign]
      simp [hhours.digits?, after?, hend, h23, h59]

/-! ## The whole -/

/-- A text is read as a timestamp exactly when it spells this timestamp.  From left to right the readers take the
parts off one by one; from right to left each of them finds its part at the front of what is left. -/
theorem read?_eq_some_iff {s : List Char} {w : Timestamp} : read? s = some w ↔ Spells s w := by
  constructor
  · intro h
    simp only [read?, bind, Option.bind_eq_some_iff, Prod.exists, digits?_eq_some_iff (Nat.succ_pos _),
      after?_eq_some_iff, offset?_eq_some_iff, Option.some.injEq] at h
    obtain ⟨year, _, ⟨ys, rfl, hyear⟩, _, ⟨c₁, hc₁, rfl⟩, month, _, ⟨mos, rfl, hmonth⟩, _, ⟨c₂, hc₂, rfl⟩,
      day, _, ⟨ds, rfl, hday⟩, _, ⟨mark, hmark, rfl⟩, hour, _, ⟨hs, rfl, hhour⟩, _, ⟨c₃, hc₃, rfl⟩,
      minute, _, ⟨mis, rfl, hminute⟩, _, ⟨c₄, hc₄, rfl⟩, second, _, ⟨ss, rfl, hsecond⟩,
      fraction, os, htaken, offset, hoffset, rfl⟩ := h
    obtain ⟨fs, rfl, hfraction⟩ := exists_of_fraction? htaken
    rw [eq_of_beq hc₁, eq_of_beq hc₂, eq_of_beq hc₃, eq_of_beq hc₄]
    simp only [Bool.or_eq_true, beq_iff_eq, or_assoc] at hmark
    exact .mk hyear hmonth hday hmark hhour hminute hsecond hfraction hoffset
  · rintro ⟨hyear, hmonth, hday, hmark, hhour, hminute, hsecond, hfraction, hoffset⟩
    have hmark' {c : Char} (hc : c = 'T' ∨ c = 't' ∨ c = ' ') :
        (c == 'T' || c == 't' || c == ' ') = true := by simpa [or_assoc] using hc
    rw [read?]
    simp only [bind, Option.bind_some, hyear.digits? (Nat.succ_pos _), hmonth.digits? (Nat.succ_pos _),
      hday.digits? (Nat.succ_pos _), hhour.digits? (Nat.succ_pos _), hminute.digits? (Nat.succ_pos _),
      hsecond.digits? (Nat.succ_pos _), after?, beq_self_eq_true, if_true, hmark' hmark,
      fraction?_append hfraction hoffset, offset?_eq_some_iff.2 hoffset]

end ContainerWatch.Timestamp
