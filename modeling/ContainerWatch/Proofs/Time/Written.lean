import ContainerWatch.Proofs.Numeral
import ContainerWatch.Proofs.Text.Separation
import ContainerWatch.Proofs.Time.Calendar
import ContainerWatch.Time.Clock
/-!
# The written time

What is printed for an instant can be taken apart again.  The spaces, dashes, colons and the point stand
between numbers, the leap second is the only second 60, and the number of digits says how much of a second
the last number counts.

There are two steps.  A text is taken apart into what calendar and clock show (`Moment.text_injective_of_fraction_lt`),
and what they show is shown for one instant only (`Moment.ofInstant_injective`).  The second step needs that the
calendar gives no date to two days, and that a second longer than a second is the last one of its minute.

Main statement: `Instant.text_injective`, no two instants are printed alike, in whatever year they are.
-/

namespace ContainerWatch

open Numeral Text

namespace Moment

/-! ## Characters of a written time -/

/-- A character of a written date: a digit or one of the signs.  A year outside of the four digits has a sign at its
front. -/
theorem notMem_dateText {c : Char} (hc : c.isDigit = false) (hminus : c ≠ '-') (hplus : c ≠ '+')
    (d : Date) : c ∉ dateText d := by
  have hyear : c ∉ yearText d.year := by
    unfold yearText
    split
    · exact notMem_padded hc 4 _
    · intro h
      rcases List.mem_cons.1 h with h | h
      · split at h
        · exact hminus h
        · exact hplus h
      · exact notMem_padded hc 4 _ h
  have hmonth := notMem_padded hc 2 d.month
  have hday := notMem_padded hc 2 d.day
  simp [dateText, hyear, hmonth, hday, hminus]

/-- A part of a second is a point and a number that counts a decimal part of it, unless it is zero. -/
theorem fractionText_of_ne_zero {f : Nat} (h0 : f ≠ 0) :
    ∃ width n, 0 < width ∧ width ≤ 9 ∧ f = n * Nat.pow 10 (9 - width) ∧
      fractionText f = '.' :: padded width n := by
  rw [fractionText, if_neg h0]
  by_cases h6 : f % 1000000 = 0
  · have hf : f = f / 1000000 * 1000000 := by omega
    exact ⟨3, f / 1000000, by decide, by decide, hf, by rw [if_pos h6]⟩
  · by_cases h3 : f % 1000 = 0
    · have hf : f = f / 1000 * 1000 := by omega
      exact ⟨6, f / 1000, by decide, by decide, hf, by rw [if_neg h6, if_pos h3]⟩
    · exact ⟨9, f, by decide, by decide, (Nat.mul_one f).symm, by rw [if_neg h6, if_neg h3]⟩

/-- A number that counts a decimal part of a second has no more digits than the part has places. -/
theorem lt_pow_of_mul_lt {width n : Nat} (hwidth : width ≤ 9)
    (h : n * Nat.pow 10 (9 - width) < 1000000000) : n < Nat.pow 10 width := by
  have hpow : Nat.pow 10 (9 - width) * Nat.pow 10 width = 1000000000 := pow_ten_sub_mul hwidth
  rw [Nat.mul_comm, ← hpow] at h
  exact Nat.lt_of_mul_lt_mul_left h

theorem notMem_fractionText {c : Char} (hc : c.isDigit = false) (hpoint : c ≠ '.') (f : Nat) :
    c ∉ fractionText f := by
  by_cases h0 : f = 0
  · rw [h0]
    exact List.not_mem_nil
  · obtain ⟨width, n, -, -, -, htext⟩ := fractionText_of_ne_zero h0
    rw [htext]
    exact fun h => (List.mem_cons.1 h).elim hpoint (notMem_padded hc width n)

/-- A comma stands in no written time. -/
theorem comma_notMem_text (m : Moment) : ',' ∉ m.text := by
  have hdate := notMem_dateText (c := ',') rfl (by decide) (by decide) m.date
  have hfraction := notMem_fractionText (c := ',') rfl (by decide) m.fraction
  have hpadded (n : Nat) : ',' ∉ padded 2 n := notMem_padded rfl 2 n
  simp [text, clockText, hdate, hfraction, hpadded]

/-! ## Equal texts are of equal moments -/

/-- No two years are written alike.  A sign tells the years that four digits cannot write from those that they can. -/
theorem yearText_injective {y z : Int} (h : yearText y = yearText z) : y = z := by
  have hsigned (x : Int) (m n : Nat) :
      (if x < 0 then '-' else '+') :: padded 4 m ≠ padded 4 n := by
    have hsign : (if x < 0 then '-' else '+').isDigit = false := by split <;> rfl
    intro heq
    exact notMem_padded hsign 4 n (heq ▸ List.mem_cons_self)
  -- with four digits or with a sign: a year of the one kind is not written like one of the other
  by_cases hy : 0 ≤ y ∧ y ≤ 9999
  · by_cases hz : 0 ≤ z ∧ z ≤ 9999
    · rw [yearText, yearText, if_pos hy, if_pos hz] at h
      have hvalue := padded_injective h
      omega
    · rw [yearText, yearText, if_pos hy, if_neg hz] at h
      exact absurd h.symm (hsigned z _ _)
  · by_cases hz : 0 ≤ z ∧ z ≤ 9999
    · rw [yearText, yearText, if_neg hy, if_pos hz] at h
      exact absurd h (hsigned y _ _)
    · rw [yearText, yearText, if_neg hy, if_neg hz] at h
      obtain ⟨hsign, hdigits⟩ := List.cons.inj h
      have habs := padded_injective hdigits
      have hneg : y < 0 ↔ z < 0 := by
        by_cases hy0 : y < 0 <;> by_cases hz0 : z < 0 <;> simp [hy0, hz0] at hsign ⊢
      omega

/-- No two dates are written alike.  The dashes are found from the end, since a year may begin with one. -/
theorem dateText_injective {d e : Date} (h : dateText d = dateText e) : d = e := by
  have hdash (n : Nat) : '-' ∉ padded 2 n := notMem_padded rfl 2 n
  obtain ⟨hfront, hday⟩ := eq_of_append_cons_of_last (hdash d.day) (hdash e.day) h
  obtain ⟨hyear, hmonth⟩ := eq_of_append_cons_of_last (hdash d.month) (hdash e.month) hfront
  cases d
  cases e
  rw [Date.mk.injEq]
  exact ⟨yearText_injective hyear, padded_injective hmonth, padded_injective hday⟩

/-- No two parts of a second are written alike, whatever number of digits they are written with. -/
theorem fractionText_injective {f g : Nat} (hf : f < 1000000000) (hg : g < 1000000000)
    (h : fractionText f = fractionText g) : f = g := by
  by_cases hf0 : f = 0
  · by_cases hg0 : g = 0
    · rw [hf0, hg0]
    · obtain ⟨width, n, -, -, -, htext⟩ := fractionText_of_ne_zero hg0
      rw [hf0, htext] at h
      cases h
  · by_cases hg0 : g = 0
    · obtain ⟨width, n, -, -, -, htext⟩ := fractionText_of_ne_zero hf0
      rw [hg0, htext] at h
      cases h
    · obtain ⟨v, m, hv0, hv9, hfm, hftext⟩ := fractionText_of_ne_zero hf0
      obtain ⟨w, n, hw0, hw9, hgn, hgtext⟩ := fractionText_of_ne_zero hg0
      rw [hftext, hgtext] at h
      obtain ⟨-, hdigits⟩ := List.cons.inj h
      have hlength := congrArg List.length hdigits
      rw [length_padded hv0 (lt_pow_of_mul_lt hv9 (hfm ▸ hf)),
        length_padded hw0 (lt_pow_of_mul_lt hw9 (hgn ▸ hg))] at hlength
      rw [hfm, hgn, hlength, padded_injective hdigits]

/-- A second and its part are recovered from what is written for both. -/
theorem second_fraction_of_append {s t f g : Nat} (hf : f < 1000000000) (hg : g < 1000000000)
    (h : padded 2 s ++ fractionText f = padded 2 t ++ fractionText g) : s = t ∧ f = g := by
  have hpoint (n : Nat) : '.' ∉ padded 2 n := notMem_padded rfl 2 n
  by_cases hf0 : f = 0
  · by_cases hg0 : g = 0
    · subst hf0 hg0
      exact ⟨padded_injective (List.append_cancel_right h), rfl⟩
    · obtain ⟨width, n, -, -, -, htext⟩ := fractionText_of_ne_zero hg0
      rw [hf0, htext, fractionText, if_pos rfl, List.append_nil] at h
      exact absurd h.symm (append_cons_ne (hpoint s))
  · by_cases hg0 : g = 0
    · obtain ⟨width, n, -, -, -, htext⟩ := fractionText_of_ne_zero hf0
      rw [hg0, htext, fractionText, if_pos rfl, List.append_nil] at h
      exact absurd h (append_cons_ne (hpoint t))
    · obtain ⟨v, m, -, -, -, hftext⟩ := fractionText_of_ne_zero hf0
      obtain ⟨w, n, -, -, -, hgtext⟩ := fractionText_of_ne_zero hg0
      have hcut := h
      rw [hftext, hgtext] at hcut
      obtain ⟨hst, hdigits⟩ := eq_of_append_cons (hpoint s) (hpoint t) hcut
      refine ⟨padded_injective hst, fractionText_injective hf hg ?_⟩
      rw [hftext, hgtext, hdigits]

/-- No two moments are written alike when what they show of a second is less than one. -/
theorem text_injective_of_fraction_lt {m n : Moment} (hm : m.fraction < 1000000000)
    (hn : n.fraction < 1000000000) (h : m.text = n.text) : m = n := by
  have hspace (d : Date) : ' ' ∉ dateText d := notMem_dateText rfl (by decide) (by decide) d
  have hcolon (k : Nat) : ':' ∉ padded 2 k := notMem_padded rfl 2 k
  obtain ⟨hdate, hclock⟩ :=
    eq_of_append_cons (hspace m.date) (hspace n.date) (List.append_cancel_right h)
  simp only [clockText, List.append_assoc, List.cons_append] at hclock
  obtain ⟨hhour, hrest⟩ := eq_of_append_cons (hcolon m.hour) (hcolon n.hour) hclock
  obtain ⟨hminute, hseconds⟩ := eq_of_append_cons (hcolon m.minute) (hcolon n.minute) hrest
  obtain ⟨hsecond, hfraction⟩ := second_fraction_of_append hm hn hseconds
  cases m
  cases n
  rw [Moment.mk.injEq]
  exact ⟨dateText_injective hdate, padded_injective hhour, padded_injective hminute, hsecond, hfraction⟩

/-! ## Equal moments are of equal instants -/

theorem fraction_ofInstant_lt (t : Instant) : (ofInstant t).fraction < 1000000000 :=
  Nat.mod_lt t.nanos (by decide)

/-- Calendar and clock show two instants differently, a leap second included.  Second 60 is shown for a full second
after second 59 and for nothing else. -/
theorem ofInstant_injective {s t : Instant} (h : ofInstant s = ofInstant t) : s = t := by
  obtain ⟨hdate, hhour, hminute, hsecond, hfraction⟩ := Moment.mk.inj h
  have hdays := Date.ofDays_injective hdate
  have hs := s.leap
  have ht := t.leap
  have hsn := s.nanos_lt
  have htn := t.nanos_lt
  refine Instant.ext ?_ ?_ <;> omega

end Moment

/-- No two instants are printed alike. -/
theorem Instant.text_injective {s t : Instant} (h : s.text = t.text) : s = t :=
  Moment.ofInstant_injective (Moment.text_injective_of_fraction_lt (Moment.fraction_ofInstant_lt s)
    (Moment.fraction_ofInstant_lt t) (String.ofList_injective h))

/-- A comma is never printed for an instant. -/
theorem Instant.freeOf_comma_text (t : Instant) : Text.FreeOf ',' t.text :=
  Text.freeOf_ofList.2 (Moment.comma_notMem_text (Moment.ofInstant t))

end ContainerWatch
