import ContainerWatch.Failure.Transition
import ContainerWatch.Proofs.Numeral
import ContainerWatch.Proofs.Text.Separation
import Mathlib.Algebra.Order.Field.Rat
import Mathlib.Data.List.DropRight
import Mathlib.Tactic.FieldSimp
/-!
# Timeout messages are exact

A length of time is printed as a numeral and a unit.  The numeral is read back, as a rational number, to
exactly the length in the unit (`Wait.rational?_numeral`): the zeros that fill its decimals up on the left are
kept, and those at its end change nothing.  Numeral and unit can be told apart, and no length holds a space, so
that a message is cut at its last one, whatever stands before it.

What a printed length has to tell is stated without the printer (`Wait.Tells`): a number of the unit, as a rational
number, that makes up the length exactly; no zero at the end of the decimals; and the largest unit that fits.  Lengths
are whole nanoseconds throughout, so nothing is rounded anywhere.

Main statement: `Transition.timedOut_message`.
-/

namespace ContainerWatch

/-! ## Numerals with decimals -/

namespace Numeral

/-- The number that a decimal numeral stands for, with decimals after a point or without. -/
def rational? (s : List Char) : Option ℚ :=
  match Text.cutAt '.' s with
  | none => (natural? s).map fun n : Nat => (n : ℚ)
  | some (whole, decimals) =>
    (natural? whole).bind fun n : Nat =>
      (natural? decimals).map fun d : Nat => (n : ℚ) + (d : ℚ) / 10 ^ decimals.length

theorem rational?_decimal (n : Nat) : rational? (decimal n) = some (n : ℚ) := by
  rw [rational?, Text.cutAt_eq_none_iff.2 (notMem_decimal rfl n), natural?_decimal]
  rfl

/-- Decimals after the point add a fraction.  The zeros at their front count, since the fraction is taken over as many
places as there are decimals. -/
theorem rational?_append_point (n : Nat) {ds : List Char} (hne : ds ≠ []) (hdigits : ∀ c ∈ ds, c.isDigit) :
    rational? (decimal n ++ '.' :: ds) = some ((n : ℚ) + (Nat.ofDigitChars 10 ds 0 : ℚ) / 10 ^ ds.length) := by
  rw [rational?, Text.cutAt_append ds (notMem_decimal rfl n)]
  dsimp only
  rw [natural?_decimal, natural?_eq_some_iff.2 ⟨hne, hdigits, rfl⟩]
  rfl

end Numeral

namespace Wait

/-! ## Zeros at the end -/

theorem dropZeros_eq (s : List Char) : dropZeros s = s.rdropWhile (· == '0') := rfl

/-- Only zeros are dropped. -/
theorem exists_eq_dropZeros_append (s : List Char) : ∃ z, s = dropZeros s ++ List.replicate z '0' := by
  have hzeros : s.rtakeWhile (· == '0') = List.replicate (s.rtakeWhile (· == '0')).length '0' :=
    List.eq_replicate_iff.2 ⟨rfl, fun c hc => eq_of_beq (List.mem_rtakeWhile_imp (p := (· == '0')) hc)⟩
  refine ⟨(s.rtakeWhile (· == '0')).length, ?_⟩
  rw [← hzeros, dropZeros_eq, List.rdropWhile_append_rtakeWhile]

/-- No zero is left at the end. -/
theorem getLast?_dropZeros_ne (s : List Char) : (dropZeros s).getLast? ≠ some '0' := by
  intro h
  obtain ⟨hne, hlast⟩ := List.mem_getLast?_eq_getLast h
  exact List.rdropWhile_last_not _ s hne (beq_iff_eq.2 hlast.symm)

theorem mem_of_mem_dropZeros {s : List Char} {c : Char} (h : c ∈ dropZeros s) : c ∈ s :=
  (List.rdropWhile_prefix (· == '0') (l := s)).subset h

/-- Zeros at the end do not change what decimals are worth: each makes the number ten times as large, over ten times
as large a place. -/
theorem ofDigitChars_dropZeros (s : List Char) :
    (Nat.ofDigitChars 10 (dropZeros s) 0 : ℚ) / 10 ^ (dropZeros s).length =
      (Nat.ofDigitChars 10 s 0 : ℚ) / 10 ^ s.length := by
  obtain ⟨z, hz⟩ := exists_eq_dropZeros_append s
  have hvalue : Nat.ofDigitChars 10 s 0 = 10 ^ z * Nat.ofDigitChars 10 (dropZeros s) 0 := by
    conv_lhs => rw [hz]
    rw [Nat.ofDigitChars_append, Nat.ofDigitChars_replicate_zero]
  have hlength : s.length = (dropZeros s).length + z := by
    conv_lhs => rw [hz]
    rw [List.length_append, List.length_replicate]
  rw [hvalue, hlength, pow_add]
  push_cast
  field_simp

/-! ## The numeral of a length -/

/-- How many nanoseconds a unit is long. -/
def Scale.nanos : Scale → Nat
  | second => 1000000000
  | millisecond => 1000000
  | microsecond => 1000
  | nanosecond => 1

theorem Scale.pow_digits (u : Scale) : Nat.pow 10 u.digits = u.nanos := by cases u <;> rfl

theorem Scale.nanos_pos (u : Scale) : 0 < u.nanos := by cases u <;> decide

theorem Scale.nanos_ne_zero (u : Scale) : (u.nanos : ℚ) ≠ 0 := Nat.cast_ne_zero.2 u.nanos_pos.ne'

theorem Scale.symbol_injective {u v : Scale} (h : u.symbol = v.symbol) : u = v := by
  cases u <;> cases v <;> first | rfl | exact absurd h (by decide)

/-- The decimals of a number that is not zero are worth exactly the number, without a zero at their end.  The number
is filled up to all its places before the zeros at the end go, so a small number is not taken for a larger one. -/
theorem decimals_eq {places n : Nat} (h0 : n ≠ 0) (h : n < Nat.pow 10 places) :
    ∃ ds, decimals places n = '.' :: ds ∧ ds ≠ [] ∧ (∀ c ∈ ds, c.isDigit) ∧ ds.getLast? ≠ some '0' ∧
      (Nat.ofDigitChars 10 ds 0 : ℚ) / 10 ^ ds.length = (n : ℚ) / (Nat.pow 10 places : Nat) := by
  have hplaces : 0 < places := by
    rcases Nat.eq_zero_or_pos places with rfl | hpos
    · exact absurd (Nat.lt_one_iff.1 h) h0
    · exact hpos
  have hvalue : Nat.ofDigitChars 10 (Numeral.padded places n) 0 = n :=
    (Numeral.natural?_eq_some_iff.1 (Numeral.natural?_padded places n)).2.2
  have hexact := ofDigitChars_dropZeros (Numeral.padded places n)
  rw [hvalue, Numeral.length_padded hplaces h] at hexact
  refine ⟨dropZeros (Numeral.padded places n), if_neg h0, fun hnil => ?_,
    fun c hc => Numeral.isDigit_of_mem_padded (mem_of_mem_dropZeros hc), getLast?_dropZeros_ne _, ?_⟩
  · -- without a digit left the number would be zero
    rw [hnil] at hexact
    have hzero : (n : ℚ) / 10 ^ places = 0 := by simpa using hexact.symm
    have hn : (n : ℚ) = 0 := by simpa using hzero
    exact h0 (by exact_mod_cast hn)
  · rw [hexact, Nat.pow_eq]
    push_cast
    rfl

/-- The numeral of a length has decimals when the length is not a whole number of the unit.  All that is shown about
numerals goes through these two cases. -/
theorem numeral_eq (w : Wait) (u : Scale) :
    (w.numeral u = Numeral.decimal (w.nanos / u.nanos) ∧ w.nanos % u.nanos = 0) ∨
      ∃ ds, w.numeral u = Numeral.decimal (w.nanos / u.nanos) ++ '.' :: ds ∧ ds ≠ [] ∧ (∀ c ∈ ds, c.isDigit) ∧
        ds.getLast? ≠ some '0' ∧
        (Nat.ofDigitChars 10 ds 0 : ℚ) / 10 ^ ds.length = (w.nanos % u.nanos : Nat) / u.nanos := by
  have hnumeral : w.numeral u =
      Numeral.decimal (w.nanos / u.nanos) ++ decimals u.digits (w.nanos % u.nanos) := by
    rw [numeral, Scale.pow_digits]
  by_cases h0 : w.nanos % u.nanos = 0
  · refine Or.inl ⟨?_, h0⟩
    rw [hnumeral, h0, decimals, if_pos rfl, List.append_nil]
  · have hlt : w.nanos % u.nanos < Nat.pow 10 u.digits := by
      rw [Scale.pow_digits]
      exact Nat.mod_lt _ u.nanos_pos
    obtain ⟨ds, hds, hne, hdigits, hlast, hexact⟩ := decimals_eq h0 hlt
    rw [Scale.pow_digits] at hexact
    exact Or.inr ⟨ds, by rw [hnumeral, hds], hne, hdigits, hlast, hexact⟩

/-- The numeral of a length stands for exactly the length in the unit: the whole part is the quotient, and the
decimals are worth the remainder over the unit. -/
theorem rational?_numeral (w : Wait) (u : Scale) :
    Numeral.rational? (w.numeral u) = some ((w.nanos : ℚ) / u.nanos) := by
  have hsplit : (w.nanos : ℚ) = u.nanos * (w.nanos / u.nanos : Nat) + (w.nanos % u.nanos : Nat) := by
    exact_mod_cast (Nat.div_add_mod w.nanos u.nanos).symm
  have hexact : (w.nanos : ℚ) / u.nanos =
      (w.nanos / u.nanos : Nat) + ((w.nanos % u.nanos : Nat) : ℚ) / u.nanos := by
    rw [hsplit, add_div, mul_div_cancel_left₀ _ u.nanos_ne_zero]
  obtain ⟨hnumeral, h0⟩ | ⟨ds, hnumeral, hne, hdigits, -, hworth⟩ := numeral_eq w u
  · rw [hnumeral, Numeral.rational?_decimal, hexact, h0]
    simp
  · rw [hnumeral, Numeral.rational?_append_point _ hne hdigits, hworth, hexact]

/-- A numeral is made of digits and a point. -/
theorem isDigit_of_mem_numeral {w : Wait} {u : Scale} {c : Char} (h : c ∈ w.numeral u) : c.isDigit ∨ c = '.' := by
  obtain ⟨hnumeral, -⟩ | ⟨ds, hnumeral, -, hdigits, -⟩ := numeral_eq w u
  · rw [hnumeral] at h
    exact Or.inl (Numeral.isDigit_of_mem_decimal h)
  · rw [hnumeral] at h
    obtain h | h := List.mem_append.1 h
    · exact Or.inl (Numeral.isDigit_of_mem_decimal h)
    · obtain rfl | h := List.mem_cons.1 h
      · exact Or.inr rfl
      · exact Or.inl (hdigits c h)

/-- No decimals end in a zero. -/
theorem getLast?_numeral_ne {w : Wait} {u : Scale} (h : '.' ∈ w.numeral u) :
    (w.numeral u).getLast? ≠ some '0' := by
  obtain ⟨hnumeral, -⟩ | ⟨ds, hnumeral, hne, -, hlast, -⟩ := numeral_eq w u
  · rw [hnumeral] at h
    exact absurd h (Numeral.notMem_decimal rfl _)
  · obtain ⟨d, ds, rfl⟩ := List.exists_cons_of_ne_nil hne
    rw [hnumeral, List.getLast?_append_of_ne_nil _ (List.cons_ne_nil _ _), List.getLast?_cons_cons]
    exact hlast

/-! ## The unit of a length -/

/-- No larger unit fits into a length than its own. -/
theorem nanos_le_scale {w : Wait} {v : Scale} (h : v.nanos ≤ w.nanos) : v.nanos ≤ w.scale.nanos := by
  unfold scale
  split_ifs <;> cases v <;> simp only [Scale.nanos] at h ⊢ <;> omega

/-- The unit of a length fits into it. -/
theorem scale_nanos_le {w : Wait} (h : w.nanos ≠ 0) : w.scale.nanos ≤ w.nanos := by
  unfold scale
  split_ifs <;> simp only [Scale.nanos] <;> omega

/-- A numeral in a unit tells a number of nanoseconds: it stands for exactly as many of the unit, with no zero
at the end of its decimals, and the unit is the largest of which there is 1 at least. -/
structure Tells (numeral : List Char) (u : Scale) (total : Nat) : Prop where
  value : ∃ q, Numeral.rational? numeral = some q ∧ q * u.nanos = total ∧ (total ≠ 0 → 1 ≤ q)
  trimmed : '.' ∈ numeral → numeral.getLast? ≠ some '0'
  largest : ∀ v : Scale, 1 ≤ (total : ℚ) / v.nanos → v.nanos ≤ u.nanos
  zero : total = 0 → numeral = ['0'] ∧ u = .nanosecond

/-- There is one of a unit in a length, or more, when the unit is not longer. -/
theorem one_le_div_nanos_iff {total : Nat} {v : Scale} : 1 ≤ (total : ℚ) / v.nanos ↔ v.nanos ≤ total := by
  rw [one_le_div₀ (Nat.cast_pos.2 v.nanos_pos), Nat.cast_le]

/-- The printed length tells its nanoseconds, in its own unit. -/
theorem tells_numeral (w : Wait) : Tells (w.numeral w.scale) w.scale w.nanos where
  value := ⟨_, rational?_numeral w w.scale, div_mul_cancel₀ _ w.scale.nanos_ne_zero,
    fun h0 => one_le_div_nanos_iff.2 (scale_nanos_le h0)⟩
  trimmed := getLast?_numeral_ne
  largest v hv := nanos_le_scale (one_le_div_nanos_iff.1 hv)
  zero h0 := by
    obtain ⟨_⟩ := w
    obtain rfl : _ = 0 := h0
    exact ⟨by decide, rfl⟩

/-! ## Lengths and messages can be told apart -/

/-- A numeral and a unit are told apart where the letters begin.  No symbol begins with a digit or a point. -/
theorem eq_of_numeral_append_symbol {w w' : Wait} {u u' : Scale}
    (h : w.numeral u ++ u.symbol = w'.numeral u' ++ u'.symbol) : w.numeral u = w'.numeral u' ∧ u = u' := by
  have hmarks (w : Wait) (u : Scale) : ∀ c ∈ w.numeral u, c.isDigit || c == '.' := fun c hc =>
    Bool.or_eq_true_iff.2 ((isDigit_of_mem_numeral hc).imp id beq_iff_eq.2)
  have hletters (u : Scale) : u.symbol.takeWhile (fun c => c.isDigit || c == '.') = [] := by cases u <;> decide
  obtain ⟨hnumeral, hsymbol⟩ :=
    Text.eq_of_append_of_kind (hmarks w u) (hmarks w' u') (hletters u) (hletters u') h
  exact ⟨hnumeral, Scale.symbol_injective hsymbol⟩

/-- No two lengths are printed alike.  The unit and the number of it are read off the text, and together they make up
the length. -/
theorem text_injective {w w' : Wait} (h : w.text = w'.text) : w = w' := by
  obtain ⟨hnumeral, hscale⟩ := eq_of_numeral_append_symbol h
  have hread := congrArg Numeral.rational? hnumeral
  rw [rational?_numeral, rational?_numeral, ← hscale] at hread
  have hnanos : (w.nanos : ℚ) = w'.nanos := (div_left_inj' w.scale.nanos_ne_zero).1 (Option.some.inj hread)
  obtain ⟨_⟩ := w
  obtain ⟨_⟩ := w'
  rw [mk.injEq]
  exact_mod_cast hnanos

/-- No length holds a space. -/
theorem space_notMem_text (w : Wait) : ' ' ∉ w.text := by
  intro h
  obtain h | h := List.mem_append.1 h
  · obtain h | h := isDigit_of_mem_numeral h <;> cases h
  · revert h
    cases w.scale <;> decide

/-- Seconds that eight bytes hold, and less than a second beside them, are a length. -/
theorem ofParts?_eq_some {seconds nanos : Nat} (hseconds : seconds ≤ Numeral.nat64Max)
    (hnanos : nanos < 1000000000) :
    ofParts? seconds nanos = some ⟨seconds * 1000000000 + nanos⟩ := by
  rw [ofParts?, Nat.div_eq_of_lt hnanos, Nat.add_zero, if_pos hseconds]

theorem nanos_of_ofParts? {seconds nanos : Nat} {w : Wait} (h : ofParts? seconds nanos = some w) :
    w.nanos = seconds * 1000000000 + nanos := by
  unfold ofParts? at h
  split at h <;> cases h
  rfl

end Wait

namespace Transition

/-- What stands between fixed texts and what stands after them are told apart at the last space. -/
theorem eq_of_append_ofList {front middle transition transition' : String} {before s s' : List Char}
    (hmiddle : middle.toList = before ++ [' ']) (hs : ' ' ∉ s) (hs' : ' ' ∉ s')
    (h : front ++ transition ++ middle ++ String.ofList s = front ++ transition' ++ middle ++ String.ofList s') :
    transition = transition' ∧ s = s' := by
  have hlist (t : String) (s : List Char) : (front ++ t ++ middle ++ String.ofList s).toList =
      front.toList ++ t.toList ++ before ++ ' ' :: s := by
    rw [String.toList_append, String.toList_append, String.toList_append, hmiddle, String.toList_ofList,
      ← List.append_assoc, List.append_assoc _ [' '], List.singleton_append]
  have hcut := congrArg String.toList h
  rw [hlist, hlist] at hcut
  obtain ⟨hfront, hrest⟩ := Text.eq_of_append_cons_of_last hs hs' hcut
  exact ⟨String.toList_injective (List.append_cancel_left (List.append_cancel_right hfront)), hrest⟩

/-- A message is cut at its last space, whatever the text of the transition holds.  So a transition that ends like a
message is no trouble. -/
theorem timeoutMessage_injective {transition transition' : String} {w w' : Wait}
    (h : timeoutMessage transition w = timeoutMessage transition' w') : transition = transition' ∧ w = w' := by
  have hmiddle : "; timed out after waiting ".toList = "; timed out after waiting".toList ++ [' '] := by decide
  obtain ⟨htransition, htext⟩ :=
    eq_of_append_ofList hmiddle (Wait.space_notMem_text w) (Wait.space_notMem_text w') h
  exact ⟨htransition, Wait.text_injective htext⟩

/-- The message about a wait of any number of seconds that eight bytes hold, and of any nanoseconds beside them,
tells exactly how long it was; and messages are equal only for equal transitions and equal waits. -/
theorem timedOut_message (transition : String) {seconds nanos : Nat} (hseconds : seconds ≤ Numeral.nat64Max)
    (hnanos : nanos < 1000000000) :
    ∃ w, Wait.ofParts? seconds nanos = some w ∧
      (∃ numeral u, (timedOut transition w).message =
          "Could not transition to " ++ transition ++ "; timed out after waiting " ++
            String.ofList (numeral ++ u.symbol) ∧
        Wait.Tells numeral u (seconds * 1000000000 + nanos)) ∧
      ∀ transition' seconds' nanos' w', nanos' < 1000000000 → Wait.ofParts? seconds' nanos' = some w' →
        (timedOut transition' w').message = (timedOut transition w).message →
          transition' = transition ∧ seconds' = seconds ∧ nanos' = nanos := by
  refine ⟨⟨seconds * 1000000000 + nanos⟩, Wait.ofParts?_eq_some hseconds hnanos,
    ⟨_, _, rfl, Wait.tells_numeral _⟩, fun transition' seconds' nanos' w' hnanos' hparts hmessage => ?_⟩
  obtain ⟨htransition, rfl⟩ := timeoutMessage_injective hmessage
  have htotal : seconds * 1000000000 + nanos = seconds' * 1000000000 + nanos' := Wait.nanos_of_ofParts? hparts
  exact ⟨htransition, by omega, by omega⟩

/-- A transition that imitates the end of a message. -/
def imitation : String := "started; timed out after waiting 3s"

/-- One nanosecond less than a second is told exactly, and not as one second is, also behind an imitation. -/
theorem timedOut_message_imitation :
    ∃ w, Wait.ofParts? 0 999999999 = some w ∧
      (∃ numeral u, (timedOut imitation w).message =
          "Could not transition to " ++ imitation ++ "; timed out after waiting " ++
            String.ofList (numeral ++ u.symbol) ∧
        Wait.Tells numeral u 999999999) ∧
      (timedOut imitation ⟨1000000000⟩).message ≠ (timedOut imitation w).message := by
  have hnanos : 999999999 < 1000000000 := by decide
  obtain ⟨w, hw, htells, hinjective⟩ := timedOut_message imitation (Nat.zero_le Numeral.nat64Max) hnanos
  refine ⟨w, hw, htells, fun h => ?_⟩
  exact absurd (hinjective imitation 1 0 _ (by decide) rfl h).2.1 (by decide)

end Transition

end ContainerWatch
