import ContainerWatch.Proofs.Numeral
import ContainerWatch.Yaml.Core
import Mathlib.Data.List.Forall2
import Mathlib.Data.Nat.Digits.Defs
/-!
# What is written in a document

A scalar has a style, a tag and a text, and what it stands for depends on the type that is asked for.  Each type has a
relation here between scalars and values that lists the words, the numerals and the tags of the type, and each reader
of the library is shown to read along its relation and nothing else.  The relations do not mention the readers: a
number is the sum of its digits by their places, a truth value is one of six words, and null is one of four.

Lists of texts and mappings are pairs of lists that go together item by item.

So what is ill-typed is known as well: it is what stands in the relation of a type to no value.  A number with a minus
sign or a point is such a scalar, and so is one that eight bytes do not hold (`Scalar.not_isNumber`); a quoted number
is not a number, and a quoted word is not a truth value (`Scalar.Bears`).

Main statements: `Scalar.bool?_eq_some_iff`, `Scalar.nat64?_eq_some_iff` and `Scalar.optionalText?_eq_some_iff` for
scalars, `Document.texts?_eq_some_iff` and `Document.entries?_eq_some_iff` for what is made of them.
-/

namespace ContainerWatch

/-! ## Numbers by the places of their digits -/

namespace Numeral

/-- A character is the digit of a value below the base, letters in either case.  The digits are those of the library,
so no table of characters is made here. -/
def Digit (base : Nat) (c : Char) (v : Nat) : Prop :=
  v < base ∧ (c = Nat.digitChar v ∨ c = (Nat.digitChar v).toUpper)

/-- One digit or more write a number in a base, the ones last: the value of each digit counts by its place. -/
def Writes (base : Nat) (s : List Char) (n : Nat) : Prop :=
  s ≠ [] ∧ ∃ vs, List.Forall₂ (Digit base) s vs ∧ Nat.ofDigits base vs.reverse = n

/-- The digits of a value are read as the value. -/
theorem digitValue_of_digit {base v : Nat} {c : Char} (hbase : base ≤ 16) (h : Digit base c v) :
    digitValue c = v := by
  have hvalues : ∀ w < 16, digitValue (Nat.digitChar w) = w ∧ digitValue (Nat.digitChar w).toUpper = w := by decide
  obtain ⟨hv, rfl | rfl⟩ := h
  · exact (hvalues v (Nat.lt_of_lt_of_le hv hbase)).1
  · exact (hvalues v (Nat.lt_of_lt_of_le hv hbase)).2

/-- Characters with a value below 36 are ASCII characters. -/
theorem toNat_lt_of_digitValue {c : Char} (h : digitValue c < 36) : c.toNat < 128 := by
  unfold digitValue at h
  split at h
  · rename_i hdigit
    have hle : c.toNat ≤ 57 := (Char.isDigit_iff_toNat.1 hdigit).2
    omega
  · split at h
    · rename_i hlower
      have hle : c.toNat ≤ 122 := hlower.2
      omega
    · split at h
      · rename_i hupper
        have hle : c.toNat ≤ 90 := hupper.2
        omega
      · omega

/-- A character with a value up to base 16 is a digit of this value.  There are only as many characters to look at as
ASCII has. -/
theorem digit_digitValue {base : Nat} {c : Char} (hbase : base ≤ 16) (h : digitValue c < base) :
    Digit base c (digitValue c) := by
  have hdigits : ∀ k < 128, digitValue (Char.ofNat k) < 16 →
      Char.ofNat k = Nat.digitChar (digitValue (Char.ofNat k)) ∨
        Char.ofNat k = (Nat.digitChar (digitValue (Char.ofNat k))).toUpper := by decide
  have hvalue : digitValue c < 16 := Nat.lt_of_lt_of_le h hbase
  have hcode := hdigits c.toNat (toNat_lt_of_digitValue (Nat.lt_trans hvalue (by decide)))
  rw [Char.ofNat_toNat] at hcode
  exact ⟨h, hcode hvalue⟩

/-- A digit after a number is the next one on: the number before it counts for one place more. -/
theorem ofDigits_reverse_cons (base acc v : Nat) (vs : List Nat) :
    Nat.ofDigits base ((v :: vs).reverse ++ [acc]) = Nat.ofDigits base (vs.reverse ++ [acc * base + v]) := by
  have htwo : Nat.ofDigits base [v, acc] = Nat.ofDigits base [acc * base + v] := by
    rw [Nat.ofDigits_cons, Nat.ofDigits_singleton, Nat.ofDigits_singleton, Nat.mul_comm acc, Nat.add_comm v]
  rw [List.reverse_cons, List.append_assoc, List.singleton_append, Nat.ofDigits_append, htwo, ← Nat.ofDigits_append]

/-- A run of digits is read onto the value before it as onto a first digit.  The induction is on the run, with this
value left open. -/
theorem valueFrom_eq_some_iff {base acc n : Nat} {s : List Char} (hbase : base ≤ 16) :
    valueFrom base acc s = some n ↔
      ∃ vs, List.Forall₂ (Digit base) s vs ∧ Nat.ofDigits base (vs.reverse ++ [acc]) = n := by
  induction s generalizing acc with
  | nil => simp [valueFrom]
  | cons c rest ih =>
    rw [valueFrom_cons]
    constructor
    · intro h
      split at h
      · rename_i hc
        obtain ⟨vs, hvs, rfl⟩ := ih.1 h
        exact ⟨_, .cons (digit_digitValue hbase hc) hvs, ofDigits_reverse_cons _ _ _ _⟩
      · cases h
    · rintro ⟨_, hvs, rfl⟩
      obtain ⟨v, vs, hc, hrest, rfl⟩ := List.forall₂_cons_left_iff.1 hvs
      obtain rfl := digitValue_of_digit hbase hc
      rw [if_pos hc.1]
      exact ih.2 ⟨vs, hrest, (ofDigits_reverse_cons _ _ _ _).symm⟩

/-- A numeral in a base is one digit or more, by their places. -/
theorem inBase?_eq_some_iff {base n : Nat} {s : List Char} (hbase : base ≤ 16) :
    inBase? base s = some n ↔ Writes base s n := by
  cases s with
  | nil => exact ⟨nofun, fun h => absurd rfl h.1⟩
  | cons c rest =>
    have hzero (vs : List Nat) : Nat.ofDigits base (vs.reverse ++ [0]) = Nat.ofDigits base vs.reverse := by
      rw [Nat.ofDigits_append, Nat.ofDigits_singleton, Nat.mul_zero, Nat.add_zero]
    rw [inBase?, valueFrom_eq_some_iff hbase]
    simp only [hzero, Writes, ne_eq, reduceCtorEq, not_false_eq_true, true_and]

/-- A numeral has digits of its base only. -/
theorem Writes.digitValue_lt {base n : Nat} {s : List Char} (hbase : base ≤ 16) (h : Writes base s n) :
    ∀ c ∈ s, digitValue c < base := by
  obtain ⟨c, rest, rfl⟩ := List.exists_cons_of_ne_nil h.1
  exact digitValue_lt_of_valueFrom ((inBase?_eq_some_iff hbase).2 h)

end Numeral

namespace Yaml

/-! ## What scalars stand for -/

namespace Scalar

open Numeral (Writes)

/-- A value with a tag of its own stands in a plain scalar, or in a literal one with the tag. -/
def Bears (s : Scalar) (tag : String) : Prop := s.style = .plain ∨ s.style = .literal ∧ s.tag = some tag

/-- The words for the truth values. -/
inductive Truth : String → Bool → Prop
  | yes {word : String} (h : word ∈ ["true", "True", "TRUE"]) : Truth word true
  | no {word : String} (h : word ∈ ["false", "False", "FALSE"]) : Truth word false

/-- The numerals without a sign: decimal ones, which have no zero in front, and those with the mark of their base.  A
mark is a small letter, and zeros after it are allowed. -/
inductive Spells : List Char → Nat → Prop
  | decimal {ds : List Char} {n : Nat} (h : Writes 10 ds n) (hfront : ds = ['0'] ∨ ds.head? ≠ some '0') :
      Spells ds n
  | hexadecimal {ds : List Char} {n : Nat} (h : Writes 16 ds n) : Spells ('0' :: 'x' :: ds) n
  | octal {ds : List Char} {n : Nat} (h : Writes 8 ds n) : Spells ('0' :: 'o' :: ds) n
  | binary {ds : List Char} {n : Nat} (h : Writes 2 ds n) : Spells ('0' :: 'b' :: ds) n

/-- The numerals that may have a plus sign. -/
def Counts (s : List Char) (n : Nat) : Prop := ∃ ds, (s = ds ∨ s = '+' :: ds) ∧ Spells ds n

/-- The words for null. -/
def nullWords : List String := ["null", "Null", "NULL", "~"]

/-- A scalar is a truth value.  Other words that stand for truth values elsewhere, such as `yes` and `on`, are texts.
-/
def IsTruth (s : Scalar) (b : Bool) : Prop := s.Bears boolTag ∧ Truth s.text b

/-- A scalar is a number of eight bytes. -/
def IsNumber (s : Scalar) (n : Nat) : Prop := s.Bears intTag ∧ Counts s.text.toList n ∧ n < Nat.pow 2 64

/-- A scalar is a text that may be absent.  It is absent where nothing is written or a word for null is, and what is
quoted or has a tag of its own is there, whatever its text.  The tag of null is for the words for null only. -/
inductive IsOptionalText (s : Scalar) : Option String → Prop
  | nothing (hstyle : s.style = .plain) (htag : s.tag = none) (h : s.text = "") : IsOptionalText s none
  | null (hstyle : s.style = .plain) (htag : s.tag = none ∨ s.tag = some nullTag) (h : s.text ∈ nullWords) :
      IsOptionalText s none
  | plain (hstyle : s.style = .plain) (htag : s.tag = none) (hne : s.text ≠ "") (hnull : s.text ∉ nullWords) :
      IsOptionalText s (some s.text)
  | tagged {tag : String} (hstyle : s.style = .plain) (htag : s.tag = some tag) (hne : tag ≠ nullTag) :
      IsOptionalText s (some s.text)
  | quoted (hstyle : s.style ≠ .plain) : IsOptionalText s (some s.text)

/-! ### The readers of scalars -/

theorem mayHold_iff {s : Scalar} {tag : String} : s.mayHold tag ↔ s.Bears tag := by
  simp [mayHold, Bears]

/-- A word is read as a truth value exactly when it is a word for it. -/
theorem truth?_eq_some_iff {word : String} {b : Bool} : truth? word = some b ↔ Truth word b := by
  constructor
  · intro h
    unfold truth? at h
    split at h
    all_goals cases h
    · exact .yes (by decide)
    · exact .yes (by decide)
    · exact .yes (by decide)
    · exact .no (by decide)
    · exact .no (by decide)
    · exact .no (by decide)
  · rintro (h | h)
    · simp only [List.mem_cons, List.not_mem_nil, or_false] at h
      obtain rfl | rfl | rfl := h <;> rfl
    · simp only [List.mem_cons, List.not_mem_nil, or_false] at h
      obtain rfl | rfl | rfl := h <;> rfl

/-- A truth value is read off the scalars that are one. -/
theorem bool?_eq_some_iff {s : Scalar} {b : Bool} : s.bool? = some b ↔ s.IsTruth b := by
  rw [bool?, Option.ite_none_right_eq_some, mayHold_iff, truth?_eq_some_iff]
  exact Iff.rfl

/-- A numeral is read as the number that it spells.  The marks come first, so a decimal numeral with a zero in front
is left over and refused, unless it is zero alone. -/
theorem numeral?_eq_some_iff {s : List Char} {n : Nat} : numeral? s = some n ↔ Spells s n := by
  have hten {ds : List Char} : Numeral.natural? ds = some n ↔ Writes 10 ds n :=
    Numeral.inBase?_eq_some_iff (by decide)
  constructor
  · intro h
    unfold numeral? at h
    split at h
    · exact .hexadecimal ((Numeral.inBase?_eq_some_iff (by decide)).1 h)
    · exact .octal ((Numeral.inBase?_eq_some_iff (by decide)).1 h)
    · exact .binary ((Numeral.inBase?_eq_some_iff (by decide)).1 h)
    · cases h
    · rename_i hzeros
      refine .decimal (hten.1 h) ?_
      cases s with
      | nil => exact Or.inr nofun
      | cons c rest =>
        by_cases hc : c = '0'
        · cases rest with
          | nil => exact Or.inl (by rw [hc])
          | cons d rest => exact absurd (hc ▸ rfl) (hzeros d rest)
        · exact Or.inr fun hhead => hc (Option.some.inj hhead)
  · intro h
    cases h with
    | hexadecimal h => exact (Numeral.inBase?_eq_some_iff (by decide)).2 h
    | octal h => exact (Numeral.inBase?_eq_some_iff (by decide)).2 h
    | binary h => exact (Numeral.inBase?_eq_some_iff (by decide)).2 h
    | decimal h hfront =>
      obtain rfl | hfront := hfront
      · exact hten.2 h
      · unfold numeral?
        split
        · exact absurd rfl hfront
        · exact absurd rfl hfront
        · exact absurd rfl hfront
        · exact absurd rfl hfront
        · exact hten.2 h

/-- A plus sign begins no numeral without a sign. -/
theorem not_spells_plus {ds : List Char} {n : Nat} : ¬ Spells ('+' :: ds) n := by
  intro h
  cases h with
  | decimal h _ =>
    obtain ⟨-, _, hvs, -⟩ := h
    obtain ⟨v, _, hdigit, -, -⟩ := List.forall₂_cons_left_iff.1 hvs
    have hvalue : Numeral.digitValue '+' = v := Numeral.digitValue_of_digit (by decide) hdigit
    have hlt := hdigit.1
    rw [← hvalue] at hlt
    exact absurd hlt (by decide)

/-- A numeral writes one number. -/
theorem Counts.unique {s : List Char} {m n : Nat} (hm : Counts s m) (hn : Counts s n) : m = n := by
  have hspells {ds : List Char} (hm : Spells ds m) (hn : Spells ds n) : m = n :=
    Option.some.inj ((numeral?_eq_some_iff.2 hm).symm.trans (numeral?_eq_some_iff.2 hn))
  obtain ⟨ds, rfl | rfl, hm⟩ := hm
  · obtain ⟨es, rfl | rfl, hn⟩ := hn
    · exact hspells hm hn
    · exact absurd hm not_spells_plus
  · obtain ⟨es, h | h, hn⟩ := hn
    · exact absurd (h ▸ hn) not_spells_plus
    · exact hspells hm ((List.cons.inj h).2 ▸ hn)

/-- A numeral has letters and digits only, whatever its base, and perhaps a plus sign. -/
theorem Counts.eq_plus_or_digitValue_lt {s : List Char} {n : Nat} (h : Counts s n) :
    ∀ c ∈ s, c = '+' ∨ Numeral.digitValue c < 36 := by
  have hmarked {base : Nat} {mark : Char} {ds : List Char} (hbase : base ≤ 16)
      (hmark : Numeral.digitValue mark < 36) (hds : Writes base ds n) :
      ∀ c ∈ '0' :: mark :: ds, Numeral.digitValue c < 36 :=
    List.forall_mem_cons.2 ⟨by decide, List.forall_mem_cons.2
      ⟨hmark, fun c hc => Nat.lt_of_lt_of_le (hds.digitValue_lt hbase c hc) (Nat.le_trans hbase (by decide))⟩⟩
  obtain ⟨ds, hs, hds⟩ := h
  have hdigits : ∀ c ∈ ds, Numeral.digitValue c < 36 := by
    cases hds with
    | decimal h _ => exact fun c hc => Nat.lt_trans (h.digitValue_lt (by decide) c hc) (by decide)
    | hexadecimal h => exact hmarked (by decide) (by decide) h
    | octal h => exact hmarked (by decide) (by decide) h
    | binary h => exact hmarked (by decide) (by decide) h
  obtain rfl | rfl := hs
  · exact fun c hc => Or.inr (hdigits c hc)
  · exact List.forall_mem_cons.2 ⟨Or.inl rfl, fun c hc => Or.inr (hdigits c hc)⟩

/-- No scalar with a minus sign or a point is a number, and none with a numeral that eight bytes do not hold. -/
theorem not_isNumber {s : Scalar} {m : Nat}
    (h : '-' ∈ s.text.toList ∨ '.' ∈ s.text.toList ∨ ∃ n, Counts s.text.toList n ∧ Nat.pow 2 64 ≤ n) :
    ¬ s.IsNumber m := by
  rintro ⟨-, hcounts, hlt⟩
  obtain hminus | hpoint | ⟨n, hn, hlarge⟩ := h
  · exact absurd (hcounts.eq_plus_or_digitValue_lt _ hminus) (by decide)
  · exact absurd (hcounts.eq_plus_or_digitValue_lt _ hpoint) (by decide)
  · rw [hcounts.unique hn] at hlt
    exact Nat.not_le_of_lt hlt hlarge

/-- A number is read off the numerals of eight bytes that may have a plus sign. -/
theorem unsigned?_eq_some_iff {s : List Char} {n : Nat} :
    unsigned? s = some n ↔ Counts s n ∧ n < Nat.pow 2 64 := by
  have hbound : n ≤ Numeral.nat64Max ↔ n < Nat.pow 2 64 := Nat.lt_succ_iff.symm
  unfold unsigned?
  rw [Option.filter_eq_some_iff, decide_eq_true_eq, hbound]
  refine and_congr_left fun _ => ?_
  split
  · rename_i rest
    rw [numeral?_eq_some_iff]
    constructor
    · exact fun h => ⟨rest, Or.inr rfl, h⟩
    · rintro ⟨ds, rfl | h, hds⟩
      · exact absurd hds not_spells_plus
      · exact (List.cons.inj h).2 ▸ hds
  · rename_i hplus
    rw [numeral?_eq_some_iff]
    constructor
    · exact fun h => ⟨s, Or.inl rfl, h⟩
    · rintro ⟨ds, rfl | h, hds⟩
      · exact hds
      · exact absurd h (hplus ds)

/-- A number is read off the scalars that are one. -/
theorem nat64?_eq_some_iff {s : Scalar} {n : Nat} : s.nat64? = some n ↔ s.IsNumber n := by
  rw [nat64?, Option.ite_none_right_eq_some, mayHold_iff, unsigned?_eq_some_iff]
  exact Iff.rfl

/-- An optional text is read off the scalars that are one.  The cases are the style, the tag and the text, in this
order; each that gives something is one rule of the relation. -/
theorem optionalText?_eq_some_iff {s : Scalar} {v : Option String} :
    s.optionalText? = some v ↔ s.IsOptionalText v := by
  have hnull : s.isNull = true ↔ s.text ∈ nullWords := List.contains_iff_mem
  constructor
  · intro h
    unfold optionalText? at h
    split at h
    · rename_i hstyle
      cases h
      exact .quoted hstyle
    · rename_i hstyle
      have hplain := not_not.1 hstyle
      split at h
      · rename_i tag htag
        split at h
        · rename_i hnulltag
          split at h
          · rename_i hword
            cases h
            exact .null hplain (Or.inr (hnulltag ▸ htag)) (hnull.1 hword)
          · cases h
        · rename_i hother
          cases h
          exact .tagged hplain htag hother
      · rename_i htag
        split at h
        · rename_i habsent
          cases h
          obtain hempty | hword := Bool.or_eq_true_iff.1 habsent
          · exact .nothing hplain htag (String.isEmpty_iff.1 hempty)
          · exact .null hplain (Or.inl htag) (hnull.1 hword)
        · rename_i hthere
          cases h
          obtain ⟨hempty, hword⟩ := not_or.1 (mt Bool.or_eq_true_iff.2 hthere)
          exact .plain hplain htag (mt String.isEmpty_iff.2 hempty) (mt hnull.2 hword)
  · intro h
    cases h with
    | nothing hstyle htag h => simp [optionalText?, hstyle, htag, h]
    | null hstyle htag h =>
      have hword := hnull.2 h
      obtain htag | htag := htag
      · simp [optionalText?, hstyle, htag, hword]
      · simp [optionalText?, hstyle, htag, hword]
    | plain hstyle htag hne h => simp [optionalText?, hstyle, htag, hne, mt hnull.1 h]
    | tagged hstyle htag hne => simp [optionalText?, hstyle, htag, hne]
    | quoted hstyle => simp [optionalText?, hstyle]

end Scalar

/-! ## What nodes stand for -/

namespace Document

variable {d : Document} {n : Node}

/-- A node stands for itself, and an alias for the node that was given its name. -/
inductive Stands (d : Document) : Node → Node → Prop
  | itself {n : Node} (h : ∀ anchor, n ≠ .alias anchor) : Stands d n n
  | alias {anchor : Nat} {n : Node} (h : d.target? anchor = some n) : Stands d (.alias anchor) n

/-- A node is a scalar, by itself or as an alias. -/
def IsScalar (d : Document) (n : Node) (s : Scalar) : Prop := d.Stands n (.scalar s)

/-- A node is a list of texts: a sequence of scalars with these texts, or nothing is written and there are none.  The
items may be of any type, since every scalar has a text. -/
inductive AreTexts (d : Document) (n : Node) : List String → Prop
  | sequence {items : List Node} {texts : List String} (hn : d.Stands n (.sequence items))
      (h : List.Forall₂ (fun item text => ∃ s, d.IsScalar item s ∧ s.text = text) items texts) : AreTexts d n texts
  | nothing {s : Scalar} (hn : d.IsScalar n s) (hstyle : s.style = .plain) (h : s.text = "") : AreTexts d n []

/-- A node has entries: it is a mapping whose keys are scalars with these texts, each before the node of its entry,
or nothing is written and there are none. -/
inductive HasEntries (d : Document) (n : Node) : List (String × Node) → Prop
  | mapping {pairs : List (Node × Node)} {entries : List (String × Node)} (hn : d.Stands n (.mapping pairs))
      (h : List.Forall₂ (fun pair entry => (∃ s, d.IsScalar pair.1 s ∧ s.text = entry.1) ∧ pair.2 = entry.2)
        pairs entries) : HasEntries d n entries
  | nothing {s : Scalar} (hn : d.IsScalar n s) (hstyle : s.style = .plain) (h : s.text = "") : HasEntries d n []

/-! ### The readers of nodes -/

/-- A node is resolved to what it stands for. -/
theorem resolve?_eq_some_iff {m : Node} : d.resolve? n = some m ↔ d.Stands n m := by
  constructor
  · intro h
    unfold resolve? at h
    split at h
    · exact .alias h
    · rename_i hself
      cases h
      exact .itself hself
  · rintro (hself | h)
    · unfold resolve?
      split
      · exact absurd rfl (hself _)
      · rfl
    · exact h

/-- A scalar is read off the nodes that are one. -/
theorem scalar?_eq_some_iff {s : Scalar} : d.scalar? n = some s ↔ d.IsScalar n s := by
  rw [IsScalar, ← resolve?_eq_some_iff, scalar?]
  split
  · rename_i t hn
    simp [hn]
  · rename_i hn
    exact ⟨nofun, fun h => absurd h (hn s)⟩

theorem text?_eq_some_iff {text : String} : d.text? n = some text ↔ ∃ s, d.IsScalar n s ∧ s.text = text := by
  simp only [text?, Option.map_eq_some_iff, scalar?_eq_some_iff]

theorem bool?_eq_some_iff {b : Bool} : d.bool? n = some b ↔ ∃ s, d.IsScalar n s ∧ s.IsTruth b := by
  simp only [bool?, Option.bind_eq_some_iff, scalar?_eq_some_iff, Scalar.bool?_eq_some_iff]

theorem nat64?_eq_some_iff {k : Nat} : d.nat64? n = some k ↔ ∃ s, d.IsScalar n s ∧ s.IsNumber k := by
  simp only [nat64?, Option.bind_eq_some_iff, scalar?_eq_some_iff, Scalar.nat64?_eq_some_iff]

theorem optionalText?_eq_some_iff {v : Option String} :
    d.optionalText? n = some v ↔ ∃ s, d.IsScalar n s ∧ s.IsOptionalText v := by
  simp only [optionalText?, Option.bind_eq_some_iff, scalar?_eq_some_iff, Scalar.optionalText?_eq_some_iff]

/-- What is read off a list item by item goes with the list item by item. -/
theorem mapM_eq_some_iff {α β : Type} {f : α → Option β} {xs : List α} {ys : List β} :
    xs.mapM f = some ys ↔ List.Forall₂ (fun x y => f x = some y) xs ys := by
  induction xs generalizing ys with
  | nil => simp [eq_comm]
  | cons x xs ih =>
    simp only [List.mapM_cons, bind, pure, Option.bind_eq_some_iff, Option.some.injEq, List.forall₂_cons_left_iff, ih]
    constructor
    · rintro ⟨y, hy, rest, hrest, rfl⟩
      exact ⟨y, rest, hy, hrest, rfl⟩
    · rintro ⟨y, rest, hy, hrest, rfl⟩
      exact ⟨y, hy, rest, hrest, rfl⟩

theorem isEmpty_iff {s : Scalar} : s.isEmpty ↔ s.style = .plain ∧ s.text = "" := by
  simp [Scalar.isEmpty]

/-- A list of texts is read off the nodes that are one. -/
theorem texts?_eq_some_iff {texts : List String} : d.texts? n = some texts ↔ d.AreTexts n texts := by
  constructor
  · intro h
    unfold texts? at h
    split at h
    · rename_i items hn
      exact .sequence (resolve?_eq_some_iff.1 hn) ((mapM_eq_some_iff.1 h).imp fun _ _ => text?_eq_some_iff.1)
    · rename_i s hn
      obtain ⟨hempty, h⟩ := Option.ite_none_right_eq_some.1 h
      cases h
      obtain ⟨hstyle, htext⟩ := isEmpty_iff.1 hempty
      exact .nothing (resolve?_eq_some_iff.1 hn) hstyle htext
    · cases h
  · intro h
    cases h with
    | sequence hn h =>
      rw [texts?, resolve?_eq_some_iff.2 hn]
      exact mapM_eq_some_iff.2 (h.imp fun _ _ => text?_eq_some_iff.2)
    | nothing hn hstyle h =>
      rw [texts?, resolve?_eq_some_iff.2 hn]
      exact if_pos (isEmpty_iff.2 ⟨hstyle, h⟩)

/-- Entries are read off the nodes that have them. -/
theorem entries?_eq_some_iff {entries : List (String × Node)} :
    d.entries? n = some entries ↔ d.HasEntries n entries := by
  -- an entry is the text of its key with the node of its value, whatever that is
  have hpair (pair : Node × Node) (entry : String × Node) :
      (d.text? pair.1).map (fun key => (key, pair.2)) = some entry ↔
        (∃ s, d.IsScalar pair.1 s ∧ s.text = entry.1) ∧ pair.2 = entry.2 := by
    rw [← text?_eq_some_iff, Option.map_eq_some_iff]
    constructor
    · rintro ⟨key, hkey, rfl⟩
      exact ⟨hkey, rfl⟩
    · rintro ⟨hkey, hnode⟩
      exact ⟨entry.1, hkey, Prod.ext rfl hnode⟩
  constructor
  · intro h
    unfold entries? at h
    split at h
    · rename_i pairs hn
      exact .mapping (resolve?_eq_some_iff.1 hn) ((mapM_eq_some_iff.1 h).imp fun _ _ => (hpair _ _).1)
    · rename_i s hn
      obtain ⟨hempty, h⟩ := Option.ite_none_right_eq_some.1 h
      cases h
      obtain ⟨hstyle, htext⟩ := isEmpty_iff.1 hempty
      exact .nothing (resolve?_eq_some_iff.1 hn) hstyle htext
    · cases h
  · intro h
    cases h with
    | mapping hn h =>
      rw [entries?, resolve?_eq_some_iff.2 hn]
      exact mapM_eq_some_iff.2 (h.imp fun _ _ => (hpair _ _).2)
    | nothing hn hstyle h =>
      rw [entries?, resolve?_eq_some_iff.2 hn]
      exact if_pos (isEmpty_iff.2 ⟨hstyle, h⟩)

end Document

end Yaml

end ContainerWatch
