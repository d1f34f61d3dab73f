import ContainerWatch.Text.Split
/-!
# Parts that can be told apart

A text that is put together with a separator can be taken apart again when the parts do not hold the
separator.  Two equal texts are then put together from the same parts, whether they are cut at the first
separator (`eq_of_append_cons`), at the last one (`eq_of_append_cons_of_last`), or at every one of them.  Without
a separator they are cut where characters of one kind end (`eq_of_append_of_kind`).

Two kinds of text are named, because the same conditions come back in every line that is printed: a word can stand in
a list (`IsWord`), and a name can stand before a colon as well (`IsName`).

Main statement: `join_injective`, lists of parts that are joined to the same text are equal.
-/

namespace ContainerWatch.Text

/-- A text in which a character does not stand. -/
def FreeOf (c : Char) (s : String) : Prop := c ∉ s.toList

instance (c : Char) (s : String) : Decidable (FreeOf c s) := inferInstanceAs (Decidable (c ∉ s.toList))

@[simp] theorem freeOf_append {c : Char} {s t : String} :
    FreeOf c (s ++ t) ↔ FreeOf c s ∧ FreeOf c t := by
  simp [FreeOf]

@[simp] theorem freeOf_ofList {c : Char} {s : List Char} : FreeOf c (String.ofList s) ↔ c ∉ s := by
  simp [FreeOf]

/-- What is joined is free of a character when the parts and the separator are. -/
theorem freeOf_join {c : Char} {sep : String} (hsep : FreeOf c sep) {parts : List String}
    (h : ∀ p ∈ parts, FreeOf c p) : FreeOf c (join sep parts) := by
  fun_induction join sep parts with
  | case1 => exact List.not_mem_nil
  | case2 s => exact h s List.mem_cons_self
  | case3 s t rest ih =>
    rw [freeOf_append, freeOf_append]
    exact ⟨⟨h s List.mem_cons_self, hsep⟩, ih fun p hp => h p (List.mem_cons_of_mem s hp)⟩

/-- A text without a comma and without a space. -/
structure IsWord (s : String) : Prop where
  comma : FreeOf ',' s
  space : FreeOf ' ' s

/-- A word without a colon. -/
structure IsName (s : String) : Prop extends IsWord s where
  colon : FreeOf ':' s

instance (s : String) : Decidable (IsWord s) :=
  decidable_of_iff (FreeOf ',' s ∧ FreeOf ' ' s) ⟨fun h => ⟨h.1, h.2⟩, fun h => ⟨h.comma, h.space⟩⟩

instance (s : String) : Decidable (IsName s) :=
  decidable_of_iff (IsWord s ∧ FreeOf ':' s) ⟨fun h => ⟨h.1, h.2⟩, fun h => ⟨h.toIsWord, h.colon⟩⟩

/-- Words put together are a word. -/
theorem IsWord.append {s t : String} (hs : IsWord s) (ht : IsWord t) : IsWord (s ++ t) :=
  ⟨freeOf_append.2 ⟨hs.comma, ht.comma⟩, freeOf_append.2 ⟨hs.space, ht.space⟩⟩

/-! ## One separator -/

/-- Texts cut at the first separator have equal parts. -/
theorem eq_of_append_cons {c : Char} {p q x y : List Char} (hp : c ∉ p) (hq : c ∉ q)
    (h : p ++ c :: x = q ++ c :: y) : p = q ∧ x = y := by
  have hcut := congrArg (cutAt c) h
  rw [cutAt_append x hp, cutAt_append y hq] at hcut
  exact Prod.mk.inj (Option.some.inj hcut)

/-- Texts cut at the last separator have equal parts. -/
theorem eq_of_append_cons_of_last {c : Char} {p q x y : List Char} (hx : c ∉ x) (hy : c ∉ y)
    (h : p ++ c :: x = q ++ c :: y) : p = q ∧ x = y := by
  have hrev : x.reverse ++ c :: p.reverse = y.reverse ++ c :: q.reverse := by
    simpa using congrArg List.reverse h
  obtain ⟨hxy, hpq⟩ := eq_of_append_cons (mt List.mem_reverse.1 hx) (mt List.mem_reverse.1 hy) hrev
  exact ⟨List.reverse_inj.1 hpq, List.reverse_inj.1 hxy⟩

/-- What stands in a text after the last occurrence of a character.  A text without the character has no such part. -/
def IsAfterLast (c : Char) (s tail : String) : Prop :=
  FreeOf c tail ∧ ∃ front, s.toList = front ++ c :: tail.toList

/-- There is one such part at most. -/
theorem IsAfterLast.unique {c : Char} {s t u : String} (ht : IsAfterLast c s t) (hu : IsAfterLast c s u) :
    t = u := by
  obtain ⟨htail, front, hfront⟩ := ht
  obtain ⟨hutail, front', hfront'⟩ := hu
  exact String.toList_injective (eq_of_append_cons_of_last htail hutail (hfront.symm.trans hfront')).2

/-- Texts cut where characters of one kind end have equal parts. -/
theorem eq_of_append_of_kind {p : Char → Bool} {s t x y : List Char} (hs : ∀ c ∈ s, p c) (ht : ∀ c ∈ t, p c)
    (hx : x.takeWhile p = []) (hy : y.takeWhile p = []) (h : s ++ x = t ++ y) : s = t ∧ x = y := by
  have hcut := congrArg (List.takeWhile p) h
  rw [List.takeWhile_append_of_pos hs, List.takeWhile_append_of_pos ht, hx, hy, List.append_nil,
    List.append_nil] at hcut
  rw [hcut] at h
  exact ⟨hcut, List.append_cancel_left h⟩

/-- A text with a separator is not one without. -/
theorem append_cons_ne {c : Char} {p q x : List Char} (hq : c ∉ q) : p ++ c :: x ≠ q := by
  rintro rfl
  exact hq (List.mem_append_right p List.mem_cons_self)

/-! ## Many separators -/

/-- A text without the separator is one piece. -/
theorem pieces_of_notMem {c : Char} {s : List Char} (h : c ∉ s) : pieces c s = [s] := by
  induction s with
  | nil => rfl
  | cons d s ih =>
    obtain ⟨hd, hs⟩ := not_or.1 (mt List.mem_cons.2 h)
    rw [pieces, if_neg (Ne.symm hd), ih hs]

/-- The first piece goes up to the first separator. -/
theorem pieces_append_cons {c : Char} {s : List Char} (h : c ∉ s) (rest : List Char) :
    pieces c (s ++ c :: rest) = s :: pieces c rest := by
  induction s with
  | nil => rw [List.nil_append, pieces, if_pos rfl]
  | cons d s ih =>
    obtain ⟨hd, hs⟩ := not_or.1 (mt List.mem_cons.2 h)
    rw [List.cons_append, pieces, if_neg (Ne.symm hd), ih hs]

/-- Two parts or more are joined by the separator between the first and the rest. -/
theorem toList_join_cons_cons (sep s t : String) (rest : List String) :
    (join sep (s :: t :: rest)).toList = s.toList ++ (sep.toList ++ (join sep (t :: rest)).toList) := by
  rw [join_cons_cons, String.toList_append, String.toList_append, List.append_assoc]

/-- Parts without a separator are the pieces of what is joined from them.  There must be parts, since no part and an
empty one join alike. -/
theorem pieces_join {c : Char} {sep : String} (hsep : sep.toList = [c]) {parts : List String} (hparts : parts ≠ [])
    (h : ∀ p ∈ parts, FreeOf c p) : pieces c (join sep parts).toList = parts.map String.toList := by
  induction parts with
  | nil => exact absurd rfl hparts
  | cons p rest ih =>
    have hp : FreeOf c p := h p List.mem_cons_self
    cases rest with
    | nil => exact pieces_of_notMem hp
    | cons q rest =>
      have hrest := ih (List.cons_ne_nil q rest) fun u hu => h u (List.mem_cons_of_mem p hu)
      rw [toList_join_cons_cons, hsep, List.singleton_append, pieces_append_cons hp, hrest]
      rfl

theorem join_cons_append_cons (sep u s : String) (before after : List String) :
    join sep (u :: before ++ s :: after) = u ++ sep ++ join sep (before ++ s :: after) := by
  cases before with
  | nil => rfl
  | cons v before => rfl

/-- A part stands in what is joined up to its end or the next separator. -/
theorem exists_join_append_cons (sep s : String) (before after : List String) :
    ∃ front rest, join sep (before ++ s :: after) = front ++ s ++ rest ∧
      (rest = "" ∨ ∃ more, rest = sep ++ more) := by
  induction before with
  | nil =>
    cases after with
    | nil => exact ⟨"", "", by simp, Or.inl rfl⟩
    | cons t after =>
      refine ⟨"", sep ++ join sep (t :: after), ?_, Or.inr ⟨_, rfl⟩⟩
      rw [List.nil_append, join_cons_cons, String.empty_append, String.append_assoc]
  | cons p before ih =>
    obtain ⟨front, rest, hjoin, hrest⟩ := ih
    refine ⟨p ++ sep ++ front, rest, ?_, hrest⟩
    rw [join_cons_append_cons, hjoin]
    simp only [String.append_assoc]

/-- Lists of parts that are joined to the same text are equal, when the first character of the separator stands in no
part.  There must be parts, since no part and an empty one join alike.  The induction takes the first part off both
lists, up to the first separator. -/
theorem join_injective {c : Char} {sep : String} {more : List Char} (hsep : sep.toList = c :: more)
    {ps qs : List String} (hps : ps ≠ []) (hqs : qs ≠ []) (hp : ∀ p ∈ ps, FreeOf c p)
    (hq : ∀ q ∈ qs, FreeOf c q) (h : join sep ps = join sep qs) : ps = qs := by
  induction ps generalizing qs with
  | nil => exact absurd rfl hps
  | cons p ps ih =>
    obtain ⟨q, qs, rfl⟩ := List.exists_cons_of_ne_nil hqs
    have hfirst : FreeOf c p := hp p List.mem_cons_self
    have hfirst' : FreeOf c q := hq q List.mem_cons_self
    have hlist := congrArg String.toList h
    cases ps with
    | nil =>
      cases qs with
      | nil => exact congrArg ([·]) h
      | cons t rest =>
        rw [join_singleton, toList_join_cons_cons, hsep, List.cons_append] at hlist
        exact absurd hlist.symm (append_cons_ne hfirst)
    | cons s more' =>
      cases qs with
      | nil =>
        rw [join_singleton, toList_join_cons_cons, hsep, List.cons_append] at hlist
        exact absurd hlist (append_cons_ne hfirst')
      | cons t rest =>
        rw [toList_join_cons_cons, toList_join_cons_cons, hsep, List.cons_append,
          List.cons_append] at hlist
        obtain ⟨hpq, htail⟩ := eq_of_append_cons hfirst hfirst' hlist
        have hrest : s :: more' = t :: rest :=
          ih (List.cons_ne_nil s more') (List.cons_ne_nil t rest)
            (fun u hu => hp u (List.mem_cons_of_mem p hu))
            (fun u hu => hq u (List.mem_cons_of_mem q hu))
            (String.toList_injective (List.append_cancel_left htail))
        rw [String.toList_injective hpq, hrest]

/-- Among the same neighbours different parts make different texts, whatever they hold. -/
theorem eq_of_join_append_cons {sep s t : String} {before after : List String}
    (h : join sep (before ++ s :: after) = join sep (before ++ t :: after)) : s = t := by
  induction before with
  | nil =>
    cases after with
    | nil => exact h
    | cons u rest =>
      rw [List.nil_append, List.nil_append, join_cons_cons, join_cons_cons] at h
      exact (String.append_left_inj sep).1 ((String.append_left_inj (join sep (u :: rest))).1 h)
  | cons u before ih =>
    rw [join_cons_append_cons, join_cons_append_cons] at h
    exact ih ((String.append_right_inj (u ++ sep)).1 h)

end ContainerWatch.Text
