import ContainerWatch.Log.Directive
import ContainerWatch.Proofs.Numeral
import ContainerWatch.Proofs.Text.Separation
/-!
# Directives that turn a module off

The text `module=off` may hold anything before its end, brackets and equals signs included.  If it is a directive
at all, its level is what stands after its last equals sign: a level holds none (`equals_notMem_of_levelPart`), and a
directive with a span ends in a bracket or in a level (`read_eq_ok`).  So whatever the module is, the directive turns
off; its target is the module up to the first bracket.

Each reader of a part of a directive has one lemma that says what a successful reading tells of its text: where the
rest of the text stands in it (`fieldList_eq_ok`, `spanPart_eq_ok`), and where the level does (`withSpan_eq_ok`,
`read_eq_ok`).  The last equals sign of the text is then found twice, once before the level and once before `off`, and
a text has one last equals sign only.

Main statement: `read_offText`.
-/

namespace ContainerWatch.Log.Directive

variable {s rest : List Char} {d : Directive} {t : Threshold}

/-! ## Levels -/

/-- The numeral of a level holds digits and perhaps a plus sign. -/
theorem equals_notMem_of_unsigned? {n : Nat} (h : Numeral.unsigned? s = some n) : '=' ∉ s :=
  (Numeral.unsigned?_eq_some_iff.1 h).notMem rfl (by decide)

/-- A level, whether a name or a number, holds no equals sign. -/
theorem equals_notMem_of_threshold? (h : threshold? s = some t) : '=' ∉ s := by
  unfold threshold? at h
  split at h
  · rename_i u hnumber
    obtain ⟨n, hn, -⟩ := Option.bind_eq_some_iff.1 hnumber
    exact equals_notMem_of_unsigned? hn
  · intro hmem
    -- names are compared in small letters, which leave an equals sign as it is
    have hlower : '=' ∈ (String.ofList (s.map Char.toLower)).toList := by
      rw [String.toList_ofList]
      exact List.mem_map.2 ⟨'=', hmem, by decide⟩
    revert hlower
    unfold thresholdOfName? at h
    split at h
    case h_7 => cases h
    all_goals
      rename_i hname
      rw [hname]
      decide

/-- So no level holds an equals sign, the empty one included. -/
theorem equals_notMem_of_levelPart (h : levelPart s = .ok t) : '=' ∉ s := by
  unfold levelPart at h
  split at h
  · rename_i hempty
    rw [List.isEmpty_iff.1 hempty]
    exact List.not_mem_nil
  · split at h
    · rename_i u hu
      exact equals_notMem_of_threshold? hu
    · cases h

/-! ## Spans -/

/-- What follows the fields is the end of the text.  The reader goes through the text one character at a time, so the
induction is on the text, with the characters of the field that is being read left open. -/
theorem fieldList_eq_ok {current : List Char} {fields : List String} (h : fieldList current s = .ok (fields, rest)) :
    ∃ front, s = front ++ rest := by
  induction s generalizing current fields with
  | nil => cases h
  | cons c s ih =>
    rw [fieldList] at h
    -- the reader went on, so the induction hypothesis has the rest of the text
    have hmore {current : List Char} {fields : List String} (h : fieldList current s = .ok (fields, rest)) :
        ∃ front, c :: s = front ++ rest := by
      obtain ⟨front, hfront⟩ := ih h
      exact ⟨c :: front, by rw [hfront, List.cons_append]⟩
    split at h
    · split at h
      · cases h
      · dsimp only at h
        split at h
        · cases hnext : fieldList [] s with
          | error fault =>
            rw [hnext] at h
            cases h
          | ok part =>
            rw [hnext] at h
            cases h
            exact hmore hnext
        · cases h
          exact ⟨[c], rfl⟩
    · exact hmore h

/-- What follows a span stands after a closing bracket. -/
theorem spanPart_eq_ok {span : Option String} {fields : List String}
    (h : spanPart s = .ok (span, fields, rest)) : ∃ front, s = front ++ ']' :: rest := by
  have hsplit (name : List Char) (hname : name = s.takeWhile fun c => c != ']' && c != '\x7b') :
      s = name ++ s.drop name.length := by
    rw [hname]
    exact (List.prefix_iff_eq_append.1 (List.takeWhile_prefix _)).symm
  -- the name of the span goes up to the first closing bracket or brace, whichever stands there
  unfold spanPart at h
  dsimp only at h
  split at h
  · rename_i after hdrop
    cases h
    exact ⟨_, hdrop ▸ hsplit _ rfl⟩
  · rename_i after hdrop
    cases hfields : fieldList [] after with
    | error fault =>
      rw [hfields] at h
      cases h
    | ok part =>
      obtain ⟨fields', after'⟩ := part
      rw [hfields] at h
      dsimp only [bind, Except.bind] at h
      split at h
      · cases h
        obtain ⟨front, hfront⟩ := fieldList_eq_ok hfields
        refine ⟨(s.takeWhile fun c => c != ']' && c != '\x7b') ++ '\x7b' :: front, (hsplit _ rfl).trans ?_⟩
        rw [hdrop, hfront, List.append_assoc, List.cons_append]
      · cases h
  · cases h

/-- A directive with a span ends in a bracket, or its level stands after an equals sign. -/
theorem withSpan_eq_ok {target : Option String} (h : withSpan target s = .ok d) :
    d.target = target ∧ ((∃ front, s = front ++ [']']) ∨
      ∃ front level, s = front ++ '=' :: level ∧ levelPart level = .ok d.threshold) := by
  unfold withSpan at h
  cases hspan : spanPart s with
  | error fault =>
    rw [hspan] at h
    cases h
  | ok part =>
    obtain ⟨span, fields, after⟩ := part
    obtain ⟨front, hfront⟩ := spanPart_eq_ok hspan
    rw [hspan] at h
    dsimp only [bind, Except.bind] at h
    split at h
    · cases h
      exact ⟨rfl, Or.inl ⟨front, hfront⟩⟩
    · rename_i level
      cases hlevel : levelPart level with
      | error fault =>
        rw [hlevel] at h
        cases h
      | ok u =>
        rw [hlevel] at h
        cases h
        refine ⟨rfl, Or.inr ⟨front ++ [']'], level, ?_, hlevel⟩⟩
        rw [hfront, List.append_assoc, List.singleton_append]
    · cases h

/-! ## Directives -/

/-- What stands before the first bracket, where the target of a directive is. -/
def targetPart (s : List Char) : List Char := s.takeWhile fun c => c != '['

theorem targetPart_append (h : '[' ∉ s) (after : List Char) : targetPart (s ++ after) = s ++ targetPart after := by
  refine List.takeWhile_append_of_pos fun c hc => ?_
  rw [bne_iff_ne]
  rintro rfl
  exact h hc

/-- A text without a bracket is all target. -/
theorem targetPart_eq_self (h : '[' ∉ s) : targetPart s = s := by
  have happend := targetPart_append h []
  rw [List.append_nil] at happend
  exact happend.trans (List.append_nil s)

/-- A directive has its level after an equals sign, and before it the target. -/
structure Levelled (s : List Char) (d : Directive) (front level : List Char) : Prop where
  text : s = front ++ '=' :: level
  threshold : levelPart level = .ok d.threshold
  target : (d.target.getD "").toList = targetPart front
  plain : '[' ∉ front → d = ⟨some (String.ofList front), none, [], d.threshold⟩

/-- A directive without an equals sign or with a bracket at its end names no level; any other one has its level after
an equals sign.  The cases are those of the reader: the directive begins with a span, or with a name that goes up to
the first equals sign, bracket or comma. -/
theorem read_eq_ok (h : read s = .ok d) :
    '=' ∉ s ∨ (∃ front, s = front ++ [']']) ∨ ∃ front level, Levelled s d front level := by
  -- a span after what stands before its bracket
  have hspan {name after : List Char} {target : Option String} (hname : '[' ∉ name) (hs : s = name ++ '[' :: after)
      (hd : withSpan target after = .ok d) (htarget : (target.getD "").toList = name) :
      '=' ∉ s ∨ (∃ front, s = front ++ [']']) ∨ ∃ front level, Levelled s d front level := by
    obtain ⟨rfl, ⟨front, hfront⟩ | ⟨front, level, hfront, hlevel⟩⟩ := withSpan_eq_ok hd
    · exact Or.inr (Or.inl ⟨name ++ '[' :: front, by rw [hs, hfront, List.append_assoc, List.cons_append]⟩)
    · refine Or.inr (Or.inr ⟨name ++ '[' :: front, level, ?_, hlevel, ?_, fun hbracket => ?_⟩)
      · rw [hs, hfront, List.append_assoc, List.cons_append]
      · rw [htarget, targetPart_append hname]
        exact (List.append_nil name).symm
      · exact absurd (List.mem_append_right name List.mem_cons_self) hbracket
  unfold read at h
  split at h
  · cases h
  · rename_i after htrim
    split at h
    · rename_i hhead
      obtain ⟨more, rfl⟩ := List.head?_eq_some_iff.1 hhead
      rw [Text.trimFront, List.dropWhile_cons_of_neg (by decide)] at htrim
      obtain ⟨-, rfl⟩ := List.cons.inj htrim
      exact hspan List.not_mem_nil (List.nil_append _).symm h rfl
    · cases h
  · split at h
    · dsimp only at h
      generalize hname : s.takeWhile (fun c => c != '=' && c != '[' && c != ',') = name at h
      have hsplit : s = name ++ s.drop name.length := by
        rw [← hname]
        exact (List.prefix_iff_eq_append.1 (List.takeWhile_prefix _)).symm
      -- the name holds neither of the characters that end it
      have hkept : ∀ c ∈ name, c ≠ '=' ∧ c ≠ '[' := by
        intro c hc
        have hkind := List.all_eq_true.1 List.all_takeWhile c (hname ▸ hc)
        simp only [Bool.and_eq_true, bne_iff_ne] at hkind
        exact hkind.1
      have hbracket : '[' ∉ name := fun hmem => (hkept '[' hmem).2 rfl
      split at h
      · rename_i hdrop
        rw [hdrop, List.append_nil] at hsplit
        exact Or.inl fun hmem => (hkept '=' (hsplit ▸ hmem)).1 rfl
      · rename_i level hdrop
        split at h
        · cases hlevel : levelPart level with
          | error fault =>
            rw [hlevel] at h
            cases h
          | ok u =>
            rw [hlevel] at h
            cases h
            refine Or.inr (Or.inr ⟨name, level, hdrop ▸ hsplit, hlevel, ?_, fun _ => rfl⟩)
            exact String.toList_ofList.trans (targetPart_eq_self hbracket).symm
        · cases h
      · rename_i after hdrop
        split at h
        · exact hspan hbracket (hdrop ▸ hsplit) h String.toList_ofList
        · cases h
      · cases h
    · cases h

/-- A directive that is read from the text for a module turns off.  Its target is the module up to its first bracket,
and it is about all lines of the module when there is none. -/
theorem read_offText {module : String} (h : read (offText module).toList = .ok d) :
    d.threshold = none ∧ (d.target.getD "").toList = targetPart module.toList ∧
      ('[' ∉ module.toList → d = ⟨some module, none, [], none⟩) := by
  have htext : (offText module).toList = module.toList ++ '=' :: ['o', 'f', 'f'] := by
    rw [offText, String.toList_append]
    rfl
  have hoff : levelPart ['o', 'f', 'f'] = .ok none := rfl
  rw [htext] at h
  -- the text has an equals sign and does not end in a bracket, so its level stands after its last equals sign
  obtain hnone | ⟨front, hfront⟩ | ⟨front, level, hlevelled⟩ := read_eq_ok h
  · exact absurd (List.mem_append_right _ List.mem_cons_self) hnone
  · have hlast := congrArg List.getLast? hfront
    simp at hlast
  · have hlevel := hlevelled.threshold
    obtain ⟨rfl, rfl⟩ := Text.eq_of_append_cons_of_last (by decide) (equals_notMem_of_levelPart hlevel) hlevelled.text
    rw [hoff] at hlevel
    have hthreshold : d.threshold = none := (Except.ok.inj hlevel).symm
    refine ⟨hthreshold, hlevelled.target, fun hbracket => ?_⟩
    rw [hlevelled.plain hbracket, hthreshold, String.ofList_toList]

end ContainerWatch.Log.Directive
