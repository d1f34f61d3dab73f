import ContainerWatch.Log.Filter
import ContainerWatch.Proofs.LastWord
import ContainerWatch.Proofs.Log.OffDirective
import ContainerWatch.Telemetry.Setup
import Mathlib.Data.List.Nodup
import Mathlib.Data.List.Perm.Basic
/-!
# Excluded modules are turned off

A filter holds its directives in the order of `Directive.compareKey`, in which no two of them have the same place
(`Filter.Ordered`).  So it is settled by which directives are in it (`Filter.Ordered.eq_of_mem_iff`), and those are the
ones that had the last word about their lines (`Filter.mem_foldl_add_iff`).  The directives that turn modules off are
added last and agree with each other wherever they are about the same lines, hence neither the order of the modules nor
repeating one matters.

The parts of the main statement come from different layers.

* Which directives there are is a matter of lists, and needs the order only to be an order
  (`Std.TransCmp compareKey`).
* That an excluded module is off also needs the order to ask for longer targets first: no directive before the one for
  all lines of a module covers the module (`Directive.covers_eq_false_of_compareKey`).
* Which module is refused follows the list from the front, since the first directive that cannot be written ends the
  work (`Filter.turnOff_eq_error_iff`).
* A part of the log level that cannot be read is dropped before anything is added (`Filter.asked_of_unreadable`).

Main statement: `Telemetry.excluded_off`.
-/

namespace ContainerWatch

namespace Log

namespace Directive

variable {d e : Directive} {m n : String}

/-- Directives for the same lines, of which a filter holds one only. -/
structure SameLines (d e : Directive) : Prop where
  target : d.target = e.target
  span : d.span = e.span
  fields : d.fields = e.fields

theorem SameLines.refl (d : Directive) : d.SameLines d := ⟨rfl, rfl, rfl⟩

theorem SameLines.symm (h : d.SameLines e) : e.SameLines d :=
  ⟨h.target.symm, h.span.symm, h.fields.symm⟩

/-- Directives are told apart by their lines and their threshold. -/
theorem SameLines.eq (h : d.SameLines e) (hthreshold : d.threshold = e.threshold) : d = e := by
  cases d
  cases e
  obtain ⟨htarget, hspan, hfields⟩ := h
  rw [mk.injEq]
  exact ⟨htarget, hspan, hfields, hthreshold⟩

/-- A directive is the one that is read to turn a module off. -/
def TurnsOff (d : Directive) (module : String) : Prop := read (offText module).toList = .ok d

/-- A directive that is written to turn a module off lets nothing pass, whatever the module is. -/
theorem TurnsOff.threshold (h : d.TurnsOff m) : d.threshold = none :=
  (read_offText h).1

/-- What turns modules off is the same for the same lines. -/
theorem TurnsOff.eq_of_sameLines (hd : d.TurnsOff m) (he : e.TurnsOff n) (h : d.SameLines e) : d = e :=
  h.eq (hd.threshold.trans he.threshold.symm)

/-! ## The order of directives -/

instance : Std.TransCmp compareKey :=
  inferInstanceAs (Std.TransCmp (compareLex
    (fun a b : Directive => compareOn (fun d : Directive => d.target.map String.length) b a)
    (compareLex (compareOn Directive.target) (compareLex (compareOn Directive.span) (compareOn Directive.fields)))))

/-- Directives have the same place when they are for the same lines.  The length of the target, which is compared
first, follows the target. -/
theorem compareKey_eq_eq_iff : d.compareKey e = .eq ↔ d.SameLines e := by
  simp only [compareKey, Ordering.then_eq_eq, Std.LawfulEqCmp.compare_eq_iff_eq]
  constructor
  · rintro ⟨-, htarget, hspan, hfields⟩
    exact ⟨htarget, hspan, hfields⟩
  · rintro ⟨htarget, hspan, hfields⟩
    exact ⟨by rw [htarget], htarget, hspan, hfields⟩

theorem not_sameLines_of_compareKey {o : Ordering} (h : d.compareKey e = o) (ho : o ≠ .eq) : ¬ d.SameLines e := by
  intro hsame
  exact ho (h.symm.trans (compareKey_eq_eq_iff.2 hsame))

/-- The directive for all lines of a module. -/
def whole (module : String) (t : Threshold) : Directive := ⟨some module, none, [], t⟩

theorem covers_whole (m : String) (t : Threshold) : (whole m t).covers m := by
  simp [covers, isPlain, whole]

/-- No directive that is asked before the one for all lines of a module covers the module.  What covers it has a
beginning of the module's name as its target; a shorter one is asked later, and the whole name with no span and no
fields is the directive itself. -/
theorem covers_eq_false_of_compareKey {t : Threshold} (h : e.compareKey (whole m t) = .lt) : e.covers m = false := by
  refine Bool.eq_false_iff.2 fun hcovers => ?_
  obtain ⟨hplain, hprefix⟩ := Bool.and_eq_true_iff.1 hcovers
  obtain ⟨hspan, hfields⟩ := Bool.and_eq_true_iff.1 hplain
  have hother : ¬ e.SameLines (whole m t) := not_sameLines_of_compareKey h (by decide)
  cases htarget : e.target with
  | none =>
    rw [compareKey, htarget] at h
    cases h
  | some u =>
    rw [htarget] at hprefix
    have hu : u.toList <+: m.toList := List.isPrefixOf_iff_prefix.1 hprefix
    -- a beginning is shorter than the name or the name itself
    obtain hlt | heq := Nat.lt_or_eq_of_le hu.length_le
    · rw [String.length_toList, String.length_toList] at hlt
      have hgt : compare (some m.length) (some u.length) = .gt := Nat.compare_eq_gt.2 hlt
      have hkey : e.compareKey (whole m t) = .gt := by
        simp [compareKey, htarget, whole, hgt]
      rw [hkey] at h
      cases h
    · obtain rfl := String.toList_injective (hu.eq_of_length heq)
      exact hother ⟨htarget, Option.isNone_iff_eq_none.1 hspan, List.isEmpty_iff.1 hfields⟩

end Directive

namespace Filter

open Directive

/-! ## Ordered directives -/

/-- Directives stand in the order in which they are asked, and no two of them are about the same lines. -/
def Ordered (ds : List Directive) : Prop := ds.Pairwise fun d e => d.compareKey e = .lt

variable {ds es : List Directive} {d e : Directive} {f g : Filter}

/-- No directive stands twice, since none comes before itself. -/
theorem Ordered.nodup (h : Ordered ds) : ds.Nodup := by
  refine h.imp ?_
  rintro d e hlt rfl
  exact not_sameLines_of_compareKey hlt (by decide) (.refl d)

/-- Ordered directives are settled by which ones there are. -/
theorem Ordered.eq_of_mem_iff (hds : Ordered ds) (hes : Ordered es) (h : ∀ d, d ∈ ds ↔ d ∈ es) : ds = es := by
  have hperm : ds.Perm es := (List.perm_ext_iff_of_nodup hds.nodup hes.nodup).2 h
  refine List.Perm.eq_of_pairwise (fun a b _ _ hab hba => ?_) hds hes hperm
  exact absurd hba (Std.OrientedCmp.not_lt_of_lt hab)

/-- A directive that is put at its place is there, and of the others those for other lines stay.  In front of a
greater one nothing later can be for the same lines, and at the place of an equal one only that one is. -/
theorem mem_place_iff (h : Ordered ds) : e ∈ place d ds ↔ e = d ∨ (e ∈ ds ∧ ¬ d.SameLines e) := by
  induction ds with
  | nil => simp [place]
  | cons a rest ih =>
    obtain ⟨ha, hrest⟩ := List.pairwise_cons.1 h
    rw [place]
    split
    · rename_i hlt
      -- all that follows comes after the new one
      have hother : ∀ e ∈ a :: rest, ¬ d.SameLines e := by
        intro e he
        obtain rfl | he := List.mem_cons.1 he
        · exact not_sameLines_of_compareKey hlt (by decide)
        · exact not_sameLines_of_compareKey (Std.TransCmp.lt_trans hlt (ha e he)) (by decide)
      rw [List.mem_cons]
      exact or_congr_right ⟨fun he => ⟨he, hother e he⟩, And.left⟩
    · rename_i heq
      have hother : ∀ e ∈ rest, ¬ d.SameLines e := by
        intro e he
        exact not_sameLines_of_compareKey (Std.TransCmp.lt_of_eq_of_lt heq (ha e he)) (by decide)
      rw [List.mem_cons, List.mem_cons]
      refine or_congr_right ⟨fun he => ⟨Or.inr he, hother e he⟩, ?_⟩
      rintro ⟨rfl | he, hnot⟩
      · exact absurd (compareKey_eq_eq_iff.1 heq) hnot
      · exact he
    · rename_i hgt
      have hnot : ¬ d.SameLines a := not_sameLines_of_compareKey hgt (by decide)
      rw [List.mem_cons, List.mem_cons, ih hrest]
      constructor
      · rintro (rfl | rfl | ⟨he, hother⟩)
        · exact Or.inr ⟨Or.inl rfl, hnot⟩
        · exact Or.inl rfl
        · exact Or.inr ⟨Or.inr he, hother⟩
      · rintro (rfl | ⟨rfl | he, hother⟩)
        · exact Or.inr (Or.inl rfl)
        · exact Or.inl rfl
        · exact Or.inr (Or.inr ⟨he, hother⟩)

/-- Putting a directive at its place keeps the order. -/
theorem Ordered.place (h : Ordered ds) (d : Directive) : Ordered (place d ds) := by
  induction ds with
  | nil => exact List.pairwise_singleton _ d
  | cons a rest ih =>
    obtain ⟨ha, hrest⟩ := List.pairwise_cons.1 h
    rw [Filter.place]
    split
    · rename_i hlt
      refine List.pairwise_cons.2 ⟨fun e he => ?_, h⟩
      obtain rfl | he := List.mem_cons.1 he
      · exact hlt
      · exact Std.TransCmp.lt_trans hlt (ha e he)
    · rename_i heq
      exact List.pairwise_cons.2 ⟨fun e he => Std.TransCmp.lt_of_eq_of_lt heq (ha e he), hrest⟩
    · rename_i hgt
      refine List.pairwise_cons.2 ⟨fun e he => ?_, ih hrest⟩
      obtain rfl | he := mem_place he
      · exact Std.OrientedCmp.lt_of_gt hgt
      · exact ha e he

/-- The directive for all lines of a module gives the threshold of the module. -/
theorem threshold_of_mem {m : String} {t : Threshold} (hf : Ordered f.directives)
    (h : whole m t ∈ f.directives) : f.threshold m = t := by
  obtain ⟨front, rest, hsplit⟩ := List.append_of_mem h
  rw [hsplit] at hf
  -- the directives in front of it do not cover the module, so it is the first that does
  have hfind : f.directives.find? (fun d => d.covers m) = some (whole m t) := by
    refine List.find?_eq_some_iff_append.2 ⟨covers_whole m t, front, rest, hsplit, fun e he => ?_⟩
    rw [covers_eq_false_of_compareKey ((List.pairwise_append.1 hf).2.2 e he _ List.mem_cons_self), Bool.not_false]
  rw [threshold, hfind]
  rfl

/-! ## Adding directives -/

theorem ordered_foldl_add (hf : Ordered f.directives) : Ordered (ds.foldl add f).directives := by
  induction ds generalizing f with
  | nil => exact hf
  | cons e rest ih => exact ih (hf.place e)

/-- Of the directives that are added to a filter those are in it that have the last word about their lines, and those
that were there stay unless they are replaced. -/
theorem mem_foldl_add_iff (hf : Ordered f.directives) :
    d ∈ (ds.foldl add f).directives ↔
      LastWord SameLines ds d ∨ (d ∈ f.directives ∧ ∀ e ∈ ds, ¬ e.SameLines d) :=
  foldl_iff_lastWord SameLines (fun f : Filter => Ordered f.directives) (fun f => d ∈ f.directives)
    (fun _ e hf => hf.place e) (fun _ _ hf => mem_place_iff hf) hf

/-! ## Texts -/

/-- The directives that can be read between the commas of a text, in its order. -/
def between (text : String) : List Directive :=
  (Text.pieces ',' text.toList).filterMap fun piece => (read piece).toOption

/-- The directives that a text asks for: the ones between its commas, or when there are none that errors pass. -/
def asked (text : String) : List Directive :=
  if between text = [] then [⟨none, none, [], some .error⟩] else between text

/-- An empty piece need not be left out before it is read, since it cannot be read. -/
theorem readable_eq (text : String) : readable text = between text := by
  rw [readable, between, List.filterMap_filter]
  refine List.filterMap_congr fun piece _ => ?_
  cases piece with
  | nil => rfl
  | cons c rest => rfl

theorem ofText_eq (text : String) : ofText text = (asked text).foldl add ⟨[]⟩ := by
  simp only [ofText, readable_eq, List.isEmpty_iff]
  rfl

theorem ordered_ofText (text : String) : Ordered (ofText text).directives := by
  rw [ofText_eq]
  exact ordered_foldl_add List.Pairwise.nil

/-- A filter holds, of the directives that its text asks for, those that have the last word about their lines. -/
theorem mem_ofText_iff {text : String} : d ∈ (ofText text).directives ↔ LastWord SameLines (asked text) d := by
  rw [ofText_eq, mem_foldl_add_iff List.Pairwise.nil]
  simp

/-- What stands between the commas of joined parts are the parts. -/
theorem between_join {parts : List String} (h : ∀ p ∈ parts, Text.FreeOf ',' p) :
    between (Text.join "," parts) = parts.filterMap fun p => (read p.toList).toOption := by
  cases parts with
  | nil => rfl
  | cons p rest =>
    rw [between, Text.pieces_join rfl (List.cons_ne_nil p rest) h, List.filterMap_map]
    rfl

/-- A part that cannot be read makes no difference. -/
theorem asked_of_unreadable {before after : List String} {part : String}
    (hfree : ∀ p ∈ before ++ part :: after, Text.FreeOf ',' p) (hpart : ∀ d, read part.toList ≠ .ok d) :
    asked (Text.join "," (before ++ after)) = asked (Text.join "," (before ++ part :: after)) := by
  have hnone : (read part.toList).toOption = none := by
    cases hread : read part.toList with
    | ok d => exact absurd hread (hpart d)
    | error fault => rfl
  -- the other parts are free of commas too, so both texts are cut where they were joined
  have hothers : ∀ p ∈ before ++ after, Text.FreeOf ',' p := by
    intro p hp
    exact hfree p (((List.sublist_cons_self part after).append_left before).subset hp)
  rw [asked, asked, between_join hfree, between_join hothers, List.filterMap_append, List.filterMap_append,
    List.filterMap_cons, hnone]

/-! ## Turning modules off -/

variable {ms : List String}

theorem turnOff_cons_of_turnsOff {m : String} (h : d.TurnsOff m) : f.turnOff (m :: ms) = (f.add d).turnOff ms := by
  rw [turnOff, h]

theorem turnOff_cons_of_error {m : String} {fault : Fault} (h : read (offText m).toList = .error fault) :
    f.turnOff (m :: ms) = .error (offText m, fault) := by
  rw [turnOff, h]

/-- The directives that turn modules off. -/
def offs (ms : List String) : List Directive := ms.filterMap fun m => (read (offText m).toList).toOption

/-- The directives that turn modules off are those that can be written for one of them. -/
theorem mem_offs_iff : d ∈ offs ms ↔ ∃ m ∈ ms, d.TurnsOff m := by
  rw [offs, List.mem_filterMap]
  refine exists_congr fun m => and_congr_right fun _ => ?_
  unfold TurnsOff
  cases read (offText m).toList with
  | ok e => simp [Except.toOption]
  | error fault => simp [Except.toOption]

/-- Modules that can all be turned off are turned off by adding their directives. -/
theorem eq_foldl_of_turnOff (h : f.turnOff ms = .ok g) : g = (offs ms).foldl add f := by
  induction ms generalizing f with
  | nil => exact (Except.ok.inj h).symm
  | cons m rest ih =>
    cases hread : read (offText m).toList with
    | ok d =>
      rw [turnOff_cons_of_turnsOff hread] at h
      rw [ih h, offs, offs, List.filterMap_cons, hread]
      rfl
    | error fault =>
      rw [turnOff_cons_of_error hread] at h
      cases h

theorem ordered_turnOff (hf : Ordered f.directives) (h : f.turnOff ms = .ok g) : Ordered g.directives :=
  eq_foldl_of_turnOff h ▸ ordered_foldl_add hf

/-- The directives after turning modules off are the ones that turn them off, and those that were there for other
lines. -/
theorem mem_turnOff_iff (hf : Ordered f.directives) (h : f.turnOff ms = .ok g) :
    d ∈ g.directives ↔
      (∃ m ∈ ms, d.TurnsOff m) ∨
        (d ∈ f.directives ∧ ∀ m ∈ ms, ∀ off : Directive, off.TurnsOff m → ¬ off.SameLines d) := by
  -- all of them let nothing pass, so where two are for the same lines they are one
  have hagree : ∀ a ∈ offs ms, ∀ b ∈ offs ms, a.SameLines b → a = b := by
    intro a ha b hb
    obtain ⟨m, -, hm⟩ := mem_offs_iff.1 ha
    obtain ⟨n, -, hn⟩ := mem_offs_iff.1 hb
    exact hm.eq_of_sameLines hn
  rw [eq_foldl_of_turnOff h, mem_foldl_add_iff hf, lastWord_iff_mem hagree, mem_offs_iff]
  simp only [mem_offs_iff]
  refine or_congr_right (and_congr_right fun _ => ?_)
  exact ⟨fun hall m hm off hoff => hall off ⟨m, hm, hoff⟩, fun hall off ⟨m, hm, hoff⟩ => hall m hm off hoff⟩

/-- Modules can be turned off when a directive can be written for each of them. -/
theorem exists_turnOff_eq_ok_iff : (∃ g, f.turnOff ms = .ok g) ↔ ∀ m ∈ ms, ∃ d : Directive, d.TurnsOff m := by
  induction ms generalizing f with
  | nil => exact iff_of_true ⟨f, rfl⟩ nofun
  | cons m rest ih =>
    rw [List.forall_mem_cons]
    cases hread : read (offText m).toList with
    | ok d =>
      rw [turnOff_cons_of_turnsOff hread, ih]
      exact ⟨fun h => ⟨⟨d, hread⟩, h⟩, And.right⟩
    | error fault =>
      rw [turnOff_cons_of_error hread]
      refine iff_of_false nofun ?_
      rintro ⟨⟨d, hd⟩, -⟩
      cases hread.symm.trans hd

/-- A module is refused: it is the first one for which no directive can be written. -/
structure Refuses (ms : List String) (m : String) (fault : Fault) : Prop where
  fault : read (offText m).toList = .error fault
  first : ∃ before after, ms = before ++ m :: after ∧ ∀ b ∈ before, ∃ d : Directive, d.TurnsOff b

/-- A module that can be turned off is not the one that is refused. -/
theorem refuses_cons_of_turnsOff {m n : String} {fault : Fault} (h : d.TurnsOff m) :
    Refuses (m :: ms) n fault ↔ Refuses ms n fault := by
  constructor
  · rintro ⟨hfault, before, after, hsplit, hbefore⟩
    cases before with
    | nil =>
      obtain ⟨rfl, -⟩ := List.cons.inj hsplit
      cases hfault.symm.trans h
    | cons b before =>
      obtain ⟨rfl, rfl⟩ := List.cons.inj hsplit
      exact ⟨hfault, before, after, rfl, (List.forall_mem_cons.1 hbefore).2⟩
  · rintro ⟨hfault, before, after, rfl, hbefore⟩
    exact ⟨hfault, m :: before, after, rfl, List.forall_mem_cons.2 ⟨⟨d, h⟩, hbefore⟩⟩

/-- The first module for which no directive can be written is refused, with the fault of its directive. -/
theorem refuses_cons_of_error {m n : String} {fault fault' : Fault} (h : read (offText m).toList = .error fault) :
    Refuses (m :: ms) n fault' ↔ n = m ∧ fault' = fault := by
  constructor
  · rintro ⟨hfault, before, after, hsplit, hbefore⟩
    cases before with
    | nil =>
      obtain ⟨rfl, -⟩ := List.cons.inj hsplit
      exact ⟨rfl, Except.error.inj (hfault.symm.trans h)⟩
    | cons b before =>
      obtain ⟨rfl, -⟩ := List.cons.inj hsplit
      obtain ⟨d, hd⟩ := hbefore _ List.mem_cons_self
      cases h.symm.trans hd
  · rintro ⟨rfl, rfl⟩
    exact ⟨h, [], ms, rfl, nofun⟩

/-- The work ends at the module that is refused, and names the directive that was tried for it. -/
theorem turnOff_eq_error_iff {e : String × Fault} :
    f.turnOff ms = .error e ↔ ∃ m fault, Refuses ms m fault ∧ e = (offText m, fault) := by
  induction ms generalizing f with
  | nil =>
    refine iff_of_false nofun ?_
    rintro ⟨m, fault, ⟨-, before, after, h, -⟩, -⟩
    exact List.cons_ne_nil _ _ (List.append_eq_nil_iff.1 h.symm).2
  | cons m rest ih =>
    cases hread : read (offText m).toList with
    | ok d =>
      simp only [turnOff_cons_of_turnsOff hread, ih, refuses_cons_of_turnsOff hread]
    | error fault =>
      rw [turnOff_cons_of_error hread]
      constructor
      · intro h
        exact ⟨m, fault, (refuses_cons_of_error hread).2 ⟨rfl, rfl⟩, (Except.error.inj h).symm⟩
      · rintro ⟨n, fault', hrefuses, rfl⟩
        obtain ⟨rfl, rfl⟩ := (refuses_cons_of_error hread).1 hrefuses
        rfl

/-- Where modules are turned off, no other directive is about the same lines. -/
theorem eq_of_sameLines_of_turnsOff {m : String} (hf : Ordered f.directives) (h : f.turnOff ms = .ok g) (hm : m ∈ ms)
    (hd : d.TurnsOff m) {e : Directive} (he : e ∈ g.directives) (hsame : e.SameLines d) : e = d := by
  obtain ⟨n, -, hn⟩ | ⟨-, hkept⟩ := (mem_turnOff_iff hf h).1 he
  · exact hn.eq_of_sameLines hd hsame
  · exact absurd hsame.symm (hkept m hm d hd)

/-- Only which modules are turned off matters, not their order or how often they are. -/
theorem turnOff_eq_ok_of_mem_iff {ns : List String} (hf : Ordered f.directives) (h : f.turnOff ms = .ok g)
    (hsame : ∀ m, m ∈ ns ↔ m ∈ ms) : f.turnOff ns = .ok g := by
  obtain ⟨k, hk⟩ : ∃ k, f.turnOff ns = .ok k :=
    exists_turnOff_eq_ok_iff.2 fun m hm => exists_turnOff_eq_ok_iff.1 ⟨g, h⟩ m ((hsame m).1 hm)
  -- both filters are ordered, so they are equal when they hold the same directives
  have hdirectives : k.directives = g.directives := by
    refine (ordered_turnOff hf hk).eq_of_mem_iff (ordered_turnOff hf h) fun d => ?_
    rw [mem_turnOff_iff hf hk, mem_turnOff_iff hf h]
    simp only [hsame]
  obtain rfl : k = g := congrArg mk hdirectives
  exact hk

end Filter

end Log

namespace Telemetry

open Log

/-- A filter is made when all excluded modules are turned off in that of the log level. -/
theorem filter_eq_ok_iff {logLevel : String} {excluded : List String} {f : Filter} :
    filter logLevel excluded = .ok f ↔ (Filter.ofText logLevel).turnOff excluded = .ok f := by
  rw [filter]
  cases (Filter.ofText logLevel).turnOff excluded with
  | ok g => rw [Except.mapError, Except.ok.injEq, Except.ok.injEq]
  | error e => exact iff_of_false nofun nofun

theorem filter_eq_error_iff {logLevel : String} {excluded : List String} {e : Error} :
    filter logLevel excluded = .error e ↔
      ∃ m fault, Filter.Refuses excluded m fault ∧ e = .directive (Directive.offText m) fault := by
  have hmap : filter logLevel excluded = .error e ↔
      ∃ r, (Filter.ofText logLevel).turnOff excluded = .error r ∧ .directive r.1 r.2 = e := by
    rw [filter]
    cases (Filter.ofText logLevel).turnOff excluded with
    | ok g => simp [Except.mapError]
    | error r => simp [Except.mapError]
  rw [hmap]
  constructor
  · rintro ⟨r, hr, rfl⟩
    obtain ⟨m, fault, hrefuses, rfl⟩ := Filter.turnOff_eq_error_iff.1 hr
    exact ⟨m, fault, hrefuses, rfl⟩
  · rintro ⟨m, fault, hrefuses, rfl⟩
    exact ⟨_, Filter.turnOff_eq_error_iff.2 ⟨m, fault, hrefuses, rfl⟩, rfl⟩

/-- A filter is made exactly when a directive can be written for each excluded module, and otherwise the first module
without one is named.  Whatever the log level says, each excluded module is then off, the other directives of the log
level are kept, and neither the order nor the number of times in which the modules are listed matters.  What cannot be
read in the log level makes no difference.

The threshold of a module is that of its lines without regard to their fields: where the log level has a directive
with fields and no span, the lines that have these fields are left out of it (`Directive.covers`). -/
theorem excluded_off (logLevel : String) (excluded : List String) :
    ((∃ f, filter logLevel excluded = .ok f) ↔ ∀ m ∈ excluded, ∃ d : Directive, d.TurnsOff m) ∧
    (∀ e, filter logLevel excluded = .error e →
      ∃ m fault, Filter.Refuses excluded m fault ∧ e = .directive (Directive.offText m) fault ∧
        e.message = "Invalid log directive '" ++ (m ++ "=off") ++ "'") ∧
    (∀ f, filter logLevel excluded = .ok f →
      (∀ m ∈ excluded, ∃ d ∈ f.directives, d.TurnsOff m ∧ d.threshold = none ∧
        (d.target.getD "").toList = Directive.targetPart m.toList ∧
        (∀ e ∈ f.directives, e.SameLines d → e = d) ∧
        ('[' ∉ m.toList → d = .whole m none ∧ f.threshold m = none)) ∧
      (∀ d, d ∈ f.directives ↔
        (∃ m ∈ excluded, d.TurnsOff m) ∨
          (LastWord Directive.SameLines (Filter.asked logLevel) d ∧
            ∀ m ∈ excluded, ∀ off : Directive, off.TurnsOff m → ¬ off.SameLines d)) ∧
      ∀ excluded', (∀ m, m ∈ excluded' ↔ m ∈ excluded) → filter logLevel excluded' = .ok f) ∧
    ∀ before part after, logLevel = Text.join "," (before ++ part :: after) →
      (∀ p ∈ before ++ part :: after, Text.FreeOf ',' p) → (∀ d, Directive.read part.toList ≠ .ok d) →
        filter (Text.join "," (before ++ after)) excluded = filter logLevel excluded := by
  refine ⟨?_, fun e he => ?_, fun f hf => ?_, ?_⟩
  · simp only [filter_eq_ok_iff]
    exact Filter.exists_turnOff_eq_ok_iff
  · obtain ⟨m, fault, hrefuses, rfl⟩ := filter_eq_error_iff.1 he
    exact ⟨m, fault, hrefuses, rfl, rfl⟩
  · have hordered : Filter.Ordered (Filter.ofText logLevel).directives := Filter.ordered_ofText logLevel
    have hoff := filter_eq_ok_iff.1 hf
    refine ⟨fun m hm => ?_, fun d => ?_, fun excluded' hsame => ?_⟩
    · obtain ⟨d, hd⟩ := Filter.exists_turnOff_eq_ok_iff.1 ⟨f, hoff⟩ m hm
      have hmem : d ∈ f.directives := (Filter.mem_turnOff_iff hordered hoff).2 (Or.inl ⟨m, hm, hd⟩)
      obtain ⟨hthreshold, htarget, hplain⟩ := Directive.read_offText hd
      refine ⟨d, hmem, hd, hthreshold, htarget,
        fun e he => Filter.eq_of_sameLines_of_turnsOff hordered hoff hm hd he, fun hbracket => ?_⟩
      obtain rfl : d = .whole m none := hplain hbracket
      exact ⟨rfl, Filter.threshold_of_mem (Filter.ordered_turnOff hordered hoff) hmem⟩
    · rw [Filter.mem_turnOff_iff hordered hoff, Filter.mem_ofText_iff]
    · exact filter_eq_ok_iff.2 (Filter.turnOff_eq_ok_of_mem_iff hordered hoff hsame)
  · rintro before part after rfl hfree hpart
    rw [filter, filter, Filter.ofText_eq, Filter.ofText_eq, Filter.asked_of_unreadable hfree hpart]

/-- A log level that asks for everything from one module, and has a part that cannot be read. -/
def exampleLogLevel : String := "hyper=trace,tonic=info,debug,?!"

/-- Modules are turned off in any order and however often they are listed, one of them in one span only.  A text with
a comma is refused. -/
theorem excluded_off_exampleLogLevel :
    (∃ f, filter exampleLogLevel ["hyper", "tower[ping]", "hyper"] = .ok f ∧
      filter "hyper=trace,tonic=info,debug" ["tower[ping]", "hyper"] = .ok f ∧ f.threshold "hyper" = none) ∧
      ∃ e, filter exampleLogLevel ["hyper", "a,b"] = .error e ∧ e.message = "Invalid log directive 'a,b=off'" := by
  obtain ⟨hok, -, hsettled, -⟩ := excluded_off exampleLogLevel ["hyper", "tower[ping]", "hyper"]
  obtain ⟨f, hf⟩ := hok.2 (by
    simp only [List.forall_mem_cons]
    exact ⟨⟨_, rfl⟩, ⟨_, rfl⟩, ⟨_, rfl⟩, nofun⟩)
  obtain ⟨hoff, -, hsame⟩ := hsettled f hf
  obtain ⟨d, -, -, -, -, -, hhyper⟩ := hoff "hyper" List.mem_cons_self
  obtain ⟨-, -, -, hpart⟩ := excluded_off exampleLogLevel ["tower[ping]", "hyper"]
  have hunreadable (d : Directive) : Directive.read "?!".toList ≠ .ok d := by
    have hread : Directive.read "?!".toList = .error .shape := rfl
    rw [hread]
    nofun
  have hreadable := hpart ["hyper=trace", "tonic=info", "debug"] "?!" [] (by decide) (by decide) hunreadable
  refine ⟨⟨f, hf, hreadable.trans (hsame _ fun m => ?_), (hhyper (by decide)).2⟩, _, rfl, rfl⟩
  simp [or_comm]

end Telemetry

end ContainerWatch
