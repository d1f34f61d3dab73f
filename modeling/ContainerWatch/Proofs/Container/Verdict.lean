import ContainerWatch.Proofs.Container.Payload
/-!
# What a health action says

A health action gives a verdict by one of two words.  The word stands after the beginning of such actions, which
may be repeated, with blanks before and after it and nothing else (`Announcement.Says`).  Every other health
action leaves the verdict open, and so does every other change.

The beginning by which a health action is recognised is shorter than the one that is dropped before the word, so a
text between the two has to be ruled out: what is recognised never is the word alone (`not_prefix_word`).

The action is read in two steps, which the grammar has in one: all copies of the beginning are dropped, and blanks are
trimmed from what is left.  A word holds no blank and no copy of the beginning, so the two steps stop where they should
(`trimBlanks_dropCopies_eq_iff`).

Main statement: `ChangeEvent.verdict_read`.
-/

namespace ContainerWatch

namespace Announcement

/-! ## Words between blanks -/

/-- The texts that give a verdict by a word.  Between copies of the beginning nothing may stand, not even a blank. -/
inductive Says (word : List Char) : List Char → Prop
  | once {lead trail : List Char} (hlead : ∀ c ∈ lead, Text.isBlank c) (htrail : ∀ c ∈ trail, Text.isBlank c) :
      Says word ("health_status:".toList ++ (lead ++ (word ++ trail)))
  | again {text : List Char} (h : Says word text) : Says word ("health_status:".toList ++ text)

/-- The words that stand for a verdict. -/
def IsVerdict (word : List Char) : Prop := word = "healthy".toList ∨ word = "unhealthy".toList

theorem IsVerdict.ne_nil {word : List Char} (h : IsVerdict word) : word ≠ [] := by
  obtain rfl | rfl := h
  · decide
  · decide

/-- A verdict is made of letters, so no blank of it is trimmed. -/
theorem IsVerdict.isBlank {word : List Char} (h : IsVerdict word) : ∀ c ∈ word, Text.isBlank c = false := by
  have hletters : word.all Char.isAlpha := by obtain rfl | rfl := h <;> rfl
  exact fun c hc => Text.isBlank_eq_false_of_isAlpha (List.all_eq_true.1 hletters c hc)

/-- The beginning of health actions is longer than a verdict and does not begin with one. -/
theorem IsVerdict.not_prefix {word : List Char} (h : IsVerdict word) :
    word.length ≤ healthWord.length ∧ ¬ word <+: healthWord := by
  obtain rfl | rfl := h
  · decide
  · decide

/-- A verdict with blanks before it is no health action, whatever follows it. -/
theorem not_prefix_word {lead word : List Char} (hlead : ∀ c ∈ lead, Text.isBlank c) (hword : IsVerdict word)
    (trail : List Char) : ¬ healthWord <+: lead ++ (word ++ trail) := by
  intro h
  cases lead with
  | nil =>
    obtain ⟨hlength, hprefix⟩ := hword.not_prefix
    exact hprefix (List.prefix_of_prefix_length_le (List.prefix_append word trail) h hlength)
  | cons c lead =>
    have hc : 'h' = c := (List.cons_prefix_cons.1 h).1
    have hblank := hlead c List.mem_cons_self
    rw [← hc] at hblank
    cases hblank

theorem healthWord_prefix_verdictStart : healthWord <+: verdictStart := by decide

/-- A verdict with blanks before it is not dropped. -/
theorem dropCopies_word {lead word : List Char} (hlead : ∀ c ∈ lead, Text.isBlank c) (hword : IsVerdict word)
    (trail : List Char) :
    Text.dropCopies verdictStart (lead ++ (word ++ trail)) = lead ++ (word ++ trail) := by
  rw [Text.dropCopies, if_neg]
  rintro ⟨-, hstart⟩
  exact not_prefix_word hlead hword trail
    (healthWord_prefix_verdictStart.trans (List.isPrefixOf_iff_prefix.1 hstart))

/-- A text that says a word has the word left, with its blanks, once the copies of the beginning are dropped.  The
induction is on the copies. -/
theorem Says.exists_dropCopies_eq {word text : List Char} (hword : IsVerdict word) (h : Says word text) :
    ∃ lead trail, Text.dropCopies verdictStart text = lead ++ (word ++ trail) ∧
      (∀ c ∈ lead, Text.isBlank c) ∧ ∀ c ∈ trail, Text.isBlank c := by
  have hdrop (rest : List Char) :
      Text.dropCopies verdictStart (verdictStart ++ rest) = Text.dropCopies verdictStart rest :=
    Text.dropCopies_append (by decide) rest
  induction h with
  | @once lead trail hlead htrail =>
    exact ⟨lead, trail, (hdrop _).trans (dropCopies_word hlead hword trail), hlead, htrail⟩
  | again _ ih =>
    obtain ⟨lead, trail, hsame, hblank⟩ := ih
    exact ⟨lead, trail, (hdrop _).trans hsame, hblank⟩

/-- What is left of a text is the text itself, or some copies of the beginning stood before it. -/
theorem says_of_dropCopies_eq {word text lead trail : List Char}
    (h : Text.dropCopies verdictStart text = lead ++ (word ++ trail)) (hlead : ∀ c ∈ lead, Text.isBlank c)
    (htrail : ∀ c ∈ trail, Text.isBlank c) : text = lead ++ (word ++ trail) ∨ Says word text := by
  fun_induction Text.dropCopies verdictStart text with
  | case1 text hstart ih =>
    obtain ⟨rest, rfl⟩ := List.isPrefixOf_iff_prefix.1 hstart.2
    rw [List.drop_left] at ih h
    obtain rfl | hsays := ih h
    · exact Or.inr (.once hlead htrail)
    · exact Or.inr (.again hsays)
  | case2 text hstart => exact Or.inl h

/-- The word that is read off a health action is a verdict exactly when the action says so.  That the action reports
health is needed: a word alone, without the beginning, would be read as a verdict too. -/
theorem trimBlanks_dropCopies_eq_iff {word text : List Char} (hword : IsVerdict word) (h : healthWord <+: text) :
    Text.trimBlanks (Text.dropCopies verdictStart text) = word ↔ Says word text := by
  rw [Text.trimBlanks_eq_iff hword.ne_nil hword.isBlank]
  constructor
  · rintro ⟨lead, trail, hdrop, hlead, htrail⟩
    obtain rfl | hsays := says_of_dropCopies_eq hdrop hlead htrail
    · exact absurd h (not_prefix_word hlead hword trail)
    · exact hsays
  · exact Says.exists_dropCopies_eq hword

/-! ## Verdicts -/

theorem verdict_eq_healthy_iff {action : String} (h : healthWord <+: action.toList) :
    verdict action = .healthy ↔ Says "healthy".toList action.toList := by
  rw [← trimBlanks_dropCopies_eq_iff (Or.inl rfl) h]
  simp only [verdict]
  split
  · rename_i hword
    exact iff_of_true rfl hword
  · rename_i hword
    refine iff_of_false (fun hverdict => ?_) hword
    split at hverdict
    · cases hverdict
    · cases hverdict

/-- A health action is unhealthy when it says so.  The word for it ends in the other one, but the two are compared as
a whole. -/
theorem verdict_eq_unhealthy_iff {action : String} (h : healthWord <+: action.toList) :
    verdict action = .unhealthy ↔ Says "unhealthy".toList action.toList := by
  rw [← trimBlanks_dropCopies_eq_iff (Or.inr rfl) h]
  simp only [verdict]
  split
  · rename_i hword
    refine iff_of_false nofun fun hother => ?_
    exact absurd (hword.symm.trans hother) (by decide)
  · split
    · rename_i hword
      exact iff_of_true rfl hword
    · rename_i hword
      exact iff_of_false nofun hword

/-- What says neither word leaves the verdict open. -/
theorem verdict_eq_unknown_iff {action : String} (h : healthWord <+: action.toList) :
    verdict action = .unknown ↔
      ¬ Says "healthy".toList action.toList ∧ ¬ Says "unhealthy".toList action.toList := by
  rw [← verdict_eq_healthy_iff h, ← verdict_eq_unhealthy_iff h]
  cases verdict action with
  | unknown => exact iff_of_true rfl ⟨nofun, nofun⟩
  | healthy => exact iff_of_false nofun fun hother => hother.1 rfl
  | unhealthy => exact iff_of_false nofun fun hother => hother.2 rfl

end Announcement

namespace ChangeEvent

open Announcement

/-! ## The verdict of an announced change -/

/-- A message whose action reports health announces the verdict that the action says, healthy or unhealthy, and
else an unknown one; a message with any other action announces no verdict. -/
theorem verdict_read {m : Engine.Message} {actor : Engine.Actor} {dockerId action : String}
    (hkind : m.kind = some .container) (hactor : m.actor = some actor) (hid : actor.id = some dockerId)
    (haction : m.action = some action) :
    (∀ rest, action = "health_status" ++ rest → ∃ e, ofMessage? m = some e ∧ e.type = .health ∧
      (e.metadata.health.status = .healthy ↔ Says "healthy".toList action.toList) ∧
      (e.metadata.health.status = .unhealthy ↔ Says "unhealthy".toList action.toList) ∧
      (e.metadata.health.status = .unknown ↔
        ¬ Says "healthy".toList action.toList ∧ ¬ Says "unhealthy".toList action.toList)) ∧
    ((∀ rest, action ≠ "health_status" ++ rest) →
      ∀ e, ofMessage? m = some e → e.metadata.health.status = .unknown) := by
  constructor
  · rintro rest rfl
    have hstart : healthWord <+: ("health_status" ++ rest).toList := by
      rw [String.toList_append]
      exact List.prefix_append healthWord rest.toList
    refine ⟨_, ofMessage?_eq_some_iff.2 ⟨actor, dockerId, _, _, _, hkind, hactor, hid, haction,
      changeOf?_health rest, rfl⟩, rfl, ?_⟩
    exact ⟨verdict_eq_healthy_iff hstart, verdict_eq_unhealthy_iff hstart, verdict_eq_unknown_iff hstart⟩
  · -- a change that is not about health has no verdict, and one that is has a health action
    intro hother e he
    obtain ⟨_, _, action', status, type, _, _, _, haction', hchange, rfl⟩ := ofMessage?_eq_some_iff.1 he
    obtain rfl := Option.some.inj (haction.symm.trans haction')
    rw [metadata_eq]
    cases type with
    | container => rfl
    | health =>
      cases changeOf?_eq_some_iff.1 hchange with
      | health rest => exact absurd rfl (hother rest)

/-- A message about the container `abc` with an action. -/
def verdictExample (action : String) : Engine.Message :=
  ⟨some .container, some action, some ⟨some "abc", none⟩, none, none, none⟩

/-- Health actions that say neither word: without a colon, with another word or other letters, with more text after
the word, or with a blank between two beginnings. -/
def openActions : List String :=
  ["health_status", "health_status healthy", "health_status: starting", "health_status: Healthy",
    "health_status: healthy now", "health_status: health_status: healthy"]

/-- The beginning may be repeated and any blanks may stand around the word, and whatever says no word is no
verdict. -/
theorem verdict_read_verdictExample :
    (∃ e, ofMessage? (verdictExample "health_status:health_status:\u00a0unhealthy\n") = some e ∧
      e.metadata.health.status = .unhealthy) ∧
    (∃ e, ofMessage? (verdictExample "health_status:healthy") = some e ∧ e.metadata.health.status = .healthy) ∧
    (∀ action ∈ openActions,
      ¬ Says "healthy".toList action.toList ∧ ¬ Says "unhealthy".toList action.toList) ∧
    ∃ e, ofMessage? (verdictExample "die") = some e ∧ e.metadata.health.status = .unknown := by
  have hread (action : String) := verdict_read (m := verdictExample action) rfl rfl rfl rfl
  refine ⟨?_, ?_, ?_, ?_⟩
  · obtain ⟨e, he, -, -, hunhealthy, -⟩ :=
      (hread "health_status:health_status:\u00a0unhealthy\n").1 ":health_status:\u00a0unhealthy\n" rfl
    have hblank : ∀ c ∈ ['\u00a0'], Text.isBlank c := List.forall_mem_singleton.2 rfl
    have hbreak : ∀ c ∈ ['\n'], Text.isBlank c := List.forall_mem_singleton.2 rfl
    exact ⟨e, he, hunhealthy.2 (.again (.once hblank hbreak))⟩
  · obtain ⟨e, he, -, hhealthy, -⟩ := (hread "health_status:healthy").1 ":healthy" rfl
    exact ⟨e, he, hhealthy.2 (.once (List.forall_mem_nil _) (List.forall_mem_nil _))⟩
  · intro action haction
    have hhealth : ∀ a ∈ openActions, healthWord.isPrefixOf a.toList := by decide
    have hunknown : ∀ a ∈ openActions,
        (ofMessage? (verdictExample a)).map (·.metadata.health.status) = some .unknown := by decide +kernel
    obtain ⟨rest, hrest⟩ := exists_eq_append_of_isPrefixOf (hhealth action haction)
    obtain ⟨e, he, -, -, -, hopen⟩ := (hread action).1 rest hrest
    have hstatus := hunknown action haction
    rw [he] at hstatus
    exact hopen.1 (Option.some.inj hstatus)
  · refine ⟨_, rfl, (hread "die").2 (fun rest hrest => ?_) _ rfl⟩
    have hstart := congrArg String.toList hrest
    rw [String.toList_append] at hstart
    cases hstart

end ChangeEvent

end ContainerWatch
