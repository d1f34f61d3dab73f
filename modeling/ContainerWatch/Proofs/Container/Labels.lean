import ContainerWatch.Proofs.Container.Position
import ContainerWatch.Proofs.LastWord
import ContainerWatch.Proofs.Text.ByteOrder
import Mathlib.Data.List.Nodup
/-!
# Labels are printed in one way

A map of labels has no order of its own.  It is made by a history of edits, and it may be visited in any order
(`Visits`): the history settles which entries there are, and nothing settles their order.  Whatever the history and
the order, the entries that are visited make the same dictionary (`Dictionary.ofList_of_visits`), and the line has
one place for it, between parts that do not depend on the labels (`ChangeEvent.exists_text_withLabels_eq`).

A history is a run in which edits of one key replace each other, so what it leaves was put with the last word about its
key (`leaves_iff_lastWord`).  A visit is such a history again, one that puts every key once; that it fills a dictionary
with the same entries is the lemma about runs a second time.

Main statement: `ChangeEvent.labels_canonical`.
-/

namespace ContainerWatch

/-! ## Histories -/

/-- An edit of a map of labels. -/
inductive LabelEdit where
  | put (key value : String)
  | remove (key : String)
  deriving DecidableEq

/-- The key that an edit is about. -/
def LabelEdit.key : LabelEdit → String
  | put key _ => key
  | remove key => key

/-- A history leaves a value at a key: the value was put there, and nothing was done at the key later. -/
def Leaves (edits : List LabelEdit) (key value : String) : Prop :=
  ∃ before after, edits = before ++ .put key value :: after ∧ ∀ e ∈ after, e.key ≠ key

/-- Edits are about the same key. -/
def LabelEdit.SameKey (e f : LabelEdit) : Prop := e.key = f.key

/-- A history leaves what was put with the last word about its key. -/
theorem leaves_iff_lastWord {edits : List LabelEdit} {key value : String} :
    Leaves edits key value ↔ LastWord LabelEdit.SameKey edits (.put key value) := Iff.rfl

namespace Dictionary

/-- The map after an edit. -/
def edit (d : Dictionary) : LabelEdit → Dictionary
  | .put key value => d.insert key value
  | .remove key => d.erase key

/-- The map that a history makes of the empty one. -/
def ofHistory (edits : List LabelEdit) : Dictionary := edits.foldl edit empty

/-- An edit decides about its own key, and about no other one. -/
theorem get?_edit_eq_some_iff {d : Dictionary} {e : LabelEdit} {key value : String} :
    (d.edit e).get? key = some value ↔ .put key value = e ∨ (d.get? key = some value ∧ e.key ≠ key) := by
  cases e with
  | put k v =>
    rw [edit, get?_insert, LabelEdit.put.injEq]
    by_cases hk : key = k
    · simp [LabelEdit.key, hk, eq_comm]
    · simp [LabelEdit.key, hk, Ne.symm hk]
  | remove k =>
    rw [edit, get?_erase]
    by_cases hk : key = k
    · simp [LabelEdit.key, hk]
    · simp [LabelEdit.key, hk, Ne.symm hk]

/-- At a key of the map stands the value that the history leaves there. -/
theorem get?_ofHistory_eq_some_iff {edits : List LabelEdit} {key value : String} :
    (ofHistory edits).get? key = some value ↔ Leaves edits key value := by
  have hempty : ¬ (empty.get? key = some value ∧ ∀ e ∈ edits, ¬ e.SameKey (.put key value)) := nofun
  refine Iff.trans ?_ (or_iff_left hempty)
  exact foldl_iff_lastWord LabelEdit.SameKey (fun _ => True) (fun d : Dictionary => d.get? key = some value)
    (fun _ _ _ => trivial) (fun _ _ _ => get?_edit_eq_some_iff) trivial

/-! ## Entries -/

/-- In entries with ascending keys a value is found at a key exactly when the two are an entry. -/
theorem lookup_eq_some_iff {entries : List (String × String)} (h : entries.Pairwise fun a b => a.1 < b.1)
    {key value : String} : lookup key entries = some value ↔ (key, value) ∈ entries := by
  induction entries with
  | nil => exact iff_of_false nofun List.not_mem_nil
  | cons entry rest ih =>
    obtain ⟨hfirst, hrest⟩ := List.pairwise_cons.1 h
    rw [lookup, List.mem_cons, Prod.ext_iff]
    by_cases hk : entry.1 = key
    · have hnot : (key, value) ∉ rest := by
        intro hmem
        have hlt : entry.1 < key := hfirst (key, value) hmem
        exact String.lt_irrefl key (hk ▸ hlt)
      simp [hk, hnot, eq_comm]
    · rw [if_neg hk, ih hrest]
      simp [Ne.symm hk]

theorem mem_entries_iff {d : Dictionary} {key value : String} :
    (key, value) ∈ d.entries ↔ d.get? key = some value :=
  (lookup_eq_some_iff d.ascending).symm

theorem nodup_keys (d : Dictionary) : (d.entries.map Prod.fst).Nodup := by
  refine List.pairwise_map.2 (d.ascending.imp ?_)
  intro a b hlt heq
  exact String.lt_irrefl b.1 (heq ▸ hlt)

/-- Filling a map with entries puts them one after another. -/
theorem ofList_eq_ofHistory (entries : List (String × String)) :
    ofList entries = ofHistory (entries.map fun entry => .put entry.1 entry.2) := by
  rw [ofList, ofHistory, List.foldl_map]
  rfl

end Dictionary

/-- Where every key is put once, a history of puts leaves what it puts. -/
theorem leaves_map_put_iff {entries : List (String × String)} (h : (entries.map Prod.fst).Nodup)
    {key value : String} :
    Leaves (entries.map fun entry => .put entry.1 entry.2) key value ↔ (key, value) ∈ entries := by
  have hagree : ∀ x ∈ entries.map (fun entry => LabelEdit.put entry.1 entry.2),
      ∀ y ∈ entries.map (fun entry => LabelEdit.put entry.1 entry.2), x.SameKey y → x = y := by
    intro x hx y hy hkey
    obtain ⟨a, ha, rfl⟩ := List.mem_map.1 hx
    obtain ⟨b, hb, rfl⟩ := List.mem_map.1 hy
    rw [List.inj_on_of_nodup_map h ha hb hkey]
  rw [leaves_iff_lastWord, lastWord_iff_mem hagree, List.mem_map]
  constructor
  · rintro ⟨entry, hentry, hput⟩
    obtain ⟨rfl, rfl⟩ := LabelEdit.put.inj hput
    exact hentry
  · intro hentry
    exact ⟨(key, value), hentry, rfl⟩

/-! ## Visits -/

/-- Entries are visited in a map that a history makes: each key once, with what the history leaves there, and in any
order. -/
structure Visits (edits : List LabelEdit) (visited : List (String × String)) : Prop where
  nodup : (visited.map Prod.fst).Nodup
  mem_iff : ∀ key value, (key, value) ∈ visited ↔ Leaves edits key value

/-- A visit lists the entries of the map in some order. -/
theorem visits_iff_perm {edits : List LabelEdit} {visited : List (String × String)} :
    Visits edits visited ↔ visited.Perm (Dictionary.ofHistory edits).entries := by
  constructor
  · intro h
    refine (List.perm_ext_iff_of_nodup h.nodup.of_map (Dictionary.nodup_keys _).of_map).2 fun entry => ?_
    rw [h.mem_iff, Dictionary.mem_entries_iff, Dictionary.get?_ofHistory_eq_some_iff]
  · intro h
    refine ⟨((h.map Prod.fst).nodup_iff).2 (Dictionary.nodup_keys _), fun key value => ?_⟩
    rw [h.mem_iff, Dictionary.mem_entries_iff, Dictionary.get?_ofHistory_eq_some_iff]

/-- Sorting the entries gives the map back, in whatever order they were visited. -/
theorem Dictionary.ofList_of_visits {edits : List LabelEdit} {visited : List (String × String)}
    (h : Visits edits visited) : ofList visited = ofHistory edits := by
  refine ext_get? fun key => Option.ext fun value => ?_
  rw [ofList_eq_ofHistory, get?_ofHistory_eq_some_iff, get?_ofHistory_eq_some_iff, leaves_map_put_iff h.nodup,
    h.mem_iff]

/-- Entries that are visited in two maps are the same when the maps are. -/
theorem Dictionary.ofHistory_eq_of_visits {edits edits' : List LabelEdit} {visited visited' : List (String × String)}
    (h : Visits edits visited) (h' : Visits edits' visited') (hsame : ∀ entry, entry ∈ visited' ↔ entry ∈ visited) :
    ofHistory edits' = ofHistory edits := by
  refine ext_get? fun key => Option.ext fun value => ?_
  rw [get?_ofHistory_eq_some_iff, get?_ofHistory_eq_some_iff, ← h.mem_iff, ← h'.mem_iff, hsame]

/-- Removing what was just put at a new key gives the map back. -/
theorem Dictionary.ofHistory_put_remove {edits : List LabelEdit} {key : String} (hnew : ∀ v, ¬ Leaves edits key v)
    (value : String) : ofHistory (edits ++ [.put key value, .remove key]) = ofHistory edits := by
  have hnone : (ofHistory edits).get? key = none :=
    Option.eq_none_iff_forall_ne_some.2 fun v hv => hnew v (get?_ofHistory_eq_some_iff.1 hv)
  have hedits : ofHistory (edits ++ [.put key value, .remove key]) = ((ofHistory edits).insert key value).erase key :=
    List.foldl_append
  rw [hedits]
  refine ext_get? fun k => ?_
  rw [get?_erase, get?_insert]
  by_cases hk : k = key
  · rw [if_pos hk, hk, hnone]
  · rw [if_neg hk, if_neg hk]

/-! ## The line -/

namespace ChangeEvent

/-- The event with other labels. -/
def withLabels (e : ChangeEvent) (labels : Dictionary) : ChangeEvent :=
  { e with metadata := { e.metadata with labels } }

/-- The part of the line for labels in some order, with the separator in front; none when there are no labels. -/
def labelsPart (entries : List (String × String)) : String :=
  if entries = [] then ""
  else ", Labels: map[" ++ Text.join " " (entries.map fun entry => entry.1 ++ ":" ++ entry.2) ++ "]"

/-- The part for labels is their segment behind a separator. -/
theorem following_itemsSegment_labels (entries : List (String × String)) :
    following (itemsSegment "Labels" "map" labelText entries) = (labelsPart entries).toList := by
  cases entries with
  | nil => rfl
  | cons entry rest =>
    have hsegment : itemsSegment "Labels" "map" labelText (entry :: rest) =
        [⟨"Labels", "map" ++ bracketed ((entry :: rest).map labelText)⟩] := rfl
    have hlabel : labelText = fun entry => entry.1 ++ ":" ++ entry.2 := rfl
    rw [hsegment, labelsPart, if_neg (List.cons_ne_nil entry rest)]
    simp [following, Segment.text, bracketed, hlabel]

/-- The line of some segments is what follows its first separator. -/
theorem toList_text_eq_of_segments {e : ChangeEvent} {s : Segment} {ss : List Segment} (h : e.segments = s :: ss) :
    e.text.toList = s.text.toList ++ following ss := by
  have hline : ',' :: ' ' :: e.text.toList = ',' :: ' ' :: (s.text.toList ++ following ss) := by
    rw [text, h, ← following_cons_eq_join, following]
  exact (List.cons.inj (List.cons.inj hline).2).2

/-- The labels have one place in the line, between parts that do not depend on them. -/
theorem exists_text_withLabels_eq (e : ChangeEvent) :
    ∃ before after : String, ∀ labels : Dictionary,
      (e.withLabels labels).text = before ++ labelsPart labels.entries ++ after := by
  obtain ⟨front, back, hsegments⟩ : ∃ front back : List Segment, ∀ labels : Dictionary,
      (e.withLabels labels).segments = ⟨"Status", e.status.name⟩ ::
        (front ++ (itemsSegment "Labels" "map" labelText labels.entries ++ back)) := by
    refine ⟨[⟨"DockerID", e.shown.dockerId⟩, ⟨"health", e.shown.health.name⟩]
      ++ (optionSegment "ExitCode" integerText e.shown.exitCode
      ++ (itemsSegment "PortBindings" "" PortBinding.text e.shown.portBindings
      ++ (optionSegment "Error" id e.shown.error
      ++ itemsSegment "Volumes" "" Volume.Shown.text e.shown.volumes))), e.shown.timeSegments, fun labels => ?_⟩
    rw [segments_eq_segments_shown]
    simp only [Shown.segments, Shown.timeSegments, List.append_assoc, List.cons_append, List.nil_append]
    rfl
  refine ⟨String.ofList ((Segment.text ⟨"Status", e.status.name⟩).toList ++ following front),
    String.ofList (following back), fun labels => String.toList_injective ?_⟩
  rw [toList_text_eq_of_segments (hsegments labels), following_append, following_append,
    following_itemsSegment_labels]
  simp only [String.toList_append, String.toList_ofList, List.append_assoc]

/-- However the labels of an event came to be there, and in whatever order they are visited, its line lists them in
one place and in one way: each once, with the value put last, in the order of the bytes of their keys.  So the same
labels give the same line, and a label that is put under a new key and removed again leaves no trace. -/
theorem labels_canonical (e : ChangeEvent) :
    ∃ before after : String, ∀ edits visited, Visits edits visited →
      (∃ entries : List (String × String), entries.Perm visited ∧
        entries.Pairwise (fun a b => Text.bytes a.1 < Text.bytes b.1) ∧
        (∀ key value, (key, value) ∈ entries ↔ Leaves edits key value) ∧
        (e.withLabels (.ofList visited)).text = before ++ labelsPart entries ++ after) ∧
      (e.withLabels (.ofHistory edits)).text = (e.withLabels (.ofList visited)).text ∧
      (∀ edits' visited', Visits edits' visited' → (∀ entry, entry ∈ visited' ↔ entry ∈ visited) →
        (e.withLabels (.ofList visited')).text = (e.withLabels (.ofList visited)).text) ∧
      ∀ key value visited', (∀ v, ¬ Leaves edits key v) →
        Visits (edits ++ [.put key value, .remove key]) visited' →
          (e.withLabels (.ofList visited')).text = (e.withLabels (.ofList visited)).text := by
  -- the line is cut around the labels once, for all labels
  obtain ⟨before, after, htext⟩ := exists_text_withLabels_eq e
  refine ⟨before, after, fun edits visited h => ?_⟩
  rw [Dictionary.ofList_of_visits h]
  refine ⟨⟨(Dictionary.ofHistory edits).entries, (visits_iff_perm.1 h).symm,
    (Dictionary.ofHistory edits).ascending.imp Text.bytes_lt_bytes, fun key value => ?_, htext _⟩, rfl, ?_, ?_⟩
  · rw [Dictionary.mem_entries_iff, Dictionary.get?_ofHistory_eq_some_iff]
  · intro edits' visited' h' hsame
    rw [Dictionary.ofList_of_visits h', Dictionary.ofHistory_eq_of_visits h h' hsame]
  · intro key value visited' hnew h'
    rw [Dictionary.ofList_of_visits h', Dictionary.ofHistory_put_remove hnew value]

/-- Labels under an empty key, a key and a longer one, and two keys of which the greater one has the smaller units of
16 bits. -/
def exampleEdits : List LabelEdit :=
  [.put "b" "1", .put "\uffff" "z", .put "ab" "9", .put "" "root", .put "a" "2", .remove "b", .put "ab" "3",
    .put "😀" "y"]

/-- The labels in the order of their keys' units of 16 bits. -/
def exampleVisit : List (String × String) := [("", "root"), ("a", "2"), ("ab", "3"), ("😀", "y"), ("\uffff", "z")]

/-- Another order, and another history that a label leaves no trace in. -/
def otherVisit : List (String × String) := [("\uffff", "z"), ("ab", "3"), ("", "root"), ("😀", "y"), ("a", "2")]

/-- The labels are printed in the order of their bytes, also after one more was put and removed. -/
theorem labels_canonical_exampleEdits :
    Visits exampleEdits exampleVisit ∧ Visits (exampleEdits ++ [.put "b" "", .remove "b"]) otherVisit ∧
      (withLabels {} (.ofList otherVisit)).text = (withLabels {} (.ofList exampleVisit)).text ∧
      (withLabels {} (.ofList exampleVisit)).text =
        "Status: NONE, DockerID: , health: UNKNOWN, Labels: map[:root a:2 ab:3 \uffff:z 😀:y]" := by
  have hvisit : Visits exampleEdits exampleVisit := visits_iff_perm.2 (by decide +kernel)
  have hother : Visits (exampleEdits ++ [.put "b" "", .remove "b"]) otherVisit :=
    visits_iff_perm.2 (by decide +kernel)
  have hnew (v : String) : ¬ Leaves exampleEdits "b" v := by
    rw [← Dictionary.get?_ofHistory_eq_some_iff]
    have hnone : (Dictionary.ofHistory exampleEdits).get? "b" = none := by decide +kernel
    rw [hnone]
    nofun
  obtain ⟨before, after, h⟩ := labels_canonical {}
  obtain ⟨-, -, -, hremoved⟩ := h exampleEdits exampleVisit hvisit
  exact ⟨hvisit, hother, hremoved "b" "" otherVisit hnew hother, by decide +kernel⟩

end ChangeEvent

end ContainerWatch
