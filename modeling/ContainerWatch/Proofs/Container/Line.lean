import ContainerWatch.Proofs.Container.Items
import ContainerWatch.Proofs.Time.Written
/-!
# What the line of a change tells

The line in which a change is reported tells some things about it (`ChangeEvent.Shown`) and leaves out
others, such as the type of the event and the mode of a volume.  A comma stands between the segments of
the line, a space between the items of a list and a colon inside an item.  Where the free texts of an event
keep to words and names accordingly (`Shown.Separable`), the line can be taken apart: the segments at the
commas, their values by their labels, lists at the spaces, and every item on its own.

The proof goes down these levels.  Equal lines have equal segments (`segments_injective`), equal segments have equal
parts under each label (`underLabel`), and a part under a label gives back the value that it was written for
(`optionSegment_injective`, `eq_of_itemsSegment`).  A segment that is left out is the one of a value that is absent or
of a list that is empty, so an event with the value is never taken for one without.

Main statement: `text_eq_text_iff`, two such events have the same line exactly when it tells the same of
both.
-/

namespace ContainerWatch.ChangeEvent

open Text

/-- What the line of an event tells about it. -/
structure Shown where
  status : Status
  dockerId : String
  health : HealthStatus
  exitCode : Option Int
  portBindings : List PortBinding
  /-- the message of the failure, if there was one -/
  error : Option String
  volumes : List Volume.Shown
  labels : Dictionary
  createdAt : Option Instant
  startedAt : Option Instant
  finishedAt : Option Instant
  deriving DecidableEq

/-- What the line of an event tells about it. -/
def shown (e : ChangeEvent) : Shown where
  status := e.status
  dockerId := e.metadata.dockerId
  health := e.metadata.health.status
  exitCode := e.metadata.exitCode
  portBindings := e.metadata.portBindings
  error := e.metadata.error.map Transition.message
  volumes := e.metadata.volumes.map Volume.shown
  labels := e.metadata.labels
  createdAt := e.metadata.createdAt
  startedAt := e.metadata.startedAt
  finishedAt := e.metadata.finishedAt

/-! ## Segments -/

/-- The segment of a list of items. -/
def itemsSegment {α : Type} (label before : String) (item : α → String) (items : List α) :
    List Segment :=
  listSegment label (fun as => before ++ bracketed (as.map item)) items

theorem optionSegment_map {α β : Type} (label : String) (text : β → String) (f : α → β)
    (v : Option α) :
    optionSegment label text (v.map f) = optionSegment label (fun a => text (f a)) v := by
  cases v <;> rfl

theorem itemsSegment_map {α β : Type} (label before : String) (item : β → String) (f : α → β)
    (items : List α) :
    itemsSegment label before item (items.map f) = itemsSegment label before (fun a => item (f a)) items := by
  cases items with
  | nil => rfl
  | cons a rest => simp [itemsSegment, listSegment, Function.comp_def]

namespace Shown

/-- The segments of a line that tells so much. -/
def segments (s : Shown) : List Segment :=
  [⟨"Status", s.status.name⟩, ⟨"DockerID", s.dockerId⟩, ⟨"health", s.health.name⟩]
    ++ optionSegment "ExitCode" integerText s.exitCode
    ++ itemsSegment "PortBindings" "" PortBinding.text s.portBindings
    ++ optionSegment "Error" id s.error
    ++ itemsSegment "Volumes" "" Volume.Shown.text s.volumes
    ++ itemsSegment "Labels" "map" labelText s.labels.entries
    ++ optionSegment "CreatedAt" Instant.text s.createdAt
    ++ optionSegment "StartedAt" Instant.text s.startedAt
    ++ optionSegment "FinishedAt" Instant.text s.finishedAt

end Shown

/-- The line of an event depends on what it tells only. -/
theorem segments_eq_segments_shown (e : ChangeEvent) : e.segments = e.shown.segments := by
  have hempty (s : String) : "" ++ s = s := String.empty_append
  simp only [Shown.segments, shown, optionSegment_map, itemsSegment_map]
  simp only [segments, itemsSegment, hempty]
  rfl

/-! ## Segments can be told apart -/

/-- A segment that can be told apart from those around it, and its label from its value. -/
structure Segment.Separable (s : Segment) : Prop where
  label : IsName s.label
  value : FreeOf ',' s.value

theorem Segment.separable_mk {label value : String} (hlabel : IsName label) (hvalue : FreeOf ',' value) :
    Segment.Separable ⟨label, value⟩ := ⟨hlabel, hvalue⟩

/-- A separable segment stays between two commas. -/
theorem Segment.Separable.freeOf_comma_text {s : Segment} (h : s.Separable) : FreeOf ',' s.text :=
  freeOf_append.2 ⟨freeOf_append.2 ⟨h.label.comma, by decide⟩, h.value⟩

theorem Segment.toList_text (s : Segment) :
    s.text.toList = s.label.toList ++ ':' :: ' ' :: s.value.toList := by
  simp [Segment.text]

/-- A segment is cut at its first colon, since a label holds none.  The value may hold as many as it likes. -/
theorem Segment.text_injective {s t : Segment} (hs : s.Separable) (ht : t.Separable)
    (h : s.text = t.text) : s = t := by
  have hlist := congrArg String.toList h
  rw [Segment.toList_text, Segment.toList_text] at hlist
  obtain ⟨hlabel, hrest⟩ := eq_of_append_cons hs.label.colon ht.label.colon hlist
  have hvalue := (List.cons.inj hrest).2
  cases s
  cases t
  rw [Segment.mk.injEq]
  exact ⟨String.toList_injective hlabel, String.toList_injective hvalue⟩

/-- Equal lists of texts are written for equal lists, when no two members are written alike. -/
theorem eq_of_map_eq_map {α β : Type} {f : α → β} {xs ys : List α}
    (hf : ∀ x ∈ xs, ∀ y ∈ ys, f x = f y → x = y) (h : xs.map f = ys.map f) : xs = ys := by
  induction xs generalizing ys with
  | nil => exact (List.map_eq_nil_iff.1 h.symm).symm
  | cons x xs ih =>
    cases ys with
    | nil => cases h
    | cons y ys =>
      obtain ⟨hxy, hrest⟩ := List.cons.inj h
      rw [hf x List.mem_cons_self y List.mem_cons_self hxy,
        ih (fun u hu v hv => hf u (List.mem_cons_of_mem x hu) v (List.mem_cons_of_mem y hv)) hrest]

/-- Lines of separable segments have equal segments: they are cut at the commas, and each piece is cut on its own. -/
theorem segments_injective {ss ts : List Segment} (hss : ss ≠ []) (hts : ts ≠ [])
    (hs : ∀ s ∈ ss, s.Separable) (ht : ∀ t ∈ ts, t.Separable)
    (h : join ", " (ss.map Segment.text) = join ", " (ts.map Segment.text)) : ss = ts := by
  have hfree {us : List Segment} (hu : ∀ u ∈ us, u.Separable) :
      ∀ p ∈ us.map Segment.text, FreeOf ',' p := by
    intro p hp
    obtain ⟨u, hmem, rfl⟩ := List.mem_map.1 hp
    exact (hu u hmem).freeOf_comma_text
  have htexts := join_injective (c := ',') rfl (mt List.map_eq_nil_iff.1 hss)
    (mt List.map_eq_nil_iff.1 hts) (hfree hs) (hfree ht) h
  exact eq_of_map_eq_map (fun s hsmem t htmem => Segment.text_injective (hs s hsmem) (ht t htmem)) htexts

/-! ## The segments under a label -/

/-- The segments under a label.  A line has one of them at most. -/
def underLabel (label : String) (segments : List Segment) : List Segment :=
  segments.filter fun s => s.label == label

@[simp] theorem underLabel_nil (label : String) : underLabel label [] = [] := rfl

/-- A segment in front counts when it has the label. -/
@[simp] theorem underLabel_cons (label : String) (s : Segment) (ss : List Segment) :
    underLabel label (s :: ss) =
      if s.label = label then s :: underLabel label ss else underLabel label ss := by
  simp [underLabel, List.filter_cons]

@[simp] theorem underLabel_append (label : String) (ss ts : List Segment) :
    underLabel label (ss ++ ts) = underLabel label ss ++ underLabel label ts :=
  List.filter_append ss ts

/-- The segment of a value stands under its own label and no other. -/
@[simp] theorem underLabel_optionSegment {α : Type} (label other : String) (text : α → String)
    (v : Option α) :
    underLabel label (optionSegment other text v) =
      if other = label then optionSegment other text v else [] := by
  cases v <;> simp [optionSegment]

/-- The segment of a list stands under its own label and no other. -/
@[simp] theorem underLabel_itemsSegment {α : Type} (label other before : String) (item : α → String)
    (items : List α) :
    underLabel label (itemsSegment other before item items) =
      if other = label then itemsSegment other before item items else [] := by
  cases items <;> simp [itemsSegment, listSegment]

/-- The segment of a value tells whether there is one, and which, when no two values are written alike. -/
theorem optionSegment_injective {α : Type} {label : String} {text : α → String}
    (htext : ∀ a b, text a = text b → a = b) {v w : Option α}
    (h : optionSegment label text v = optionSegment label text w) : v = w := by
  cases v with
  | none =>
    cases w with
    | none => rfl
    | some b => cases h
  | some a =>
    cases w with
    | none => cases h
    | some b =>
      obtain ⟨hsegment, -⟩ := List.cons.inj h
      rw [htext a b (Segment.mk.inj hsegment).2]

/-- Brackets stand at the ends, so what is between them can be read off. -/
theorem join_eq_of_bracketed_eq {xs ys : List String} (h : bracketed xs = bracketed ys) :
    join " " xs = join " " ys :=
  (String.append_right_inj "[").1 ((String.append_left_inj "]").1 h)

/-- Lists of words in brackets are equal when they are written alike.  An empty list has no segment; what the others
hold is cut at the spaces. -/
theorem eq_of_itemsSegment {α : Type} {label before : String} {item : α → String} {xs ys : List α}
    (hx : ∀ x ∈ xs, IsWord (item x)) (hy : ∀ y ∈ ys, IsWord (item y))
    (hitem : ∀ x ∈ xs, ∀ y ∈ ys, item x = item y → x = y)
    (h : itemsSegment label before item xs = itemsSegment label before item ys) : xs = ys := by
  by_cases hxs : xs = []
  · by_cases hys : ys = []
    · rw [hxs, hys]
    · simp [itemsSegment, listSegment, hxs, hys] at h
  · by_cases hys : ys = []
    · simp [itemsSegment, listSegment, hxs, hys] at h
    · have hvalue : before ++ bracketed (xs.map item) = before ++ bracketed (ys.map item) := by
        simpa [itemsSegment, listSegment, hxs, hys] using h
      have hfree {us : List α} (hu : ∀ u ∈ us, IsWord (item u)) :
          ∀ p ∈ us.map item, FreeOf ' ' p := by
        intro p hp
        obtain ⟨u, hmem, rfl⟩ := List.mem_map.1 hp
        exact (hu u hmem).space
      have hmap := join_injective (c := ' ') rfl (mt List.map_eq_nil_iff.1 hxs)
        (mt List.map_eq_nil_iff.1 hys) (hfree hx) (hfree hy)
        (join_eq_of_bracketed_eq ((String.append_right_inj before).1 hvalue))
      exact eq_of_map_eq_map hitem hmap

/-! ## What the line tells can be read off it -/

namespace Shown

/-- The free texts keep to what does not part the line: no comma in the identifier and the message, words
for addresses and the values of labels, names for volumes and the keys of labels. -/
structure Separable (s : Shown) : Prop where
  dockerId : FreeOf ',' s.dockerId
  error : ∀ message ∈ s.error, FreeOf ',' message
  address : ∀ b ∈ s.portBindings, IsWord b.bindIp
  volume : ∀ v ∈ s.volumes, IsName v.source ∧ IsName v.destination
  label : ∀ entry ∈ s.labels.entries, IsName entry.1 ∧ IsWord entry.2

variable {s t : Shown}

/-- A value without a comma makes a separable segment, if any. -/
theorem separable_optionSegment {α : Type} {label : String} {text : α → String} {v : Option α}
    (hlabel : IsName label) (hv : ∀ a ∈ v, FreeOf ',' (text a)) :
    ∀ p ∈ optionSegment label text v, p.Separable := by
  intro p hp
  cases v with
  | none => cases hp
  | some a =>
    rw [List.mem_singleton.1 hp]
    exact Segment.separable_mk hlabel (hv a rfl)

/-- Words make a separable segment: the spaces between them and the brackets around them are no commas. -/
theorem separable_itemsSegment {α : Type} {label before : String} {item : α → String} {items : List α}
    (hlabel : IsName label) (hbefore : FreeOf ',' before) (hitems : ∀ a ∈ items, IsWord (item a)) :
    ∀ p ∈ itemsSegment label before item items, p.Separable := by
  intro p hp
  have hjoin : FreeOf ',' (join " " (items.map item)) := by
    refine freeOf_join (by decide) fun text htext => ?_
    obtain ⟨a, hmem, rfl⟩ := List.mem_map.1 htext
    exact (hitems a hmem).comma
  unfold itemsSegment listSegment at hp
  split at hp
  · cases hp
  · rw [List.mem_singleton.1 hp]
    refine Segment.separable_mk hlabel (freeOf_append.2 ⟨hbefore, ?_⟩)
    exact freeOf_append.2 ⟨freeOf_append.2 ⟨by decide, hjoin⟩, by decide⟩

theorem Separable.isWord_binding (hs : s.Separable) : ∀ b ∈ s.portBindings, IsWord b.text :=
  fun b hb => PortBinding.isWord_text (hs.address b hb)

theorem Separable.isWord_volume (hs : s.Separable) : ∀ v ∈ s.volumes, IsWord v.text :=
  fun v hv => Volume.Shown.isWord_text (hs.volume v hv).1.toIsWord (hs.volume v hv).2.toIsWord

theorem Separable.isWord_label (hs : s.Separable) : ∀ e ∈ s.labels.entries, IsWord (labelText e) :=
  fun e he => isWord_labelText (hs.label e he).1.toIsWord (hs.label e he).2

/-- The segments of such a line can be told apart.  There is one case for each thing that the line may tell. -/
theorem Separable.segments (hs : s.Separable) : ∀ p ∈ s.segments, p.Separable := by
  have htime (time : Option Instant) : ∀ i ∈ time, FreeOf ',' i.text :=
    fun i _ => i.freeOf_comma_text
  simp only [Shown.segments, List.forall_mem_append, and_assoc]
  refine ⟨?_, ?_, ?_, ?_, ?_, ?_, ?_, ?_, ?_⟩
  · intro p hp
    simp only [List.mem_cons, List.not_mem_nil, or_false] at hp
    rcases hp with rfl | rfl | rfl
    · exact Segment.separable_mk (by decide) s.status.freeOf_comma_name
    · exact Segment.separable_mk (by decide) hs.dockerId
    · exact Segment.separable_mk (by decide) s.health.freeOf_comma_name
  · exact separable_optionSegment (by decide) fun n _ => freeOf_comma_integerText n
  · exact separable_itemsSegment (by decide) (by decide) hs.isWord_binding
  · exact separable_optionSegment (by decide) hs.error
  · exact separable_itemsSegment (by decide) (by decide) hs.isWord_volume
  · exact separable_itemsSegment (by decide) (by decide) hs.isWord_label
  · exact separable_optionSegment (by decide) (htime s.createdAt)
  · exact separable_optionSegment (by decide) (htime s.startedAt)
  · exact separable_optionSegment (by decide) (htime s.finishedAt)

/-- The segments of a line give back all that it tells. -/
theorem eq_of_segments_eq (hs : s.Separable) (ht : t.Separable) (h : s.segments = t.segments) : s = t := by
  -- every label is used once, so what stands under it was put there for one thing
  have part (label : String) := congrArg (underLabel label) h
  have hstatus : s.status.name = t.status.name := by simpa [Shown.segments] using part "Status"
  have hdockerId : s.dockerId = t.dockerId := by simpa [Shown.segments] using part "DockerID"
  have hhealth : s.health.name = t.health.name := by simpa [Shown.segments] using part "health"
  have hexitCode : optionSegment "ExitCode" integerText s.exitCode =
      optionSegment "ExitCode" integerText t.exitCode := by
    simpa [Shown.segments] using part "ExitCode"
  have hports : itemsSegment "PortBindings" "" PortBinding.text s.portBindings =
      itemsSegment "PortBindings" "" PortBinding.text t.portBindings := by
    simpa [Shown.segments] using part "PortBindings"
  have herror : optionSegment "Error" id s.error = optionSegment "Error" id t.error := by
    simpa [Shown.segments] using part "Error"
  have hvolumes : itemsSegment "Volumes" "" Volume.Shown.text s.volumes =
      itemsSegment "Volumes" "" Volume.Shown.text t.volumes := by
    simpa [Shown.segments] using part "Volumes"
  have hlabels : itemsSegment "Labels" "map" labelText s.labels.entries =
      itemsSegment "Labels" "map" labelText t.labels.entries := by
    simpa [Shown.segments] using part "Labels"
  have hcreated : optionSegment "CreatedAt" Instant.text s.createdAt =
      optionSegment "CreatedAt" Instant.text t.createdAt := by
    simpa [Shown.segments] using part "CreatedAt"
  have hstarted : optionSegment "StartedAt" Instant.text s.startedAt =
      optionSegment "StartedAt" Instant.text t.startedAt := by
    simpa [Shown.segments] using part "StartedAt"
  have hfinished : optionSegment "FinishedAt" Instant.text s.finishedAt =
      optionSegment "FinishedAt" Instant.text t.finishedAt := by
    simpa [Shown.segments] using part "FinishedAt"
  have hentries : s.labels.entries = t.labels.entries :=
    eq_of_itemsSegment hs.isWord_label ht.isWord_label
      (fun a ha b hb => labelText_injective (hs.label a ha).1.colon (ht.label b hb).1.colon) hlabels
  have hvolume : ∀ v ∈ s.volumes, ∀ w ∈ t.volumes, v.text = w.text → v = w := fun v hv w hw =>
    Volume.Shown.text_injective (hs.volume v hv).1.colon (hs.volume v hv).2.colon
      (ht.volume w hw).1.colon (ht.volume w hw).2.colon
  cases s
  cases t
  rw [Shown.mk.injEq]
  exact ⟨Status.name_injective hstatus, hdockerId, HealthStatus.name_injective hhealth,
    optionSegment_injective (fun _ _ => integerText_injective) hexitCode,
    eq_of_itemsSegment hs.isWord_binding ht.isWord_binding (fun _ _ _ _ => PortBinding.text_injective) hports,
    optionSegment_injective (fun _ _ heq => heq) herror,
    eq_of_itemsSegment hs.isWord_volume ht.isWord_volume hvolume hvolumes,
    Dictionary.ext_entries hentries,
    optionSegment_injective (fun _ _ => Instant.text_injective) hcreated,
    optionSegment_injective (fun _ _ => Instant.text_injective) hstarted,
    optionSegment_injective (fun _ _ => Instant.text_injective) hfinished⟩

theorem segments_ne_nil (s : Shown) : s.segments ≠ [] := by
  simp [Shown.segments]

end Shown

theorem text_eq_join_segments (e : ChangeEvent) :
    e.text = join ", " (e.shown.segments.map Segment.text) := by
  rw [text, segments_eq_segments_shown]

/-- Two events whose lines can be taken apart have the same line exactly when it tells the same of both.  From right
to left the line is made of nothing else; from left to right it is taken apart, segment by segment. -/
theorem text_eq_text_iff {e f : ChangeEvent} (he : e.shown.Separable) (hf : f.shown.Separable) :
    e.text = f.text ↔ e.shown = f.shown := by
  rw [text_eq_join_segments, text_eq_join_segments]
  constructor
  · intro h
    exact Shown.eq_of_segments_eq he hf (segments_injective (Shown.segments_ne_nil e.shown)
      (Shown.segments_ne_nil f.shown) he.segments hf.segments h)
  · intro h
    rw [h]

/-- A container that stopped with a failure, with an address of many colons, a volume that cannot be
written, a time in a leap second and one in a year of five digits. -/
def stoppedExample : ChangeEvent where
  status := .stopped
  metadata :=
    { dockerId := "abc 123"
      exitCode := some (-1)
      portBindings := [⟨80, 8080, "2001:db8::1", .tcp⟩, ⟨80, 8080, "", .udp⟩]
      error := some ⟨.outOfMemory, "killed: no memory]", none⟩
      volumes := [{ source := "/data", destination := "ro" },
        { source := "", destination := "/srv", readWrite := false }]
      labels := (Dictionary.empty.insert "team" "a:b").insert "" "c]"
      createdAt := some ⟨59, 1500000000, by decide, by decide⟩
      startedAt := some (Instant.ofSeconds 253402300800)
      networkMode := "bridge" }

/-- The line does not tell the type of an event or the mode of the network. -/
theorem text_stoppedExample_eq :
    let e := stoppedExample
    let f : ChangeEvent := { e with type := .health, metadata := { e.metadata with networkMode := "host" } }
    e ≠ f ∧ e.shown.Separable ∧ f.shown.Separable ∧ (e.text = f.text ↔ e.shown = f.shown) := by
  intro e f
  have he : e.shown.Separable := ⟨by decide, by decide, by decide, by decide, by decide⟩
  have hf : f.shown.Separable := ⟨by decide, by decide, by decide, by decide, by decide⟩
  exact ⟨by decide, he, hf, text_eq_text_iff he hf⟩

end ContainerWatch.ChangeEvent
