import ContainerWatch.Container.Inspected
import ContainerWatch.Proofs.Container.Line
/-!
# The order of the published ports

The engine's record lists the entries of the published ports in no particular order.  Bindings are sorted by
their place (`PortBinding.Place`): container port, host port and address.  Sorting gives the places in one
order only, so the order of the entries can be seen exactly where two bindings share a place and differ in
the protocol (`PortBinding.Clash`).

* If no two bindings clash, a place and its protocol are a binding, so the sorted lists agree (`sort_eq_of_perm`).
* If two clash, their entries can be listed with the one or the other in front, and sorting, which keeps the order of
  equals (`filter_place_sort`), keeps it there (`exists_perm_head`).
* The line follows the bindings: the same places are written in the same way, and between them stand the protocols,
  which hold no space (`eq_of_join_text`).

Main statement: `PortBinding.order_irrelevant_iff`, neither the bindings of a record nor the line of a change
made from it depend on the order of the entries exactly when no two bindings clash.
-/

namespace ContainerWatch

namespace PortBinding

/-! ## Places -/

/-- What bindings are sorted by, the first part first.  The protocol is no part of it. -/
structure Place where
  containerPort : UInt16
  hostPort : UInt16
  bindIp : String
  deriving DecidableEq

/-- The place of a binding. -/
def place (b : PortBinding) : Place := ⟨b.containerPort, b.hostPort, b.bindIp⟩

/-- The order of the places. -/
def Place.Before (p q : Place) : Prop :=
  p.containerPort < q.containerPort ∨ p.containerPort = q.containerPort ∧
    (p.hostPort < q.hostPort ∨ p.hostPort = q.hostPort ∧ p.bindIp ≤ q.bindIp)

/-- A place and a protocol are a binding. -/
theorem ext_place {a b : PortBinding} (hplace : a.place = b.place) (hprotocol : a.protocol = b.protocol) :
    a = b := by
  cases a
  cases b
  obtain ⟨rfl, rfl, rfl⟩ := Place.mk.inj hplace
  cases hprotocol
  rfl

/-- The order of the bindings is the one of their places. -/
theorem precedes_iff (a b : PortBinding) : a.precedes b = true ↔ a.place.Before b.place := by
  unfold precedes Place.Before place
  by_cases hcontainer : a.containerPort = b.containerPort
  · by_cases hhost : a.hostPort = b.hostPort
    · simp [hcontainer, hhost, UInt16.lt_irrefl]
    · simp [hcontainer, hhost, UInt16.lt_irrefl]
  · simp [hcontainer]

namespace Place

variable {p q r : Place}

theorem before_trans (hpq : p.Before q) (hqr : q.Before r) : p.Before r := by
  obtain hpq | ⟨hcontainer, hpq⟩ := hpq
  · obtain hqr | ⟨hcontainer, _⟩ := hqr
    · exact Or.inl (UInt16.lt_trans hpq hqr)
    · exact Or.inl (hcontainer ▸ hpq)
  · rw [Before, hcontainer]
    refine hqr.imp_right fun ⟨hqrContainer, hqr⟩ => ⟨hqrContainer, ?_⟩
    obtain hpq | ⟨hhost, hpq⟩ := hpq
    · obtain hqr | ⟨hhost, _⟩ := hqr
      · exact Or.inl (UInt16.lt_trans hpq hqr)
      · exact Or.inl (hhost ▸ hpq)
    · rw [hhost]
      exact hqr.imp_right fun ⟨hqrHost, hqr⟩ => ⟨hqrHost, String.le_trans hpq hqr⟩

theorem before_total (p q : Place) : p.Before q ∨ q.Before p := by
  by_cases hcontainer : p.containerPort = q.containerPort
  · by_cases hhost : p.hostPort = q.hostPort
    · refine (String.le_total p.bindIp q.bindIp).imp (fun hle => ?_) fun hle => ?_
      · exact Or.inr ⟨hcontainer, Or.inr ⟨hhost, hle⟩⟩
      · exact Or.inr ⟨hcontainer.symm, Or.inr ⟨hhost.symm, hle⟩⟩
    · refine (UInt16.lt_or_lt_of_ne hhost).imp (fun hlt => ?_) fun hlt => ?_
      · exact Or.inr ⟨hcontainer, Or.inl hlt⟩
      · exact Or.inr ⟨hcontainer.symm, Or.inl hlt⟩
  · exact (UInt16.lt_or_lt_of_ne hcontainer).imp Or.inl Or.inl

/-- Places that stand before each other are the same.  Of bindings this cannot be said, since they may differ in the
protocol. -/
theorem before_antisymm (hpq : p.Before q) (hqp : q.Before p) : p = q := by
  obtain hpq | ⟨hcontainer, hpq⟩ := hpq
  · obtain hqp | ⟨hcontainer, _⟩ := hqp
    · exact absurd hqp (UInt16.lt_asymm hpq)
    · exact absurd hpq (hcontainer ▸ UInt16.lt_irrefl _)
  · obtain hqp | ⟨_, hqp⟩ := hqp
    · exact absurd hqp (hcontainer ▸ UInt16.lt_irrefl _)
    · obtain hpq | ⟨hhost, hpq⟩ := hpq
      · obtain hqp | ⟨hhost, _⟩ := hqp
        · exact absurd hqp (UInt16.lt_asymm hpq)
        · exact absurd hpq (hhost ▸ UInt16.lt_irrefl _)
      · obtain hqp | ⟨_, hqp⟩ := hqp
        · exact absurd hqp (hhost ▸ UInt16.lt_irrefl _)
        · cases p
          cases q
          rw [mk.injEq]
          exact ⟨hcontainer, hhost, String.le_antisymm hpq hqp⟩

end Place

theorem precedes_trans (a b c : PortBinding) (hab : a.precedes b = true) (hbc : b.precedes c = true) :
    a.precedes c = true := by
  rw [precedes_iff] at hab hbc ⊢
  exact Place.before_trans hab hbc

theorem precedes_total (a b : PortBinding) : (a.precedes b || b.precedes a) = true := by
  rw [Bool.or_eq_true, precedes_iff, precedes_iff]
  exact Place.before_total a.place b.place

theorem pairwise_sort (bs : List PortBinding) : (sort bs).Pairwise fun a b => a.precedes b = true :=
  List.pairwise_mergeSort precedes_trans precedes_total bs

/-- Bindings that stand before each other are at the same place. -/
theorem place_eq_of_precedes {a b : PortBinding} (hab : a.precedes b = true) (hba : b.precedes a = true) :
    a.place = b.place :=
  Place.before_antisymm ((precedes_iff a b).1 hab) ((precedes_iff b a).1 hba)

/-! ## Sorting -/

/-- The places of sorted bindings do not depend on their order before: both are ordered, and hold the same. -/
theorem map_place_sort {as bs : List PortBinding} (h : as.Perm bs) :
    (sort as).map place = (sort bs).map place := by
  have hsorted (cs : List PortBinding) : ((sort cs).map place).Pairwise Place.Before :=
    List.pairwise_map.2 ((pairwise_sort cs).imp fun {a b} hab => (precedes_iff a b).1 hab)
  have hperm : (sort as).Perm (sort bs) := (sort_perm as).trans (h.trans (sort_perm bs).symm)
  exact List.Perm.eq_of_pairwise (fun p q _ _ => Place.before_antisymm) (hsorted as) (hsorted bs)
    (hperm.map place)

/-- Bindings of which no two differ in the protocol alone are sorted in one way only. -/
theorem sort_eq_of_perm {as bs : List PortBinding} (h : as.Perm bs)
    (hunique : ∀ a ∈ as, ∀ b ∈ as, a.place = b.place → a.protocol = b.protocol) :
    sort as = sort bs := by
  refine List.Perm.eq_of_pairwise (fun a b ha hb hab hba => ?_) (pairwise_sort as) (pairwise_sort bs)
    ((sort_perm as).trans (h.trans (sort_perm bs).symm))
  -- in both lists before each other means at one place, and the place settles the protocol
  have hplace := place_eq_of_precedes hab hba
  have hamem := (sort_perm as).mem_iff.1 ha
  have hbmem := h.mem_iff.2 ((sort_perm bs).mem_iff.1 hb)
  exact ext_place hplace (hunique a hamem b hbmem hplace)

/-- Sorting keeps the order of the bindings at one place. -/
theorem filter_place_sort (p : Place) (bs : List PortBinding) :
    (sort bs).filter (·.place = p) = bs.filter (·.place = p) := by
  have hsame : (bs.filter (·.place = p)).Pairwise fun a b => a.precedes b = true := by
    refine List.pairwise_iff_forall_sublist.2 fun {a b} hab => ?_
    have hmem (c : PortBinding) (hc : c ∈ [a, b]) : c.place = p :=
      of_decide_eq_true (List.mem_filter.1 (hab.subset hc)).2
    rw [precedes_iff, hmem a List.mem_cons_self, hmem b (List.mem_cons_of_mem a List.mem_cons_self)]
    exact (Place.before_total p p).elim id id
  -- so sorting keeps them as a part, and it has no others at the place
  have hsublist : (bs.filter (·.place = p)).Sublist (sort bs) :=
    List.sublist_mergeSort precedes_trans precedes_total hsame List.filter_sublist
  have hfiltered := hsublist.filter (·.place = p)
  rw [List.filter_filter] at hfiltered
  simp only [Bool.and_self] at hfiltered
  exact (hfiltered.eq_of_length ((sort_perm bs).filter _).length_eq.symm).symm

/-! ## Printing -/

/-- A place as it is printed. -/
def Place.text (p : Place) : String :=
  p.bindIp ++ ":" ++ portText p.hostPort ++ "->" ++ portText p.containerPort ++ "/"

theorem text_eq_place_text_append (b : PortBinding) : b.text = b.place.text ++ b.protocol.name := rfl

/-- Lists of bindings at the same places are not printed alike, whatever the addresses hold.  The induction takes the
bindings off the front; the addresses may hold spaces, but they are the same in both lists. -/
theorem eq_of_join_text {bs cs : List PortBinding} (hplaces : bs.map place = cs.map place)
    (h : Text.join " " (bs.map text) = Text.join " " (cs.map text)) : bs = cs := by
  induction bs generalizing cs with
  | nil => exact (List.map_eq_nil_iff.1 hplaces.symm).symm
  | cons b bs ih =>
    obtain ⟨c, cs, rfl, hplace, hrest⟩ := List.map_eq_cons_iff.1 hplaces.symm
    cases bs with
    | nil =>
      obtain rfl := List.map_eq_nil_iff.1 hrest
      rw [text_injective (a := b) (b := c) h]
    | cons b' bs =>
      obtain ⟨c', cs, rfl, -, -⟩ := List.map_eq_cons_iff.1 hrest
      -- the places cancel, and the first space is the one after the protocol
      have hlist := congrArg String.toList h
      simp only [List.map_cons, Text.toList_join_cons_cons] at hlist
      rw [text_eq_place_text_append b, text_eq_place_text_append c, hplace, String.toList_append,
        String.toList_append, List.append_assoc, List.append_assoc] at hlist
      obtain ⟨hname, htail⟩ := Text.eq_of_append_cons (isName_name b.protocol).space
        (isName_name c.protocol).space (List.append_cancel_left hlist)
      have hprotocol : b.protocol = c.protocol := Protocol.name_injective (String.toList_injective hname)
      rw [ext_place hplace.symm hprotocol, ih hrest.symm (String.toList_injective htail)]

end PortBinding

namespace ChangeEvent

open PortBinding

/-- The published ports have one segment of the line, and the others do not depend on them. -/
theorem Shown.exists_segments_eq (s : Shown) :
    ∃ before after : List Segment, ∀ bs, { s with portBindings := bs }.segments =
      before ++ (itemsSegment "PortBindings" "" PortBinding.text bs ++ after) := by
  refine ⟨[⟨"Status", s.status.name⟩, ⟨"DockerID", s.dockerId⟩, ⟨"health", s.health.name⟩]
    ++ optionSegment "ExitCode" integerText s.exitCode, optionSegment "Error" id s.error
    ++ (itemsSegment "Volumes" "" Volume.Shown.text s.volumes
    ++ (itemsSegment "Labels" "map" labelText s.labels.entries
    ++ (optionSegment "CreatedAt" Instant.text s.createdAt
    ++ (optionSegment "StartedAt" Instant.text s.startedAt
    ++ optionSegment "FinishedAt" Instant.text s.finishedAt)))), fun bs => ?_⟩
  simp only [segments, List.append_assoc]

/-- Lines that differ in the bindings at the same places are not equal. -/
theorem Shown.portBindings_eq_of_join {s : Shown} {bs cs : List PortBinding}
    (hplaces : bs.map place = cs.map place)
    (h : Text.join ", " ({ s with portBindings := bs }.segments.map Segment.text) =
      Text.join ", " ({ s with portBindings := cs }.segments.map Segment.text)) : bs = cs := by
  obtain ⟨before, after, hsegments⟩ := s.exists_segments_eq
  cases bs with
  | nil => exact (List.map_eq_nil_iff.1 hplaces.symm).symm
  | cons b bs =>
    obtain ⟨c, cs, rfl, -, -⟩ := List.map_eq_cons_iff.1 hplaces.symm
    simp only [hsegments, itemsSegment, listSegment, List.map_append] at h
    have hsegment := Text.eq_of_join_append_cons h
    have hvalue := (String.append_right_inj ("PortBindings" ++ ": ")).1 hsegment
    have hitems := (String.append_right_inj "").1 hvalue
    exact eq_of_join_text hplaces (join_eq_of_bracketed_eq hitems)

end ChangeEvent

/-! ## The entries of a record -/

/-- An inspection record with other published ports. -/
def Engine.Inspection.withPorts (r : Engine.Inspection) (ports : Engine.PortMap) : Engine.Inspection :=
  { r with networkSettings := some { r.networkSettings.getD default with ports := some ports } }

/-- A change made from an inspection record. -/
def ChangeEvent.ofInspection (status : Status) (type : EventType) (r : Engine.Inspection) : ChangeEvent :=
  ⟨status, .ofInspection r, type⟩

/-- Lines made from a record are equal exactly when the bindings are, whatever the order of the entries.  An order of
the entries changes nothing but the bindings, and not their places. -/
theorem ChangeEvent.text_eq_text_iff_of_perm {ports ports' : Engine.PortMap} (h : ports'.Perm ports)
    (r : Engine.Inspection) (status : Status) (type : EventType) :
    (ofInspection status type (r.withPorts ports')).text = (ofInspection status type (r.withPorts ports)).text ↔
      PortBinding.ofPortMap ports' = PortBinding.ofPortMap ports := by
  have hshown (ps : Engine.PortMap) : (ofInspection status type (r.withPorts ps)).shown =
      { (ofInspection status type r).shown with portBindings := PortBinding.ofPortMap ps } := rfl
  rw [text_eq_join_segments, text_eq_join_segments, hshown, hshown]
  constructor
  · exact Shown.portBindings_eq_of_join (PortBinding.map_place_sort (h.flatMap_right PortBinding.ofEntry))
  · intro hports
    rw [hports]

namespace PortBinding

/-- The bindings of one entry are all for its protocol. -/
theorem protocol_of_mem_ofEntry {entry : String × Option (List Engine.HostBinding)} {a : PortBinding}
    (ha : a ∈ ofEntry entry) : (PortKey.read? entry.1).map PortKey.protocol = some a.protocol := by
  unfold ofEntry at ha
  cases hkey : PortKey.read? entry.1 with
  | none =>
    rw [hkey] at ha
    cases ha
  | some key =>
    rw [hkey] at ha
    obtain ⟨host, _, hhost⟩ := List.mem_filterMap.1 ha
    obtain ⟨text, _, hport⟩ := Option.bind_eq_some_iff.1 hhost
    obtain ⟨hostPort, _, hbinding⟩ := Option.bind_eq_some_iff.1 hport
    cases hbinding
    rfl

/-- Two bindings share a place under different protocols.  The engine allows it, since a port of one protocol is free
under another. -/
def Clash (ports : Engine.PortMap) : Prop :=
  ∃ a ∈ ports.flatMap ofEntry, ∃ b ∈ ports.flatMap ofEntry, a.place = b.place ∧ a.protocol ≠ b.protocol

instance (ports : Engine.PortMap) : Decidable (Clash ports) :=
  inferInstanceAs (Decidable (∃ a ∈ ports.flatMap ofEntry, ∃ b ∈ ports.flatMap ofEntry, _ ∧ _))

/-- Every binding can come to stand first at its place, but for others of its entry: its entry is put in front, and
the bindings of one entry have one protocol. -/
theorem exists_perm_head {ports : Engine.PortMap} {a : PortBinding} (ha : a ∈ ports.flatMap ofEntry) :
    ∃ ports' : Engine.PortMap, ports'.Perm ports ∧
      ((ofPortMap ports').filter (·.place = a.place)).head?.map protocol = some a.protocol := by
  obtain ⟨entry, hentry, hmem⟩ := List.mem_flatMap.1 ha
  refine ⟨entry :: ports.erase entry, (List.perm_cons_erase hentry).symm, ?_⟩
  rw [ofPortMap, filter_place_sort, List.flatMap_cons, List.filter_append]
  have hfound : a ∈ (ofEntry entry).filter (·.place = a.place) :=
    List.mem_filter.2 ⟨hmem, decide_eq_true rfl⟩
  cases hfirst : (ofEntry entry).filter (·.place = a.place) with
  | nil =>
    rw [hfirst] at hfound
    cases hfound
  | cons first rest =>
    have hfirstMem : first ∈ ofEntry entry :=
      (List.mem_filter.1 (hfirst.symm ▸ List.mem_cons_self)).1
    rw [List.cons_append, List.head?_cons, Option.map_some, ← protocol_of_mem_ofEntry hfirstMem,
      protocol_of_mem_ofEntry hmem]

/-- The bindings do not depend on the order of the entries exactly when no two of them clash. -/
theorem ofPortMap_eq_of_perm_iff (ports : Engine.PortMap) :
    (∀ ports', ports'.Perm ports → ofPortMap ports' = ofPortMap ports) ↔ ¬ Clash ports := by
  constructor
  · -- the one or the other stands first at their place, as its entry does
    rintro h ⟨a, ha, b, hb, hplace, hprotocol⟩
    obtain ⟨first, hfirst, hahead⟩ := exists_perm_head ha
    obtain ⟨second, hsecond, hbhead⟩ := exists_perm_head hb
    rw [h first hfirst] at hahead
    rw [h second hsecond, ← hplace, hahead] at hbhead
    exact hprotocol (Option.some.inj hbhead)
  · intro h ports' hperm
    refine (sort_eq_of_perm (hperm.flatMap_right ofEntry).symm fun a ha b hb hplace => ?_).symm
    exact Decidable.byContradiction fun hprotocol => h ⟨a, ha, b, hb, hplace, hprotocol⟩

/-- Neither the bindings of a record nor the line of a change made from it depend on the order of the entries,
exactly when no two bindings clash. -/
theorem order_irrelevant_iff (ports : Engine.PortMap) :
    ((∀ ports', ports'.Perm ports → ofPortMap ports' = ofPortMap ports) ↔ ¬ Clash ports) ∧
    ∀ (r : Engine.Inspection) (status : Status) (type : EventType),
      (∀ ports', ports'.Perm ports →
        (ChangeEvent.ofInspection status type (r.withPorts ports')).text =
          (ChangeEvent.ofInspection status type (r.withPorts ports)).text) ↔ ¬ Clash ports := by
  refine ⟨ofPortMap_eq_of_perm_iff ports, fun r status type => ?_⟩
  rw [← ofPortMap_eq_of_perm_iff]
  constructor
  · intro h ports' hperm
    exact (ChangeEvent.text_eq_text_iff_of_perm hperm r status type).1 (h ports' hperm)
  · intro h ports' hperm
    exact (ChangeEvent.text_eq_text_iff_of_perm hperm r status type).2 (h ports' hperm)

/-- A name server that is published at one port for two protocols. -/
def namePorts : Engine.PortMap :=
  [("53/tcp", some [⟨some "0.0.0.0", some "53"⟩]), ("53/sctp", some [⟨some "0.0.0.0", some "53"⟩])]

/-- The order of the entries shows in the bindings and in the line. -/
theorem ofPortMap_namePorts_reverse_ne :
    namePorts.reverse.Perm namePorts ∧ Clash namePorts ∧
      ofPortMap namePorts = [⟨53, 53, "0.0.0.0", .tcp⟩, ⟨53, 53, "0.0.0.0", .sctp⟩] ∧
      ofPortMap namePorts.reverse = [⟨53, 53, "0.0.0.0", .sctp⟩, ⟨53, 53, "0.0.0.0", .tcp⟩] ∧
      (ChangeEvent.ofInspection .none .container (.withPorts default namePorts.reverse)).text ≠
        (ChangeEvent.ofInspection .none .container (.withPorts default namePorts)).text := by
  have hperm : namePorts.reverse.Perm namePorts := List.reverse_perm namePorts
  have hforth : ofPortMap namePorts = [⟨53, 53, "0.0.0.0", .tcp⟩, ⟨53, 53, "0.0.0.0", .sctp⟩] :=
    List.mergeSort_of_pairwise (by decide +kernel)
  have hback :
      ofPortMap namePorts.reverse = [⟨53, 53, "0.0.0.0", .sctp⟩, ⟨53, 53, "0.0.0.0", .tcp⟩] :=
    List.mergeSort_of_pairwise (by decide +kernel)
  refine ⟨hperm, by decide +kernel, hforth, hback, fun htext => ?_⟩
  have heq := (ChangeEvent.text_eq_text_iff_of_perm hperm default .none .container).1 htext
  rw [hforth, hback] at heq
  exact absurd heq (by decide)

end PortBinding

end ContainerWatch
