import ContainerWatch.Proofs.Container.PortOrder
import ContainerWatch.Proofs.Text.ByteOrder
/-!
# Which ports are published

The published ports of a record are offers: host bindings, each under the key of its entry.  An offer gives a
binding when its key names a container port and its host port is a port number (`PortBinding.Gives`); nothing
else decides, and no other offer does.  The bindings of a record are what its offers give, put in order.

Counting says all of this without naming the order in which the record is gone through: a binding stands there as
often as offers give it (`count_ofPortMap`).  That entries add up, and that useless ones can be left out, is then a
matter of lists of offers (`offers_append`, `ofPortMap_eq_of_offers`).

Main statement: `Metadata.portBindings_ofInspection`.
-/

namespace ContainerWatch

/-- The published ports of a record. -/
def Engine.Inspection.ports (r : Engine.Inspection) : Engine.PortMap :=
  (r.networkSettings.bind Engine.NetworkSettings.ports).getD []

namespace PortBinding

/-! ## What an offer gives -/

/-- The host bindings of the published ports, each under the key of its entry. -/
def offers (ports : Engine.PortMap) : List (String × Engine.HostBinding) :=
  ports.flatMap fun entry => (entry.2.getD []).map fun host => (entry.1, host)

/-- An offer gives a binding. -/
structure Gives (offer : String × Engine.HostBinding) (b : PortBinding) : Prop where
  /-- the key names the container port and the protocol -/
  key : PortKey.read? offer.1 = some ⟨b.containerPort, b.protocol⟩
  /-- the host port is there and is a port number -/
  hostPort : ∃ text, offer.2.hostPort = some text ∧ Numeral.nat16? text.toList = some b.hostPort
  /-- the address is the one of the host, empty when there is none -/
  bindIp : b.bindIp = offer.2.hostIp.getD ""

/-- The binding that an offer gives. -/
def ofOffer? (offer : String × Engine.HostBinding) : Option PortBinding :=
  (PortKey.read? offer.1).bind fun key => ofHost? key offer.2

/-- A host binding gives a binding under a key when it has a port number. -/
theorem ofHost?_eq_some_iff {key : PortKey} {host : Engine.HostBinding} {b : PortBinding} :
    ofHost? key host = some b ↔ key = ⟨b.containerPort, b.protocol⟩ ∧
      (∃ text, host.hostPort = some text ∧ Numeral.nat16? text.toList = some b.hostPort) ∧
      b.bindIp = host.hostIp.getD "" := by
  simp only [ofHost?, bind, Option.bind_eq_some_iff]
  constructor
  · rintro ⟨text, htext, hostPort, hport, hbinding⟩
    cases hbinding
    exact ⟨rfl, ⟨text, htext, hport⟩, rfl⟩
  · rintro ⟨rfl, ⟨text, htext, hport⟩, hip⟩
    refine ⟨text, htext, b.hostPort, hport, ?_⟩
    rw [← hip]

/-- The binding of an offer is the one that it gives.  The relation names the parts of the offer, the function goes
through them. -/
theorem ofOffer?_eq_some_iff {offer : String × Engine.HostBinding} {b : PortBinding} :
    ofOffer? offer = some b ↔ Gives offer b := by
  rw [ofOffer?, Option.bind_eq_some_iff]
  constructor
  · rintro ⟨key, hkey, hhost⟩
    obtain ⟨rfl, hport, hip⟩ := ofHost?_eq_some_iff.1 hhost
    exact ⟨hkey, hport, hip⟩
  · rintro ⟨hkey, hport, hip⟩
    exact ⟨_, hkey, ofHost?_eq_some_iff.2 ⟨rfl, hport, hip⟩⟩

instance (offer : String × Engine.HostBinding) (b : PortBinding) : Decidable (Gives offer b) :=
  decidable_of_iff (ofOffer? offer = some b) ofOffer?_eq_some_iff

/-- An offer gives one binding at most. -/
theorem Gives.unique {offer : String × Engine.HostBinding} {b c : PortBinding} (hb : Gives offer b)
    (hc : Gives offer c) : b = c :=
  Option.some.inj ((ofOffer?_eq_some_iff.2 hb).symm.trans (ofOffer?_eq_some_iff.2 hc))

theorem ofOffer?_eq_none_of_forall {offer : String × Engine.HostBinding} (h : ∀ b, ¬ Gives offer b) :
    ofOffer? offer = none :=
  Option.eq_none_iff_forall_ne_some.2 fun b hb => h b (ofOffer?_eq_some_iff.1 hb)

/-! ## Entry by entry -/

theorem offers_append (ports more : Engine.PortMap) : offers (ports ++ more) = offers ports ++ offers more :=
  List.flatMap_append

/-- An entry may be cut between two of its host bindings. -/
theorem offers_cut (before : Engine.PortMap) (key : String) (front back : List Engine.HostBinding)
    (after : Engine.PortMap) : offers (before ++ (key, some (front ++ back)) :: after) =
      offers (before ++ [(key, some front)]) ++ offers ((key, some back) :: after) := by
  rw [← offers_append, List.append_assoc, offers_append, offers_append, List.singleton_append]
  simp only [offers, List.flatMap_cons, Option.getD_some, List.map_append, List.append_assoc]

/-- The bindings of an entry are what its offers give. -/
theorem ofEntry_eq_filterMap (entry : String × Option (List Engine.HostBinding)) :
    ofEntry entry = (offers [entry]).filterMap ofOffer? := by
  rw [offers, List.flatMap_singleton, List.filterMap_map, ofEntry]
  cases hkey : PortKey.read? entry.1 with
  | none =>
    refine (List.filterMap_eq_nil_iff.2 fun host _ => ?_).symm
    rw [Function.comp_apply, ofOffer?, hkey, Option.bind_none]
  | some key =>
    have hsame : (ofOffer? ∘ fun host => (entry.1, host)) = ofHost? key := funext fun host => by
      rw [Function.comp_apply, ofOffer?, hkey, Option.bind_some]
    rw [hsame]

/-- The bindings of all entries are what their offers give. -/
theorem flatMap_ofEntry_eq_filterMap (ports : Engine.PortMap) :
    ports.flatMap ofEntry = (offers ports).filterMap ofOffer? := by
  induction ports with
  | nil => rfl
  | cons entry ports ih =>
    rw [List.flatMap_cons, ih, ofEntry_eq_filterMap, ← List.filterMap_append, ← offers_append]
    rfl

theorem ofPortMap_eq_sort (ports : Engine.PortMap) :
    ofPortMap ports = sort ((offers ports).filterMap ofOffer?) := by
  rw [ofPortMap, flatMap_ofEntry_eq_filterMap]

/-- A binding stands among those of the published ports as often as there are offers that give it. -/
theorem count_ofPortMap (ports : Engine.PortMap) (b : PortBinding) :
    (ofPortMap ports).count b = (offers ports).countP (Gives · b) := by
  rw [(port_perm ports).count_eq, flatMap_ofEntry_eq_filterMap, List.count_filterMap]
  refine List.countP_congr fun offer _ => ?_
  rw [beq_iff_eq, decide_eq_true_iff]
  exact ofOffer?_eq_some_iff

/-- Offers that give nothing can be left out, wherever they stand.  The entries need not be the same, only the other
offers. -/
theorem ofPortMap_eq_of_offers {ports ports' : Engine.PortMap}
    (before useless after : List (String × Engine.HostBinding))
    (hports : offers ports = before ++ useless ++ after) (hports' : offers ports' = before ++ after)
    (huseless : ∀ offer ∈ useless, ∀ b, ¬ Gives offer b) : ofPortMap ports' = ofPortMap ports := by
  have hnone : useless.filterMap ofOffer? = [] :=
    List.filterMap_eq_nil_iff.2 fun offer hoffer => ofOffer?_eq_none_of_forall (huseless offer hoffer)
  rw [ofPortMap_eq_sort, ofPortMap_eq_sort, hports, hports']
  simp only [List.filterMap_append, hnone, List.append_nil]

/-! ## Order -/

/-- A binding stands before another in the order of container port, host port and the bytes of the address,
or at the same place. -/
def NotAfter (b c : PortBinding) : Prop :=
  b.containerPort < c.containerPort ∨ b.containerPort = c.containerPort ∧
    (b.hostPort < c.hostPort ∨ b.hostPort = c.hostPort ∧ Text.bytes b.bindIp ≤ Text.bytes c.bindIp)

/-- The order in which bindings are sorted is the one of numbers and bytes.  Texts are compared by their characters;
that this is the order of their bytes is a fact about the encoding. -/
theorem precedes_iff_notAfter (b c : PortBinding) : b.precedes c = true ↔ b.NotAfter c := by
  rw [precedes_iff, NotAfter, Text.bytes_le_bytes_iff]
  exact Iff.rfl

theorem pairwise_ofPortMap (ports : Engine.PortMap) : (ofPortMap ports).Pairwise NotAfter :=
  (pairwise_sort _).imp fun {b c} h => (precedes_iff_notAfter b c).1 h

end PortBinding

namespace Metadata

open PortBinding

/-! ## Records -/

/-- The bindings of a record are those of its published ports, and none when it has no network settings. -/
theorem portBindings_eq_ofPortMap (r : Engine.Inspection) :
    (ofInspection r).portBindings = ofPortMap r.ports := by
  rw [ofInspection, Engine.Inspection.ports]
  cases r.networkSettings.bind Engine.NetworkSettings.ports with
  | none => exact List.mergeSort_nil.symm
  | some ports => rfl

/-- The bindings of a record are exactly those that its offers give, each as often as offers give it, in the
order of container port, host port and address.  So the entries add up, whatever ports their keys name; what
gives no binding changes nothing, be it an entry or one host binding of an entry; and the network settings are
those of the record. -/
theorem portBindings_ofInspection (r : Engine.Inspection) :
    (∀ b, (ofInspection r).portBindings.count b = (offers r.ports).countP (Gives · b)) ∧
    (∀ offer b c, Gives offer b → Gives offer c → b = c) ∧
    (ofInspection r).portBindings.Pairwise NotAfter ∧
    (∀ before after, r.ports = before ++ after → ∀ b, (ofInspection r).portBindings.count b =
      (ofInspection (r.withPorts before)).portBindings.count b +
        (ofInspection (r.withPorts after)).portBindings.count b) ∧
    (∀ before key hosts after, r.ports = before ++ (key, hosts) :: after →
      (∀ host ∈ hosts.getD [], ∀ b, ¬ Gives (key, host) b) →
      (ofInspection (r.withPorts (before ++ after))).portBindings = (ofInspection r).portBindings) ∧
    (∀ before key front host back after,
      r.ports = before ++ (key, some (front ++ host :: back)) :: after → (∀ b, ¬ Gives (key, host) b) →
      (ofInspection (r.withPorts (before ++ (key, some (front ++ back)) :: after))).portBindings =
        (ofInspection r).portBindings) ∧
    (ofInspection r).networkSettings = r.networkSettings := by
  -- all of it is about the offers of the published ports
  rw [portBindings_eq_ofPortMap]
  refine ⟨count_ofPortMap r.ports, fun offer b c => Gives.unique, pairwise_ofPortMap r.ports, ?_, ?_, ?_, rfl⟩
  · intro before after hports b
    rw [portBindings_eq_ofPortMap, portBindings_eq_ofPortMap, hports, count_ofPortMap, offers_append,
      List.countP_append, ← count_ofPortMap, ← count_ofPortMap]
    rfl
  · intro before key hosts after hports huseless
    rw [portBindings_eq_ofPortMap]
    refine ofPortMap_eq_of_offers (offers before) (offers [(key, hosts)]) (offers after) ?_
      (offers_append before after) fun offer hoffer => ?_
    · rw [hports, ← offers_append, ← offers_append, List.append_assoc, List.singleton_append]
    · rw [offers, List.flatMap_singleton] at hoffer
      obtain ⟨host, hhost, rfl⟩ := List.mem_map.1 hoffer
      exact huseless host hhost
  · intro before key front host back after hports huseless
    rw [portBindings_eq_ofPortMap]
    refine ofPortMap_eq_of_offers _ [(key, host)] _ ?_ (offers_cut before key front back after)
      (List.forall_mem_singleton.2 huseless)
    rw [hports, offers_cut, List.append_assoc]
    rfl

/-- A host binding that can be read. -/
def openHost : Engine.HostBinding := ⟨some "::", some "8080"⟩

/-- A host binding without a port number. -/
def namedHost : Engine.HostBinding := ⟨some "::", some "high"⟩

/-- A record with a key that names no port, and with two keys that name the same one. -/
def publishedExample : Engine.Inspection :=
  Engine.Inspection.withPorts default
    [("80/TCP", some [openHost]), ("80", some [openHost, namedHost]), ("080/tcp", some [openHost])]

/-- The binding that both keys offer stands there twice, and neither the entry nor the host binding that cannot
be read changes anything. -/
theorem portBindings_publishedExample :
    (ofInspection publishedExample).portBindings.count ⟨80, 8080, "::", .tcp⟩ = 2 ∧
      (ofInspection (publishedExample.withPorts
        [("80", some [openHost, namedHost]), ("080/tcp", some [openHost])])).portBindings =
          (ofInspection publishedExample).portBindings ∧
      (ofInspection (publishedExample.withPorts
        [("80/TCP", some [openHost]), ("80", some [openHost]), ("080/tcp", some [openHost])])).portBindings =
          (ofInspection publishedExample).portBindings := by
  obtain ⟨hcount, -, -, -, hentry, hhost, -⟩ := portBindings_ofInspection publishedExample
  refine ⟨?_, ?_, ?_⟩
  · rw [hcount]
    decide +kernel
  · refine hentry [] "80/TCP" (some [openHost]) _ rfl fun host _ b hgives => ?_
    have hkey : PortKey.read? "80/TCP" = none := by decide +kernel
    cases hkey.symm.trans hgives.key
  · refine hhost [("80/TCP", some [openHost])] "80" [openHost] namedHost [] _ rfl fun b hgives => ?_
    have hport : namedHost.hostPort.bind (Numeral.nat16? ·.toList) = none := by decide +kernel
    obtain ⟨text, htext, hread⟩ := hgives.hostPort
    rw [htext, Option.bind_some, hread] at hport
    cases hport

end Metadata

end ContainerWatch
