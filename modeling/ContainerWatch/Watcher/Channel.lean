/-!
# Bounded channels

A first-in first-out channel with room for a bounded number of items, one sender and one receiver.  An
item that the sender offers waits until there is room for it (`Ticket`).  When the receiver takes an
item while one waits, the room goes to the waiting item at once, although the sender moves it in only
when it looks again (`settle`).  A receiver that closes the channel still gets what is in it, and from
then on the sender is refused.

Main statements: what the receiver takes is the oldest item in the channel (`receive_eq_item`), and sending does not
overfill the channel (`bounded_settle`).
-/

namespace ContainerWatch

/-- How far the receiver of a channel is. -/
inductive Receiver where
  | listening
  /-- takes what is in the channel and refuses the rest -/
  | closed
  | dropped
  deriving DecidableEq, Repr

/-- How far an offered item is. -/
inductive Ticket where
  /-- the sender has not asked for room -/
  | fresh
  /-- there was no room -/
  | queued
  /-- room is kept for the item -/
  | admitted
  deriving DecidableEq, Repr

/-- An item that the sender holds until it is in the channel. -/
structure Offer (α : Type) where
  item : α
  ticket : Ticket
  deriving DecidableEq, Repr

/-- A bounded channel. -/
structure Channel (α : Type) where
  capacity : Nat
  /-- the items in the channel, the oldest first -/
  buffered : List α := []
  /-- the item that the sender holds -/
  offer : Option (Offer α) := none
  receiver : Receiver := .listening
  deriving DecidableEq, Repr

/-- What came of an offer. -/
inductive Settled (α : Type) where
  /-- the item is in the channel -/
  | sent (channel : Channel α)
  /-- the receiver takes no more items -/
  | refused (channel : Channel α)
  /-- there is no room, and the sender waits -/
  | waiting (channel : Channel α)

/-- What the receiver finds. -/
inductive Received (α : Type) where
  | item (a : α)
  /-- nothing is there yet -/
  | empty
  /-- nothing is there and nothing will come -/
  | disconnected
  /-- there is no receiver -/
  | dropped
  deriving DecidableEq, Repr

namespace Channel

variable {α : Type}

/-- The most items that a channel can be asked to have room for. -/
def maxCapacity : Nat := 2305843009213693951

/-- A new channel, none when it would have no room or too much. -/
def open? (capacity : Nat) : Option (Channel α) :=
  if 1 ≤ capacity ∧ capacity ≤ maxCapacity then some { capacity } else none

/-- The places that are kept for items outside the channel. -/
def reserved (c : Channel α) : Nat :=
  match c.offer with
  | some ⟨_, .admitted⟩ => 1
  | _ => 0

/-- Whether there is a place that is neither taken nor kept. -/
def hasRoom (c : Channel α) : Bool := c.buffered.length + c.reserved < c.capacity

/-- The sender offers an item. -/
def propose (c : Channel α) (a : α) : Channel α := { c with offer := some ⟨a, .fresh⟩ }

/-- The sender looks what comes of an item that it has offered. -/
def settle (c : Channel α) (o : Offer α) : Settled α :=
  if c.receiver ≠ .listening then .refused { c with offer := none }
  else if o.ticket = .admitted ∨ c.hasRoom then
    .sent { c with buffered := c.buffered ++ [o.item], offer := none }
  else .waiting { c with offer := some { o with ticket := .queued } }

/-- The offer once a place has become free. -/
def grant (c : Channel α) : Option (Offer α) :=
  c.offer.map fun o =>
    if o.ticket = .queued ∧ c.receiver = .listening then { o with ticket := .admitted } else o

/-- The receiver looks for an item; `active` says whether the sender may still send. -/
def receive (c : Channel α) (active : Bool) : Channel α × Received α :=
  match c.receiver, c.buffered with
  | .dropped, _ => (c, .dropped)
  | _, a :: rest => ({ c with buffered := rest, offer := c.grant }, .item a)
  | .listening, [] => (c, if active then .empty else .disconnected)
  | .closed, [] => (c, if active && c.reserved != 0 then .empty else .disconnected)

/-- The receiver takes no more than what is in the channel. -/
def close (c : Channel α) : Channel α :=
  { c with receiver := if c.receiver = .dropped then .dropped else .closed }

/-- The receiver goes away with all that is in the channel. -/
def drop (c : Channel α) : Channel α := { c with receiver := .dropped, buffered := [] }

/-! ## The items on their way -/

/-- The item that the sender holds. -/
def held (c : Channel α) : List α := c.offer.toList.map Offer.item

/-- No more places are taken and kept than there are. -/
def Bounded (c : Channel α) : Prop := c.buffered.length + c.reserved ≤ c.capacity

theorem held_grant (c : Channel α) : c.grant.toList.map Offer.item = c.held := by
  cases h : c.offer with
  | none => simp [grant, held, h]
  | some o =>
    simp only [grant, held, h, Option.map_some, Option.toList_some, List.map_cons, List.map_nil]
    split <;> rfl

/-- What the receiver takes is the oldest item in the channel, and the place of it becomes free. -/
theorem receive_eq_item {c d : Channel α} {active : Bool} {a : α}
    (h : c.receive active = (d, .item a)) : c.buffered = a :: d.buffered ∧ d.offer = c.grant := by
  unfold receive at h
  split at h
  · simp at h
  · rename_i hbuffered _
    obtain ⟨rfl, ha⟩ := Prod.mk.inj h
    cases ha
    exact ⟨hbuffered, rfl⟩
  · split at h <;> simp at h
  · split at h <;> simp at h

/-- Sending an item does not overfill the channel. -/
theorem bounded_settle {c d : Channel α} {o : Offer α} (hb : c.Bounded) (ho : c.offer = some o)
    (h : c.settle o = .sent d) : d.Bounded := by
  unfold settle at h
  split at h
  · simp at h
  · split at h
    · rename_i hroom
      cases h
      simp only [Bounded, reserved, List.length_append, List.length_singleton, Nat.add_zero]
      rcases hroom with hticket | hroom
      · obtain ⟨item, ticket⟩ := o
        subst hticket
        simpa [Bounded, reserved, ho] using hb
      · have hlt : c.buffered.length + c.reserved < c.capacity := by simpa [hasRoom] using hroom
        omega
    · simp at h

end Channel

end ContainerWatch
