import Plugboard.Json.Value
/-!
# The event bus

Notifications about plugins go out on a bus. Each subscription has its own queue holding at most
the bus's capacity of events. Publishing never waits: an event goes into the queue of every
subscription that wants its type and has room; a subscription whose queue is full misses it,
and one whose receiving end was dropped is removed. Delivery is therefore at most once, and in
publishing order.

A subscription is known by its number, the order in which it was made. Once it is removed from
the bus, by unsubscribing or closing, nothing more is queued for it, but what is queued can still
be taken.
-/

namespace Plugboard

/-- A notification about a plugin: its type, the plugin, and a payload object sorted by key. -/
structure Event where
  eventType : String
  pluginId : String
  payload : List (String × Json) := []

/-- The queue of one subscription. -/
structure Channel where
  /-- The event types wanted; none means every type. -/
  types : List String
  queue : List Event := []
  /-- Whether the bus still sends to it. -/
  subscribed : Bool := true
  /-- Whether its receiving end is still there. -/
  received : Bool := true

namespace Channel

/-- Whether the subscription wants events of a type. -/
def wants (c : Channel) (t : String) : Bool := c.types.isEmpty || c.types.contains t

end Channel

/-- What a publication did: how many subscriptions got the event, and how many missed it for
a full queue. -/
structure PublishReport where
  delivered : Nat := 0
  dropped : Nat := 0

/-- The bus: the capacity of every queue, and every subscription ever made, by number. -/
structure EventBus where
  capacity : Nat
  channels : List Channel := []

namespace EventBus

/-- A bus whose queues hold `capacity` events, and at least one. -/
def create (capacity : Nat) : EventBus := { capacity := max capacity 1 }

/-- The most events a queue can be made to hold. -/
def queueLimit : Nat := 2305843009213693951

/-- Whether a queue of the bus's capacity can be made at all. Subscribing to a bus where it
cannot is a fault of the program as a whole. -/
def canQueue (b : EventBus) : Bool := decide (b.capacity ≤ queueLimit)

/-- Makes a subscription to some event types, or to all when none are given; its number. -/
def subscribe (b : EventBus) (types : List String) : EventBus × Nat :=
  ({ b with channels := b.channels ++ [{ types }] }, b.channels.length)

/-- The subscription with a number changed. -/
def alter (b : EventBus) (n : Nat) (f : Channel → Channel) : EventBus :=
  { b with channels := b.channels.modify n f }

/-- Removes a subscription from the bus; whether it was on it. -/
def unsubscribe (b : EventBus) (n : Nat) : EventBus × Bool :=
  match b.channels[n]? with
  | some c => if c.subscribed then (b.alter n ({ · with subscribed := false }), true) else (b, false)
  | none => (b, false)

/-- One subscription's part in publishing an event. -/
def offer (cap : Nat) (e : Event) (c : Channel) (r : PublishReport) : Channel × PublishReport :=
  if !c.subscribed || !c.wants e.eventType then (c, r)
  else if !c.received then ({ c with subscribed := false }, r)
  else if c.queue.length ≥ cap then (c, { r with dropped := r.dropped + 1 })
  else ({ c with queue := c.queue ++ [e] }, { r with delivered := r.delivered + 1 })

/-- Offers an event to each subscription in turn. -/
def offerAll (cap : Nat) (e : Event) : List Channel → PublishReport → List Channel × PublishReport
  | [], r => ([], r)
  | c :: cs, r =>
    let (c', r') := offer cap e c r
    let (cs', rest) := offerAll cap e cs r'
    (c' :: cs', rest)

/-- Publishes an event. -/
def publish (b : EventBus) (e : Event) : EventBus × PublishReport :=
  let (cs, r) := offerAll b.capacity e b.channels {}
  ({ b with channels := cs }, r)

/-- How many subscriptions are on the bus. -/
def subscriberCount (b : EventBus) : Nat := (b.channels.filter (·.subscribed)).length

/-- Removes every subscription. -/
def close (b : EventBus) : EventBus :=
  { b with channels := b.channels.map ({ · with subscribed := false }) }

/-- Drops the receiving end of a subscription, and what was queued for it. -/
def dropReceiver (b : EventBus) (n : Nat) : EventBus :=
  b.alter n ({ · with received := false, queue := [] })

/-- Takes the next queued event of a subscription. -/
def take (b : EventBus) (n : Nat) : EventBus × Option Event :=
  match b.channels[n]? with
  | some c =>
    match c.queue with
    | e :: rest => (b.alter n ({ · with queue := rest }), some e)
    | [] => (b, none)
  | none => (b, none)

/-- Takes everything queued for a subscription. -/
def drain (b : EventBus) (n : Nat) : EventBus × List Event :=
  match b.channels[n]? with
  | some c => (b.alter n ({ · with queue := [] }), c.queue)
  | none => (b, [])

/-- Whether a subscription can still get events: it is on the bus. -/
def isOpen (b : EventBus) (n : Nat) : Bool :=
  match b.channels[n]? with
  | some c => c.subscribed
  | none => false

end EventBus

/-- An event as JSON. -/
def Event.toJson (e : Event) : Json :=
  .obj [("event_type", .str e.eventType), ("plugin_id", .str e.pluginId), ("payload", .obj e.payload)]

end Plugboard
