import Plugboard.Console.Turn
import Plugboard.Registry.Events
/-!
# Event bus sessions

Steps on an event bus with its subscriptions held under names: subscribing, unsubscribing,
dropping a receiving end, publishing, and taking what a subscription has queued.

Making a subscription under a name already held drops the receiving end of the one held before;
dropping under a name not held does nothing. A step on any other name not held is refused.
Taking from an empty queue tells a subscription still on the bus, which may get more, from one
that is not, which never will.
-/

namespace Plugboard.Console

open Json

/-- An event a step describes. -/
def eventArg (j : Json) : Decode Event := do
  let t ← text j "event_type"
  let p := textOr j "plugin_id" ""
  let payload ← match ← typedOr j "payload" (.dict .any) (.obj []) with
    | .obj ms => pure ms
    | _ => pure []
  pure { eventType := t, pluginId := p, payload }

/-- An event bus and its subscriptions held under names. -/
structure Subscribed where
  bus : EventBus
  subs : List (String × Nat) := []

namespace Subscribed

/-- The number of the subscription held under a name. -/
def find (s : Subscribed) (name : String) : Decode Nat :=
  match s.subs.find? (·.1 == name) with
  | some (_, n) => .ok n
  | none => .error "no such subscription"

/-- Makes a subscription under a name, dropping the receiving end of one held under it. -/
def subscribe (s : Subscribed) (name : String) (types : List String) : Subscribed :=
  let bus := match s.subs.find? (·.1 == name) with
    | some (_, old) => s.bus.dropReceiver old
    | none => s.bus
  let (bus, n) := bus.subscribe types
  { bus, subs := (s.subs.filter (·.1 != name)) ++ [(name, n)] }

/-- Drops the receiving end of the subscription under a name, and forgets the name; a name not
held changes nothing. -/
def drop (s : Subscribed) (name : String) : Subscribed :=
  match s.subs.find? (·.1 == name) with
  | some (_, n) => { bus := s.bus.dropReceiver n, subs := s.subs.filter (·.1 != name) }
  | none => s

end Subscribed

/-- A publication's report as JSON. -/
def publishJson (r : PublishReport) : Json :=
  .obj [("delivered", Json.ofNat r.delivered), ("dropped", Json.ofNat r.dropped)]

/-- Runs a step on the subscription held under the name the step gives. -/
def withSubscription (j : Json) (f : String → Nat → Turn Subscribed Json) : Turn Subscribed Json := do
  let name ← Turn.decode (text j "name")
  let n ← Turn.decode ((← Turn.self).find name)
  f name n

/-- Takes the next event of a subscription. -/
def takeEvent (n : Nat) : Turn Subscribed (Option Event) := do
  let s ← Turn.self
  let (bus, e) := s.bus.take n
  Turn.change fun s => { s with bus }
  return e

/-- A step of an event bus session. -/
def busSessionStep (op : String) (j : Json) : Turn Subscribed Json :=
  match op with
  | "capacity" => do Turn.ok (Json.ofNat (← Turn.self).bus.capacity)
  | "subscribe" => do
    let name ← Turn.decode (text j "name")
    let types ← Turn.decode (texts j "types")
    if !(← Turn.self).bus.canQueue then Turn.fail
    Turn.change fun s => s.subscribe name types
    Turn.ok .null
  | "unsubscribe" => withSubscription j fun _ n => do
    let (bus, was) := (← Turn.self).bus.unsubscribe n
    Turn.change fun s => { s with bus }
    Turn.ok (.bool was)
  | "drop" => do
    let name ← Turn.decode (text j "name")
    Turn.change fun s => s.drop name
    Turn.ok .null
  | "publish" => do
    let e ← Turn.decode (eventArg j)
    let (bus, r) := (← Turn.self).bus.publish e
    Turn.change fun s => { s with bus }
    Turn.ok (publishJson r)
  | "subscriber_count" => do Turn.ok (Json.ofNat (← Turn.self).bus.subscriberCount)
  | "recv" => withSubscription j fun _ n => do
    match ← takeEvent n with
    | some e => Turn.ok e.toJson
    | none => Turn.ok (.str (if (← Turn.self).bus.isOpen n then "pending" else "closed"))
  | "try_recv" => withSubscription j fun _ n => do
    Turn.ok (Json.ofOption Event.toJson (← takeEvent n))
  | "drain" => withSubscription j fun _ n => do
    let (bus, es) := (← Turn.self).bus.drain n
    Turn.change fun s => { s with bus }
    Turn.ok (.arr (es.map Event.toJson))
  | "id_shape" => withSubscription j fun _ _ =>
    Turn.ok (.obj [("len", Json.ofNat 36), ("dashes", Json.ofNat 4)])
  | "close" => do
    Turn.change fun s => { s with bus := s.bus.close }
    Turn.ok .null
  | _ => Turn.refuse ("unknown event_bus op " ++ op)

/-- The answer to an event bus session request. -/
def busSession (request : Json) (env : Env) : Json :=
  session request env
    (do
      let c ← Reply.ofDecode (typedOr request "capacity" Shape.usize (Json.ofNat 0))
      let capacity := match c with
        | .num (.nat n) => n
        | _ => 0
      return .ok ({ bus := EventBus.create capacity } : Subscribed))
    busSessionStep false

end Plugboard.Console
