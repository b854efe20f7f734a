import Plugboard.Registry.Events
/-!
# Delivery on the event bus

A bus keeps, for every subscription it ever made, a queue of at most its capacity of events.
This module follows the subscriptions through any run of calls on a bus: subscribing,
unsubscribing, publishing, closing, dropping a receiving end, and taking events out one at a
time or all at once.

A publication of `e` puts it into the queue of subscription `n` exactly when `n` is on the bus,
its receiving end is there, it wants the type of `e` and its queue has room (`EventBus.admits`).
The events `n` admits over a run are a sublist of those published, in their order. What `n`
takes out over the run, followed by what still waits in its queue, is exactly what it admitted
as long as its receiving end is kept, and a prefix of it once that end is dropped
(`EventBus.takenIn_append_queueOf`). No queue ever holds more than the capacity. A subscription
that has left the bus admits nothing more and never comes back.

`Call.onChannel` says once what each call does to each subscription; every other statement is
derived from it.

Main statement: `EventBus.delivery_bounded_ordered_at_most_once`.
-/

namespace Plugboard

namespace Channel

/-- A subscription taken off the bus. -/
def unsubscribed (c : Channel) : Channel := { c with subscribed := false }

@[simp] theorem unsubscribed_queue (c : Channel) : c.unsubscribed.queue = c.queue := rfl

@[simp] theorem unsubscribed_received (c : Channel) : c.unsubscribed.received = c.received := rfl

@[simp] theorem unsubscribed_types (c : Channel) : c.unsubscribed.types = c.types := rfl

@[simp] theorem unsubscribed_subscribed (c : Channel) : c.unsubscribed.subscribed = false := rfl

theorem unsubscribed_of_off {c : Channel} (h : c.subscribed = false) : c.unsubscribed = c := by
  cases c
  cases h
  rfl

/-- A subscription as calls leave it: its queue holds at most `cap` events, and nothing once its
receiving end is gone. -/
structure Fits (cap : Nat) (c : Channel) : Prop where
  bounded : c.queue.length ≤ cap
  cleared : c.received = false → c.queue = []

end Channel

namespace EventBus

/-- A call on a bus, as its owner and the holders of its subscriptions make them. -/
inductive Call where
  | subscribe (types : List String)
  | unsubscribe (n : Nat)
  | publish (e : Event)
  | close
  | dropReceiver (n : Nat)
  | take (n : Nat)
  | drain (n : Nat)

/-- The queue of subscription `n`; empty for a number not yet given out. -/
def queueOf (b : EventBus) (n : Nat) : List Event := (b.channels[n]?.map (·.queue)).getD []

/-- Whether subscription `n`'s receiving end has been dropped; not for a number not yet given
out. -/
def dropped (b : EventBus) (n : Nat) : Bool := (b.channels[n]?.map (!·.received)).getD false

/-- Whether a publication of `e` now puts it into subscription `n`'s queue: `n` is on the bus,
its receiving end is there, it wants the type of `e`, and fewer than the capacity of events wait
in its queue. -/
def admits (b : EventBus) (n : Nat) (e : Event) : Bool :=
  match b.channels[n]? with
  | some c => c.subscribed && c.received && c.wants e.eventType && decide (c.queue.length < b.capacity)
  | none => false

/-- Subscription `n` was made and has since left the bus. -/
def Left (b : EventBus) (n : Nat) : Prop := ∃ c, b.channels[n]? = some c ∧ c.subscribed = false


namespace Call

/-- The bus after a call. -/
def apply : Call → EventBus → EventBus
  | subscribe types, b => (b.subscribe types).1
  | unsubscribe n, b => (b.unsubscribe n).1
  | publish e, b => (b.publish e).1
  | close, b => b.close
  | dropReceiver n, b => b.dropReceiver n
  | take n, b => (b.take n).1
  | drain n, b => (b.drain n).1

/-- The events subscription `m` takes out of its queue in a call. -/
def taken (m : Nat) : Call → EventBus → List Event
  | take n, b => if n = m then (b.take n).2.toList else []
  | drain n, b => if n = m then (b.drain n).2 else []
  | _, _ => []

/-- The events subscription `m` admits in a call. -/
def admitted (m : Nat) : Call → EventBus → List Event
  | publish e, b => if b.admits m e then [e] else []
  | _, _ => []

/-- The events a call publishes. -/
def published : Call → List Event
  | publish e => [e]
  | _ => []

/-- What a call does to subscription `m` of a bus of capacity `cap`. -/
def onChannel (cap m : Nat) : Call → Channel → Channel
  | subscribe _, c => c
  | unsubscribe n, c => if n = m then c.unsubscribed else c
  | publish e, c => (offer cap e c {}).1
  | close, c => c.unsubscribed
  | dropReceiver n, c => if n = m then { c with received := false, queue := [] } else c
  | take n, c => if n = m then { c with queue := c.queue.tail } else c
  | drain n, c => if n = m then { c with queue := [] } else c

/-- The subscription a call makes under number `m`, if it makes one. -/
def made : Call → EventBus → Nat → Option Channel
  | subscribe types, b, m => if m = b.channels.length then some { types } else none
  | _, _, _ => none

end Call

/-! ## One subscription's part in a publication -/

/-- The four ways a subscription takes part in a publication: passed over when it is off the bus
or does not want the type, taken off when its receiving end is gone, counted as a drop when its
queue is full, and otherwise given the event. -/
theorem offer_cases (cap : Nat) (e : Event) (c : Channel) (r : PublishReport) :
    ((c.subscribed && c.wants e.eventType) = false ∧ offer cap e c r = (c, r)) ∨
    (c.subscribed = true ∧ c.wants e.eventType = true ∧ c.received = false ∧
      offer cap e c r = (c.unsubscribed, r)) ∨
    (c.subscribed = true ∧ c.wants e.eventType = true ∧ c.received = true ∧
      cap ≤ c.queue.length ∧ offer cap e c r = (c, { r with dropped := r.dropped + 1 })) ∨
    (c.subscribed = true ∧ c.wants e.eventType = true ∧ c.received = true ∧
      c.queue.length < cap ∧
      offer cap e c r = ({ c with queue := c.queue ++ [e] }, { r with delivered := r.delivered + 1 })) := by
  unfold offer
  split
  · rename_i h
    refine .inl ⟨?_, rfl⟩
    cases hs : c.subscribed <;> cases hw : c.wants e.eventType <;> simp_all
  · rename_i h
    have hs : c.subscribed = true := by cases hs : c.subscribed <;> simp_all
    have hw : c.wants e.eventType = true := by cases hw : c.wants e.eventType <;> simp_all
    split
    · rename_i hr
      exact .inr (.inl ⟨hs, hw, by simpa using hr, rfl⟩)
    · rename_i hr
      have hr : c.received = true := by simpa using hr
      split
      · rename_i hl
        exact .inr (.inr (.inl ⟨hs, hw, hr, hl, rfl⟩))
      · rename_i hl
        exact .inr (.inr (.inr ⟨hs, hw, hr, Nat.lt_of_not_le hl, rfl⟩))

theorem offer_fst (cap : Nat) (e : Event) (c : Channel) (r : PublishReport) :
    (offer cap e c r).1 = (offer cap e c {}).1 := by
  rcases offer_cases cap e c r with ⟨_, h⟩ | ⟨_, _, _, h⟩ | ⟨_, _, _, _, h⟩ | ⟨_, _, _, _, h⟩ <;>
  rcases offer_cases cap e c {} with ⟨_, h'⟩ | ⟨_, _, _, h'⟩ | ⟨_, _, _, _, h'⟩ | ⟨_, _, _, _, h'⟩ <;>
    simp_all <;> omega

@[simp] theorem offer_queue (cap : Nat) (e : Event) (c : Channel) (r : PublishReport) :
    (offer cap e c r).1.queue =
      if c.subscribed && c.received && c.wants e.eventType && decide (c.queue.length < cap) then
        c.queue ++ [e]
      else c.queue := by
  rcases offer_cases cap e c r with ⟨h0, h⟩ | ⟨_, _, hr, h⟩ | ⟨hs, hw, hr, hl, h⟩ | ⟨hs, hw, hr, hl, h⟩ <;>
    rw [h]
  · cases hs : c.subscribed <;> cases hw : c.wants e.eventType <;> simp_all
  · simp [hr]
  · simp [hs, hw, hr, Nat.not_lt.mpr hl]
  · simp [hs, hw, hr, hl]

@[simp] theorem offer_subscribed (cap : Nat) (e : Event) (c : Channel) (r : PublishReport) :
    (offer cap e c r).1.subscribed = (c.subscribed && (c.received || !c.wants e.eventType)) := by
  rcases offer_cases cap e c r with ⟨h0, h⟩ | ⟨hs, hw, hr, h⟩ | ⟨hs, hw, hr, _, h⟩ | ⟨hs, hw, hr, _, h⟩ <;>
    rw [h]
  · cases hs : c.subscribed <;> cases hw : c.wants e.eventType <;> simp_all
  · simp [hs, hw, hr]
  · simp [hs, hr]
  · simp [hs, hr]

@[simp] theorem offer_received (cap : Nat) (e : Event) (c : Channel) (r : PublishReport) :
    (offer cap e c r).1.received = c.received := by
  rcases offer_cases cap e c r with ⟨_, h⟩ | ⟨_, _, _, h⟩ | ⟨_, _, _, _, h⟩ | ⟨_, _, _, _, h⟩ <;>
    simp only [h, Channel.unsubscribed_received]

@[simp] theorem offer_types (cap : Nat) (e : Event) (c : Channel) (r : PublishReport) :
    (offer cap e c r).1.types = c.types := by
  rcases offer_cases cap e c r with ⟨_, h⟩ | ⟨_, _, _, h⟩ | ⟨_, _, _, _, h⟩ | ⟨_, _, _, _, h⟩ <;>
    simp only [h, Channel.unsubscribed_types]

/-- A publication counts, beside what the report held, one delivery or one drop for each
subscription on the bus that wants the event and whose receiving end is there. -/
theorem offer_counts (cap : Nat) (e : Event) (c : Channel) (r : PublishReport) :
    (offer cap e c r).2.delivered + (offer cap e c r).2.dropped =
      r.delivered + r.dropped +
        if c.subscribed && c.wants e.eventType && c.received then 1 else 0 := by
  rcases offer_cases cap e c r with ⟨h0, h⟩ | ⟨hs, hw, hr, h⟩ | ⟨hs, hw, hr, _, h⟩ | ⟨hs, hw, hr, _, h⟩ <;>
    rw [h]
  · simp [h0]
  · simp [hs, hw, hr]
  · simp [hs, hw, hr]
    omega
  · simp [hs, hw, hr]
    omega

theorem offerAll_fst (cap : Nat) (e : Event) (cs : List Channel) (r : PublishReport) :
    (offerAll cap e cs r).1 = cs.map fun c => (offer cap e c {}).1 := by
  induction cs generalizing r with
  | nil => rfl
  | cons c cs ih =>
    simp only [offerAll, List.map_cons]
    rw [ih, offer_fst]

theorem offerAll_counts (cap : Nat) (e : Event) (cs : List Channel) (r : PublishReport) :
    (offerAll cap e cs r).2.delivered + (offerAll cap e cs r).2.dropped =
      r.delivered + r.dropped +
        (cs.filter fun c => c.subscribed && c.wants e.eventType && c.received).length := by
  induction cs generalizing r with
  | nil => simp [offerAll]
  | cons c cs ih =>
    simp only [offerAll]
    rw [ih, offer_counts, List.filter_cons]
    split
    · simp_all
      omega
    · simp_all

theorem publish_channels (b : EventBus) (e : Event) :
    (b.publish e).1.channels = b.channels.map fun c => (offer b.capacity e c {}).1 :=
  offerAll_fst _ _ _ _

/-! ## What each call does to each subscription -/

@[simp] theorem getElem?_alter (b : EventBus) (n : Nat) (f : Channel → Channel) (m : Nat) :
    (b.alter n f).channels[m]? = b.channels[m]?.map fun c => if n = m then f c else c := by
  simp [alter, List.getElem?_modify]

/-- Altering a subscription depends only on what the alteration does to it. -/
theorem alter_congr {b : EventBus} {n : Nat} {f g : Channel → Channel}
    (h : ∀ c, b.channels[n]? = some c → f c = g c) : b.alter n f = b.alter n g := by
  simp only [alter, EventBus.mk.injEq, true_and]
  apply List.ext_getElem?
  intro m
  simp only [List.getElem?_modify]
  by_cases he : n = m
  · subst he
    cases hc : b.channels[n]? with
    | none => rfl
    | some c => simp [h c hc]
  · simp [he]

/-- An alteration that leaves subscription `n` as it is leaves the bus as it is. -/
theorem alter_of_fixed {b : EventBus} {n : Nat} {f : Channel → Channel}
    (h : ∀ c, b.channels[n]? = some c → f c = c) : b.alter n f = b := by
  rw [alter_congr (g := id) h]
  simp [alter]

theorem alter_of_none {b : EventBus} {n : Nat} (f : Channel → Channel) (h : b.channels[n]? = none) :
    b.alter n f = b :=
  alter_of_fixed fun c hc => by rw [h] at hc; cases hc

/-- Unsubscribing takes subscription `n` off the bus; one already off, or never made, stays as
it is. -/
theorem unsubscribe_eq_alter (b : EventBus) (n : Nat) :
    (b.unsubscribe n).1 = b.alter n Channel.unsubscribed := by
  unfold unsubscribe
  cases hc : b.channels[n]? with
  | none => exact (alter_of_none _ hc).symm
  | some c =>
    dsimp only
    split
    · rfl
    · rename_i hs
      refine (alter_of_fixed fun c' h => ?_).symm
      rw [hc] at h
      cases h
      exact Channel.unsubscribed_of_off (Bool.of_not_eq_true hs)

/-- Taking drops the head of subscription `n`'s queue; an empty queue stays as it is. -/
theorem take_eq_alter (b : EventBus) (n : Nat) :
    (b.take n).1 = b.alter n fun c => { c with queue := c.queue.tail } := by
  unfold take
  cases hc : b.channels[n]? with
  | none => exact (alter_of_none _ hc).symm
  | some c =>
    dsimp only
    cases hq : c.queue with
    | cons e rest =>
      refine alter_congr fun c' h => ?_
      rw [hc] at h
      cases h
      rw [hq]
      rfl
    | nil =>
      refine (alter_of_fixed fun c' h => ?_).symm
      rw [hc] at h
      cases h
      rw [hq]
      cases c
      cases hq
      rfl

theorem drain_eq_alter (b : EventBus) (n : Nat) :
    (b.drain n).1 = b.alter n fun c => { c with queue := [] } := by
  unfold drain
  cases hc : b.channels[n]? with
  | none => exact (alter_of_none _ hc).symm
  | some c => rfl

/-- Each call changes each subscription by `onChannel`, and a subscription adds a new one at the
end. -/
theorem getElem?_apply (k : Call) (b : EventBus) (m : Nat) :
    (k.apply b).channels[m]? =
      match b.channels[m]? with
      | some c => some (k.onChannel b.capacity m c)
      | none => k.made b m := by
  cases k with
  | subscribe types =>
    simp only [Call.apply, subscribe, Call.onChannel, Call.made]
    cases hc : b.channels[m]? with
    | some c =>
      rw [List.getElem?_append_left (List.getElem?_eq_some_iff.mp hc).1, hc]
    | none =>
      have hm : b.channels.length ≤ m := List.getElem?_eq_none_iff.mp hc
      rw [List.getElem?_append_right hm]
      by_cases he : m = b.channels.length
      · subst he
        simp
      · rw [if_neg he, List.getElem?_eq_none_iff]
        simp only [List.length_singleton]
        omega
  | publish e =>
    simp only [Call.apply, Call.onChannel, Call.made]
    rw [publish_channels, List.getElem?_map]
    cases b.channels[m]? <;> rfl
  | close =>
    simp only [Call.apply, close, Call.onChannel, Call.made, List.getElem?_map]
    cases b.channels[m]? <;> rfl
  -- the other calls each alter the one subscription they name
  | unsubscribe n =>
    simp only [Call.apply, unsubscribe_eq_alter, getElem?_alter, Call.onChannel, Call.made]
    cases b.channels[m]? <;> rfl
  | dropReceiver n =>
    simp only [Call.apply, dropReceiver, getElem?_alter, Call.onChannel, Call.made]
    cases b.channels[m]? <;> rfl
  | take n =>
    simp only [Call.apply, take_eq_alter, getElem?_alter, Call.onChannel, Call.made]
    cases b.channels[m]? <;> rfl
  | drain n =>
    simp only [Call.apply, drain_eq_alter, getElem?_alter, Call.onChannel, Call.made]
    cases b.channels[m]? <;> rfl

@[simp] theorem capacity_apply (k : Call) (b : EventBus) : (k.apply b).capacity = b.capacity := by
  cases k <;> simp only [Call.apply, subscribe, unsubscribe_eq_alter, publish, close, dropReceiver,
    take_eq_alter, drain_eq_alter, alter]

/-- A call never puts a subscription back on the bus. -/
theorem onChannel_subscribed (k : Call) (cap m : Nat) (c : Channel) :
    (k.onChannel cap m c).subscribed = true → c.subscribed = true := by
  cases k with
  | subscribe | publish | close => simp_all [Call.onChannel]
  -- the other calls change only the subscription they name
  | unsubscribe | dropReceiver | take | drain =>
    simp only [Call.onChannel]
    split <;> simp_all

/-- A call never gives a subscription its receiving end back. -/
theorem onChannel_received (k : Call) (cap m : Nat) (c : Channel) :
    (k.onChannel cap m c).received = true → c.received = true := by
  cases k with
  | subscribe | publish | close => simp_all [Call.onChannel]
  | unsubscribe | dropReceiver | take | drain =>
    simp only [Call.onChannel]
    split <;> simp_all

@[simp] theorem onChannel_types (k : Call) (cap m : Nat) (c : Channel) :
    (k.onChannel cap m c).types = c.types := by
  cases k with
  | subscribe | publish | close => simp [Call.onChannel]
  | unsubscribe | dropReceiver | take | drain =>
    simp only [Call.onChannel]
    split <;> rfl

theorem made_fresh {k : Call} {b : EventBus} {m : Nat} {c : Channel} (h : k.made b m = some c) :
    c.queue = [] ∧ c.subscribed = true ∧ c.received = true := by
  cases k with
  | subscribe types =>
    simp only [Call.made] at h
    split at h
    · cases h
      exact ⟨rfl, rfl, rfl⟩
    · cases h
  | _ => cases h

/-! ## One subscription through one call -/

variable {k : Call} {ks : List Call} {b : EventBus} {n : Nat}

theorem admits_of_some {e : Event} {c : Channel} (hc : b.channels[n]? = some c) :
    b.admits n e =
      (c.subscribed && c.received && c.wants e.eventType && decide (c.queue.length < b.capacity)) := by
  simp [admits, hc]

/-- Taking gives the first queued event, if any. -/
theorem taken_take (m : Nat) (b : EventBus) (n : Nat) :
    (Call.take m).taken n b = if m = n then (b.queueOf n).take 1 else [] := by
  simp only [Call.taken]
  split
  · rename_i he
    subst he
    unfold take queueOf
    cases b.channels[m]? with
    | none => rfl
    | some c =>
      cases hq : c.queue <;> simp [hq]
  · rfl

/-- Draining gives everything queued. -/
theorem taken_drain (m : Nat) (b : EventBus) (n : Nat) :
    (Call.drain m).taken n b = if m = n then b.queueOf n else [] := by
  simp only [Call.taken]
  split
  · rename_i he
    subst he
    unfold drain queueOf
    cases b.channels[m]? <;> rfl
  · rfl

/-- Only taking and draining take anything out. -/
theorem taken_of_queueOf (k : Call) (b : EventBus) (n : Nat) (h : b.queueOf n = []) :
    k.taken n b = [] := by
  cases k with
  | take m => rw [taken_take, h]; split <;> rfl
  | drain m => rw [taken_drain, h]; split <;> rfl
  | _ => rfl

/-- A call takes the first events of a queue, if any. -/
theorem taken_prefix_queueOf (k : Call) (b : EventBus) (n : Nat) : k.taken n b <+: b.queueOf n := by
  cases k with
  | take m =>
    rw [taken_take]
    split
    · exact List.take_prefix _ _
    · exact List.nil_prefix
  | drain m =>
    rw [taken_drain]
    split
    · exact List.prefix_refl _
    · exact List.nil_prefix
  | _ => exact List.nil_prefix

/-- What a call takes out of subscription `n`'s queue, followed by what the queue then holds, is
what the queue held, followed by what the call puts in, unless the call drops `n`'s receiving
end. -/
theorem taken_append_queueOf (h : (k.apply b).dropped n = false) :
    k.taken n b ++ (k.apply b).queueOf n = b.queueOf n ++ k.admitted n b := by
  have hq := getElem?_apply k b n
  unfold dropped at h
  unfold queueOf
  rw [hq] at h ⊢
  cases hc : b.channels[n]? with
  | none =>
    dsimp only
    -- Nothing was there to take or to admit, and what a call makes starts empty.
    have hmq : ((k.made b n).map (·.queue)).getD [] = [] := by
      cases hm : k.made b n with
      | none => rfl
      | some c => simp [(made_fresh hm).1]
    have ht : k.taken n b = [] := taken_of_queueOf k b n (by simp [queueOf, hc])
    have ha : k.admitted n b = [] := by
      cases k <;> simp [Call.admitted, admits, hc]
    rw [hmq, ht, ha]
    rfl
  | some c =>
    rw [hc] at h
    simp only [Option.map_some, Option.getD_some] at h ⊢
    cases k with
    | subscribe types => simp [Call.taken, Call.admitted, Call.onChannel]
    | unsubscribe m =>
      simp only [Call.taken, Call.admitted, Call.onChannel]
      split <;> simp
    | publish e =>
      simp [Call.taken, Call.admitted, Call.onChannel, admits_of_some hc]
      split <;> simp_all
    | close => simp [Call.taken, Call.admitted, Call.onChannel]
    | dropReceiver m =>
      simp only [Call.taken, Call.admitted, Call.onChannel] at h ⊢
      split
      · simp_all
      · simp
    | take m =>
      simp only [Call.taken, Call.admitted, Call.onChannel]
      split
      · rename_i he
        subst he
        simp only [take, hc]
        cases c.queue <;> simp
      · simp
    | drain m =>
      simp only [Call.taken, Call.admitted, Call.onChannel]
      split
      · rename_i he
        subst he
        simp [drain, hc]
      · simp

/-- A call takes nothing from, and puts nothing into, a subscription whose receiving end is gone
and whose queue is empty, and leaves it so. -/
theorem silent_of_dropped (hd : b.dropped n = true) (hq : b.queueOf n = []) :
    k.taken n b = [] ∧ k.admitted n b = [] ∧ (k.apply b).dropped n = true ∧
      (k.apply b).queueOf n = [] := by
  unfold dropped at hd
  unfold queueOf at hq
  cases hc : b.channels[n]? with
  | none => rw [hc] at hd; cases hd
  | some c =>
    rw [hc] at hd hq
    simp only [Option.map_some, Option.getD_some, Bool.not_eq_eq_eq_not, Bool.not_true] at hd hq
    refine ⟨?_, ?_, ?_, ?_⟩
    · exact taken_of_queueOf k b n (by simp [queueOf, hc, hq])
    · cases k <;> simp [Call.admitted, admits_of_some hc, hd]
    · unfold dropped
      rw [getElem?_apply, hc]
      simp only [Option.map_some, Option.getD_some, Bool.not_eq_eq_eq_not, Bool.not_true]
      cases hr : (k.onChannel b.capacity n c).received with
      | false => rfl
      | true => rw [onChannel_received k _ _ _ hr] at hd; cases hd
    · unfold queueOf
      rw [getElem?_apply, hc]
      simp only [Option.map_some, Option.getD_some]
      cases k with
      | subscribe | publish | close => simp [Call.onChannel, hq, hd]
      | unsubscribe | dropReceiver | take | drain =>
        simp only [Call.onChannel]
        split <;> simp [hq]

/-- Once dropped, a receiving end stays dropped. -/
theorem dropped_apply (hd : b.dropped n = true) : (k.apply b).dropped n = true := by
  unfold dropped at hd ⊢
  rw [getElem?_apply]
  cases hc : b.channels[n]? with
  | none => rw [hc] at hd; cases hd
  | some c =>
    rw [hc] at hd
    simp only [Option.map_some, Option.getD_some, Bool.not_eq_eq_eq_not, Bool.not_true] at hd ⊢
    cases hr : (k.onChannel b.capacity n c).received with
    | false => rfl
    | true => rw [onChannel_received k _ _ _ hr] at hd; cases hd

/-- A subscription's type list stays as it was made. -/
theorem types_apply {c : Channel} (hc : b.channels[n]? = some c) :
    ∃ c', (k.apply b).channels[n]? = some c' ∧ c'.types = c.types := by
  rw [getElem?_apply, hc]
  exact ⟨_, rfl, onChannel_types k _ _ c⟩

/-- What a subscription wants depends on its type list alone. -/
theorem wants_of_types {c c' : Channel} (h : c'.types = c.types) (t : String) :
    c'.wants t = c.wants t := by
  simp only [Channel.wants, h]

/-! ## The invariant every call keeps -/

theorem onChannel_fits (k : Call) (cap m : Nat) {c : Channel} (h : c.Fits cap) :
    (k.onChannel cap m c).Fits cap := by
  cases k with
  | subscribe types => exact h
  | unsubscribe n =>
    simp only [Call.onChannel]
    split
    · exact ⟨h.bounded, h.cleared⟩
    · exact h
  | publish e =>
    simp only [Call.onChannel]
    constructor
    · rw [offer_queue]
      split
      · rename_i ha
        simp only [Bool.and_eq_true, decide_eq_true_eq] at ha
        simp only [List.length_append, List.length_singleton]
        omega
      · exact h.bounded
    · rw [offer_received, offer_queue]
      intro hr
      simp only [hr, Bool.and_false, Bool.false_and]
      exact h.cleared hr
  | close => exact ⟨h.bounded, h.cleared⟩
  | dropReceiver n =>
    simp only [Call.onChannel]
    split
    · exact ⟨Nat.zero_le _, fun _ => rfl⟩
    · exact h
  | take n =>
    simp only [Call.onChannel]
    split
    · refine ⟨?_, fun hr => ?_⟩
      · simp only [List.length_tail]
        have := h.bounded
        omega
      · simp [h.cleared hr]
    · exact h
  | drain n =>
    simp only [Call.onChannel]
    split
    · exact ⟨Nat.zero_le _, fun _ => rfl⟩
    · exact h

/-- A bus as calls leave it: every subscription fits the capacity. -/
def Valid (b : EventBus) : Prop :=
  ∀ (m : Nat) (c : Channel), b.channels[m]? = some c → c.Fits b.capacity

theorem valid_create (cap : Nat) : (create cap).Valid := by
  intro m c h
  simp [create] at h

/-- Every call keeps a bus valid. -/
theorem Valid.apply (hv : b.Valid) (k : Call) : (k.apply b).Valid := by
  intro m c h
  rw [getElem?_apply, capacity_apply] at *
  cases hc : b.channels[m]? with
  | some c0 =>
    rw [hc] at h
    cases h
    exact onChannel_fits k _ _ (hv m c0 hc)
  | none =>
    rw [hc] at h
    have := (made_fresh h).1
    exact ⟨by simp [this], fun _ => this⟩

/-- A valid bus is settled: a dropped receiving end leaves an empty queue. -/
theorem Valid.queueOf_of_dropped (hv : b.Valid) (hd : b.dropped n = true) : b.queueOf n = [] := by
  unfold dropped at hd
  unfold queueOf
  cases hc : b.channels[n]? with
  | none => rfl
  | some c =>
    rw [hc] at hd
    simp only [Option.map_some, Option.getD_some, Bool.not_eq_eq_eq_not, Bool.not_true] at hd
    simp [(hv n c hc).cleared hd]

/-! ## Off the bus for good -/

/-- A subscription off the bus admits nothing. -/
theorem admitted_of_left (hl : b.Left n) : k.admitted n b = [] := by
  obtain ⟨c, hc, hs⟩ := hl
  cases k <;> simp [Call.admitted, admits_of_some hc, hs]

/-- A subscription off the bus stays off it. -/
theorem Left.apply (hl : b.Left n) (k : Call) : (k.apply b).Left n := by
  obtain ⟨c, hc, hs⟩ := hl
  refine ⟨k.onChannel b.capacity n c, by rw [getElem?_apply, hc], ?_⟩
  cases hs' : (k.onChannel b.capacity n c).subscribed with
  | false => rfl
  | true => rw [onChannel_subscribed k _ _ _ hs'] at hs; cases hs

/-- Unsubscribing takes a subscription off the bus. -/
theorem left_unsubscribe {c : Channel} (hc : b.channels[n]? = some c) :
    ((Call.unsubscribe n).apply b).Left n :=
  ⟨_, by rw [getElem?_apply, hc], by simp [Call.onChannel]⟩

/-- Closing takes every subscription off the bus. -/
theorem left_close {c : Channel} (hc : b.channels[n]? = some c) : (Call.close.apply b).Left n :=
  ⟨_, by rw [getElem?_apply, hc], by simp [Call.onChannel]⟩

/-- A subscription off the bus is not open. -/
theorem isOpen_of_left (hl : b.Left n) : b.isOpen n = false := by
  obtain ⟨c, hc, hs⟩ := hl
  simp [isOpen, hc, hs]

/-! ## A publication -/

/-- A publication counts one delivery or one drop for each subscription on the bus that wants
the event and whose receiving end is there. -/
theorem publish_counts (b : EventBus) (e : Event) :
    (b.publish e).2.delivered + (b.publish e).2.dropped =
      (b.channels.filter fun c => c.subscribed && c.wants e.eventType && c.received).length := by
  have h := offerAll_counts b.capacity e b.channels {}
  simp only [Nat.zero_add] at h
  exact h

/-- A publication takes off the bus exactly the subscriptions that want the event and whose
receiving end is gone. -/
theorem publish_subscribed (b : EventBus) (e : Event) (m : Nat) :
    ((b.publish e).1.channels[m]?).map (·.subscribed) =
      (b.channels[m]?).map fun c => c.subscribed && (c.received || !c.wants e.eventType) := by
  rw [publish_channels, List.getElem?_map]
  cases b.channels[m]? <;> simp

/-! ## Runs -/

/-- The bus after a run of calls. -/
def run (b : EventBus) : List Call → EventBus
  | [] => b
  | k :: ks => run (k.apply b) ks

/-- What subscription `n` takes out of its queue during a run. -/
def takenIn (n : Nat) : EventBus → List Call → List Event
  | _, [] => []
  | b, k :: ks => k.taken n b ++ takenIn n (k.apply b) ks

/-- The events subscription `n` admits during a run. -/
def admittedIn (n : Nat) : EventBus → List Call → List Event
  | _, [] => []
  | b, k :: ks => k.admitted n b ++ admittedIn n (k.apply b) ks

/-- The events a run publishes, in order. -/
def publishedIn (ks : List Call) : List Event := ks.flatMap Call.published

@[simp] theorem publishedIn_append (ks ks' : List Call) :
    publishedIn (ks ++ ks') = publishedIn ks ++ publishedIn ks' :=
  List.flatMap_append

@[simp] theorem run_nil (b : EventBus) : b.run [] = b := rfl

@[simp] theorem run_cons (b : EventBus) (k : Call) (ks : List Call) :
    b.run (k :: ks) = (k.apply b).run ks := rfl

theorem run_append (b : EventBus) (ks ks' : List Call) : b.run (ks ++ ks') = (b.run ks).run ks' := by
  induction ks generalizing b with
  | nil => rfl
  | cons k ks ih => exact ih _

@[simp] theorem capacity_run (b : EventBus) (ks : List Call) : (b.run ks).capacity = b.capacity := by
  induction ks generalizing b with
  | nil => rfl
  | cons k ks ih => rw [run_cons, ih, capacity_apply]

theorem Valid.run (hv : b.Valid) (ks : List Call) : (b.run ks).Valid := by
  induction ks generalizing b with
  | nil => exact hv
  | cons k ks ih => exact ih (hv.apply k)

theorem Left.run (hl : b.Left n) (ks : List Call) : (b.run ks).Left n := by
  induction ks generalizing b with
  | nil => exact hl
  | cons k ks ih => exact ih (hl.apply k)

theorem dropped_run (hd : b.dropped n = true) (ks : List Call) : (b.run ks).dropped n = true := by
  induction ks generalizing b with
  | nil => exact hd
  | cons k ks ih => exact ih (dropped_apply hd)

theorem admittedIn_of_left (hl : b.Left n) (ks : List Call) : admittedIn n b ks = [] := by
  induction ks generalizing b with
  | nil => rfl
  | cons k ks ih => rw [admittedIn, admitted_of_left hl, ih (hl.apply k)]; rfl

/-- A subscription whose receiving end is gone and whose queue is empty takes and admits nothing
for the rest of a run. -/
theorem silent_run (hd : b.dropped n = true) (hq : b.queueOf n = []) (ks : List Call) :
    takenIn n b ks = [] ∧ admittedIn n b ks = [] ∧ (b.run ks).queueOf n = [] := by
  induction ks generalizing b with
  | nil => exact ⟨rfl, rfl, hq⟩
  | cons k ks ih =>
    obtain ⟨ht, ha, hd', hq'⟩ := silent_of_dropped (k := k) hd hq
    obtain ⟨ht', ha', hq''⟩ := ih hd' hq'
    exact ⟨by rw [takenIn, ht, ht']; rfl, by rw [admittedIn, ha, ha']; rfl, hq''⟩

/-- While its receiving end is kept, what a subscription takes out over a run, followed by what
its queue holds at the end, is what it held at the start followed by what it admitted. -/
theorem takenIn_append_queueOf (h : (b.run ks).dropped n = false) :
    takenIn n b ks ++ (b.run ks).queueOf n = b.queueOf n ++ admittedIn n b ks := by
  induction ks generalizing b with
  | nil => simp [takenIn, admittedIn]
  | cons k ks ih =>
    -- The receiving end was kept after the first call too, since none is ever given back.
    have hk : (k.apply b).dropped n = false := by
      cases hd : (k.apply b).dropped n with
      | false => rfl
      | true => rw [run_cons, dropped_run hd] at h; cases h
    rw [run_cons] at h ⊢
    rw [takenIn, admittedIn, List.append_assoc, ih h, ← List.append_assoc,
      taken_append_queueOf hk, List.append_assoc]

/-- Whether or not its receiving end is kept, what a subscription takes out over a run, followed
by what its queue holds at the end, begins what it held at the start followed by what it
admitted. -/
theorem takenIn_append_queueOf_prefix_admittedIn (hv : b.Valid) (ks : List Call) :
    takenIn n b ks ++ (b.run ks).queueOf n <+: b.queueOf n ++ admittedIn n b ks := by
  induction ks generalizing b with
  | nil => simp [takenIn, admittedIn]
  | cons k ks ih =>
    cases hk : (k.apply b).dropped n with
    | false =>
      have h := (List.prefix_append_right_inj (k.taken n b)).mpr (ih (hv.apply k))
      rw [← List.append_assoc (k.taken n b) ((k.apply b).queueOf n), taken_append_queueOf hk] at h
      rw [run_cons, takenIn, admittedIn]
      simpa only [List.append_assoc] using h
    | true =>
      -- From the call that dropped it on, the subscription is silent.
      have hq := (hv.apply k).queueOf_of_dropped hk
      obtain ⟨ht, -, hq'⟩ := silent_run hk hq ks
      rw [run_cons, hq', takenIn, ht, List.append_nil, List.append_nil]
      exact (taken_prefix_queueOf k b n).trans (List.prefix_append _ _)

/-- A subscription admits only events of the run, in their order, each publication at most once. -/
theorem admittedIn_sublist (n : Nat) (b : EventBus) (ks : List Call) :
    (admittedIn n b ks).Sublist (publishedIn ks) := by
  induction ks generalizing b with
  | nil => exact List.Sublist.slnil
  | cons k ks ih =>
    rw [admittedIn, publishedIn, List.flatMap_cons]
    refine List.Sublist.append ?_ (ih _)
    cases k with
    | publish e =>
      simp only [Call.admitted, Call.published]
      split <;> simp
    | _ => simp [Call.admitted, Call.published]

/-- A subscription's type list stays as it was made, through a run. -/
theorem types_run {c : Channel} (hc : b.channels[n]? = some c) (ks : List Call) :
    ∃ c', (b.run ks).channels[n]? = some c' ∧ c'.types = c.types := by
  induction ks generalizing b c with
  | nil => exact ⟨c, hc, rfl⟩
  | cons k ks ih =>
    obtain ⟨c1, h1, ht1⟩ := types_apply (k := k) hc
    obtain ⟨c', h', ht'⟩ := ih h1
    exact ⟨c', h', ht'.trans ht1⟩

/-- A subscription admits only events of types it wants. -/
theorem wants_of_mem_admittedIn {c : Channel} (hc : (b.run ks).channels[n]? = some c) {e : Event}
    (he : e ∈ admittedIn n b ks) : c.wants e.eventType = true := by
  induction ks generalizing b with
  | nil => cases he
  | cons k ks ih =>
    rw [admittedIn, List.mem_append] at he
    rcases he with he | he
    · -- The event was admitted by this call, so the subscription was there and wanted it.
      cases k with
      | publish e' =>
        simp only [Call.admitted] at he
        split at he
        · rename_i ha
          rw [List.mem_singleton] at he
          subst he
          cases hc0 : b.channels[n]? with
          | none => simp [admits, hc0] at ha
          | some c0 =>
            rw [admits_of_some hc0] at ha
            simp only [Bool.and_eq_true] at ha
            obtain ⟨c', h', ht'⟩ := types_run hc0 (.publish e :: ks)
            rw [hc] at h'
            cases h'
            rw [wants_of_types ht']
            exact ha.1.2
        · cases he
      | _ => simp [Call.admitted] at he
    · exact ih hc he

/-- Unsubscribing or closing leaves a subscription's queue as it was. -/
theorem queueOf_apply_of_off {k : Call} (hk : k = .unsubscribe n ∨ k = .close) :
    (k.apply b).queueOf n = b.queueOf n := by
  unfold queueOf
  rw [getElem?_apply]
  cases hc : b.channels[n]? with
  | none => rcases hk with rfl | rfl <;> rfl
  | some c =>
    rcases hk with rfl | rfl <;> simp [Call.onChannel]

/-- **Delivery is bounded, ordered and at most once.** On a bus built with capacity `cap`, after
any run of calls `ks`:

* no queue holds more than `max cap 1` events;
* what subscription `n` took out over the run, followed by what still waits in its queue, is
  exactly what it admitted while its receiving end is kept, and a prefix of that otherwise;
* it admitted only events the run published, in their order and each publication at most once,
  and only of types it wants;
* a further publication counts one delivery or one drop for each subscription on the bus that
  wants the event and whose receiving end is there, and takes off the bus those among them whose
  receiving end is gone, and no other;
* once unsubscribing or closing takes `n` off the bus, it admits nothing more and is never open
  again: what it takes from then on, followed by what its queue holds, is what its queue held,
  or a prefix of it once its receiving end is dropped. -/
theorem delivery_bounded_ordered_at_most_once (cap : Nat) (ks : List Call) (n : Nat) :
    let b := (create cap).run ks
    (∀ (m : Nat) (c : Channel), b.channels[m]? = some c → c.queue.length ≤ max cap 1) ∧
    takenIn n (create cap) ks ++ b.queueOf n <+: admittedIn n (create cap) ks ∧
    (b.dropped n = false →
      takenIn n (create cap) ks ++ b.queueOf n = admittedIn n (create cap) ks) ∧
    (admittedIn n (create cap) ks).Sublist (publishedIn ks) ∧
    (∀ c, b.channels[n]? = some c → ∀ e ∈ admittedIn n (create cap) ks, c.wants e.eventType) ∧
    (∀ e : Event, (b.publish e).2.delivered + (b.publish e).2.dropped =
      (b.channels.filter fun c => c.subscribed && c.wants e.eventType && c.received).length) ∧
    (∀ (e : Event) (m : Nat), ((b.publish e).1.channels[m]?).map (·.subscribed) =
      (b.channels[m]?).map fun c => c.subscribed && (c.received || !c.wants e.eventType)) ∧
    (∀ k : Call, (k = .unsubscribe n ∨ k = .close) → (∃ c, b.channels[n]? = some c) →
      ∀ ks', admittedIn n (k.apply b) ks' = [] ∧ ((k.apply b).run ks').isOpen n = false ∧
        takenIn n (k.apply b) ks' ++ ((k.apply b).run ks').queueOf n <+: b.queueOf n ∧
        (((k.apply b).run ks').dropped n = false →
          takenIn n (k.apply b) ks' ++ ((k.apply b).run ks').queueOf n = b.queueOf n)) := by
  intro b
  have hv : b.Valid := (valid_create cap).run ks
  have hcap : b.capacity = max cap 1 := by simp [b, create]
  have hq0 : (create cap).queueOf n = [] := by simp [queueOf, create]
  refine ⟨fun m c hc => hcap ▸ (hv m c hc).bounded, ?_, fun hd => ?_, admittedIn_sublist n _ ks,
    fun c hc e he => wants_of_mem_admittedIn hc he, publish_counts b,
    publish_subscribed b, ?_⟩
  · simpa only [hq0, List.nil_append] using
      takenIn_append_queueOf_prefix_admittedIn (n := n) (valid_create cap) ks
  · simpa only [hq0, List.nil_append] using takenIn_append_queueOf hd
  · rintro k hk ⟨c, hc⟩ ks'
    have hl : (k.apply b).Left n := by
      rcases hk with rfl | rfl
      · exact left_unsubscribe hc
      · exact left_close hc
    have ha := admittedIn_of_left hl ks'
    have hq := queueOf_apply_of_off (b := b) hk
    refine ⟨ha, isOpen_of_left (hl.run ks'), ?_, fun hd => ?_⟩
    · simpa only [ha, hq, List.append_nil] using
        takenIn_append_queueOf_prefix_admittedIn (n := n) (hv.apply k) ks'
    · simpa only [ha, hq, List.append_nil] using takenIn_append_queueOf hd

/-! ## A subscription with room

A bus that is only published to and subscribed to, as a registry uses its own, drops nothing
that a subscription wants while the subscription has room for it. -/

/-- A call that only adds to a bus: a publication or a new subscription. -/
def Call.Feeds : Call → Prop
  | .publish _ => True
  | .subscribe _ => True
  | _ => False

/-- A publication or a new subscription adds to the queue of a subscription on the bus, with its
receiving end there, just the events it publishes of the types the subscription wants, when
they fit. -/
theorem onChannel_of_feeds (hk : k.Feeds) (cap m : Nat) {c : Channel} (hs : c.subscribed = true)
    (hr : c.received = true)
    (hroom : c.queue.length + (k.published.filter fun e => c.wants e.eventType).length ≤ cap) :
    k.onChannel cap m c =
      { c with queue := c.queue ++ k.published.filter fun e => c.wants e.eventType } := by
  cases k with
  | subscribe types => simp [Call.onChannel, Call.published]
  | publish e =>
    simp only [Call.onChannel, Call.published] at hroom ⊢
    rcases offer_cases cap e c {} with ⟨h0, h⟩ | ⟨_, _, hr', _⟩ | ⟨_, hw, _, hl, _⟩ |
      ⟨_, hw, _, _, h⟩
    · have hw : c.wants e.eventType = false := by simpa [hs] using h0
      simp [h, hw]
    · rw [hr] at hr'
      cases hr'
    · simp [hw] at hroom
      omega
    · simp [h, hw]
  | _ => cases hk

/-- Over publications and new subscriptions only, subscription `n`, on the bus with its receiving
end and with room for every event it wants, ends with its queue followed by exactly the
published events it wants, in their order. -/
theorem queueOf_run_of_room (hks : ∀ k ∈ ks, k.Feeds) {c : Channel}
    (hc : b.channels[n]? = some c) (hs : c.subscribed = true) (hr : c.received = true)
    (hroom : c.queue.length + ((publishedIn ks).filter fun e => c.wants e.eventType).length ≤
      b.capacity) :
    (b.run ks).queueOf n = c.queue ++ (publishedIn ks).filter fun e => c.wants e.eventType := by
  induction ks generalizing b c with
  | nil => simp [queueOf, hc, publishedIn]
  | cons k ks ih =>
    have hpub : publishedIn (k :: ks) = k.published ++ publishedIn ks := List.flatMap_cons
    rw [hpub, List.filter_append, List.length_append] at hroom
    -- After `k` the subscription has the same types, so it wants what `c` wants.
    have hc1 : (k.apply b).channels[n]? =
        some { c with queue := c.queue ++ k.published.filter fun e => c.wants e.eventType } := by
      rw [getElem?_apply, hc]
      exact congrArg some (onChannel_of_feeds (hks k (.head ks)) _ _ hs hr (by omega))
    have ih1 : ((k.apply b).run ks).queueOf n =
        (c.queue ++ k.published.filter fun e => c.wants e.eventType) ++
          (publishedIn ks).filter fun e => c.wants e.eventType :=
      ih (fun k' hk' => hks k' (.tail k hk')) hc1 hs hr (show
        (c.queue ++ k.published.filter fun e => c.wants e.eventType).length +
          ((publishedIn ks).filter fun e => c.wants e.eventType).length ≤ (k.apply b).capacity by
        simp only [List.length_append, capacity_apply]
        omega)
    rw [run_cons, ih1, hpub, List.filter_append, List.append_assoc]

end EventBus

end Plugboard
