import Plugboard.Proofs.BusDelivery
import Plugboard.Proofs.ServiceDirectory
/-!
# What the registry announces

A registry call that succeeds announces on the bus, after its write has gone through, at most
one event, read off the registry the call found (`Registry.Call.notice`): a registration, with
its version and whether it refreshed a registration of that version; an unregistration, with the
status the entry had; a change of status to another status, with both statuses; a health report,
with its verdict; and new metrics, with their request count. A heartbeat, a change of status to
the status a plugin already has, a read and a subscription announce nothing, and a call that
fails announces nothing either (`Registry.Call.bus_exec`).

Over any run of calls, a subscription that is on the bus with its receiving end, and has room for
everything it wants, receives exactly the announcements of the types it wants, in call order
(`Registry.subscriber_receives_announcements`).
-/

namespace Plugboard

open Act

namespace Registry

variable {α β γ : Type} {reg reg' : Registry} {env env' : Env}

/-! ## The bus through one operation -/

theorem bus_revert (id : String) (previous : Option Registration) (reg : Registry) (env : Env) :
    ((revert id previous).exec reg env).2.1.bus = reg.bus := by
  cases previous <;> rfl

/-- Telling the bridge never fails and leaves the bus as it is. -/
theorem exec_onBridge_bus (a : Act Bridge α) (reg : Registry) (env : Env) :
    ∃ x reg1 env1, (onBridge a).exec reg env = (.ok x, reg1, env1) ∧ reg1.bus = reg.bus := by
  unfold onBridge
  rw [exec_self_bind]
  split
  · exact ⟨_, _, _, rfl, rfl⟩
  · rw [exec_bind, exec_focus, exec_attempt]
    exact ⟨_, _, _, rfl, rfl⟩

/-- A store write either fails, and then so does the operation with the bus as it was, or lets
what follows go on from the store it left. -/
theorem persist_bind_cases {id ctx : String} {previous : Option Registration} {a : Act Store Unit}
    {rest : Unit → Act Registry β} {o : Outcome β}
    (h : (persist id previous ctx a >>= rest).exec reg env = (o, reg', env')) :
    (o.isOk = false ∧ reg'.bus = reg.bus) ∨
      ∃ s' env1, (rest ()).exec { reg with store := s' } env1 = (o, reg', env') := by
  rcases hrun : a.exec reg.store env with ⟨_ | ⟨⟩, s1, env1⟩
  · obtain ⟨reg1, hrev, hp⟩ := exec_persist_refused id ctx previous hrun
    have hb := bus_revert id previous { reg with store := s1 } env1
    rw [hrev] at hb
    rw [exec_bind_of_error hp] at h
    cases h
    exact .inl ⟨rfl, hb⟩
  · rw [exec_bind_of_ok (exec_persist_ok hrun)] at h
    exact .inr ⟨s1, env1, h⟩

theorem exec_get_state (id : String) (reg : Registry) (env : Env) :
    ((get id).exec reg env).2 = (reg, env) := by
  unfold get
  rw [exec_self_bind]
  split <;> rfl

/-! ## The announcements -/

/-- A call on a registry: one of the changes, a read of a registration, or a new
subscription. -/
inductive Call where
  | change (c : Change)
  | get (id : String)
  | subscribe (types : List String)

/-- The bus calls an announcement makes: one publication, or none. -/
def publishing (ev : Option Event) : List EventBus.Call := ev.toList.map .publish

namespace Call

/-- Making a call, its answer dropped. -/
def run : Call → Act Registry Unit
  | change c => c.run
  | get id => (fun _ => ()) <$> Registry.get id
  | subscribe types => (fun _ => ()) <$> Registry.subscribe types

/-- The event a call announces when it succeeds on `reg`. Payload keys are listed in order. -/
def notice (reg : Registry) : Call → Option Event
  | change (.register r) => some
      { eventType := registeredEvent, pluginId := r.id,
        payload := [("refreshed", .bool ((reg.find? r.id).any (·.version == r.version))),
          ("version", .str r.version)] }
  | change (.unregister id) => (reg.find? id).map fun old =>
      { eventType := unregisteredEvent, pluginId := id,
        payload := [("new_status", .str "unregistered"), ("old_status", .str old.status.name)] }
  | change (.updateStatus id s) => (reg.find? id).bind fun old =>
      if old.status = s then none
      else some
        { eventType := statusChangedEvent, pluginId := id,
          payload := [("new_status", .str s.name), ("old_status", .str old.status.name)] }
  | change (.heartbeat _) => none
  | change (.updateHealth id report) => some
      { eventType := healthUpdatedEvent, pluginId := id,
        payload := [("status", .str report.verdict.name)] }
  | change (.updateMetrics id mt) => some
      { eventType := metricsUpdatedEvent, pluginId := id,
        payload := [("request_count", Json.ofNat mt.requestCount)] }
  | get _ => none
  | subscribe _ => none

/-- What a call on `reg` does to the bus, given whether it succeeded: a subscription adds one,
and any other call publishes its announcement when it succeeds. -/
def onBus (reg : Registry) (ok : Bool) : Call → List EventBus.Call
  | subscribe types => [.subscribe types]
  | c => if ok then publishing (c.notice reg) else []

end Call

/-- An action on `reg` publishes `ev` when it succeeds and touches the bus in no other way. -/
def Announces (a : Act Registry α) (reg : Registry) (ev : Option Event) : Prop :=
  ∀ env o reg' env', a.exec reg env = (o, reg', env') →
    reg'.bus = reg.bus.run (if o.isOk then publishing ev else [])

theorem Announces.map {a : Act Registry α} {ev : Option Event} (ha : Announces a reg ev)
    (f : α → β) : Announces (f <$> a) reg ev := by
  intro env o reg' env' h
  rw [exec_map] at h
  rcases hx : a.exec reg env with ⟨o0, reg0, env0⟩
  rw [hx] at h
  cases h
  have hb := ha env _ _ _ hx
  cases o0 <;> exact hb

theorem announces_register (r : Registration) (reg : Registry) :
    Announces (register r) reg ((Call.change (.register r)).notice reg) := by
  intro env o reg' env' h
  unfold register at h
  rw [exec_bind] at h
  cases hval : r.validate with
  | error e0 =>
    rw [hval, exec_ofOutcome] at h
    cases h
    rfl
  | ok u =>
    rw [hval, exec_ofOutcome] at h
    dsimp only at h
    rw [exec_bind_of_ok (exec_now reg env), exec_self_bind,
      exec_bind_of_ok (exec_insert _ _ _)] at h
    rcases persist_bind_cases h with ⟨hok, hb⟩ | ⟨s', env1, hrest⟩
    · rw [hok, hb]
      rfl
    · obtain ⟨x, reg1, env2, hx, hb1⟩ := exec_onBridge_bus (Bridge.register _) _ env1
      obtain ⟨x', _, _, hx', hne⟩ := exec_onBridge_register _ _ env1
      rw [hx] at hx'
      cases hx'
      rw [exec_bind_of_ok hx] at hrest
      split at hrest
      · exact absurd rfl (hne _)
      · rw [exec_bind_of_ok (exec_emit _ _ _), exec_pure] at hrest
        cases hrest
        show (reg1.bus.publish _).1 = (reg.bus.publish _).1
        rw [hb1]
        -- The announcement says whether the registration found had the same version.
        cases reg.find? r.id with
        | none => rfl
        | some old => by_cases hv : old.version == r.version <;> simp [hv]

/-- Taking an entry out of the map, announcing it and telling the bridge succeeds, with the
announcement published. -/
theorem exec_remove_announce {id : String} {ev : Event} {o : Outcome Unit}
    (h : (remove id >>= fun _ => emit ev >>= fun _ =>
      onBridge (Bridge.deregister id) >>= fun _ => pure ()).exec reg env = (o, reg', env')) :
    o = .ok () ∧ reg'.bus = (reg.bus.publish ev).1 := by
  obtain ⟨x, reg1, env1, hx, hb1⟩ := exec_onBridge_bus (Bridge.deregister id) _ env
  rw [exec_bind_of_ok (exec_remove _ _ _), exec_bind_of_ok (exec_emit _ _ _),
    exec_bind_of_ok hx, exec_pure] at h
  cases h
  exact ⟨rfl, hb1⟩

theorem announces_unregister (id : String) (reg : Registry) :
    Announces (unregister id) reg ((Call.change (.unregister id)).notice reg) := by
  intro env o reg' env' h
  cases hf : reg.find? id with
  | none =>
    rw [exec_unregister_of_find_none hf] at h
    cases h
    rfl
  | some old =>
    unfold unregister at h
    rw [exec_self_bind] at h
    split at h
    · rename_i old' hf'
      rw [hf] at hf'
      cases hf'
      rw [exec_bind, exec_onStore, exec_attempt] at h
      dsimp only at h
      -- The removal goes on unless the store refuses it for another reason than a missing record.
      rcases hd : (Store.delete id).exec reg.store env with ⟨_ | u, s1, env1⟩ <;> rw [hd] at h <;>
        dsimp only at h
      · split at h
        · rw [exec_bind, exec_fail] at h
          cases h
          rfl
        · obtain ⟨rfl, hb⟩ := exec_remove_announce h
          rw [hb]
          simp only [Call.notice, hf]
          rfl
      · obtain ⟨rfl, hb⟩ := exec_remove_announce h
        rw [hb]
        simp only [Call.notice, hf]
        rfl
    · rename_i hnone
      exact absurd hf (hnone old)

theorem announces_updateStatus (id : String) (st : Status) (reg : Registry) :
    Announces (updateStatus id st) reg ((Call.change (.updateStatus id st)).notice reg) := by
  intro env o reg' env' h
  unfold updateStatus at h
  rw [exec_self_bind] at h
  split at h
  · rename_i old hf
    split at h
    · -- A plugin that already has the status: nothing changes and nothing is announced.
      rename_i hs
      cases h
      simp [Call.notice, hf, beq_iff_eq.mp hs]
      rfl
    · rename_i hs
      rw [exec_bind_of_ok (exec_now reg env), exec_bind_of_ok (exec_insert _ _ _)] at h
      rcases persist_bind_cases h with ⟨hok, hb⟩ | ⟨s', env1, hrest⟩
      · rw [hok, hb]
        rfl
      · obtain ⟨x, reg1, env2, hx, hb1⟩ := exec_onBridge_bus _ _ env1
        rw [exec_bind_of_ok hx, exec_bind_of_ok (exec_emit _ _ _), exec_pure] at hrest
        cases hrest
        show (reg1.bus.publish _).1 = reg.bus.run _
        rw [hb1]
        simp [Call.notice, hf, beq_iff_eq.not.mp hs]
        rfl
  · rw [exec_fail] at h
    cases h
    rfl

theorem announces_heartbeat (id : String) (reg : Registry) :
    Announces (heartbeat id) reg ((Call.change (.heartbeat id)).notice reg) := by
  intro env o reg' env' h
  unfold heartbeat at h
  cases hf : reg.find? id with
  | none =>
    rw [exec_bind_of_error (exec_modify_of_find_none hf _)] at h
    cases h
    rfl
  | some old =>
    rw [exec_bind, exec_modify_of_find hf (exec_markSeen reg env)] at h
    dsimp only at h
    rcases persist_bind_cases h with ⟨hok, hb⟩ | ⟨s', env1, hrest⟩
    · rw [hok, hb]
      rfl
    · obtain ⟨x, reg1, env2, hx, hb1⟩ := exec_onBridge_bus _ _ env1
      rw [exec_bind_of_ok hx, exec_pure] at hrest
      cases hrest
      rw [hb1]
      rfl

theorem announces_updateHealth (id : String) (report : HealthReport) (reg : Registry) :
    Announces (updateHealth id report) reg ((Call.change (.updateHealth id report)).notice reg) := by
  intro env o reg' env' h
  unfold updateHealth at h
  cases hf : reg.find? id with
  | none =>
    rw [exec_bind_of_error (exec_modify_of_find_none hf _)] at h
    cases h
    rfl
  | some old =>
    rw [exec_bind, exec_modify_of_find hf (exec_pure _ reg env)] at h
    dsimp only at h
    rcases persist_bind_cases h with ⟨hok, hb⟩ | ⟨s', env1, hrest⟩
    · rw [hok, hb]
      rfl
    · obtain ⟨x, reg1, env2, hx, hb1⟩ := exec_onBridge_bus _ _ env1
      rw [exec_bind_of_ok hx, exec_emit] at hrest
      cases hrest
      show (reg1.bus.publish _).1 = _
      rw [hb1]
      rfl

theorem announces_updateMetrics (id : String) (mt : Metrics) (reg : Registry) :
    Announces (updateMetrics id mt) reg ((Call.change (.updateMetrics id mt)).notice reg) := by
  intro env o reg' env' h
  unfold updateMetrics at h
  cases hf : reg.find? id with
  | none =>
    rw [exec_bind_of_error (exec_modify_of_find_none hf _)] at h
    cases h
    rfl
  | some old =>
    rw [exec_bind, exec_modify_of_find hf (exec_pure _ reg env)] at h
    dsimp only at h
    rcases persist_bind_cases h with ⟨hok, hb⟩ | ⟨s', env1, hrest⟩
    · rw [hok, hb]
      rfl
    · rw [exec_emit] at hrest
      cases hrest
      rfl

theorem announces_change (ch : Change) (reg : Registry) :
    Announces ch.run reg ((Call.change ch).notice reg) := by
  cases ch with
  | register r => exact (announces_register r reg).map _
  | unregister id => exact announces_unregister id reg
  | updateStatus id st => exact (announces_updateStatus id st reg).map _
  | heartbeat id => exact announces_heartbeat id reg
  | updateHealth id report => exact announces_updateHealth id report reg
  | updateMetrics id mt => exact announces_updateMetrics id mt reg

/-! ## Calls and runs -/

theorem feeds_publishing (ev : Option Event) : ∀ k ∈ publishing ev, k.Feeds := by
  cases ev <;> simp [publishing, EventBus.Call.Feeds]

theorem publishedIn_publishing (ev : Option Event) :
    EventBus.publishedIn (publishing ev) = ev.toList := by
  cases ev <;> rfl

namespace Call

/-- **One call on the bus.** A call that succeeds publishes its announcement, if it makes one,
and a subscription adds one; a call touches the bus in no other way, and one that fails not at
all. -/
theorem bus_exec (c : Call) (reg : Registry) (env : Env) :
    (c.run.exec reg env).2.1.bus = reg.bus.run (c.onBus reg (c.run.exec reg env).1.isOk) := by
  cases c with
  | change ch => exact announces_change ch reg env _ _ _ rfl
  | get id =>
    rw [run, exec_map, exec_get_state]
    simp [onBus, notice, publishing]
  | subscribe types => rfl

theorem feeds_onBus (c : Call) (reg : Registry) (ok : Bool) :
    ∀ k ∈ c.onBus reg ok, k.Feeds := by
  cases c with
  | subscribe types => simp [onBus, EventBus.Call.Feeds]
  | _ =>
    cases ok
    · simp [onBus]
    · exact feeds_publishing _

theorem publishedIn_onBus (c : Call) (reg : Registry) (ok : Bool) :
    EventBus.publishedIn (c.onBus reg ok) = if ok then (c.notice reg).toList else [] := by
  cases c with
  | subscribe types => cases ok <;> rfl
  | _ =>
    cases ok
    · rfl
    · exact publishedIn_publishing _

end Call

/-- The registry and the environment after each call of a run is made in turn, from where the
one before left them, whatever it answered. -/
def runCalls : List Call → Registry → Env → Registry × Env
  | [], reg, env => (reg, env)
  | c :: cs, reg, env => runCalls cs (c.run.exec reg env).2.1 (c.run.exec reg env).2.2

/-- The announcements of a run: each call's, when it succeeds, in call order. -/
def announced : List Call → Registry → Env → List Event
  | [], _, _ => []
  | c :: cs, reg, env =>
    (if (c.run.exec reg env).1.isOk then (c.notice reg).toList else []) ++
      announced cs (c.run.exec reg env).2.1 (c.run.exec reg env).2.2

/-- What a run does to the bus, call by call. -/
def busCalls : List Call → Registry → Env → List EventBus.Call
  | [], _, _ => []
  | c :: cs, reg, env =>
    c.onBus reg (c.run.exec reg env).1.isOk ++
      busCalls cs (c.run.exec reg env).2.1 (c.run.exec reg env).2.2

theorem bus_runCalls (cs : List Call) (reg : Registry) (env : Env) :
    (runCalls cs reg env).1.bus = reg.bus.run (busCalls cs reg env) := by
  induction cs generalizing reg env with
  | nil => rfl
  | cons c cs ih => rw [runCalls, busCalls, EventBus.run_append, ← Call.bus_exec, ih]

theorem feeds_busCalls (cs : List Call) (reg : Registry) (env : Env) :
    ∀ k ∈ busCalls cs reg env, k.Feeds := by
  induction cs generalizing reg env with
  | nil => simp [busCalls]
  | cons c cs ih =>
    intro k hk
    rw [busCalls, List.mem_append] at hk
    rcases hk with hk | hk
    · exact c.feeds_onBus _ _ k hk
    · exact ih _ _ k hk

theorem publishedIn_busCalls (cs : List Call) (reg : Registry) (env : Env) :
    EventBus.publishedIn (busCalls cs reg env) = announced cs reg env := by
  induction cs generalizing reg env with
  | nil => rfl
  | cons c cs ih => rw [busCalls, announced, EventBus.publishedIn_append, Call.publishedIn_onBus, ih]

/-- **A subscriber receives the announcements it wants, in order.** Over any run of calls on a
registry, a subscription on its bus, with its receiving end there and room in its queue for every
announcement of the types it wants, ends with its queue followed by exactly those announcements
in call order: one for each call that succeeded and announces, none for any other call. -/
theorem subscriber_receives_announcements (cs : List Call) (reg : Registry) (env : Env)
    {n : Nat} {ch : Channel} (hn : reg.bus.channels[n]? = some ch) (hs : ch.subscribed = true)
    (hr : ch.received = true)
    (hroom : ch.queue.length + ((announced cs reg env).filter fun e => ch.wants e.eventType).length ≤
      reg.bus.capacity) :
    (runCalls cs reg env).1.bus.queueOf n =
      ch.queue ++ (announced cs reg env).filter fun e => ch.wants e.eventType := by
  rw [← publishedIn_busCalls] at hroom ⊢
  rw [bus_runCalls]
  exact EventBus.queueOf_run_of_room (feeds_busCalls cs reg env) hn hs hr hroom

/-- A subscription to registrations, on a registry over an open memory store, receives the one
registration of a run that also sends a heartbeat. -/
theorem registration_reaches_subscriber :
    (runCalls [.change (.register (Registration.create "p" "P" "1.0" ⟨0, 0⟩)),
        .change (.heartbeat "p")]
      { store := .single (.memory {}), bus := ((EventBus.create 8).subscribe [registeredEvent]).1 }
      {}).1.bus.queueOf 0 =
    [] ++ (announced [.change (.register (Registration.create "p" "P" "1.0" ⟨0, 0⟩)),
        .change (.heartbeat "p")]
      { store := .single (.memory {}), bus := ((EventBus.create 8).subscribe [registeredEvent]).1 }
      {}).filter fun e => ({ types := [registeredEvent] } : Channel).wants e.eventType :=
  @subscriber_receives_announcements _ _ _ 0 { types := [registeredEvent] } rfl rfl rfl (by decide)

end Registry

end Plugboard
