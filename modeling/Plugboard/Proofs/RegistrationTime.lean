import Plugboard.Proofs.HubSteps
import Plugboard.Proofs.Announcements
/-!
# Registration time

A registration keeps the instant it was first registered through every refresh: registering the
same id and version again, changing its status, a heartbeat, a health report or new metrics all
leave `registeredAt` as it was, and so does every call that fails, since a failed call puts the
map back. Only a registration that finds no entry for its id, or one of another version, starts
it afresh, at that call's reading of the clock (`Change.renews`). A registration that answers
always stores its record as registered, seen and updated at that same reading.

Call by call this is `Registry.registeredAt_step`; over a whole run, the entry of an id carries
the clock reading of the last call that registered it afresh, or, when none did, the registration
time it had at the start (`Registry.registeredAt_run`).
-/

namespace Plugboard

open Act

namespace Change

/-- Whether a change made on `reg` registers `id` afresh: a registration under `id` that finds
no entry for it, or one of another version. -/
def renews (reg : Registry) (id : String) : Change → Bool
  | register r => r.id == id && !(reg.find? id).any (·.version == r.version)
  | _ => false

end Change

namespace Registry

variable {β : Type} {reg reg' : Registry} {env env' : Env} {e : Error}

/-- The registration time a registration of `r` on `reg` gives, with the clock reading `ts`:
the entry's own when the id is registered with the same version, and `ts` otherwise. -/
def registeredAtFor (reg : Registry) (r : Registration) (ts : Instant) : Instant :=
  match reg.find? r.id with
  | some old => if old.version == r.version then old.registeredAt else ts
  | none => ts

/-- After a call, the entry of `id`, if there is one, was there before with the same
registration time. -/
def KeepsRegisteredAt (reg reg' : Registry) (id : String) : Prop :=
  ∀ x', reg'.find? id = some x' → ∃ x, reg.find? id = some x ∧ x.registeredAt = x'.registeredAt

namespace KeepsRegisteredAt

theorem of_plugins (h : reg'.plugins = reg.plugins) (id : String) : KeepsRegisteredAt reg reg' id :=
  fun x' hx => ⟨x', by rw [← hx]; exact congrArg (MemoryStore.findIn id) h.symm, rfl⟩

/-- Putting in a record that has the registration time of the entry it replaces keeps every
id's registration time. -/
theorem putIn (hk : MemoryStore.Keyed reg.plugins) {old u : Registration}
    (hf : reg.find? u.id = some old) (ht : u.registeredAt = old.registeredAt)
    (hp : reg'.plugins = MemoryStore.putIn u reg.plugins) (id : String) :
    KeepsRegisteredAt reg reg' id := by
  intro x' hx
  rw [find?, hp, MemoryStore.findIn_putIn hk] at hx
  split at hx
  · rename_i hid
    cases hx
    exact ⟨old, hid ▸ hf, ht.symm⟩
  · exact ⟨x', hx, rfl⟩

theorem removeFrom (hk : MemoryStore.Keyed reg.plugins) {j : String}
    (hp : reg'.plugins = MemoryStore.removeFrom j reg.plugins) (id : String) :
    KeepsRegisteredAt reg reg' id := by
  intro x' hx
  rw [find?, hp, MemoryStore.findIn_removeFrom hk] at hx
  split at hx
  · cases hx
  · exact ⟨x', hx, rfl⟩

end KeepsRegisteredAt

/-! ## One call -/

/-- A registration that answered put its answer into the map: the given record, registered
and seen and updated at the call's reading of the clock, with the registration time the entry
it found gives it. -/
theorem register_answers {r x : Registration}
    (h : (register r).exec reg env = (.ok x, reg', env')) :
    x = { r with
          registeredAt := reg.registeredAtFor r env.clock.now.1, status := .registered
          lastSeen := env.clock.now.1, updatedAt := env.clock.now.1 } ∧
      reg'.plugins = MemoryStore.putIn x reg.plugins := by
  obtain ⟨ts, rfl, hsame, hnew, s', env1, o, reg1, -, hrun, hp, -⟩ := register_of_ok h
  refine ⟨?_, hp.trans ((leavesRecords_onBridge _).of_exec hrun).1⟩
  -- the registration time is the one `registeredAtFor` reads off the entry found
  have hts : ts = reg.registeredAtFor r env.clock.now.1 := by
    unfold registeredAtFor
    cases hf : reg.find? r.id with
    | none => exact hnew hf
    | some old => exact hsame old hf
  rw [hts]

/-- A store write made just after `u` went into the map in place of the entry `previous` of its
id, followed by steps that leave the map and never fail, either fails with the map as it was, or
answers with `u` in the map. -/
theorem plugins_of_persist {u : Registration} {id ctx : String} {previous : Option Registration}
    {a : Act Store Unit} {rest : Unit → Act Registry β} {o : Outcome β}
    (h : (persist id previous ctx a >>= rest).exec
      { reg with plugins := MemoryStore.putIn u reg.plugins } env = (o, reg', env'))
    (hk : MemoryStore.Keyed reg.plugins) (hid : u.id = id) (hprev : reg.find? id = previous)
    (hl : LeavesRecords (rest ())) (hn : NeverFails (rest ())) :
    (o.isOk = false ∧ reg'.plugins = reg.plugins) ∨
      (o.isOk = true ∧ reg'.plugins = MemoryStore.putIn u reg.plugins) := by
  rcases persist_bind_of_putIn hk hid hprev h with ⟨-, -, -, rfl, rfl⟩ | ⟨s', env1, -, h⟩
  · exact .inl ⟨rfl, rfl⟩
  · refine .inr ⟨?_, (hl.of_exec h).1⟩
    -- what follows the write answers
    cases o with
    | error e => exact absurd h (hn _ _ _ _ _)
    | ok x => rfl

/-- After a registration that answered, the map holds the answer under its id and is as it was
elsewhere. -/
theorem find?_of_register (hk : MemoryStore.Keyed reg.plugins) {r x : Registration}
    (h : (register r).exec reg env = (.ok x, reg', env')) (j : String) :
    reg'.find? j = if r.id = j then some x else reg.find? j := by
  obtain ⟨hx, hp⟩ := register_answers h
  have hxid : x.id = r.id := by rw [hx]
  rw [find?, hp, MemoryStore.findIn_putIn hk, hxid]
  rfl

/-- A registration either fails with the map as it was, or answers with its answer in the map. -/
theorem register_map (hk : MemoryStore.Keyed reg.plugins) {r : Registration}
    {o : Outcome Registration} (h : (register r).exec reg env = (o, reg', env')) :
    (o.isOk = false ∧ reg'.plugins = reg.plugins) ∨
      ∃ x, o = .ok x ∧ reg'.plugins = MemoryStore.putIn x reg.plugins := by
  cases o with
  | ok x => exact .inr ⟨x, rfl, (register_answers h).2⟩
  | error e =>
    refine .inl ⟨rfl, ?_⟩
    rcases register_of_error hk h with ⟨rfl, -⟩ | ⟨-, -, -, -, rfl⟩ <;> rfl

/-- The map after a call that rewrites a registered record: as it was, or with the entry of an
id replaced by a record with that id and the entry's registration time. -/
def Refreshes (reg reg' : Registry) : Prop :=
  reg'.plugins = reg.plugins ∨ ∃ old u, reg.find? u.id = some old ∧
    u.registeredAt = old.registeredAt ∧ reg'.plugins = MemoryStore.putIn u reg.plugins

namespace Refreshes

theorem keyed (hk : MemoryStore.Keyed reg.plugins) (h : Refreshes reg reg') :
    MemoryStore.Keyed reg'.plugins := by
  rcases h with h | ⟨old, u, -, -, h⟩ <;> rw [h]
  · exact hk
  · exact MemoryStore.keyed_putIn hk

theorem keeps (hk : MemoryStore.Keyed reg.plugins) (h : Refreshes reg reg') (id : String) :
    KeepsRegisteredAt reg reg' id := by
  rcases h with h | ⟨old, u, hf, ht, h⟩
  · exact .of_plugins h id
  · exact .putIn hk hf ht h id

/-- A store write made just after a registered record was replaced in the map by one with its
registration time, followed by steps that leave the map and never fail, refreshes. -/
theorem of_persist {old u : Registration} {id ctx : String} {a : Act Store Unit}
    {rest : Unit → Act Registry β} {o : Outcome β}
    (h : (persist id (some old) ctx a >>= rest).exec
      { reg with plugins := MemoryStore.putIn u reg.plugins } env = (o, reg', env'))
    (hk : MemoryStore.Keyed reg.plugins) (hf : reg.find? id = some old) (hid : u.id = id)
    (ht : u.registeredAt = old.registeredAt) (hl : LeavesRecords (rest ()))
    (hn : NeverFails (rest ())) :
    Refreshes reg reg' := by
  rcases plugins_of_persist h hk hid hf hl hn with ⟨-, hp⟩ | ⟨-, hp⟩
  · exact .inl hp
  · exact .inr ⟨old, u, hid ▸ hf, ht, hp⟩

/-- A rewrite through `modify` of an id with no entry fails before anything changes. -/
theorem of_modify_none {id : String} {f : Act Registry (Registration → Registration)}
    {k : Registration × Registration → Act Registry β} {o : Outcome β}
    (hf : reg.find? id = none) (h : (modify id f >>= k).exec reg env = (o, reg', env')) :
    Refreshes reg reg' := by
  rw [exec_bind_of_error (exec_modify_of_find_none hf _)] at h
  cases h
  exact .inl rfl

end Refreshes

theorem refreshes_updateStatus (hk : MemoryStore.Keyed reg.plugins) {id : String} {st : Status}
    {o : Outcome Registration} (h : (updateStatus id st).exec reg env = (o, reg', env')) :
    Refreshes reg reg' := by
  unfold updateStatus at h
  rw [exec_self_bind] at h
  split at h
  · rename_i old hf
    split at h
    · cases h
      exact .inl rfl
    · rw [exec_bind_of_ok (exec_now reg env), exec_bind_of_ok (exec_insert _ _ _)] at h
      exact .of_persist h hk hf (MemoryStore.id_of_findIn hf : old.id = id) rfl
        ((leavesRecords_onBridge _).bind fun _ => (leavesRecords_emit _).bind fun _ =>
          leavesRecords_pure _)
        ((neverFails_onBridge _).bind fun _ => (neverFails_emit _).bind fun _ => neverFails_pure _)
  · rw [exec_fail] at h
    cases h
    exact .inl rfl

theorem refreshes_heartbeat (hk : MemoryStore.Keyed reg.plugins) {id : String} {o : Outcome Unit}
    (h : (heartbeat id).exec reg env = (o, reg', env')) : Refreshes reg reg' := by
  unfold heartbeat at h
  cases hf : reg.find? id with
  | none => exact .of_modify_none hf h
  | some old =>
    rw [exec_bind, exec_modify_of_find hf (exec_markSeen reg env)] at h
    dsimp only at h
    exact .of_persist h hk hf (MemoryStore.id_of_findIn hf : old.id = id) rfl
      ((leavesRecords_onBridge _).bind fun _ => leavesRecords_pure _)
      ((neverFails_onBridge _).bind fun _ => neverFails_pure _)

theorem refreshes_updateHealth (hk : MemoryStore.Keyed reg.plugins) {id : String}
    {report : HealthReport} {o : Outcome Unit}
    (h : (updateHealth id report).exec reg env = (o, reg', env')) : Refreshes reg reg' := by
  unfold updateHealth at h
  cases hf : reg.find? id with
  | none => exact .of_modify_none hf h
  | some old =>
    rw [exec_bind, exec_modify_of_find hf (exec_pure _ reg env)] at h
    dsimp only at h
    exact .of_persist h hk hf (MemoryStore.id_of_findIn hf : old.id = id) rfl
      ((leavesRecords_onBridge _).bind fun _ => (leavesRecords_emit _).bind fun _ =>
        leavesRecords_pure _)
      ((neverFails_onBridge _).bind fun _ => (neverFails_emit _).bind fun _ => neverFails_pure _)

theorem refreshes_updateMetrics (hk : MemoryStore.Keyed reg.plugins) {id : String} {mt : Metrics}
    {o : Outcome Unit} (h : (updateMetrics id mt).exec reg env = (o, reg', env')) :
    Refreshes reg reg' := by
  unfold updateMetrics at h
  cases hf : reg.find? id with
  | none => exact .of_modify_none hf h
  | some old =>
    rw [exec_bind, exec_modify_of_find hf (exec_pure _ reg env)] at h
    dsimp only at h
    exact .of_persist h hk hf (MemoryStore.id_of_findIn hf : old.id = id) rfl
      ((leavesRecords_emit _).bind fun _ => leavesRecords_pure _)
      ((neverFails_emit _).bind fun _ => neverFails_pure _)

/-- An unregistration leaves the map as it was, or with the id taken out. -/
theorem unregister_map {id : String} {o : Outcome Unit}
    (h : (unregister id).exec reg env = (o, reg', env')) :
    reg'.plugins = reg.plugins ∨ reg'.plugins = MemoryStore.removeFrom id reg.plugins := by
  cases o with
  | ok u => exact .inr (unregister_writes h).1
  | error e =>
    refine .inl ?_
    cases hf : reg.find? id with
    | none =>
      rw [exec_unregister_of_find_none hf] at h
      cases h
      rfl
    | some old =>
      -- the store refused the removal, or the unregistration would have answered
      rcases hd : (Store.delete id).exec reg.store env with ⟨_ | ⟨⟩, s1, env1⟩
      · rename_i e0
        cases hnf : e0.isNotFound
        · rw [exec_unregister_of_refused hf hd hnf] at h
          cases h
          rfl
        · obtain ⟨reg1, env2, hok⟩ :=
            exec_unregister_of_removed hf (.inr ⟨e0, by rw [hd], hnf⟩)
          rw [hok] at h
          cases h
      · obtain ⟨reg1, env2, hok⟩ := exec_unregister_of_removed hf (.inl (by rw [hd]))
        rw [hok] at h
        cases h

/-! ## Every call, and every run -/

/-- What a call does to the registration time of `id`, given whether it registered `id` afresh
and answered (`renewed`) and the clock reading `ts` it registered at: a renewal leaves an entry
for `id` registered at `ts`, and anything else keeps the entry's registration time. -/
def RegisteredAtStep (reg reg' : Registry) (id : String) (renewed : Bool) (ts : Instant) : Prop :=
  (renewed = true → ∃ x', reg'.find? id = some x' ∧ x'.registeredAt = ts) ∧
    (renewed = false → KeepsRegisteredAt reg reg' id)

theorem RegisteredAtStep.of_keeps {id : String} {renewed : Bool} {ts : Instant}
    (hr : renewed = false) (h : KeepsRegisteredAt reg reg' id) :
    RegisteredAtStep reg reg' id renewed ts :=
  ⟨fun ht => absurd (hr.symm.trans ht) Bool.false_ne_true, fun _ => h⟩

theorem registeredAtStep_register (hk : MemoryStore.Keyed reg.plugins) (r : Registration)
    (id : String) {o : Outcome Registration} (h : (register r).exec reg env = (o, reg', env')) :
    RegisteredAtStep reg reg' id (o.isOk && (Change.register r).renews reg id)
      env.clock.now.1 := by
  rcases register_map hk h with ⟨ho, hp⟩ | ⟨x, rfl, hp⟩
  · exact .of_keeps (by rw [ho, Bool.false_and]) (.of_plugins hp id)
  · obtain ⟨hx, -⟩ := register_answers h
    have hxid : x.id = r.id := by rw [hx]
    have hfind := find?_of_register hk h
    by_cases hid : r.id = id
    · subst hid
      -- the answer is registered at the call's reading unless the entry had its version
      cases hf : reg.find? r.id with
      | none =>
        have ht : x.registeredAt = env.clock.now.1 := by rw [hx]; simp [registeredAtFor, hf]
        refine ⟨fun _ => ⟨x, by rw [hfind, if_pos rfl], ht⟩, fun hr => ?_⟩
        simp [Change.renews, hf, Except.isOk, Except.toBool] at hr
      | some old =>
        by_cases hv : (old.version == r.version) = true
        · have ht : x.registeredAt = old.registeredAt := by
            rw [hx]; simp [registeredAtFor, hf, hv]
          refine ⟨fun hr => ?_, fun _ => .putIn hk (hxid ▸ hf) ht hp r.id⟩
          simp [Change.renews, hf, hv] at hr
        · have ht : x.registeredAt = env.clock.now.1 := by
            rw [hx]; simp [registeredAtFor, hf, hv]
          refine ⟨fun _ => ⟨x, by rw [hfind, if_pos rfl], ht⟩, fun hr => ?_⟩
          simp [Change.renews, hf, hv, Except.isOk, Except.toBool] at hr
    · have hr : (Change.register r).renews reg id = false := by simp [Change.renews, hid]
      exact .of_keeps (by rw [hr, Bool.and_false])
        fun x' hx' => ⟨x', by rwa [hfind, if_neg hid] at hx', rfl⟩

/-- A call whose answer is dropped ran the call underneath, to the same state, and answered
when it did. -/
theorem exec_discard {a : Act Registry β} {o : Outcome Unit}
    (h : ((fun _ => ()) <$> a).exec reg env = (o, reg', env')) :
    ∃ o0, a.exec reg env = (o0, reg', env') ∧ o.isOk = o0.isOk := by
  rw [exec_map] at h
  rcases ha : a.exec reg env with ⟨o0, reg0, env0⟩
  rw [ha] at h
  cases h
  exact ⟨o0, rfl, by cases o0 <;> rfl⟩

/-- Every change keeps the map keyed by id. -/
theorem keyed_change (hk : MemoryStore.Keyed reg.plugins) (ch : Change) {o : Outcome Unit}
    (h : ch.run.exec reg env = (o, reg', env')) : MemoryStore.Keyed reg'.plugins := by
  cases ch with
  | register r =>
    obtain ⟨o0, hr, -⟩ := exec_discard h
    rcases register_map hk hr with ⟨-, hp⟩ | ⟨x, -, hp⟩ <;> rw [hp]
    · exact hk
    · exact MemoryStore.keyed_putIn hk
  | unregister j =>
    rcases unregister_map h with hp | hp <;> rw [hp]
    · exact hk
    · exact MemoryStore.keyed_removeFrom hk
  | updateStatus j st =>
    obtain ⟨o0, hr, -⟩ := exec_discard h
    exact (refreshes_updateStatus hk hr).keyed hk
  | heartbeat j => exact (refreshes_heartbeat hk h).keyed hk
  | updateHealth j report => exact (refreshes_updateHealth hk h).keyed hk
  | updateMetrics j mt => exact (refreshes_updateMetrics hk h).keyed hk

/-- What every change does to the registration time of every id. -/
theorem registeredAtStep_change (hk : MemoryStore.Keyed reg.plugins) (ch : Change) (id : String)
    {o : Outcome Unit} (h : ch.run.exec reg env = (o, reg', env')) :
    RegisteredAtStep reg reg' id (o.isOk && ch.renews reg id) env.clock.now.1 := by
  cases ch with
  | register r =>
    -- dropping the answer keeps whether the call answered
    obtain ⟨o0, hr, ho⟩ := exec_discard h
    rw [ho]
    exact registeredAtStep_register hk r id hr
  | unregister j =>
    refine .of_keeps (Bool.and_false _) ?_
    rcases unregister_map h with hp | hp
    · exact .of_plugins hp id
    · exact .removeFrom hk hp id
  | updateStatus j st =>
    obtain ⟨o0, hr, -⟩ := exec_discard h
    exact .of_keeps (Bool.and_false _) ((refreshes_updateStatus hk hr).keeps hk id)
  | heartbeat j => exact .of_keeps (Bool.and_false _) ((refreshes_heartbeat hk h).keeps hk id)
  | updateHealth j report =>
    exact .of_keeps (Bool.and_false _) ((refreshes_updateHealth hk h).keeps hk id)
  | updateMetrics j mt =>
    exact .of_keeps (Bool.and_false _) ((refreshes_updateMetrics hk h).keeps hk id)

namespace Call

/-- Whether a call made on `reg` registers `id` afresh. -/
def renews (reg : Registry) (id : String) : Call → Bool
  | change c => c.renews reg id
  | _ => false

theorem plugins_get (id : String) : ((get id).run.exec reg env).2.1.plugins = reg.plugins := by
  rw [run, exec_map]
  exact congrArg (fun p : Registry × Env => p.1.plugins) (exec_get_state id reg env)

theorem plugins_subscribe (types : List String) :
    ((subscribe types).run.exec reg env).2.1.plugins = reg.plugins :=
  rfl

end Call

theorem keyed_call (hk : MemoryStore.Keyed reg.plugins) (c : Call) :
    MemoryStore.Keyed (c.run.exec reg env).2.1.plugins := by
  cases c with
  | change ch => exact keyed_change hk ch rfl
  | get id => rw [Call.plugins_get]; exact hk
  | subscribe types => rw [Call.plugins_subscribe]; exact hk

/-- What every call does to the registration time of every id: a registration of the id that
finds no entry for it, or one of another version, and answers, leaves the entry registered at
its reading of the clock; every other call, and every call that fails, keeps the entry's
registration time. -/
theorem registeredAt_step (hk : MemoryStore.Keyed reg.plugins) (c : Call) (id : String) (env : Env) :
    RegisteredAtStep reg (c.run.exec reg env).2.1 id ((c.run.exec reg env).1.isOk && c.renews reg id)
      env.clock.now.1 := by
  cases c with
  | change ch => exact registeredAtStep_change hk ch id rfl
  | get j => exact .of_keeps (Bool.and_false _) (.of_plugins (Call.plugins_get j) id)
  | subscribe types =>
    exact .of_keeps (Bool.and_false _) (.of_plugins (Call.plugins_subscribe types) id)

/-- The clock reading of the last call of a run that registered `id` afresh and answered, if
one did; each call is made from where the one before left off. -/
def lastRenewal (id : String) : List Call → Registry → Env → Option Instant
  | [], _, _ => none
  | c :: cs, reg, env =>
    (lastRenewal id cs (c.run.exec reg env).2.1 (c.run.exec reg env).2.2).or
      (if ((c.run.exec reg env).1.isOk && c.renews reg id) = true then some env.clock.now.1
        else none)

/-- Over a run of calls on a registry keyed by id, the entry of an id at the end is registered
at the clock reading of the last call that registered the id afresh, or, when no call did, was
there at the start with the same registration time. -/
theorem registeredAt_run (cs : List Call) (id : String) :
    ∀ (reg : Registry) (env : Env), MemoryStore.Keyed reg.plugins → ∀ x',
      (runCalls cs reg env).1.find? id = some x' →
      (∀ t, lastRenewal id cs reg env = some t → x'.registeredAt = t) ∧
      (lastRenewal id cs reg env = none →
        ∃ x, reg.find? id = some x ∧ x.registeredAt = x'.registeredAt) := by
  induction cs with
  | nil =>
    intro reg env _ x' hx
    simp only [lastRenewal, runCalls] at hx ⊢
    exact ⟨fun t ht => (by cases ht), fun _ => ⟨x', hx, rfl⟩⟩
  | cons c cs ih =>
    intro reg env hk x' hx
    -- the rest of the run starts where this call left off, from a map still keyed by id
    obtain ⟨hlast, hfirst⟩ := ih _ _ (keyed_call hk c) x' hx
    have hs := registeredAt_step hk c id env
    simp only [lastRenewal]
    cases hl : lastRenewal id cs (c.run.exec reg env).2.1 (c.run.exec reg env).2.2 with
    | some t =>
      rw [Option.some_or]
      exact ⟨fun t' ht => hlast t' (hl.trans ht), fun h => by cases h⟩
    | none =>
      obtain ⟨x1, hx1, ht1⟩ := hfirst hl
      rw [Option.none_or]
      cases hr : ((c.run.exec reg env).1.isOk && c.renews reg id) with
      | true =>
        -- this call renewed the registration, and nothing after it did
        obtain ⟨x2, hx2, ht2⟩ := hs.1 hr
        rw [hx1] at hx2
        cases hx2
        exact ⟨fun t ht => by simp at ht; rw [← ht, ← ht1, ht2], fun h => by cases h⟩
      | false =>
        obtain ⟨x, hx, ht⟩ := hs.2 hr x1 hx1
        exact ⟨fun t ht => (by cases ht), fun _ => ⟨x, hx, ht.trans ht1⟩⟩

/-- **Registration time survives refreshes and is reset only by a new version or a fresh
registration.** On a registry keyed by id, every call either registers an id afresh, finding no
entry for it or one of another version, and answers, and then the id's entry is registered at
the call's reading of the clock; or it keeps the registration time of every entry: a
registration of the same version, a status change, a heartbeat, a health or metrics report, an
unregistration, a read, a subscription, and every call that fails. A registration that answers
puts its answer in the map: the given record, registered, and seen and updated at the call's
reading of the clock. Over any run of calls, the entry of an id is registered at the reading of
the last call that registered it afresh, or, when none did, was there at the start with the same
registration time. -/
theorem registration_time_survives_refreshes (reg : Registry) (env : Env)
    (hk : MemoryStore.Keyed reg.plugins) :
    (∀ (c : Call) (id : String), RegisteredAtStep reg (c.run.exec reg env).2.1 id
      ((c.run.exec reg env).1.isOk && c.renews reg id) env.clock.now.1) ∧
    (∀ (r x : Registration) (reg' : Registry) (env' : Env),
      (register r).exec reg env = (.ok x, reg', env') →
      reg'.find? r.id = some x ∧
        x = { r with
              registeredAt := reg.registeredAtFor r env.clock.now.1, status := .registered
              lastSeen := env.clock.now.1, updatedAt := env.clock.now.1 }) ∧
    (∀ (cs : List Call) (id : String) (x' : Registration),
      (runCalls cs reg env).1.find? id = some x' →
      (∀ t, lastRenewal id cs reg env = some t → x'.registeredAt = t) ∧
      (lastRenewal id cs reg env = none →
        ∃ x, reg.find? id = some x ∧ x.registeredAt = x'.registeredAt)) := by
  refine ⟨fun c id => registeredAt_step hk c id env, fun r x reg' env' h => ?_,
    fun cs id x' hx => registeredAt_run cs id reg env hk x' hx⟩
  refine ⟨?_, (register_answers h).1⟩
  rw [find?_of_register hk h, if_pos rfl]

/-- On a registry holding one registration, each call and each run keep or renew registration
times as `registration_time_survives_refreshes` says. -/
theorem registration_time_on_one_registration :
    let reg : Registry :=
      { plugins := [Registration.create "p" "P" "1.0" ⟨0, 0⟩], store := .single (.memory {}),
        bus := EventBus.create 100 }
    let env : Env := {}
    MemoryStore.Keyed reg.plugins ∧
    (∀ (c : Call) (id : String), RegisteredAtStep reg (c.run.exec reg env).2.1 id
      ((c.run.exec reg env).1.isOk && c.renews reg id) env.clock.now.1) ∧
    (∀ (r x : Registration) (reg' : Registry) (env' : Env),
      (register r).exec reg env = (.ok x, reg', env') →
      reg'.find? r.id = some x ∧
        x = { r with
              registeredAt := reg.registeredAtFor r env.clock.now.1, status := .registered
              lastSeen := env.clock.now.1, updatedAt := env.clock.now.1 }) ∧
    (∀ (cs : List Call) (id : String) (x' : Registration),
      (runCalls cs reg env).1.find? id = some x' →
      (∀ t, lastRenewal id cs reg env = some t → x'.registeredAt = t) ∧
      (lastRenewal id cs reg env = none →
        ∃ x, reg.find? id = some x ∧ x.registeredAt = x'.registeredAt)) := by
  intro reg env
  have hk : MemoryStore.Keyed reg.plugins := List.pairwise_singleton _ _
  exact ⟨hk, registration_time_survives_refreshes reg env hk⟩

end Registry

end Plugboard
