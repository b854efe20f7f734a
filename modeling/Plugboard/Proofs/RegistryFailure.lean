import Plugboard.Proofs.StoreFailure
import Plugboard.Registry.Basic
/-!
# A failed registry change changes nothing

Each change of the registry checks its request, puts the new registration into the map, writes
the store, and puts the map back when the store refuses. Telling the bridge and announcing on the
bus come after the write and cannot fail the change: the bridge's failures are only noted, and
registering with the bridge never fails, since it updates a service that is there and adds one
that is not. So a change fails only before the map is touched or where the store refuses, and
then the map is as it was; when the store's write fails clean (`Store.failsClean_save` and the
rest), the whole registry and the disk are as they were.

That rests on the store holding the records of a memory store. A cached store whose files were
changed by something else breaks it: its cache drops a record even where the backend refuses to
remove the record's file, and the failed removal is then seen in what the store answers.
-/

namespace Plugboard

open Act

namespace Directory

variable {d : Directory} {env : Env} {s : Service}

theorem exec_update_of_find (h : (d.find? s.id).isSome = true) :
    ∃ d', (update s).exec d env = (.ok (), d', env) := by
  have hn : (d.find? s.id).isNone = false := by
    rw [← Option.not_isSome, h]
    rfl
  unfold update announce
  rw [exec_self_bind]
  simp only [hn, Bool.false_eq_true, if_false]
  exact ⟨_, rfl⟩

theorem exec_register_of_find (h : (d.find? s.id).isSome = false) :
    ∃ d', (register s).exec d env = (.ok (), d', env) := by
  unfold register announce
  rw [exec_self_bind]
  simp only [h, Bool.false_eq_true, if_false]
  exact ⟨_, rfl⟩

end Directory

namespace Bridge

/-- Registering with the bridge never fails: it updates the service when there is one and adds
it when there is none. -/
theorem neverFails_register (r : Registration) : NeverFails (register r) := by
  intro b env e b' env' h
  unfold register toService at h
  simp only [exec_bind, exec_now, exec_self, exec_pure, onDirectory, exec_focus, exec_attempt] at h
  obtain ⟨d', hd⟩ : ∃ d', ((if (b.directory.find? r.id).isSome = true then
      Directory.update (serviceAt b.config r env.clock.now.1)
      else Directory.register (serviceAt b.config r env.clock.now.1)).exec b.directory
      { disk := env.disk, clock := env.clock.now.2 }) =
        (.ok (), d', { disk := env.disk, clock := env.clock.now.2 }) := by
    split
    · exact Directory.exec_update_of_find ‹_›
    · exact Directory.exec_register_of_find (Bool.eq_false_iff.mpr ‹_›)
  rw [hd] at h
  cases h

end Bridge

namespace Registry

variable {α β : Type} {reg reg' : Registry} {env env' : Env} {e : Error}

theorem exec_insert (r : Registration) (reg : Registry) (env : Env) :
    (insert r).exec reg env =
      (.ok (), { reg with plugins := MemoryStore.putIn r reg.plugins }, env) :=
  rfl

theorem exec_emit (ev : Event) (reg : Registry) (env : Env) :
    (emit ev).exec reg env = (.ok (), { reg with bus := (reg.bus.publish ev).1 }, env) :=
  rfl

theorem exec_onStore (a : Act Store α) (reg : Registry) (env : Env) :
    (onStore a).exec reg env =
      ((a.exec reg.store env).1, { reg with store := (a.exec reg.store env).2.1 },
        (a.exec reg.store env).2.2) :=
  rfl

theorem neverFails_emit (ev : Event) : NeverFails (emit ev) := neverFails_change _

/-- Telling the bridge never fails the registry: its failures come back as answers. -/
theorem neverFails_onBridge (a : Act Bridge α) : NeverFails (onBridge a) := by
  intro reg env e reg' env' h
  unfold onBridge at h
  rw [exec_self_bind] at h
  split at h
  · cases h
  · rw [exec_bind, exec_focus, exec_attempt] at h
    cases h

/-- Registering with the bridge answers, and never with a failure. -/
theorem exec_onBridge_register (r : Registration) (reg : Registry) (env : Env) :
    ∃ o reg' env', (onBridge (Bridge.register r)).exec reg env = (.ok o, reg', env') ∧
      ∀ e, o ≠ some (.error e) := by
  unfold onBridge
  rw [exec_self_bind]
  split
  · exact ⟨_, _, _, rfl, fun e h => by cases h⟩
  · rename_i b _
    rw [exec_bind, exec_focus, exec_attempt]
    refine ⟨_, _, _, rfl, fun e h => ?_⟩
    rcases hrun : (Bridge.register r).exec b env with ⟨_ | s, b', env1⟩
    · exact Bridge.neverFails_register r b env _ _ _ hrun
    · rw [hrun] at h
      cases h

theorem exec_revert (id : String) (previous : Option Registration) (reg : Registry) (env : Env) :
    ∃ reg1, (revert id previous).exec reg env = (.ok (), reg1, env) := by
  cases previous <;> exact ⟨_, rfl⟩

/-- Putting back what the map held for an id undoes putting a record with that id in. -/
theorem exec_revert_of_putIn (hk : MemoryStore.Keyed reg.plugins) {r : Registration} {id : String}
    (hid : r.id = id) {previous : Option Registration} (hprev : reg.find? id = previous) :
    (revert id previous).exec { reg with plugins := MemoryStore.putIn r reg.plugins } env =
      (.ok (), reg, env) := by
  subst hid
  cases previous with
  | some p =>
    show (insert p).exec _ env = _
    rw [exec_insert]
    dsimp only
    rw [MemoryStore.putIn_putIn_of_findIn hk hprev]
  | none =>
    show (remove r.id).exec _ env = _
    unfold remove
    rw [exec_change]
    dsimp only
    rw [MemoryStore.removeFrom_putIn_of_findIn hk hprev]

/-- A store write the store makes goes on from the store the write left. -/
theorem exec_persist_ok {id ctx : String} {previous : Option Registration}
    {a : Act Store Unit} {s' : Store} {env1 : Env} (ha : a.exec reg.store env = (.ok (), s', env1)) :
    (persist id previous ctx a).exec reg env = (.ok (), { reg with store := s' }, env1) := by
  unfold persist
  rw [exec_bind, exec_onStore, exec_attempt, ha]
  rfl

/-- A store write the store refuses puts back what the map held for the id, and fails with the
store's error in context. -/
theorem exec_persist_refused (id ctx : String) (previous : Option Registration)
    {a : Act Store Unit} {s' : Store} {env1 : Env} (ha : a.exec reg.store env = (.error e, s', env1)) :
    ∃ reg1, (revert id previous).exec { reg with store := s' } env1 = (.ok (), reg1, env1) ∧
      (persist id previous ctx a).exec reg env = (.error (e.context ctx), reg1, env1) := by
  obtain ⟨reg1, hrev⟩ := exec_revert id previous { reg with store := s' } env1
  refine ⟨reg1, hrev, ?_⟩
  unfold persist
  rw [exec_bind, exec_onStore, exec_attempt, ha]
  dsimp only
  rw [exec_bind_of_ok hrev]
  rfl

/-- A write the store makes, after the map was changed, answers with both changes kept. -/
theorem exec_persist_of_ok {id ctx : String} {previous : Option Registration}
    {a : Act Store Unit} {s' : Store} {env1 : Env} (ha : a.exec reg.store env = (.ok (), s', env1))
    (p : List Registration) :
    (persist id previous ctx a).exec { reg with plugins := p } env =
      (.ok (), { reg with plugins := p, store := s' }, env1) :=
  exec_persist_ok ha

/-- A write the store refuses, after a record was put in the map, fails with the map put back
and the store as the failed write left it. -/
theorem exec_persist_of_error (hk : MemoryStore.Keyed reg.plugins) {r : Registration} {id ctx : String}
    (hid : r.id = id) {previous : Option Registration} (hprev : reg.find? id = previous)
    {a : Act Store Unit} {s' : Store} {env1 : Env}
    (ha : a.exec reg.store env = (.error e, s', env1)) :
    (persist id previous ctx a).exec { reg with plugins := MemoryStore.putIn r reg.plugins } env =
      (.error (e.context ctx), { reg with store := s' }, env1) := by
  -- the revert runs on the registry the failed write left, whose map is the one it had
  have hk' : MemoryStore.Keyed ({ reg with store := s' } : Registry).plugins := hk
  have hprev' : ({ reg with store := s' } : Registry).find? id = previous := hprev
  have hr : (revert id previous).exec
      { reg with plugins := MemoryStore.putIn r reg.plugins, store := s' } env1 =
      (.ok (), { reg with store := s' }, env1) := exec_revert_of_putIn hk' hid hprev'
  unfold persist
  rw [exec_bind, exec_onStore, exec_attempt, ha]
  dsimp only
  rw [exec_bind_of_ok hr]
  rfl

/-- A change that makes a store write just after a record with the id was put into the map:
either the store refused the write, the change fails and only the store is as the refusal left
it, or the write went through and the change goes on from there. -/
theorem persist_bind_of_putIn (hk : MemoryStore.Keyed reg.plugins) {r : Registration}
    {id ctx : String} (hid : r.id = id) {previous : Option Registration}
    (hprev : reg.find? id = previous) {a : Act Store Unit} {rest : Unit → Act Registry β}
    {o : Outcome β} (h : (persist id previous ctx a >>= rest).exec
      { reg with plugins := MemoryStore.putIn r reg.plugins } env = (o, reg', env')) :
    (∃ e' s', a.exec reg.store env = (.error e', s', env') ∧ o = .error (e'.context ctx) ∧
        reg' = { reg with store := s' }) ∨
      ∃ s' env1, a.exec reg.store env = (.ok (), s', env1) ∧
        (rest ()).exec { reg with plugins := MemoryStore.putIn r reg.plugins, store := s' } env1 =
          (o, reg', env') := by
  rcases hrun : a.exec reg.store env with ⟨_ | ⟨⟩, s1, env1⟩
  · rw [exec_bind_of_error (exec_persist_of_error hk hid hprev hrun)] at h
    cases h
    exact .inl ⟨_, s1, rfl, rfl, rfl⟩
  · rw [exec_bind_of_ok (exec_persist_of_ok hrun _)] at h
    exact .inr ⟨s1, env1, rfl, h⟩

/-- A store write that fails clean, made just after a record with the id was put into the map,
fails back to the registry as it was before: the write changed nothing and the map is put
back. What follows a write that succeeds never fails. -/
theorem persist_restores {r : Registration} {id : String} {previous : Option Registration}
    {a : Act Store Unit} {ctx : String} {rest : Unit → Act Registry β}
    (h : (persist id previous ctx a >>= rest).exec
      { reg with plugins := MemoryStore.putIn r reg.plugins } env = (.error e, reg', env'))
    (hk : MemoryStore.Keyed reg.plugins) (hid : r.id = id) (hprev : reg.find? id = previous)
    (ha : a.FailsClean reg.store env) (hrest : NeverFails (rest ())) :
    reg' = reg ∧ env'.disk = env.disk := by
  rcases persist_bind_of_putIn hk hid hprev h with ⟨e', s', hrun, -, rfl⟩ | ⟨s', env1, -, h'⟩
  · -- The store refused and changed nothing; the map is put back.
    obtain ⟨rfl, hd⟩ := ha _ _ _ hrun
    exact ⟨rfl, hd⟩
  · exact absurd h' (hrest _ _ _ _ _)

/-- The registration with an id, changed and stamped, goes into the map. -/
theorem exec_modify_of_find {id : String} {old : Registration} (hf : reg.find? id = some old)
    {f : Act Registry (Registration → Registration)} {g : Registration → Registration}
    {env1 : Env}
    (hg : f.exec reg env = (.ok g, reg, env1)) :
    (modify id f).exec reg env =
      (.ok (old, { g old with updatedAt := env1.clock.now.1 }),
        { reg with
          plugins := MemoryStore.putIn ({ g old with updatedAt := env1.clock.now.1 }) reg.plugins },
        { env1 with clock := env1.clock.now.2 }) := by
  unfold modify
  rw [exec_self_bind]
  split
  · rename_i old' hf'
    rw [hf] at hf'
    cases hf'
    rw [exec_bind_of_ok hg, exec_bind_of_ok (exec_now reg env1),
      exec_bind_of_ok (exec_insert _ _ _)]
    rfl
  · rename_i hnone
    exact absurd hf (hnone old)

/-- A heartbeat's change marks a registration seen at the clock's reading. -/
theorem exec_markSeen (reg : Registry) (env : Env) :
    (do let t ← Act.now; pure fun r => { r with lastSeen := t } :
        Act Registry (Registration → Registration)).exec reg env =
      (.ok fun r => { r with lastSeen := env.clock.now.1 }, reg,
        { env with clock := env.clock.now.2 }) := rfl

theorem exec_modify_of_find_none {id : String} (hf : reg.find? id = none)
    (f : Act Registry (Registration → Registration)) :
    (modify id f).exec reg env = (.error (.notFound id), reg, env) := by
  unfold modify
  rw [exec_self_bind]
  split
  · rename_i old' hf'
    rw [hf] at hf'
    cases hf'
  · rfl

/-- A registration that failed either refused the record before anything changed, or had the
store refuse to save it: then only the store is as the refused save left it. -/
theorem register_of_error (hk : MemoryStore.Keyed reg.plugins) {r : Registration}
    (h : (register r).exec reg env = (.error e, reg', env')) :
    (reg' = reg ∧ env' = env) ∨
      ∃ x e' s', (Store.save x).exec reg.store { env with clock := env.clock.now.2 } =
        (.error e', s', env') ∧ reg' = { reg with store := s' } := by
  unfold register at h
  rw [exec_bind] at h
  cases hval : r.validate with
  | error e0 =>
    rw [hval, exec_ofOutcome] at h
    cases h
    exact .inl ⟨rfl, rfl⟩
  | ok u =>
    rw [hval, exec_ofOutcome] at h
    dsimp only at h
    rw [exec_bind_of_ok (exec_now reg env), exec_self_bind,
      exec_bind_of_ok (exec_insert _ _ _)] at h
    rcases persist_bind_of_putIn hk rfl rfl h with ⟨e', s', hsave, -, rfl⟩ | ⟨s', env1, -, hrest⟩
    · exact .inr ⟨_, e', s', hsave, rfl⟩
    · -- the bridge never reports a failure to register, so nothing after the save fails
      obtain ⟨o, reg1, env2, hrun, hne⟩ := exec_onBridge_register _ _ env1
      rw [exec_bind_of_ok hrun] at hrest
      split at hrest
      · exact absurd rfl (hne _)
      · rw [exec_bind_of_ok (exec_emit _ _ _), exec_pure] at hrest
        cases hrest

variable {m : MemoryStore}

/-- A registration fails only when it is invalid, before anything changes, or where the store
refuses it, and then the map is put back. -/
theorem failsClean_register (hk : MemoryStore.Keyed reg.plugins) (hs : reg.store.Models env.disk m)
    (r : Registration) : (register r).FailsClean reg env := by
  intro e reg' env' h
  rcases register_of_error hk h with ⟨rfl, rfl⟩ | ⟨x, e', s', hsave, rfl⟩
  · exact ⟨rfl, rfl⟩
  · -- a refused save changes nothing
    have hs1 : reg.store.Models ({ env with clock := env.clock.now.2 } : Env).disk m := hs
    obtain ⟨rfl, hd⟩ := Store.failsClean_save hs1 x _ _ _ hsave
    exact ⟨rfl, hd⟩

theorem exec_unregister_of_find_none {id : String} (hf : reg.find? id = none) :
    (unregister id).exec reg env = (.error (.notFound id), reg, env) := by
  unfold unregister
  rw [exec_self_bind]
  split
  · rename_i old' hf'
    rw [hf] at hf'
    cases hf'
  · rfl

/-- An unregistration the store refuses, for another reason than a missing record, fails with the
store's error, and changes what the store's refusal changed. -/
theorem exec_unregister_of_refused {id : String} {old : Registration} (hf : reg.find? id = some old)
    {s' : Store} (hd : (Store.delete id).exec reg.store env = (.error e, s', env'))
    (hnf : e.isNotFound = false) :
    (unregister id).exec reg env =
      (.error (e.context "delete registration"), { reg with store := s' }, env') := by
  unfold unregister
  rw [exec_self_bind]
  split
  · rename_i old' hf'
    rw [exec_bind, exec_onStore, exec_attempt, hd]
    dsimp only
    rw [hnf]
    rfl
  · rename_i hnone
    exact absurd hf (hnone old)

/-- Once the store has removed the record, or had none, unregistering answers. -/
theorem exec_unregister_of_removed {id : String} {old : Registration} (hf : reg.find? id = some old)
    (hd : ((Store.delete id).exec reg.store env).1 = .ok () ∨
      ∃ e, ((Store.delete id).exec reg.store env).1 = .error e ∧ e.isNotFound = true) :
    ∃ reg' env', (unregister id).exec reg env = (.ok (), reg', env') := by
  unfold unregister
  rw [exec_self_bind]
  split
  · rename_i old' hf'
    rw [exec_bind, exec_onStore, exec_attempt]
    dsimp only
    rcases hd with hd | ⟨e, hd, hnf⟩ <;> rw [hd] <;> dsimp only
    on_goal 2 => rw [hnf, if_neg (by decide)]
    -- What follows the store's removal never fails.
    all_goals
      refine NeverFails.answers ?_ _ _
      refine NeverFails.bind (neverFails_change _) fun _ => ?_
      refine NeverFails.bind (neverFails_emit _) fun _ => ?_
      exact NeverFails.bind (neverFails_onBridge _) fun _ => neverFails_pure _
  · rename_i hnone
    exact absurd hf (hnone old)

/-- An unregistration fails only on an unknown id, before anything changes, or where the store
refuses the removal for another reason than a missing record, which changes nothing. -/
theorem failsClean_unregister (hs : reg.store.Models env.disk m) (hv : m.Valid) (id : String) :
    (unregister id).FailsClean reg env := by
  intro e reg' env' h
  cases hf : reg.find? id with
  | none =>
    rw [exec_unregister_of_find_none hf] at h
    cases h
    exact ⟨rfl, rfl⟩
  | some old =>
    rcases hd : (Store.delete id).exec reg.store env with ⟨_ | u, s1, env1⟩
    · rename_i e0
      cases hnf : e0.isNotFound
      · obtain ⟨rfl, hdisk⟩ := Store.failsClean_delete hs hv id _ _ _ hd
        rw [exec_unregister_of_refused hf hd hnf] at h
        cases h
        exact ⟨rfl, hdisk⟩
      · obtain ⟨reg1, env2, hok⟩ :=
          exec_unregister_of_removed hf (.inr ⟨e0, by rw [hd], hnf⟩)
        rw [hok] at h
        cases h
    · obtain ⟨reg1, env2, hok⟩ := exec_unregister_of_removed hf (.inl (by rw [hd]))
      rw [hok] at h
      cases h

/-- A status change fails only on an unknown id, before anything changes, or where the store
refuses the write, and then the map is put back. -/
theorem failsClean_updateStatus (hk : MemoryStore.Keyed reg.plugins)
    (hs : reg.store.Models env.disk m) (hv : m.Valid) (id : String) (st : Status)
    (hrb : reg.store.Rereads m (MemoryStore.updateStatus id st)) :
    (updateStatus id st).FailsClean reg env := by
  intro e reg' env' h
  unfold updateStatus at h
  rw [exec_self_bind] at h
  split at h
  · rename_i old hf
    split at h
    · cases h
    · rw [exec_bind_of_ok (exec_now reg env), exec_bind_of_ok (exec_insert _ _ _)] at h
      have hs1 : reg.store.Models ({ disk := env.disk, clock := env.clock.now.2 } : Env).disk m :=
        hs
      have hr := persist_restores h hk ((MemoryStore.findIn_eq_some_iff hk).mp hf).2 hf
        (Store.failsClean_updateStatus hs1 hv id st hrb)
      refine hr ?_
      -- Telling the bridge and announcing never fail.
      refine NeverFails.bind (neverFails_onBridge _) fun _ => ?_
      exact NeverFails.bind (neverFails_emit _) fun _ => neverFails_pure _
  · rw [exec_fail] at h
    cases h
    exact ⟨rfl, rfl⟩

/-- A heartbeat fails only on an unknown id, before anything changes, or where the store refuses
the write, and then the map is put back. -/
theorem failsClean_heartbeat (hk : MemoryStore.Keyed reg.plugins)
    (hs : reg.store.Models env.disk m) (id : String) : (heartbeat id).FailsClean reg env := by
  intro e reg' env' h
  unfold heartbeat at h
  cases hf : reg.find? id with
  | none =>
    rw [exec_bind_of_error (exec_modify_of_find_none hf _)] at h
    cases h
    exact ⟨rfl, rfl⟩
  | some old =>
    rw [exec_bind, exec_modify_of_find hf (exec_markSeen reg env)] at h
    dsimp only at h
    have hr := persist_restores h hk ((MemoryStore.findIn_eq_some_iff hk).mp hf).2 hf
      (Store.failsClean_update (show reg.store.Models
        ({ disk := env.disk, clock := env.clock.now.2.now.2 } : Env).disk m from hs) _)
    exact hr (NeverFails.bind (neverFails_onBridge _) fun _ => neverFails_pure _)

/-- A health report fails only on an unknown id, before anything changes, or where the store
refuses the write, and then the map is put back. -/
theorem failsClean_updateHealth (hk : MemoryStore.Keyed reg.plugins)
    (hs : reg.store.Models env.disk m) (id : String) (report : HealthReport) :
    (updateHealth id report).FailsClean reg env := by
  intro e reg' env' h
  unfold updateHealth at h
  cases hf : reg.find? id with
  | none =>
    rw [exec_bind_of_error (exec_modify_of_find_none hf _)] at h
    cases h
    exact ⟨rfl, rfl⟩
  | some old =>
    rw [exec_bind, exec_modify_of_find hf (exec_pure _ reg env)] at h
    dsimp only at h
    have hr := persist_restores h hk ((MemoryStore.findIn_eq_some_iff hk).mp hf).2 hf
      (Store.failsClean_update (show reg.store.Models
        ({ disk := env.disk, clock := env.clock.now.2 } : Env).disk m from hs) _)
    refine hr ?_
    refine NeverFails.bind (neverFails_onBridge _) fun _ => ?_
    exact NeverFails.bind (neverFails_emit _) fun _ => neverFails_pure _

/-- A metrics report fails only on an unknown id, before anything changes, or where the store
refuses the write, and then the map is put back. -/
theorem failsClean_updateMetrics (hk : MemoryStore.Keyed reg.plugins)
    (hs : reg.store.Models env.disk m) (hv : m.Valid) (id : String) (mt : Metrics)
    (hrb : reg.store.Rereads m (MemoryStore.updateMetrics id mt)) :
    (updateMetrics id mt).FailsClean reg env := by
  intro e reg' env' h
  unfold updateMetrics at h
  cases hf : reg.find? id with
  | none =>
    rw [exec_bind_of_error (exec_modify_of_find_none hf _)] at h
    cases h
    exact ⟨rfl, rfl⟩
  | some old =>
    rw [exec_bind, exec_modify_of_find hf (exec_pure _ reg env)] at h
    dsimp only at h
    have hr := persist_restores h hk ((MemoryStore.findIn_eq_some_iff hk).mp hf).2 hf
      (Store.failsClean_updateMetrics (show reg.store.Models
        ({ disk := env.disk, clock := env.clock.now.2 } : Env).disk m from hs) hv id mt hrb)
    exact hr (NeverFails.bind (neverFails_emit _) fun _ => neverFails_pure _)

end Registry

/-- The calls that change a registry: each writes the map and then the store. -/
inductive Change where
  | register (r : Registration)
  | unregister (id : String)
  | updateStatus (id : String) (s : Status)
  | heartbeat (id : String)
  | updateHealth (id : String) (report : HealthReport)
  | updateMetrics (id : String) (mt : Metrics)

namespace Change

/-- Making a change, its answer dropped. -/
def run : Change → Act Registry Unit
  | register r => (fun _ => ()) <$> Registry.register r
  | unregister id => Registry.unregister id
  | updateStatus id s => (fun _ => ()) <$> Registry.updateStatus id s
  | heartbeat id => Registry.heartbeat id
  | updateHealth id report => Registry.updateHealth id report
  | updateMetrics id mt => Registry.updateMetrics id mt

/-- What a change needs of a store keeping the records of `m` to fail clean: a cached store
reads back the record that a status or metrics change makes its backend rewrite. -/
def Rereads (s : Store) (m : MemoryStore) : Change → Prop
  | updateStatus id st => s.Rereads m (MemoryStore.updateStatus id st)
  | updateMetrics id mt => s.Rereads m (MemoryStore.updateMetrics id mt)
  | _ => True

end Change

namespace Registry

variable {reg : Registry} {env : Env} {m : MemoryStore}

/-- A change that fails leaves the registry as it was, with its map, its store and the store's
cache, its bridge and its bus, and leaves the disk as it was: so no answer of the registry or
of its store changes, and no event is announced. This holds of a registry whose map is keyed by
id and whose store keeps the records of a memory store, where a cached store reads back what
its backend rewrites. -/
theorem failed_change_leaves_registry (hk : MemoryStore.Keyed reg.plugins)
    (hs : reg.store.Models env.disk m) (hv : m.Valid) (ch : Change)
    (hrb : ch.Rereads reg.store m) : ch.run.FailsClean reg env := by
  cases ch with
  | register r => exact (failsClean_register hk hs r).map _
  | unregister id => exact failsClean_unregister hs hv id
  | updateStatus id st => exact (failsClean_updateStatus hk hs hv id st hrb).map _
  | heartbeat id => exact failsClean_heartbeat hk hs id
  | updateHealth id report => exact failsClean_updateHealth hk hs id report
  | updateMetrics id mt => exact failsClean_updateMetrics hk hs hv id mt hrb

/-- A heartbeat for a registered plugin over a closed memory store fails, and leaves the
registry as it was. -/
theorem failed_heartbeat_on_closed_store :
    (∃ e reg' env', (Change.heartbeat "p").run.exec
      { plugins := [Registration.create "p" "P" "1.0" ⟨0, 0⟩],
        store := .single (.memory { closed := true }), bus := EventBus.create 100 } {} =
      (.error e, reg', env')) ∧
    (Change.heartbeat "p").run.FailsClean
      { plugins := [Registration.create "p" "P" "1.0" ⟨0, 0⟩],
        store := .single (.memory { closed := true }), bus := EventBus.create 100 } {} := by
  refine ⟨⟨_, _, _, rfl⟩,
    failed_change_leaves_registry ?_ ?_ MemoryStore.valid_closed _ trivial⟩
  · exact List.pairwise_singleton _ _
  · rfl

/-- A cached store over a directory where something else has put a directory in place of a
record's file. Unregistering the record fails, since the store cannot remove the file, yet the
store has dropped the record from its cache: it answered the record before the call and fails
to read it after. -/
theorem failed_unregister_drops_cached_record :
    let p := Registration.create "p" "P" "1.0" ⟨0, 0⟩
    let reg : Registry :=
      { plugins := [p], store := .cached { records := [p] } (.file { directory := "d" }),
        bus := EventBus.create 100 }
    let env : Env := { disk := ⟨.dir [("work", .dir [("d", .dir [("p.json", .dir [])])])]⟩ }
    ∃ e reg', (unregister "p").exec reg env = (.error e, reg', env) ∧
      (Store.get "p").exec reg.store env = (.ok p, reg.store, env) ∧
      ∃ e', ((Store.get "p").exec reg'.store env).1 = .error e' := by
  intro p reg env
  -- The store's directory is "work/d", and the record's file there is a directory.
  have hfind : env.disk.root.find ["work", "d"] = .ok (some (.dir [("p.json", .dir [])])) := by
    have h1 : Node.step [("work", .dir [("d", .dir [("p.json", .dir [])])])] "work" =
        .ok (some (.dir [("d", .dir [("p.json", .dir [])])])) := rfl
    have h2 : Node.step [("d", .dir [("p.json", .dir [])])] "d" =
        .ok (some (.dir [("p.json", .dir [])])) := rfl
    rw [Node.find_dir_cons_cons, h1]
    simp only [Except.bind, Node.find, h2]
  have hwalk : env.disk.walk "d" = .ok ["work", "d"] := by
    have hc : PathText.components "d" = ["d"] := rfl
    have ho : Disk.origin "d" = ["work"] := rfl
    rw [Disk.walk, hc, ho]
    simp [Disk.descend, hfind]
  have hd : env.disk.DirAt "d" ["work", "d"] [("p.json", .dir [])] := ⟨hwalk, hfind⟩
  have hb : FileStore.badId "p" = false := rfl
  have hp : Disk.Admits (PathText.join "d" (FileStore.recordName "p")) := ⟨by decide, by decide⟩
  have hstep : Node.step [("p.json", .dir [])] (FileStore.recordName "p") =
      .ok (some (.dir [])) := rfl
  have hrm : env.disk.removeFile (PathText.join "d" (FileStore.recordName "p")) =
      .error .isDirectory := by
    rw [hd.removeFile_join (FileStore.plain_recordName hb) hp, hstep]
    rfl
  have hread : env.disk.readFile (PathText.join "d" (FileStore.recordName "p")) =
      .error .isDirectory := by
    rw [hd.readFile_join (FileStore.plain_recordName hb) hp, hstep]
    rfl
  -- The backend refuses the removal, and the cache evicts the record all the same.
  have hfile : (FileStore.delete "p").exec { directory := "d" } env =
      (.error (.storage ("delete " ++ PathText.join "d" (FileStore.recordName "p") ++ ": " ++
        OsError.isDirectory.text)), { directory := "d" }, env) :=
    FileStore.exec_delete_of_refused rfl hb hrm (by decide)
  have hdel : (Store.delete "p").exec reg.store env =
      (.error (.storage ("delete " ++ PathText.join "d" (FileStore.recordName "p") ++ ": " ++
        OsError.isDirectory.text)), .cached {} (.file { directory := "d" }), env) := by
    rw [Store.delete, Store.exec_run_cached, exec_bind, Store.exec_onBackend_cached, exec_attempt,
      Tier.delete, Tier.exec_run_file, hfile]
    rfl
  have hun : (unregister "p").exec reg env = (.error _, { reg with store := .cached {} (.file
      { directory := "d" }) }, env) := exec_unregister_of_refused rfl hdel rfl
  have hget : (Store.get "p").exec reg.store env = (.ok p, reg.store, env) :=
    Store.exec_get_of_cached rfl rfl
  refine ⟨_, _, hun, hget, ?_⟩
  -- With the cache empty, the store reads the backend, which cannot read the file.
  have hback : (FileStore.get "p").exec { directory := "d" } env =
      (.error (.storage ("read " ++ PathText.join "d" (FileStore.recordName "p") ++ ": " ++
        OsError.isDirectory.text)), { directory := "d" }, env) := by
    rw [FileStore.get, FileStore.exec_ensureOpen_bind]
    exact FileStore.exec_readRecord_of_refused hb hread (by decide)
  have hmiss : ((Store.get "p").exec (.cached {} (.file { directory := "d" })) env).1 =
      .error (.storage ("read " ++ PathText.join "d" (FileStore.recordName "p") ++ ": " ++
        OsError.isDirectory.text)) := by
    rw [Store.get, Store.exec_run_cached, exec_bind, Store.exec_onCache_cached, exec_attempt,
      MemoryStore.exec_get, if_neg Bool.false_ne_true]
    dsimp only [MemoryStore.findIn]
    rw [if_pos (show (Error.notFound "p").isNotFound = true from rfl), exec_bind,
      Store.exec_onBackend_cached, Tier.get, Tier.exec_run_file, hback]
  exact ⟨_, hmiss⟩

end Registry

end Plugboard
