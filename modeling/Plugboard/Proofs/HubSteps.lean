import Plugboard.Proofs.LoadMetadata
import Plugboard.Proofs.SandboxMembership
import Plugboard.Proofs.SavedRecords
/-!
# What each call of the hub does

The hub installs a plugin by loading it into the manager, registering it, starting it and marking
it active; it uninstalls one by unloading it and unregistering it. This module says what each of
these steps does from a hub whose components agree, so that the run of the calls can be followed
step by step.

Only the store touches the disk: the manager, the plugins, the bridge and the bus leave it as they
found it (`Act.KeepsDisk`). So the status change that ends an install runs on the disk the
registration left, and finds the record the registration saved there.

A load that answered is undone by unloading the plugin (`Manager.without_enter`), and a plugin
just loaded always starts (`Manager.start_after_enter`): preparing an instance leaves it in a
state it can start from.

The registry changes its store only through the store's own calls (`Registry.keeps_register`,
`Registry.keeps_updateStatus`, `Registry.keeps_unregister`, `Registry.keeps_close`), so whatever
every store call keeps, the registry's calls keep.
-/

namespace Plugboard

namespace Act

variable {σ τ α β : Type} {a : Act σ α}

/-- An action that leaves the disk as it found it, whatever it answers. -/
def KeepsDisk (a : Act σ α) : Prop := ∀ s env, (a.exec s env).2.2.disk = env.disk

theorem KeepsDisk.of_exec (ha : KeepsDisk a) {s s' : σ} {env env' : Env} {o : Outcome α}
    (h : a.exec s env = (o, s', env')) : env'.disk = env.disk := by
  have hd := ha s env
  rw [h] at hd
  exact hd

theorem KeepsDisk.bind {f : α → Act σ β} (ha : KeepsDisk a) (hf : ∀ x, KeepsDisk (f x)) :
    KeepsDisk (a >>= f) := by
  intro s env
  rw [exec_bind]
  rcases h : a.exec s env with ⟨_ | x, s', env'⟩
  · exact ha.of_exec h
  · exact (hf x s' env').trans (ha.of_exec h)

theorem keepsDisk_pure (x : α) : KeepsDisk (pure x : Act σ α) := fun _ _ => rfl

theorem keepsDisk_fail (e : Error) : KeepsDisk (fail e : Act σ α) := fun _ _ => rfl

theorem keepsDisk_self : KeepsDisk (self : Act σ σ) := fun _ _ => rfl

theorem keepsDisk_put (s : σ) : KeepsDisk (put s) := fun _ _ => rfl

theorem keepsDisk_change (f : σ → σ) : KeepsDisk (change f) := fun _ _ => rfl

theorem keepsDisk_now : KeepsDisk (now : Act σ Instant) := fun _ _ => rfl

theorem KeepsDisk.attempt (ha : KeepsDisk a) : KeepsDisk (Act.attempt a) := fun s env => ha s env

theorem KeepsDisk.focus (ha : KeepsDisk a) (view : τ → σ) (update : τ → σ → τ) :
    KeepsDisk (focus view update a) := fun t env => ha (view t) env

theorem KeepsDisk.map (ha : KeepsDisk a) (k : α → β) : KeepsDisk (k <$> a) := by
  intro s env
  rw [exec_map]
  exact ha s env

theorem keeps_now {P : σ → Prop} : Keeps P (now : Act σ Instant) := fun _ _ h => h

theorem keeps_ofOutcome {P : σ → Prop} (o : Outcome α) : Keeps P (ofOutcome o : Act σ α) := by
  intro s env h
  rw [exec_ofOutcome]
  cases o <;> exact h

end Act

open Act

namespace Instance

theorem keepsDisk_onManifest {α : Type} (r : Outcome (α × ManifestPlugin)) :
    KeepsDisk (onManifest r) := by
  rcases r with e | ⟨x, p⟩
  · exact keepsDisk_fail e
  · exact (keepsDisk_put _).bind fun _ => keepsDisk_pure x

theorem keepsDisk_start : KeepsDisk start := by
  refine keepsDisk_self.bind fun i => ?_
  cases i with
  | echo p => exact keepsDisk_put _
  | faulty p => exact keepsDisk_put _
  | manifest p =>
    dsimp only
    split
    · exact keepsDisk_now.bind fun _ => keepsDisk_onManifest _
    · exact keepsDisk_now.bind fun _ => keepsDisk_onManifest _
    · exact keepsDisk_fail _

theorem keepsDisk_stop : KeepsDisk stop := by
  refine keepsDisk_self.bind fun i => ?_
  cases i with
  | echo p => exact keepsDisk_put _
  | faulty p => exact keepsDisk_fail _
  | manifest p => exact keepsDisk_onManifest _

theorem keepsDisk_cleanup : KeepsDisk cleanup := by
  refine keepsDisk_self.bind fun i => ?_
  cases i with
  | echo p => exact keepsDisk_put _
  | faulty p => exact keepsDisk_pure _
  | manifest p => exact keepsDisk_put _

/-- An instance that can start: a manifest plugin must be initialized or stopped. -/
def Startable : Instance → Prop
  | .manifest p => p.state = .initialized ∨ p.state = .stopped
  | _ => True

/-- A prepared instance can start. -/
theorem startable_of_prepare {c : List (String × Json)} {inst i : Instance} {env env' : Env}
    (hp : (prepare c).exec inst env = (.ok (), i, env')) : i.Startable := by
  cases inst with
  | echo p =>
    cases hp
    trivial
  | faulty p =>
    cases hp
    trivial
  | manifest p =>
    change (onManifest ((p.prepare c).map ((), ·))).exec (.manifest p) env = _ at hp
    unfold ManifestPlugin.prepare at hp
    split at hp
    · cases hp
    · cases hp
      exact .inl rfl

/-- An instance that can start starts, leaving the disk as it was. -/
theorem exec_start_of_startable {i : Instance} (hi : i.Startable) (env : Env) :
    ∃ i' env', start.exec i env = (.ok (), i', env') ∧ env'.disk = env.disk := by
  have hok : (start.exec i env).1 = .ok () := by
    cases i with
    | echo p => rfl
    | faulty p => rfl
    | manifest p =>
      unfold start
      rw [exec_self_bind]
      rcases hi with hs | hs <;>
      · simp only [hs, exec_bind_of_ok (exec_now _ _), ManifestPlugin.start]
        rfl
  exact ⟨_, _, Prod.ext hok rfl, keepsDisk_start i env⟩

end Instance

namespace Manager

variable {m : Manager} {id : String} {x : Managed} {env : Env}

theorem keepsDisk_managed (id : String) : KeepsDisk (managed id) := by
  refine keepsDisk_self.bind fun m => ?_
  split
  · exact keepsDisk_pure _
  · exact keepsDisk_fail _

theorem keepsDisk_onInstance {α : Type} {a : Act Instance α} (ha : KeepsDisk a) (id : String) :
    KeepsDisk (onInstance id a) := by
  intro m env
  cases hx : m.find? id with
  | none => rw [exec_onInstance_of_find_none hx]
  | some x =>
    rw [exec_onInstance_of_find hx]
    exact ha x.inst env

theorem keepsDisk_unload (id : String) : KeepsDisk (unload id) := by
  -- what follows the stop, if any: clean up, let the plugin out of the sandbox, forget it
  have hrest := (keepsDisk_onInstance Instance.keepsDisk_cleanup id).attempt.bind fun _ =>
    (keepsDisk_change fun m : Manager =>
      { m with sandbox := (m.sandbox.remove id).toOption.getD m.sandbox }).bind fun _ =>
    keepsDisk_change fun m : Manager => { m with plugins := m.plugins.filter (·.1 != id) }
  unfold unload
  refine (keepsDisk_managed id).bind fun x => ?_
  dsimp only
  split
  · exact (keepsDisk_onInstance Instance.keepsDisk_stop id).attempt.bind fun _ => hrest
  · exact hrest

/-- Letting a plugin go undoes loading it: the manager is as it was before the load. -/
theorem without_enter (h : InStep m) {md : Metadata} {sb : Sandbox} (hnone : m.find? md.id = none)
    (hsb : m.sandbox.enter md = .ok sb) (y : Managed) :
    ({ m with sandbox := sb, plugins := Entries.put md.id y m.plugins } : Manager).without md.id =
      m := by
  have hs : ({ sb with admitted := sb.admitted.filter (·.1 != md.id) } : Sandbox) = m.sandbox := by
    rw [← Sandbox.remove_getD, Sandbox.remove_enter h.sorted.admitted hsb]
  have hp : (Entries.put md.id y m.plugins).filter (·.1 != md.id) = m.plugins := by
    rw [Entries.filter_put h.sorted.plugins,
      Entries.filter_of_not_mem (Entries.get?_eq_none_iff.1 hnone)]
  simp only [without, hs, hp]

/-- A plugin that may start and whose instance can start starts; the disk stays as it was. -/
theorem exec_start_of_startable (hk : Entries.Keyed m.plugins) (hx : m.find? id = some x)
    (hs : x.info.state.canStart = true) (hi : x.inst.Startable) (env : Env) :
    ∃ (i : Instance) (env' : Env), (start id).exec m env =
      (.ok (),
        { m with plugins := Entries.put id ⟨i, x.info.succeeded .running env'.clock.now.1⟩ m.plugins },
        { env' with clock := env'.clock.now.2 }) ∧ env'.disk = env.disk := by
  obtain ⟨i, env', hrun, hdisk⟩ := Instance.exec_start_of_startable hi env
  exact ⟨i, env', exec_lifecycle_of_ok hk hx hs hrun, hdisk⟩

/-- A plugin just loaded starts: preparing left its instance able to start, and its record says it
is loaded. The start touches no other plugin, keeps the manager in step with its sandbox, and
leaves the disk as it was. -/
theorem start_after_enter (h : InStep m) {md : Metadata} {sb : Sandbox} (hnone : m.find? md.id = none)
    (hsb : m.sandbox.enter md = .ok sb) {c : List (String × Json)} {inst i : Instance}
    {env0 env0' : Env} (hprep : (Instance.prepare c).exec inst env0 = (.ok (), i, env0'))
    (info : PluginInfo) (hid : info.id = md.id) (hst : info.state = .loaded) (env : Env) :
    ∃ m' env', (start md.id).exec
        { m with sandbox := sb, plugins := Entries.put md.id ⟨i, info⟩ m.plugins } env =
        (.ok (), m', env') ∧ env'.disk = env.disk ∧ InStep m' ∧
      (∃ y, m'.find? md.id = some y ∧ y.info.state = .running) ∧
      ∀ j, j ≠ md.id → m'.find? j = m.find? j := by
  have hin := h.enter (y := ⟨i, info⟩) hnone hsb hid
  have hcan : info.state.canStart = true := by rw [hst]; rfl
  obtain ⟨i', env', hrun, hd⟩ := exec_start_of_startable hin.sorted.plugins (find?_put_self _ _ _)
    hcan (Instance.startable_of_prepare hprep) env
  have hin' : InStep ((start md.id).exec
      { m with sandbox := sb, plugins := Entries.put md.id ⟨i, info⟩ m.plugins } env).2.1 :=
    keeps_inStep_lifecycle md.id _ _ _ _ _ env hin
  rw [hrun] at hin'
  refine ⟨_, _, hrun, hd, hin', ⟨_, find?_put_self _ _ _, PluginInfo.succeeded_state⟩,
    fun j hj => ?_⟩
  -- the start puts the plugin back under its own id, over the one the load put there
  rw [find?_eq_get?, find?_eq_get?, Entries.get?_put_of_ne hin.sorted.plugins hj,
    Entries.get?_put_of_ne h.sorted.plugins hj]

/-- A plugin found once an id is let out is one of the plugins there were, under another id. -/
theorem find?_without (hk : Entries.Keyed m.plugins) {j : String} {y : Managed}
    (h : (m.without id).find? j = some y) : j ≠ id ∧ m.find? j = some y := by
  have hmem := List.mem_filter.1 (Entries.mem_of_get? h)
  have hne : j ≠ id := by simpa using hmem.2
  exact ⟨hne, (Entries.get?_eq_some_iff hk).2 hmem.1⟩

end Manager

namespace Directory

theorem keepsDisk_register (s : Service) : KeepsDisk (register s) := by
  unfold register announce
  refine keepsDisk_self.bind fun d => ?_
  dsimp only
  split
  · exact (keepsDisk_fail _).bind fun _ => (keepsDisk_change _).bind fun _ => keepsDisk_change _
  · exact (keepsDisk_change _).bind fun _ => keepsDisk_change _

theorem keepsDisk_update (s : Service) : KeepsDisk (update s) := by
  unfold update announce
  refine keepsDisk_self.bind fun d => ?_
  dsimp only
  split
  · exact (keepsDisk_fail _).bind fun _ => (keepsDisk_change _).bind fun _ => keepsDisk_change _
  · exact (keepsDisk_change _).bind fun _ => keepsDisk_change _

theorem keepsDisk_deregister (id : String) : KeepsDisk (deregister id) := by
  unfold deregister announce
  refine keepsDisk_self.bind fun d => ?_
  dsimp only
  split
  · exact (keepsDisk_fail _).bind fun _ => (keepsDisk_change _).bind fun _ => keepsDisk_change _
  · exact (keepsDisk_change _).bind fun _ => keepsDisk_change _

theorem keepsDisk_updateHealth (id : String) (h : ServiceHealth) :
    KeepsDisk (updateHealth id h) := by
  unfold updateHealth announce
  refine keepsDisk_self.bind fun d => ?_
  split
  · exact keepsDisk_fail _
  · refine keepsDisk_now.bind fun _ => (keepsDisk_change _).bind fun _ => ?_
    split
    · exact keepsDisk_change _
    · exact keepsDisk_pure _

theorem keepsDisk_heartbeat (id : String) : KeepsDisk (heartbeat id) := by
  unfold heartbeat
  refine keepsDisk_self.bind fun d => ?_
  split
  · exact keepsDisk_fail _
  · exact keepsDisk_now.bind fun _ => keepsDisk_change _

end Directory

namespace Bridge

theorem keepsDisk_register (r : Registration) : KeepsDisk (register r) := by
  unfold register toService onDirectory
  refine (keepsDisk_now.bind fun _ => keepsDisk_self.bind fun _ => keepsDisk_pure _).bind
    fun _ => keepsDisk_self.bind fun _ => ?_
  refine KeepsDisk.bind (KeepsDisk.focus (KeepsDisk.attempt ?_) _ _) fun pushed => ?_
  · split
    · exact Directory.keepsDisk_update _
    · exact Directory.keepsDisk_register _
  · split
    · exact keepsDisk_pure _
    · exact keepsDisk_fail _

theorem keepsDisk_deregister (id : String) : KeepsDisk (deregister id) := by
  unfold deregister onDirectory
  refine ((Directory.keepsDisk_deregister id).attempt.focus _ _).bind fun o => ?_
  split
  · exact keepsDisk_pure _
  · exact keepsDisk_fail _

theorem keepsDisk_update (r : Registration) : KeepsDisk (update r) := by
  unfold update toService onDirectory
  refine (keepsDisk_now.bind fun _ => keepsDisk_self.bind fun _ => keepsDisk_pure _).bind
    fun _ => ((Directory.keepsDisk_update _).attempt.focus _ _).bind fun o => ?_
  split
  · exact keepsDisk_pure _
  · split
    · exact keepsDisk_register r
    · exact keepsDisk_fail _

theorem keepsDisk_syncHealth (r : Registration) : KeepsDisk (syncHealth r) := by
  unfold syncHealth onDirectory
  refine ((Directory.keepsDisk_updateHealth _ _).attempt.focus _ _).bind fun o => ?_
  split
  · exact keepsDisk_pure _
  · exact keepsDisk_fail _

theorem keepsDisk_heartbeat (id : String) : KeepsDisk (heartbeat id) := by
  unfold heartbeat onDirectory
  refine ((Directory.keepsDisk_heartbeat id).attempt.focus _ _).bind fun o => ?_
  split
  · exact keepsDisk_pure _
  · exact keepsDisk_fail _

end Bridge

/-- Closing a store always answers, and leaves the disk and the clock as they were. -/
theorem Store.exec_close (s : Store) (env : Env) : ∃ s', Store.close.exec s env = (.ok (), s', env) := by
  cases s with
  | single b => cases b <;> exact ⟨_, rfl⟩
  | cached c b => cases b <;> exact ⟨_, rfl⟩

namespace Registry

variable {α : Type} {reg reg' : Registry} {env env' : Env}

theorem keepsDisk_onBridge {a : Act Bridge α} (ha : KeepsDisk a) : KeepsDisk (onBridge a) := by
  unfold onBridge
  refine keepsDisk_self.bind fun _ => ?_
  split
  · exact keepsDisk_pure _
  · exact (ha.attempt.focus _ _).bind fun _ => keepsDisk_pure _

/-- A registration that answered saved the record it answers, under the id it was given and as
registered, and put that record in the map; the disk is as the save left it. -/
theorem register_saves {r x : Registration} (h : (register r).exec reg env = (.ok x, reg', env')) :
    ∃ s' env1, (Store.save x).exec reg.store { env with clock := env.clock.now.2 } =
        (.ok (), s', env1) ∧
      x.id = r.id ∧ x.status = .registered ∧ reg'.plugins = MemoryStore.putIn x reg.plugins ∧
      reg'.store = s' ∧ env'.disk = env1.disk := by
  obtain ⟨ts, rfl, -, -, s', env1, o, reg1, hsave, hrun, hp, hs⟩ := register_of_ok h
  obtain ⟨hp1, hs1⟩ := (leavesRecords_onBridge _).of_exec hrun
  have hd := (keepsDisk_onBridge (Bridge.keepsDisk_register _)).of_exec hrun
  exact ⟨s', env1, hsave, rfl, rfl, hp.trans hp1, hs.trans hs1, hd⟩

/-- A status change the store makes answers with the changed record in the map. -/
theorem exec_updateStatus_of_store_ok {id : String} {st : Status} {old : Registration}
    (hf : reg.find? id = some old) (hst : old.status ≠ st) {s' : Store} {env1 : Env}
    (hw : (Store.updateStatus id st).exec reg.store { env with clock := env.clock.now.2 } =
      (.ok (), s', env1)) :
    ∃ y reg' env', (updateStatus id st).exec reg env = (.ok y, reg', env') ∧
      reg'.plugins =
        MemoryStore.putIn { old with status := st, updatedAt := env.clock.now.1 } reg.plugins ∧
      reg'.store = s' := by
  unfold updateStatus
  rw [exec_self_bind]
  simp only [hf, beq_iff_eq, hst, if_false]
  rw [exec_bind_of_ok (exec_now reg env), exec_bind_of_ok (exec_insert _ _ _),
    exec_bind_of_ok (exec_persist_of_ok hw _)]
  obtain ⟨o, reg1, env2, hrun, -⟩ := exec_onBridge_bus (Bridge.update _) _ env1
  have hp := (leavesRecords_onBridge _).of_exec hrun
  rw [exec_bind_of_ok hrun, exec_bind_of_ok (exec_emit _ _ _), exec_pure]
  exact ⟨_, _, _, rfl, hp.1, hp.2⟩

/-- A status change the store refuses fails with the map put back and the store as it was left. -/
theorem exec_updateStatus_of_store_error (hk : MemoryStore.Keyed reg.plugins) {id : String}
    {st : Status} {old : Registration} (hf : reg.find? id = some old) (hst : old.status ≠ st)
    {e : Error} {s' : Store} {env1 : Env}
    (hw : (Store.updateStatus id st).exec reg.store { env with clock := env.clock.now.2 } =
      (.error e, s', env1)) :
    ∃ e', (updateStatus id st).exec reg env = (.error e', { reg with store := s' }, env1) := by
  have hold : old.id = id := MemoryStore.id_of_findIn hf
  have hid : ({ old with status := st, updatedAt := env.clock.now.1 } : Registration).id = id :=
    hold
  unfold updateStatus
  rw [exec_self_bind]
  simp only [hf, beq_iff_eq, hst, if_false]
  rw [exec_bind_of_ok (exec_now reg env), exec_bind_of_ok (exec_insert _ _ _),
    exec_bind_of_error (exec_persist_of_error hk hid hf hw)]
  exact ⟨_, rfl⟩

/-- Taking an id out of the map, announcing it and withdrawing its service always answers, and
touches the map only at that id and the store not at all. -/
theorem exec_remove_deregister (id : String) (ev : Event) (reg : Registry) (env : Env) :
    ∃ reg' env', (remove id >>= fun _ => emit ev >>= fun _ =>
        onBridge (Bridge.deregister id) >>= fun _ => pure ()).exec reg env = (.ok (), reg', env') ∧
      reg'.plugins = MemoryStore.removeFrom id reg.plugins ∧ reg'.store = reg.store := by
  obtain ⟨x, reg1, env1, hrun, -⟩ := exec_onBridge_bus (Bridge.deregister id) _ env
  have hp := (leavesRecords_onBridge _).of_exec hrun
  rw [exec_bind_of_ok (exec_remove _ _ _), exec_bind_of_ok (exec_emit _ _ _),
    exec_bind_of_ok hrun, exec_pure]
  exact ⟨_, _, rfl, hp.1, hp.2⟩

/-- An unregistration of a registered id whose removal from the store answers, or finds nothing
to remove, answers with the id taken out of the map and the store as the removal left it. -/
theorem exec_unregister_of_delete {id : String} {old : Registration} (hf : reg.find? id = some old)
    {o : Outcome Unit} {s' : Store} {env1 : Env}
    (hd : (Store.delete id).exec reg.store env = (o, s', env1))
    (ho : o = .ok () ∨ o = .error (.notFound id)) :
    ∃ reg' env', (unregister id).exec reg env = (.ok (), reg', env') ∧
      reg'.plugins = MemoryStore.removeFrom id reg.plugins ∧ reg'.store = s' := by
  unfold unregister
  rw [exec_self_bind]
  simp only [hf]
  rw [exec_bind, exec_onStore, exec_attempt, hd]
  -- a removal that found nothing is let through, as a removal that answered is
  rcases ho with rfl | rfl
  · exact exec_remove_deregister id _ _ env1
  · exact exec_remove_deregister id _ _ env1

/-- An unregistration that answered took the id out of the map, and left the store accepting
every id it accepted. -/
theorem unregister_removes {m : MemoryStore} (hs : reg.store.Models env.disk m) {id : String}
    (h : (unregister id).exec reg env = (.ok (), reg', env')) :
    reg'.plugins = MemoryStore.removeFrom id reg.plugins ∧
      ∀ j, reg.store.backend.Accepts j → reg'.store.backend.Accepts j := by
  cases hf : reg.find? id with
  | none =>
    rw [exec_unregister_of_find_none hf] at h
    cases h
  | some old =>
    have hacc : ∀ j, reg.store.backend.Accepts j →
        ((Store.delete id).exec reg.store env).2.1.backend.Accepts j :=
      fun _ hj => Store.accepts_delete hs id hj
    unfold unregister at h
    rw [exec_self_bind] at h
    simp only [hf] at h
    rw [exec_bind, exec_onStore, exec_attempt] at h
    -- the removal from the store either is let through, or ends the call with its failure
    rcases hd : (Store.delete id).exec reg.store env with ⟨_ | ⟨⟩, s', env1⟩ <;>
      rw [hd] at h hacc <;> dsimp only at h hacc <;>
      obtain ⟨reg1, env2, hrun, hp, hst⟩ := exec_remove_deregister id _ _ env1
    · rename_i e
      cases hnf : e.isNotFound
      · simp only [hnf, Bool.not_false, if_true] at h
        rw [exec_bind, exec_fail] at h
        cases h
      · simp only [hnf, Bool.not_true, Bool.false_eq_true, if_false] at h
        rw [hrun] at h
        cases h
        exact ⟨hp, fun j hj => hst ▸ hacc j hj⟩
    · rw [hrun] at h
      cases h
      exact ⟨hp, fun j hj => hst ▸ hacc j hj⟩

/-- A status change of a record the store has saved either answers, with the changed record in
the map and the store accepting every id it accepted, or fails with the map put back because the
store read back a garbled record. -/
theorem updateStatus_of_saved (hk : MemoryStore.Keyed reg.plugins) {id : String} {st : Status}
    {old : Registration} (hf : reg.find? id = some old) (hst : old.status ≠ st)
    (hsv : reg.store.Saved env.disk id) :
    (∃ y reg' env', (updateStatus id st).exec reg env = (.ok y, reg', env') ∧
      reg'.plugins =
        MemoryStore.putIn { old with status := st, updatedAt := env.clock.now.1 } reg.plugins ∧
      ∀ j, reg.store.backend.Accepts j → reg'.store.backend.Accepts j) ∨
    ∃ e s' env', (updateStatus id st).exec reg env = (.error e, { reg with store := s' }, env') ∧
      s'.backend.Garbled env'.disk id := by
  have hsv' : reg.store.Saved ({ env with clock := env.clock.now.2 } : Env).disk id := hsv
  rcases Store.updateStatus_of_saved hsv' st with ⟨s', env1, hw, hacc⟩ | ⟨e, s', env1, hw, hg⟩
  · obtain ⟨y, reg', env', hrun, hp, hs⟩ := exec_updateStatus_of_store_ok hf hst hw
    exact .inl ⟨y, reg', env', hrun, hp, hs ▸ hacc⟩
  · obtain ⟨e', hrun⟩ := exec_updateStatus_of_store_error hk hf hst hw
    exact .inr ⟨e', s', env1, hrun, hg⟩

/-- After a registration that answered, making the id active finds the record the registration
saved: the status change answers, with the record active in the map the registration left and the
store accepting the id and every id it accepted before; or it fails because the store read back a
garbled record. -/
theorem activate_after_register (hk : MemoryStore.Keyed reg.plugins) {m : MemoryStore}
    (hm : reg.store.Models env.disk m) {r x : Registration} {reg1 : Registry} {env1 : Env}
    (hr : (register r).exec reg env = (.ok x, reg1, env1)) {id : String} (hid : r.id = id)
    {env2 : Env} (hd : env2.disk = env1.disk) :
    x.id = id ∧
    ((∃ y reg2 env3, (updateStatus id .active).exec reg1 env2 = (.ok y, reg2, env3) ∧
      reg2.plugins = MemoryStore.putIn { x with status := .active, updatedAt := env2.clock.now.1 }
        (MemoryStore.putIn x reg.plugins) ∧
      (∀ j, reg.store.backend.Accepts j → reg2.store.backend.Accepts j) ∧
      reg2.store.backend.Accepts id) ∨
    ∃ e s2 env3,
      (updateStatus id .active).exec reg1 env2 = (.error e, { reg1 with store := s2 }, env3) ∧
      s2.backend.Garbled env3.disk id) := by
  obtain ⟨s1, env1', hsave, hxid, hxst, hp1, hst1, hd1⟩ := register_saves hr
  rw [hid] at hxid
  have hm' : reg.store.Models ({ env with clock := env.clock.now.2 } : Env).disk m := hm
  obtain ⟨hsv, hacc1⟩ := Store.saved_of_save hm' hsave
  have hk1 : MemoryStore.Keyed reg1.plugins := hp1 ▸ MemoryStore.keyed_putIn hk
  have hf1 : reg1.find? id = some x := by
    rw [find?, hp1, ← hxid, MemoryStore.findIn_putIn_self]
  -- the record is still saved on the disk the status change runs on
  have hsv2 : reg1.store.Saved env2.disk id := by
    rw [hd, hd1, hst1, ← hxid]
    exact hsv
  have hxst : x.status ≠ .active := by
    rw [hxst]
    decide
  refine ⟨hxid, ?_⟩
  rcases updateStatus_of_saved hk1 hf1 hxst hsv2 with ⟨y, reg2, env3, hu, hp2, hacc2⟩ | hfail
  · refine .inl ⟨y, reg2, env3, hu, by rw [hp2, hp1], fun j hj => hacc2 j (hst1 ▸ hacc1 j hj),
      hacc2 _ ?_⟩
    rw [hst1, ← hxid]
    exact hsv.1.accepts
  · exact .inr hfail

/-- Closing the registry always answers: it closes the bus and the store, and keeps the map. -/
theorem exec_close (reg : Registry) (env : Env) :
    ∃ s', close.exec reg env = (.ok (), { reg with bus := reg.bus.close, store := s' }, env) := by
  obtain ⟨s', hs⟩ := Store.exec_close reg.store env
  unfold close
  rw [exec_bind_of_ok (exec_change _ _ _), exec_onStore]
  simp only [hs]
  exact ⟨s', rfl⟩

/-- Filling the map from the store keeps it keyed by id. -/
theorem keyed_restore (hk : MemoryStore.Keyed reg.plugins) (env : Env) :
    MemoryStore.Keyed (restore.exec reg env).2.1.plugins := by
  unfold restore
  rcases hl : (Store.list {}).exec reg.store env with ⟨_ | stored, s1, env1⟩
  · rw [exec_bind_of_error (exec_load_of_error hl)]
    exact hk
  · obtain ⟨env2, hload⟩ := exec_load_of_ok hl
    rw [exec_bind_of_ok hload]
    have hk' : MemoryStore.Keyed (stored.foldl (fun acc r => MemoryStore.putIn r acc) reg.plugins) :=
      MemoryStore.keyed_foldl_putIn hk
    split
    · rw [exec_self_bind,
        ((leavesRecords_onBridge _).bind fun _ => leavesRecords_pure _) _ env2 |>.1]
      exact hk'
    · exact hk'

-- ---------------------------------------------------------------------------
-- The store changes only through its own calls
-- ---------------------------------------------------------------------------

section KeepsStore

variable {Q : Store → Prop}

theorem keeps_onStore {a : Act Store α} (ha : Keeps Q a) :
    Keeps (fun reg : Registry => Q reg.store) (onStore a) := by
  intro reg env h
  rw [exec_onStore]
  exact ha reg.store env h

theorem keeps_store_of_leavesRecords {a : Act Registry α} (ha : LeavesRecords a) :
    Keeps (fun reg : Registry => Q reg.store) a := by
  intro reg env h
  show Q _
  rw [(ha reg env).2]
  exact h

theorem keeps_insert (r : Registration) : Keeps (fun reg : Registry => Q reg.store) (insert r) :=
  keeps_change fun _ h => h

theorem keeps_remove (id : String) : Keeps (fun reg : Registry => Q reg.store) (remove id) :=
  keeps_change fun _ h => h

theorem keeps_emit (e : Event) : Keeps (fun reg : Registry => Q reg.store) (emit e) :=
  keeps_change fun _ h => h

theorem keeps_revert (id : String) (previous : Option Registration) :
    Keeps (fun reg : Registry => Q reg.store) (revert id previous) := by
  cases previous
  · exact keeps_remove id
  · exact keeps_insert _

theorem keeps_persist {a : Act Store Unit} (ha : Keeps Q a) (id : String)
    (previous : Option Registration) (ctx : String) :
    Keeps (fun reg : Registry => Q reg.store) (persist id previous ctx a) := by
  unfold persist
  refine (keeps_onStore ha.attempt).bind fun r => ?_
  split
  · exact keeps_pure _
  · exact (keeps_revert _ _).bind fun _ => keeps_fail _

/-- A registration changes the store only by saving, and by undoing that save when the bridge
refuses the registration. -/
theorem keeps_register (hs : ∀ r, Keeps Q (Store.save r)) (hd : ∀ id, Keeps Q (Store.delete id))
    (r : Registration) : Keeps (fun reg : Registry => Q reg.store) (register r) := by
  unfold register
  refine (keeps_ofOutcome _).bind fun _ => keeps_now.bind fun ts => keeps_self.bind fun reg => ?_
  dsimp only
  -- a registration superseding one or new; the undo saves the superseded record or deletes
  split <;>
  · refine (keeps_insert _).bind fun _ => (keeps_persist (hs _) _ _ _).bind fun _ =>
      (keeps_store_of_leavesRecords (leavesRecords_onBridge _)).bind fun o => ?_
    split
    · refine (keeps_revert _ _).bind fun _ => (keeps_onStore (Keeps.attempt ?_)).bind fun _ =>
        (keeps_fail _).bind fun _ => (keeps_emit _).bind fun _ => keeps_pure _
      first
      | with_reducible exact hs _
      | with_reducible exact hd _
    · exact (keeps_emit _).bind fun _ => keeps_pure _

theorem keeps_updateStatus (hu : ∀ id st, Keeps Q (Store.updateStatus id st)) (id : String)
    (st : Status) : Keeps (fun reg : Registry => Q reg.store) (updateStatus id st) := by
  unfold updateStatus
  refine keeps_self.bind fun reg => ?_
  split
  · split
    · exact keeps_pure _
    · exact keeps_now.bind fun _ => (keeps_insert _).bind fun _ =>
        (keeps_persist (hu _ _) _ _ _).bind fun _ =>
        (keeps_store_of_leavesRecords (leavesRecords_onBridge _)).bind fun _ =>
        (keeps_emit _).bind fun _ => keeps_pure _
  · exact keeps_fail _

theorem keeps_remove_deregister (id : String) (ev : Event) :
    Keeps (fun reg : Registry => Q reg.store) (remove id >>= fun _ => emit ev >>= fun _ =>
      onBridge (Bridge.deregister id) >>= fun _ => pure ()) :=
  (keeps_remove id).bind fun _ => (keeps_emit ev).bind fun _ =>
    (keeps_store_of_leavesRecords (leavesRecords_onBridge _)).bind fun _ => keeps_pure _

theorem keeps_unregister (hd : ∀ id, Keeps Q (Store.delete id)) (id : String) :
    Keeps (fun reg : Registry => Q reg.store) (unregister id) := by
  unfold unregister
  refine keeps_self.bind fun reg => ?_
  split
  · refine (keeps_onStore (hd id).attempt).bind fun o => ?_
    dsimp only
    split
    · split
      · exact (keeps_fail _).bind fun _ => keeps_remove_deregister id _
      · exact keeps_remove_deregister id _
    · exact keeps_remove_deregister id _
  · exact keeps_fail _

theorem keeps_close (hc : Keeps Q Store.close) : Keeps (fun reg : Registry => Q reg.store) close :=
  (keeps_change fun _ h => h).bind fun _ => keeps_onStore hc

end KeepsStore

end Registry

end Plugboard
