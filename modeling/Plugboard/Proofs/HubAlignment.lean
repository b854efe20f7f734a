import Plugboard.Proofs.HubSteps
/-!
# Installs are all-or-nothing and keep the hub aligned

A hub is aligned (`Hub.Aligned`) when every plugin its manager has loaded runs, is registered as
active, and has a record the store can still remove; the registry's map is keyed by id and the
manager is in step with its sandbox.

`Hub.runs_keep_aligned_and_fail_clean` says that every run of installs, uninstalls and shutdowns
from an aligned hub keeps it aligned after each call, and that a call that fails leaves the hub
as it was. An install whose registration is refused unloads the plugin again; one whose load
fails, as when the id is already loaded, changes nothing; and the start that follows a
registration never fails, so the path that leaves a plugin registered as inactive is never taken.

The run rests on one assumption about the store at each call: that it keeps, on the disk, the
records of a valid memory store (`Hub.Sound`). A file store does when what it writes reads back as
written. A store on memory, alone or behind a cache, always does, along every run
(`Hub.sound_along_of_onValidMemory`). A hub as built is aligned (`Hub.create_aligned`), with the
registrations it restored from its store or without.
-/

namespace Plugboard

open Act

namespace Hub

variable {h h' : Hub} {env env' : Env} {id : String} {x : Managed}

/-- The hub's store keeps, on the disk, the records of a valid memory store. -/
def Sound (h : Hub) (d : Disk) : Prop := ∃ m, h.registry.store.Models d m ∧ m.Valid

/-- What the hub keeps for a plugin loaded under an id: the plugin runs, the registry has it as
active, and the store can still remove its record. -/
structure Installed (h : Hub) (id : String) (x : Managed) : Prop where
  running : x.info.state = .running
  active : ∃ r, h.registry.find? id = some r ∧ r.status = .active
  accepts : h.registry.store.backend.Accepts id

/-- The components of a hub agree: every plugin loaded is installed. -/
structure Aligned (h : Hub) : Prop where
  keyed : MemoryStore.Keyed h.registry.plugins
  inStep : h.manager.InStep
  installed : ∀ id x, h.manager.find? id = some x → h.Installed id x

theorem Installed.of_registry (hi : h.Installed id x)
    (hf : h'.registry.find? id = h.registry.find? id)
    (hacc : ∀ j, h.registry.store.backend.Accepts j → h'.registry.store.backend.Accepts j) :
    h'.Installed id x :=
  ⟨hi.running, hf ▸ hi.active, hacc _ hi.accepts⟩

/-- A change confined to one id keeps a hub aligned: every other plugin the manager then has it had
before, registered as before, and the store accepts what it accepted. -/
theorem Aligned.confined (ha : h.Aligned) (id : String)
    (hk : MemoryStore.Keyed h'.registry.plugins) (hm : h'.manager.InStep)
    (hman : ∀ j y, j ≠ id → h'.manager.find? j = some y → h.manager.find? j = some y)
    (hreg : ∀ j, j ≠ id → h'.registry.find? j = h.registry.find? j)
    (hacc : ∀ j, h.registry.store.backend.Accepts j → h'.registry.store.backend.Accepts j)
    (hid : ∀ y, h'.manager.find? id = some y → h'.Installed id y) : h'.Aligned where
  keyed := hk
  inStep := hm
  installed j y hy := by
    by_cases hj : j = id
    · subst hj
      exact hid y hy
    · exact (ha.installed j y (hman j y hj hy)).of_registry (hreg j hj) hacc

-- ---------------------------------------------------------------------------
-- Install
-- ---------------------------------------------------------------------------

/-- An install whose load fails changes nothing. -/
theorem exec_install_of_load_error {path : String} {e : Error}
    (hl : (Manager.load path).exec h.manager env = (.error e, h.manager, env)) :
    (install path).exec h env = (.error e, h, env) := by
  unfold install
  rw [exec_bind, exec_onManager, hl]

/-- The hub an install that answered leaves is aligned: the plugin it started runs, every other
plugin is as it was, and the registry has the record it registered, now active, over the map it
had. -/
theorem Aligned.activated (ha : h.Aligned) {m : Manager} (hm : m.InStep) {id : String}
    (hother : ∀ j, j ≠ id → m.find? j = h.manager.find? j)
    (hrunning : ∃ y, m.find? id = some y ∧ y.info.state = .running)
    {x : Registration} (hxid : x.id = id) {reg : Registry} {t : Instant}
    (hp : reg.plugins = MemoryStore.putIn { x with status := .active, updatedAt := t }
      (MemoryStore.putIn x h.registry.plugins))
    (hacc : ∀ j, h.registry.store.backend.Accepts j → reg.store.backend.Accepts j)
    (hid : reg.store.backend.Accepts id) : ({ registry := reg, manager := m } : Hub).Aligned := by
  have hk1 := MemoryStore.keyed_putIn (r := x) ha.keyed
  -- the record made active is found under its id, and every other id finds what it found
  have hfind : ∀ j, reg.find? j =
      if id = j then some { x with status := .active, updatedAt := t } else h.registry.find? j := by
    intro j
    rw [Registry.find?, hp, MemoryStore.findIn_putIn hk1, MemoryStore.findIn_putIn ha.keyed]
    by_cases hj : id = j
    · simp only [hxid, hj, if_true]
    · simp only [hxid, hj, if_false]
      rfl
  refine ha.confined id (hp ▸ MemoryStore.keyed_putIn hk1) hm
    (fun j y hj hy => hother j hj ▸ hy) (fun j hj => ?_) hacc (fun y hy => ?_)
  · rw [hfind, if_neg (Ne.symm hj)]
  · obtain ⟨y', hy', hr⟩ := hrunning
    rw [hy'] at hy
    cases hy
    exact ⟨hr, ⟨_, by rw [hfind, if_pos rfl], rfl⟩, hid⟩

/-- An install from an aligned hub over a sound store leaves the hub aligned, when the store it
leaves is sound; and when it fails, it leaves the hub as it was. A load that fails changes nothing;
a registration refused is undone by unloading the plugin; and once registered, the plugin starts
and is made active, the status change finding the record the registration saved. -/
theorem Aligned.after_install (ha : h.Aligned) (hs : h.Sound env.disk) {path : String}
    {o : Outcome Registration} (hrun : (install path).exec h env = (o, h', env'))
    (hs' : h'.Sound env'.disk) : h'.Aligned ∧ ∀ e, o = .error e → h' = h := by
  obtain ⟨m0, hm0, -⟩ := hs
  rcases Manager.load_cases ha.inStep.sorted.admitted path env with
    ⟨e, hl⟩ | ⟨inst, i, sb, -, hnone, -, hsb, hprep, hl⟩
  · rw [exec_install_of_load_error hl] at hrun
    cases hrun
    exact ⟨ha, fun _ _ => rfl⟩
  have hid : (PluginInfo.loaded inst.metadata path i.native env.clock.now.1).id =
      inst.metadata.id := rfl
  unfold install at hrun
  rw [exec_bind, exec_onManager, hl] at hrun
  dsimp only at hrun
  rw [hid] at hrun
  rw [exec_bind_of_ok (exec_now _ _), exec_bind, exec_attempt, exec_onRegistry] at hrun
  dsimp only at hrun
  generalize hr : (Registry.register _).exec h.registry _ = res at hrun
  have hm0' : h.registry.store.Models
      ({ env with clock := env.clock.now.2.now.2 } : Env).disk m0 := hm0
  rcases res with ⟨_ | x, reg1, env2⟩ <;> dsimp only at hrun
  · -- the registration was refused and changed nothing: unloading undoes the load
    obtain ⟨rfl, -⟩ := Registry.failsClean_register ha.keyed hm0' _ _ _ _ hr
    have hin1 := ha.inStep.enter (y := ⟨i, PluginInfo.loaded inst.metadata path i.native
      env.clock.now.1⟩) hnone hsb rfl
    rw [exec_bind, exec_attempt, exec_onManager] at hrun
    dsimp only at hrun
    rw [exec_fail, Manager.unload_without hin1, Manager.without_enter ha.inStep hnone hsb] at hrun
    cases hrun
    exact ⟨ha, fun _ _ => rfl⟩
  -- the registration saved its record; the plugin starts, and the status change finds the record
  obtain ⟨m2, env3, hstart, hd3, hin2, hrunning, hother⟩ :=
    Manager.start_after_enter ha.inStep hnone hsb hprep
      (PluginInfo.loaded inst.metadata path i.native env.clock.now.1) rfl rfl env2
  rw [exec_bind, exec_attempt, exec_onManager, hstart] at hrun
  dsimp only at hrun
  rw [exec_onRegistry] at hrun
  obtain ⟨hxid, ⟨z, reg2, env4, hu, hp2, hacc2, haccid⟩ | ⟨e, s2, env4, hu, hg⟩⟩ :=
    Registry.activate_after_register ha.keyed hm0' hr (show _ = inst.metadata.id from rfl) hd3
  · rw [hu] at hrun
    cases hrun
    exact ⟨ha.activated hin2 hother hrunning hxid hp2 hacc2 haccid, fun _ he => by cases he⟩
  · -- a status change fails only on a garbled record, which a sound store does not keep
    rw [hu] at hrun
    cases hrun
    obtain ⟨m', hm', -⟩ := hs'
    exact absurd hg (Store.Models.not_garbled hm' _)

-- ---------------------------------------------------------------------------
-- Uninstall and shutdown
-- ---------------------------------------------------------------------------

/-- A hub stays aligned when an id is taken out of the map, and out of the manager if the manager
had it, the store accepting what it accepted. -/
theorem Aligned.removed (ha : h.Aligned) {id : String} (hm : h'.manager.InStep)
    (hman : ∀ j y, h'.manager.find? j = some y → j ≠ id ∧ h.manager.find? j = some y)
    (hp : h'.registry.plugins = MemoryStore.removeFrom id h.registry.plugins)
    (hacc : ∀ j, h.registry.store.backend.Accepts j → h'.registry.store.backend.Accepts j) :
    h'.Aligned := by
  refine ha.confined id (hp ▸ MemoryStore.keyed_removeFrom ha.keyed) hm
    (fun j y _ hy => (hman j y hy).2) (fun j hj => ?_) hacc
    (fun y hy => absurd rfl (hman id y hy).1)
  rw [Registry.find?, Registry.find?, hp, MemoryStore.findIn_removeFrom ha.keyed, if_neg hj.symm]

/-- An uninstall from an aligned hub over a sound store leaves the hub aligned, and when it fails,
as it was. A loaded plugin is unloaded and its record, which the store accepts, removed; an id not
loaded is only unregistered, and an unregistration refused changes nothing. -/
theorem Aligned.after_uninstall (ha : h.Aligned) (hs : h.Sound env.disk) {id : String}
    {o : Outcome Unit} (hrun : (uninstall id).exec h env = (o, h', env')) :
    h'.Aligned ∧ ∀ e, o = .error e → h' = h := by
  obtain ⟨m0, hm0, hv0⟩ := hs
  unfold uninstall at hrun
  rw [exec_bind, exec_attempt, exec_onManager] at hrun
  cases hx : h.manager.find? id with
  | some x =>
    -- a loaded plugin: the unload answers, and the store removes the record it accepts
    have hi := ha.installed id x hx
    obtain ⟨r, hfr, -⟩ := hi.active
    obtain ⟨envU, hu⟩ := Manager.exec_unload_of_find ha.inStep.sorted.plugins hx env
    have hmU : h.registry.store.Models envU.disk m0 :=
      ((Manager.keepsDisk_unload id).of_exec hu).symm ▸ hm0
    obtain ⟨od, sd, envD, hd, hod, hacc⟩ := Store.delete_of_accepts hmU hi.accepts
    obtain ⟨reg', envR, hunreg, hp, hst⟩ := Registry.exec_unregister_of_delete hfr hd hod
    rw [hu] at hrun
    dsimp only at hrun
    rw [exec_onRegistry, hunreg] at hrun
    cases hrun
    refine ⟨?_, fun _ he => by cases he⟩
    show ({ registry := reg', manager := h.manager.without id } : Hub).Aligned
    exact ha.removed (ha.inStep.without id)
      (fun _ _ hy => Manager.find?_without ha.inStep.sorted.plugins hy) hp
      (fun j hj => hst ▸ hacc j hj)
  | none =>
    -- nothing loaded under the id: the unload's failure is let through to the unregistration
    rw [Manager.exec_unload_of_find_none hx] at hrun
    simp only [Error.isNotFound, Bool.not_true, Bool.false_eq_true, if_false] at hrun
    rw [exec_onRegistry] at hrun
    rcases hu : (Registry.unregister id).exec h.registry env with ⟨_ | ⟨⟩, reg', envR⟩ <;>
      rw [hu] at hrun <;> cases hrun
    · obtain ⟨rfl, -⟩ := Registry.failsClean_unregister hm0 hv0 id _ _ _ hu
      exact ⟨ha, fun _ _ => rfl⟩
    · obtain ⟨hp, hacc⟩ := Registry.unregister_removes hm0 hu
      refine ⟨?_, fun _ he => by cases he⟩
      show ({ registry := reg', manager := h.manager } : Hub).Aligned
      -- the manager had nothing under the id
      refine ha.removed ha.inStep (fun j y hy => ⟨?_, hy⟩) hp hacc
      rintro rfl
      rw [hx] at hy
      cases hy

/-- A shutdown always answers and leaves no plugin loaded, so it leaves the hub aligned. -/
theorem Aligned.after_shutdown (ha : h.Aligned) {o : Outcome Unit}
    (hrun : shutdown.exec h env = (o, h', env')) : h'.Aligned ∧ o = .ok () := by
  obtain ⟨envS, hsd⟩ := Manager.exec_shutdown ha.inStep env
  have hempty := (Manager.shutdown_empties ha.inStep env).1
  have hin : Manager.InStep (Manager.shutdown.exec h.manager env).2.1 :=
    Manager.keeps_inStep .shutdown h.manager env ha.inStep
  rw [hsd] at hempty hin
  obtain ⟨s', hc⟩ := Registry.exec_close h.registry envS
  unfold shutdown at hrun
  rw [exec_bind, exec_onManager, hsd] at hrun
  dsimp only at hrun
  rw [exec_onRegistry, hc] at hrun
  cases hrun
  refine ⟨⟨ha.keyed, hin, fun j y hy => ?_⟩, rfl⟩
  -- no plugin is left to find
  change Entries.get? j _ = some y at hy
  rw [hempty] at hy
  cases hy

/-- A hub with no plugin loaded and a map keyed by id is aligned. -/
theorem aligned_of_fresh (hk : MemoryStore.Keyed h.registry.plugins) (hm : h.manager.Fresh) :
    h.Aligned where
  keyed := hk
  inStep := hm.inStep
  installed id x hx := by
    change Entries.get? id _ = some x at hx
    rw [hm.plugins] at hx
    cases hx

/-- A hub as built is aligned: no plugin is loaded yet, and filling the registry from its store
keeps the map keyed by id. -/
theorem create_aligned {σ : Type} {config : HubConfig} {modules : ModuleTable} {s s' : σ}
    (hc : (create config modules).exec s env = (.ok h, s', env')) : h.Aligned := by
  unfold create at hc
  rw [exec_bind] at hc
  rcases hs : (Store.create config.storage).exec s env with ⟨_ | store, s1, env1⟩ <;>
    rw [hs] at hc <;> dsimp only at hc
  · cases hc
  rw [exec_bind, exec_get] at hc
  dsimp only at hc
  generalize hr : Registry.restore.exec _ _ = res at hc
  have hk0 : MemoryStore.Keyed ({ Registry.create store config.registry with
      bridge := if config.bridge.enabled = true then some { config := config.bridge } else none } :
      Registry).plugins := List.Pairwise.nil
  have hk := Registry.keyed_restore hk0 env1
  rw [hr] at hk
  rcases res with ⟨_ | n, reg1, env2⟩
  -- the restore's outcome is passed on: a failed one fails the build
  all_goals
    have hset : (set (s1, env2) : Act σ Unit).exec s1 env1 = (.ok (), s1, env2) := rfl
    rw [exec_bind, hset] at hc
    dsimp only at hc
    rw [exec_bind, exec_ofOutcome] at hc
  · cases hc
  · dsimp only at hc
    rw [exec_pure] at hc
    cases hc
    exact aligned_of_fresh hk ⟨rfl, rfl, rfl⟩

end Hub

-- ---------------------------------------------------------------------------
-- Runs of calls
-- ---------------------------------------------------------------------------

/-- A call a client makes on a hub. -/
inductive HubCall where
  | install (path : String)
  | uninstall (id : String)
  | shutdown

namespace HubCall

/-- What a call does; an install's answer is dropped. -/
def run : HubCall → Act Hub Unit
  | install path => (fun _ => ()) <$> Hub.install path
  | uninstall id => Hub.uninstall id
  | shutdown => Hub.shutdown

/-- A property of each call of a run: of the hub before it, its answer, and the hub and the
environment after it, each call made from where the one before left off. -/
def Along (P : Hub → Outcome Unit → Hub → Env → Prop) : List HubCall → Hub → Env → Prop
  | [], _, _ => True
  | c :: cs, h, env =>
    P h (c.run.exec h env).1 (c.run.exec h env).2.1 (c.run.exec h env).2.2 ∧
      Along P cs (c.run.exec h env).2.1 (c.run.exec h env).2.2

end HubCall

-- ---------------------------------------------------------------------------
-- Stores on memory
-- ---------------------------------------------------------------------------

namespace Store

/-- A store on memory that keeps a valid memory store, whatever the disk. -/
def OnValidMemory (s : Store) : Prop := s.OnMemory ∧ ∃ m, (∀ d, s.Models d m) ∧ m.Valid

/-- Every call keeps a store on memory on memory and valid. -/
theorem keeps_onValidMemory (k : StoreCall) : Keeps OnValidMemory (ops.call k) := by
  rintro s env ⟨hon, m, hm, hv⟩
  have hstep := fun d => step_onMemory (hm env.disk) hon hv k env d
  exact ⟨(hstep env.disk).2.2.2, _, fun d => (hstep d).2.2.1, hv.call k env⟩

/-- A write that is a call keeps what the call keeps. -/
theorem keeps_of_call {P : Store → Prop} {a : Act Store Unit} {k : StoreCall}
    (hk : ops.call k = (fun _ => StoreReply.done) <$> a) (h : Keeps P (ops.call k)) : Keeps P a := by
  intro s env hs
  have h' := h s env hs
  rw [hk, exec_map] at h'
  exact h'

end Store

namespace Hub

variable {α : Type} {h : Hub} {env : Env} {P : Registry → Prop}

theorem keeps_onManager (a : Act Manager α) : Keeps (fun h : Hub => P h.registry) (onManager a) :=
  fun _ _ hp => hp

theorem keeps_onRegistry {a : Act Registry α} (ha : Keeps P a) :
    Keeps (fun h : Hub => P h.registry) (onRegistry a) :=
  fun h env hp => ha h.registry env hp

theorem keeps_install (hreg : ∀ r, Keeps P (Registry.register r))
    (hup : ∀ id st, Keeps P (Registry.updateStatus id st)) (path : String) :
    Keeps (fun h : Hub => P h.registry) (install path) := by
  unfold install
  refine (keeps_onManager _).bind fun info => keeps_now.bind fun _ =>
    (keeps_onRegistry (hreg _)).attempt.bind fun o => ?_
  split
  · exact (keeps_onManager _).attempt.bind fun _ => keeps_fail _
  · refine (keeps_onManager _).attempt.bind fun o' => ?_
    split
    · exact (keeps_onRegistry (hup _ _)).bind fun _ => keeps_fail _
    · exact keeps_onRegistry (hup _ _)

theorem keeps_uninstall (hun : ∀ id, Keeps P (Registry.unregister id)) (id : String) :
    Keeps (fun h : Hub => P h.registry) (uninstall id) := by
  unfold uninstall
  refine (keeps_onManager _).attempt.bind fun o => ?_
  dsimp only
  split
  · split
    · exact (keeps_fail _).bind fun _ => keeps_onRegistry (hun id)
    · exact keeps_onRegistry (hun id)
  · exact keeps_onRegistry (hun id)

theorem keeps_shutdown (hc : Keeps P Registry.close) :
    Keeps (fun h : Hub => P h.registry) shutdown :=
  (keeps_onManager _).bind fun _ => keeps_onRegistry hc

/-- Every call keeps what every call of the store keeps: the registry changes its store only
through the store's own calls. -/
theorem keeps_of_storeCalls {Q : Store → Prop} (hq : ∀ k, Keeps Q (Store.ops.call k))
    (c : HubCall) : Keeps (fun h : Hub => Q h.registry.store) c.run := by
  have hs : ∀ r, Keeps Q (Store.save r) := fun r => Store.keeps_of_call rfl (hq (.save r))
  have hd : ∀ id, Keeps Q (Store.delete id) := fun id => Store.keeps_of_call rfl (hq (.delete id))
  have hu : ∀ id st, Keeps Q (Store.updateStatus id st) :=
    fun id st => Store.keeps_of_call rfl (hq (.updateStatus id st))
  cases c with
  | install path =>
    exact (keeps_install (Registry.keeps_register hs hd) (Registry.keeps_updateStatus hu) path).map _
  | uninstall id => exact keeps_uninstall (Registry.keeps_unregister hd) id
  | shutdown => exact keeps_shutdown (Registry.keeps_close (Store.keeps_of_call rfl (hq .close)))

/-- Every call keeps a hub's store on memory and valid. -/
theorem keeps_onValidMemory (c : HubCall) :
    Keeps (fun h : Hub => h.registry.store.OnValidMemory) c.run :=
  keeps_of_storeCalls Store.keeps_onValidMemory c

/-- A hub whose store is on memory and valid has a sound store after every call of every run. -/
theorem sound_along_of_onValidMemory (hm : h.registry.store.OnValidMemory) (cs : List HubCall)
    (env : Env) : HubCall.Along (fun _ _ h' env' => h'.Sound env'.disk) cs h env := by
  induction cs generalizing h env with
  | nil => trivial
  | cons c cs ih =>
    have hm' := keeps_onValidMemory c h env hm
    obtain ⟨m, hmod, hv⟩ := hm'.2
    exact ⟨⟨m, hmod _, hv⟩, ih hm' _⟩

/-- Every call from an aligned hub over a sound store leaves it aligned when the store it leaves is
sound, and when it fails, leaves it as it was. -/
theorem Aligned.after_call (ha : h.Aligned) (hs : h.Sound env.disk) (c : HubCall)
    (hs' : (c.run.exec h env).2.1.Sound (c.run.exec h env).2.2.disk) :
    (c.run.exec h env).2.1.Aligned ∧
      ∀ e, (c.run.exec h env).1 = .error e → (c.run.exec h env).2.1 = h := by
  cases c with
  | install path =>
    rcases hrun : (install path).exec h env with ⟨o, h', env'⟩
    simp only [HubCall.run, exec_map, hrun] at hs' ⊢
    obtain ⟨ha', herr⟩ := ha.after_install hs hrun hs'
    refine ⟨ha', fun e he => herr e ?_⟩
    -- dropping the answer keeps the failure
    cases o with
    | error e' =>
      cases he
      rfl
    | ok r => cases he
  | uninstall id =>
    rcases hrun : (uninstall id).exec h env with ⟨o, h', env'⟩
    simp only [HubCall.run, hrun]
    exact ha.after_uninstall hs hrun
  | shutdown =>
    rcases hrun : shutdown.exec h env with ⟨o, h', env'⟩
    simp only [HubCall.run, hrun]
    obtain ⟨ha', rfl⟩ := ha.after_shutdown hrun
    exact ⟨ha', fun _ he => by cases he⟩

/-- **Installs are all-or-nothing and keep the hub aligned.** Along every run of installs,
uninstalls and shutdowns from an aligned hub, whose store keeps the records of a valid memory store
before and after each call: after each call, every plugin the manager has loaded is running and
registered as active (and the hub is aligned); and a call that fails leaves the hub, its manager,
its sandbox and its registry, exactly as it was. -/
theorem runs_keep_aligned_and_fail_clean (ha : h.Aligned) (hs : h.Sound env.disk)
    (cs : List HubCall) (hsound : HubCall.Along (fun _ _ h' env' => h'.Sound env'.disk) cs h env) :
    HubCall.Along (fun h o h' _ => h'.Aligned ∧ ∀ e, o = .error e → h' = h) cs h env := by
  -- the induction carries the hub's alignment and its store's soundness from call to call
  induction cs generalizing h env with
  | nil => trivial
  | cons c cs ih =>
    obtain ⟨hs1, hrest⟩ := hsound
    have hstep := ha.after_call hs c hs1
    exact ⟨hstep, ih hstep.1 hs1 hrest⟩

/-- A working directory holding the plugin directory `notes`. -/
def notesDisk : Disk :=
  ⟨.dir [("work", .dir [("notes", .dir [("manifest.json", .file
    "\x7b\"id\":\"notes\",\"name\":\"Notes\",\"version\":\"1.0\"\x7d")])])]⟩

/-- A hub over an empty memory store, with no plugin loaded. -/
def notesHub : Hub :=
  { registry := { store := .single (.memory {}), bus := EventBus.create 8 }, manager := {} }

/-- Installing `notes` twice, uninstalling it and an id never installed, shutting down, and
installing `notes` once more over the closed store: the first install loads the plugin, and every
call keeps the hub aligned, the failing ones leaving it as it was. -/
theorem notes_run_all_or_nothing :
    (((HubCall.install "notes").run.exec notesHub { disk := notesDisk }).2.1.manager.find?
      "notes").isSome = true ∧
    HubCall.Along (fun h o h' _ => h'.Aligned ∧ ∀ e, o = .error e → h' = h)
      [.install "notes", .install "notes", .uninstall "notes", .uninstall "ghost", .shutdown,
        .install "notes"] notesHub { disk := notesDisk } :=
  ⟨by decide +kernel,
    runs_keep_aligned_and_fail_clean (aligned_of_fresh (h := notesHub) List.Pairwise.nil
      ⟨rfl, rfl, rfl⟩) ⟨{}, rfl, MemoryStore.valid_empty⟩ _
      (sound_along_of_onValidMemory (h := notesHub) ⟨trivial, {}, fun _ => rfl,
        MemoryStore.valid_empty⟩ _ _)⟩

end Hub

end Plugboard
