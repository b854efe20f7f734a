import Plugboard.Proofs.Lifecycle
/-!
# The manager's bookkeeping simulates its plugins

The manager records a lifecycle state for each plugin, and manifest and echo plugins keep a state
of their own. The two agree (`Instance.Simulates`): a manifest plugin is initialized, running or
stopped as the manager records it loaded, running or stopped, and the echo plugin is running
exactly when the manager records it running.

The loader makes every plugin fresh, so a prepared plugin agrees with the record of a load; a
start or stop the manager allows is one the plugin takes; events and data leave its state alone.
So the agreement holds along every run from a fresh manager, and with it the manager never
records a failure for these plugins, starts and stops them exactly when their record allows, and
hands a manifest plugin an event or data, alone or in a broadcast, exactly when it records the
plugin running.
-/

namespace Plugboard

open Act

/-- A factory builds its plugin fresh. -/
theorem Factory.build_fresh (f : Factory) : f.build = .echo {} ∨ f.build = .faulty {} := by
  cases f
  · exact .inl rfl
  · exact .inr rfl

namespace Loader

variable {l : Loader} {d : Disk} {path : String} {inst : Instance}

theorem instantiate_fresh {stem : String} (h : l.instantiate stem = .ok inst) :
    inst = .echo {} ∨ inst = .faulty {} := by
  unfold instantiate at h
  dsimp only at h
  split at h
  · cases h
  · split at h
    · cases h
      exact Factory.build_fresh _
    · cases h
    · cases h

/-- The loader makes every plugin fresh: a manifest plugin not yet initialized, or a plugin a
factory has just built. -/
theorem load_fresh (h : l.load d path = .ok inst) :
    (∃ md, inst = .manifest (ManifestPlugin.create md path)) ∨ inst = .echo {} ∨
      inst = .faulty {} := by
  unfold load at h
  simp only [bind, Except.bind] at h
  -- every stage that fails answers an error; a directory gives a manifest plugin, a module the
  -- plugin its factory built
  split at h
  · cases h
  · split at h
    · cases h
    · split at h
      · cases h
        exact .inl ⟨_, rfl⟩
      · split at h
        · cases h
        · rename_i i hi
          split at h
          · cases h
          · cases h
            exact .inr (instantiate_fresh hi)

end Loader

/-- The state the manager records for a manifest plugin in this state of its own: loaded for
initialized, and running and stopped for themselves. An unloaded manifest plugin is in no state
the manager records. -/
def ManifestState.managed : ManifestState → Option PluginState
  | .unloaded => none
  | .initialized => some .loaded
  | .running => some .running
  | .stopped => some .stopped

namespace Instance

variable {i : Instance} {st : PluginState} {p : ManifestPlugin} {q : EchoPlugin} {env : Env}
  {c : List (String × Json)}

theorem exec_start_manifest (hp : p.state = .initialized ∨ p.state = .stopped) :
    start.exec (.manifest p) env =
      (.ok (), .manifest { p with state := .running, startedAt := some env.clock.now.1 },
        { env with clock := env.clock.now.2 }) := by
  rcases hp with hp | hp <;>
  · rw [start, exec_self_bind]
    simp only [hp]
    rw [exec_bind, exec_now]
    simp [ManifestPlugin.start, hp]
    rfl

theorem exec_start_echo :
    start.exec (.echo q) env = (.ok (), .echo { q with running := true }, env) :=
  rfl

theorem exec_stop_manifest (hp : p.state = .running) :
    stop.exec (.manifest p) env =
      (.ok (), .manifest { p with state := .stopped, startedAt := none }, env) := by
  rw [stop, exec_self_bind]
  simp [ManifestPlugin.stop, hp]
  rfl

theorem exec_stop_echo :
    stop.exec (.echo q) env = (.ok (), .echo { q with running := false }, env) :=
  rfl


/-- The state the manager records for a plugin agrees with its instance: a manifest plugin is in
the matching state of its own, and the echo plugin is running exactly when the manager records it
running, and is never recorded as failed. Nothing is asked of the faulty plugin. -/
def Simulates : Instance → PluginState → Prop
  | .manifest p, st => p.state.managed = some st
  | .echo q, st =>
    (st = .loaded ∨ st = .running ∨ st = .stopped) ∧ (st = .running ↔ q.running = true)
  | .faulty _, _ => True

theorem exec_prepare_manifest (hp : p.state = .unloaded) :
    (prepare c).exec (.manifest p) env =
      (.ok (), .manifest { p with config := overlay p.metadata.config c, state := .initialized },
        env) := by
  rw [prepare, exec_self_bind]
  simp [ManifestPlugin.prepare, hp]
  rfl

theorem exec_handleEvent_manifest (e : Event) :
    (handleEvent e).exec (.manifest p) env =
      if p.state = .running then
        (.ok (), .manifest { p with eventsHandled := p.eventsHandled + 1 }, env)
      else (.error (p.refuse "handle events"), .manifest p, env) := by
  rw [handleEvent, exec_self_bind]
  by_cases hp : p.state = .running <;> simp [ManifestPlugin.handleEvent, hp] <;> rfl

theorem processData_manifest_isOk (data : Json) :
    ((processData data).exec (.manifest p) env).1.isOk = true ↔ p.state = .running := by
  rw [processData, exec_self_bind]
  by_cases hp : p.state = .running <;> simp [ManifestPlugin.processData, hp] <;> rfl

theorem processData_manifest_inst (data : Json) :
    ((processData data).exec (.manifest p) env).2.1 =
      .manifest (if p.state = .running then { p with itemsProcessed := p.itemsProcessed + 1 }
        else p) := by
  rw [processData, exec_self_bind]
  by_cases hp : p.state = .running <;> simp [ManifestPlugin.processData, hp] <;> rfl

theorem simulates_prepared {l : Loader} {d : Disk} {path : String} {inst i : Instance}
    {env' : Env} (hl : l.load d path = .ok inst)
    (hp : (prepare c).exec inst env = (.ok (), i, env')) : i.Simulates .loaded := by
  rcases Loader.load_fresh hl with ⟨md, rfl⟩ | rfl | rfl
  · rw [exec_prepare_manifest rfl] at hp
    cases hp
    rfl
  · have he : (prepare c).exec (.echo {}) env = (.ok (), .echo { initialized := true }, env) := rfl
    rw [he] at hp
    cases hp
    exact ⟨.inl rfl, by simp⟩
  · have he : (prepare c).exec (.faulty {}) env = (.ok (), .faulty {}, env) := rfl
    rw [he] at hp
    cases hp
    trivial

/-- A plugin the manager may start takes the start, and then simulates the running state. -/
theorem Simulates.start (hs : i.Simulates st) (hc : st.canStart = true) (env : Env) :
    (Instance.start.exec i env).1 = .ok () ∧
      (Instance.start.exec i env).2.1.Simulates .running := by
  cases i with
  | manifest p =>
    have hp : p.state = .initialized ∨ p.state = .stopped := by
      cases hps : p.state <;> cases st <;>
        simp_all [Simulates, ManifestState.managed, PluginState.canStart]
    rw [exec_start_manifest hp]
    exact ⟨rfl, rfl⟩
  | echo q => exact ⟨rfl, .inr (.inl rfl), by simp⟩
  | faulty f => exact ⟨rfl, trivial⟩

/-- A plugin the manager may stop takes the stop, the faulty plugin apart, and then simulates the
stopped state. -/
theorem Simulates.stop (hs : i.Simulates st) (hc : st.canStop = true) (env : Env) :
    ((Instance.stop.exec i env).1 = .ok () ∨ ∃ f, i = .faulty f) ∧
      (Instance.stop.exec i env).2.1.Simulates .stopped := by
  cases i with
  | manifest p =>
    have hp : p.state = .running := by
      cases hps : p.state <;> cases st <;>
        simp_all [Simulates, ManifestState.managed, PluginState.canStop]
    rw [exec_stop_manifest hp]
    exact ⟨.inl rfl, rfl⟩
  | echo q => exact ⟨.inl rfl, .inr (.inr rfl), by simp⟩
  | faulty f => exact ⟨.inr ⟨f, rfl⟩, trivial⟩

/-- Only the faulty plugin fails a start or stop the manager allows, and it stays the faulty
plugin. -/
theorem Simulates.failed {i' : Instance} {env' : Env} {e : Error} (hs : i.Simulates st)
    (h : (st.canStart = true ∧ Instance.start.exec i env = (.error e, i', env')) ∨
      (st.canStop = true ∧ Instance.stop.exec i env = (.error e, i', env'))) :
    i'.Simulates .error := by
  rcases h with ⟨hc, hr⟩ | ⟨hc, hr⟩
  · have h1 := (hs.start hc env).1
    rw [hr] at h1
    cases h1
  · rcases (hs.stop hc env).1 with h1 | ⟨f, rfl⟩
    · rw [hr] at h1
      cases h1
    · have he : Instance.stop.exec (.faulty f) env =
          (.error (.internal "stop refused"), .faulty f, env) := rfl
      rw [he] at hr
      cases hr
      trivial

theorem Simulates.handleEvent (hs : i.Simulates st) (e : Event) (env : Env) :
    ((Instance.handleEvent e).exec i env).2.1.Simulates st := by
  cases i with
  | manifest p =>
    rw [exec_handleEvent_manifest]
    split <;> exact hs
  | echo q => exact hs
  | faulty f => trivial

theorem Simulates.processData (hs : i.Simulates st) (data : Json) (env : Env) :
    ((Instance.processData data).exec i env).2.1.Simulates st := by
  cases i with
  | manifest p =>
    rw [processData_manifest_inst]
    split <;> exact hs
  | echo q => exact hs
  | faulty f => trivial

/-- A manifest plugin is running exactly when the manager records it running. -/
theorem Simulates.manifest_running (hs : (Instance.manifest p).Simulates st) :
    p.state = .running ↔ st = .running := by
  change p.state.managed = some st at hs
  cases hps : p.state <;> cases st <;> simp_all [ManifestState.managed]

/-- The manager never records a failure for a plugin other than the faulty one. -/
theorem Simulates.ne_error (hs : i.Simulates st) (hi : ∀ f, i ≠ .faulty f) : st ≠ .error := by
  rintro rfl
  cases i with
  | manifest p => cases hps : p.state <;> simp_all [Simulates, ManifestState.managed]
  | echo q => simp [Simulates] at hs
  | faulty f => exact hi f rfl

end Instance

namespace Manager

variable {m₀ m : Manager} {id : String} {x : Managed}

/-- Every call keeps each plugin's record simulating its instance. -/
theorem keeps_simulates (op : ManagerOp) :
    Keeps (fun m => Sorted m ∧ Each (fun _ x => x.inst.Simulates x.info.state) m) op.run :=
  keeps_each
    (fun _ _ _ env _ hc hr hs => by
      have h := (hs.start hc env).2
      rw [hr] at h
      simpa using h)
    (fun _ _ _ env _ hc hr hs => by
      have h := (hs.stop hc env).2
      rw [hr] at h
      simpa using h)
    (fun _ _ _ _ _ _ h hs => hs.failed h)
    (fun _ _ e env hs => hs.handleEvent e env)
    (fun _ _ data env hs => hs.processData data env)
    (fun _ _ _ hs => hs)
    (fun _ _ _ _ _ _ hl hp => Instance.simulates_prepared hl hp) op

theorem Reachable.simulates (h₀ : Fresh m₀) (h : Reachable m₀ m) :
    Each (fun _ x => x.inst.Simulates x.info.state) m :=
  (h.holds ⟨h₀.sorted, fun p hp => by rw [h₀.plugins] at hp; cases hp⟩ keeps_simulates).2

section Consequences

variable (hs : Sorted m) (hsim : Each (fun _ x => x.inst.Simulates x.info.state) m)
  (hx : m.find? id = some x)
include hs hsim hx

/-- A plugin takes a start exactly when its record allows it. -/
theorem start_ok_iff (env : Env) :
    ((start id).exec m env).1 = .ok () ↔ x.info.state.canStart = true := by
  cases hc : x.info.state.canStart
  case false =>
    rw [start, exec_lifecycle_of_refused hx hc]
    simp
  case true =>
    have h1 := ((hsim.find hx).start hc env).1
    rw [start, exec_lifecycle_records hs.plugins hx hc]
    rcases hr : Instance.start.exec x.inst env with ⟨_ | u, i, env'⟩
    · rw [hr] at h1
      cases h1
    · simp

/-- A plugin other than the faulty one takes a stop exactly when its record allows it. -/
theorem stop_ok_iff (hi : ∀ f, x.inst ≠ .faulty f) (env : Env) :
    ((stop id).exec m env).1 = .ok () ↔ x.info.state.canStop = true := by
  cases hc : x.info.state.canStop
  case false =>
    rw [stop, exec_lifecycle_of_refused hx hc]
    simp
  case true =>
    have h1 : (Instance.stop.exec x.inst env).1 = .ok () :=
      ((hsim.find hx).stop hc env).1.resolve_right fun ⟨f, hf⟩ => hi f hf
    rw [stop, exec_lifecycle_records hs.plugins hx hc]
    rcases hr : Instance.stop.exec x.inst env with ⟨_ | u, i, env'⟩
    · rw [hr] at h1
      cases h1
    · simp

end Consequences

section Manifest

variable {p : ManifestPlugin} (hsim : Each (fun _ x => x.inst.Simulates x.info.state) m)
  (hx : m.find? id = some x) (hp : x.inst = .manifest p)
include hsim hx hp

theorem manifest_running_iff : p.state = .running ↔ x.info.state = .running := by
  have h : x.inst.Simulates x.info.state := hsim.find hx
  rw [hp] at h
  exact h.manifest_running

/-- A manifest plugin takes an event exactly when the manager records it running. -/
theorem sendEvent_ok_iff (e : Event) (env : Env) :
    ((sendEvent id e).exec m env).1.isOk = true ↔ x.info.state = .running := by
  rw [sendEvent_answer, hx]
  dsimp only
  rw [hp, Instance.exec_handleEvent_manifest, ← manifest_running_iff hsim hx hp]
  split <;> simp_all [Except.isOk, Except.toBool]

/-- A manifest plugin takes data exactly when the manager records it running. -/
theorem processData_ok_iff (data : Json) (env : Env) :
    ((processData id data).exec m env).1.isOk = true ↔ x.info.state = .running := by
  rw [processData, exec_onInstance_of_find hx]
  dsimp only
  rw [hp, Instance.processData_manifest_isOk, manifest_running_iff hsim hx hp]

end Manifest

/-- Along every run from a fresh manager the manager's record of each plugin simulates its
instance. So the manager never records a failure for a plugin other than the faulty one, starts
and stops it exactly when the record's state allows, and hands a manifest plugin an event or data,
alone or as its part of a broadcast, exactly when it records the plugin running. -/
theorem bookkeeping_simulates (h₀ : Fresh m₀) (h : Reachable m₀ m) :
    (∀ p ∈ m.plugins, p.2.inst.Simulates p.2.info.state) ∧
    ∀ id x, m.find? id = some x → (∀ f, x.inst ≠ .faulty f) →
      x.info.state ≠ .error ∧
      (∀ env, ((start id).exec m env).1 = .ok () ↔ x.info.state.canStart = true) ∧
      (∀ env, ((stop id).exec m env).1 = .ok () ↔ x.info.state.canStop = true) ∧
      ∀ p, x.inst = .manifest p → ∀ (e : Event) (data : Json) (env : Env),
        (((sendEvent id e).exec m env).1.isOk = true ↔ x.info.state = .running) ∧
        (((processData id data).exec m env).1.isOk = true ↔ x.info.state = .running) ∧
        ((broadcast e).exec m env).1 =
          (let failures := (Entries.keys m.plugins).filterMap fun k =>
            refusal k ((sendEvent k e).exec m env).1
          if failures = [] then .ok m.plugins.length
          else .error (.eventDelivery (failures.mergeSort fun a b => decide (a ≤ b)))) ∧
        (refusal id ((sendEvent id e).exec m env).1 = none ↔ x.info.state = .running) := by
  have hs := h.sorted h₀
  have hsim := h.simulates h₀
  refine ⟨hsim, fun id x hx hi => ⟨(hsim.find hx).ne_error hi, start_ok_iff hs hsim hx,
    stop_ok_iff hs hsim hx hi, fun p hp e data env => ⟨sendEvent_ok_iff hsim hx hp e env,
    processData_ok_iff hsim hx hp data env, broadcast_answer hs.plugins e, ?_⟩⟩⟩
  -- a broadcast hands the plugin the event as a delivery to it alone would
  rw [refusal_eq_none]
  exact sendEvent_ok_iff hsim hx hp e env

/-- Once `fmt` is loaded and started, every instance is in the state its record names, and `fmt`
takes events and data and may stop. -/
theorem started_plugin_simulated :
    Fresh ({} : Manager) ∧ Reachable {} fmtStarted ∧
      (∀ p ∈ fmtStarted.plugins, p.2.inst.Simulates p.2.info.state) ∧
      ∀ (e : Event) (data : Json) (env : Env),
        ((sendEvent "fmt" e).exec fmtStarted env).1.isOk = true ∧
        ((processData "fmt" data).exec fmtStarted env).1.isOk = true ∧
        ((stop "fmt").exec fmtStarted env).1 = .ok () := by
  obtain ⟨hsim, hone⟩ := bookkeeping_simulates Fresh.empty reachable_fmtStarted
  obtain ⟨x, p, hx, hp, hrun⟩ := fmtStarted_find
  have hnf : ∀ f, x.inst ≠ .faulty f := fun f h => by
    rw [hp] at h
    cases h
  obtain ⟨-, -, hstop, hman⟩ := hone "fmt" x hx hnf
  refine ⟨Fresh.empty, reachable_fmtStarted, hsim, fun e data env => ?_⟩
  obtain ⟨hev, hdata, -, -⟩ := hman p hp e data env
  exact ⟨hev.2 hrun, hdata.2 hrun, (hstop env).2 (by rw [hrun]; rfl)⟩

end Manager

end Plugboard
