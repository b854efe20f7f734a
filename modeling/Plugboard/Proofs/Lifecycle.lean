import Plugboard.Proofs.ManagerRuns
/-!
# The lifecycle of a managed plugin

The manager's record of a plugin stays coherent with its lifecycle state (`PluginInfo.Coherent`):
a loaded plugin is never recorded as unloaded, it carries a failure exactly in the error state, a
start time when running and a stop time when stopped, and neither time before its first step.
A fresh record is coherent, and so is the record a start or stop leaves, whether the step went
through or failed; every other call leaves the lifecycle fields alone. So every manager reached
from a fresh one has only coherent records, and no call moves the time a plugin was loaded while
the plugin stays.

A start or stop that the record's state refuses fails, naming the plugin, its state and the step,
and changes nothing, the instance included. One that the state allows runs the instance's own step
once, and records how it went: the new state with the time stamped and the failure cleared, or
the error state with the failure.
-/

namespace Plugboard

open Act

namespace PluginInfo

variable {i : PluginInfo} {target : PluginState} {t : Instant}

/-- The bookkeeping of a record agrees with its lifecycle state. -/
structure Coherent (i : PluginInfo) : Prop where
  not_unloaded : i.state ≠ .unloaded
  lastError_isSome : i.lastError.isSome = true ↔ i.state = .error
  started : i.state = .running → i.startedAt.isSome = true
  stopped : i.state = .stopped → i.stoppedAt.isSome = true
  loaded : i.state = .loaded → i.startedAt = none ∧ i.stoppedAt = none

@[simp] theorem loaded_state (md : Metadata) (path : String) (native : Bool) :
    (loaded md path native t).state = .loaded := rfl

@[simp] theorem succeeded_state : (i.succeeded target t).state = target := by
  unfold succeeded; split <;> rfl

@[simp] theorem succeeded_lastError : (i.succeeded target t).lastError = none := by
  unfold succeeded; split <;> rfl

@[simp] theorem succeeded_loadedAt : (i.succeeded target t).loadedAt = i.loadedAt := by
  unfold succeeded; split <;> rfl

@[simp] theorem succeeded_id : (i.succeeded target t).id = i.id := by
  unfold succeeded; split <;> rfl

theorem succeeded_running :
    i.succeeded .running t = { i with state := .running, startedAt := some t, lastError := none } :=
  rfl

theorem succeeded_stopped :
    i.succeeded .stopped t = { i with state := .stopped, stoppedAt := some t, lastError := none } :=
  rfl

@[simp] theorem failed_state (e : Error) : (i.failed e).state = .error := rfl

@[simp] theorem failed_lastError (e : Error) : (i.failed e).lastError = some e.message := rfl

theorem coherent_loaded (md : Metadata) (path : String) (native : Bool) (t : Instant) :
    (loaded md path native t).Coherent where
  not_unloaded := by simp
  lastError_isSome := by simp [loaded]
  started := by simp
  stopped := by simp
  loaded _ := ⟨rfl, rfl⟩

/-- A step that went through to the running or the stopped state leaves a coherent record. -/
theorem coherent_succeeded (h : target = .running ∨ target = .stopped) :
    (i.succeeded target t).Coherent := by
  rcases h with rfl | rfl
  case inl =>
    rw [succeeded_running]
    exact ⟨by simp, by simp, fun _ => rfl, by simp, by simp⟩
  case inr =>
    rw [succeeded_stopped]
    exact ⟨by simp, by simp, by simp, fun _ => rfl, by simp⟩

/-- A failed step leaves a coherent record, whatever the record was before. -/
theorem coherent_failed (e : Error) : (i.failed e).Coherent :=
  ⟨by simp, by simp, by simp, by simp, by simp⟩

theorem Coherent.resources (h : i.Coherent) (u : ResourceUsage) :
    { i with resources := u }.Coherent :=
  ⟨h.not_unloaded, h.lastError_isSome, h.started, h.stopped, h.loaded⟩

end PluginInfo

namespace Manager

variable {m₀ m : Manager} {env : Env} {id : String} {x y : Managed}

/-- Every call keeps every record coherent. -/
theorem keeps_coherent (op : ManagerOp) :
    Keeps (fun m => Sorted m ∧ Each (fun _ x => x.info.Coherent) m) op.run :=
  keeps_each (fun _ _ _ _ _ _ _ _ => PluginInfo.coherent_succeeded (.inl rfl))
    (fun _ _ _ _ _ _ _ _ => PluginInfo.coherent_succeeded (.inr rfl))
    (fun _ _ _ _ _ _ _ _ => PluginInfo.coherent_failed _)
    (fun _ _ _ _ h => h) (fun _ _ _ _ h => h) (fun _ _ u h => h.resources u)
    (fun _ _ _ _ _ _ _ _ => PluginInfo.coherent_loaded _ _ _ _) op

theorem Reachable.coherent (h₀ : Fresh m₀) (h : Reachable m₀ m) :
    Each (fun _ x => x.info.Coherent) m :=
  (h.holds ⟨h₀.sorted, fun p hp => by rw [h₀.plugins] at hp; cases hp⟩ keeps_coherent).2

/-- No call moves the time a plugin was loaded while the plugin stays loaded. -/
theorem loadedAt_kept (hs : Sorted m) (hx : m.find? id = some x) (op : ManagerOp) (env : Env)
    (hy : (op.run.exec m env).2.1.find? id = some y) : y.info.loadedAt = x.info.loadedAt := by
  by_cases hl : ∃ path, op = .load path
  case pos =>
    -- a load either changes nothing or adds a plugin under an id that was free, so not this one
    obtain ⟨path, rfl⟩ := hl
    rw [ManagerOp.run, exec_map] at hy
    rcases load_cases hs.admitted path env with
      ⟨e, he⟩ | ⟨inst, i, sb, -, hnone, -, -, -, he⟩
    case inl =>
      rw [he, hx] at hy
      cases hy
      rfl
    case inr =>
      have hne : id ≠ inst.metadata.id := by
        rintro rfl
        rw [hx] at hnone
        cases hnone
      rw [he] at hy
      change Entries.get? id (Entries.put inst.metadata.id _ m.plugins) = some y at hy
      rw [Entries.get?_put_of_ne hs.plugins hne] at hy
      rw [find?_eq_get?, hy] at hx
      cases hx
      rfl
  case neg =>
    -- every other call keeps, for the plugin under this id, the time it was loaded
    have hk : Keeps (fun m => Sorted m ∧
        Each (fun id' z => id' = id → z.info.loadedAt = x.info.loadedAt) m) op.run :=
      keeps_each_of_ne_load
        (fun _ _ _ _ _ _ _ h hid => (PluginInfo.succeeded_loadedAt).trans (h hid))
        (fun _ _ _ _ _ _ _ h hid => (PluginInfo.succeeded_loadedAt).trans (h hid))
        (fun _ _ _ _ _ _ _ h => h) (fun _ _ _ _ h => h) (fun _ _ _ _ h => h) (fun _ _ _ h => h)
        op fun path h => hl ⟨path, h⟩
    have hq : Each (fun id' z => id' = id → z.info.loadedAt = x.info.loadedAt) m := by
      rintro p hp rfl
      have hp' : m.find? p.1 = some p.2 := (Entries.get?_eq_some_iff hs.plugins).2 hp
      rw [hx] at hp'
      cases hp'
      rfl
    exact ((hk m env ⟨hs, hq⟩).2.find hy) rfl

/-- Along every run from a fresh manager every record is coherent with its lifecycle state, and no
call moves the time a plugin was loaded. A start or stop that the record's state refuses fails,
naming the plugin, its state and the step, and changes nothing; one that it allows runs the
instance's own step once, and ends in the new state with the time stamped and the failure cleared,
or in the error state with the failure, which it returns. -/
theorem lifecycle_legal (h₀ : Fresh m₀) (h : Reachable m₀ m) :
    (∀ p ∈ m.plugins, p.2.info.Coherent) ∧
    (∀ (op : ManagerOp) env id x y, m.find? id = some x →
      (op.run.exec m env).2.1.find? id = some y → y.info.loadedAt = x.info.loadedAt) ∧
    ∀ id x env, m.find? id = some x →
      (x.info.state.canStart = false →
        (start id).exec m env = (.error (.invalidState id x.info.state.name "start"), m, env)) ∧
      (x.info.state.canStart = true →
        (start id).exec m env =
          match Instance.start.exec x.inst env with
          | (.ok (), i, env') =>
            (.ok (),
              { m with
                plugins := Entries.put id
                  ⟨i, { x.info with
                        state := .running
                        startedAt := some env'.clock.now.1
                        lastError := none }⟩ m.plugins },
              { env' with clock := env'.clock.now.2 })
          | (.error e, i, env') =>
            (.error e,
              { m with
                plugins := Entries.put id
                  ⟨i, { x.info with state := .error, lastError := some e.message }⟩ m.plugins },
              env')) ∧
      (x.info.state.canStop = false →
        (stop id).exec m env = (.error (.invalidState id x.info.state.name "stop"), m, env)) ∧
      (x.info.state.canStop = true →
        (stop id).exec m env =
          match Instance.stop.exec x.inst env with
          | (.ok (), i, env') =>
            (.ok (),
              { m with
                plugins := Entries.put id
                  ⟨i, { x.info with
                        state := .stopped
                        stoppedAt := some env'.clock.now.1
                        lastError := none }⟩ m.plugins },
              { env' with clock := env'.clock.now.2 })
          | (.error e, i, env') =>
            (.error e,
              { m with
                plugins := Entries.put id
                  ⟨i, { x.info with state := .error, lastError := some e.message }⟩ m.plugins },
              env')) := by
  have hs := h.sorted h₀
  refine ⟨h.coherent h₀, fun op env _ _ _ hx hy => loadedAt_kept hs hx op env hy,
    fun id x env hx => ⟨fun ha => ?_, fun ha => ?_, fun ha => ?_, fun ha => ?_⟩⟩
  · exact exec_lifecycle_of_refused hx ha
  · exact exec_lifecycle_records hs.plugins hx ha
  · exact exec_lifecycle_of_refused hx ha
  · exact exec_lifecycle_records hs.plugins hx ha

/-- Once `fmt` is loaded and started, every record is coherent, and a second start is refused
and changes nothing. -/
theorem started_plugin_refuses_restart :
    Fresh ({} : Manager) ∧ Reachable {} fmtStarted ∧
      (∀ p ∈ fmtStarted.plugins, p.2.info.Coherent) ∧
      ∀ env, (start "fmt").exec fmtStarted env =
        (.error (.invalidState "fmt" "running" "start"), fmtStarted, env) := by
  obtain ⟨hcoh, -, hstart⟩ := lifecycle_legal Fresh.empty reachable_fmtStarted
  obtain ⟨x, -, hx, -, hrun⟩ := fmtStarted_find
  refine ⟨Fresh.empty, reachable_fmtStarted, hcoh, fun env => ?_⟩
  have h := (hstart "fmt" x env hx).1 (by rw [hrun]; rfl)
  rwa [hrun] at h

end Manager

end Plugboard
