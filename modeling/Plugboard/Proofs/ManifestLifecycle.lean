import Plugboard.Proofs.Simulation
/-!
# The lifecycle of a manifest plugin

A plugin described by a manifest is a small state machine driven by the seven calls of the
instance interface (`Instance.Call`). Which call its state allows is fixed once
(`Instance.Call.allowedIn`): it initializes only when unloaded, starts when initialized or
stopped, stops, handles events and processes data only when running, and cleans up and reports its
status in every state. A call the state allows answers and changes the plugin as
`ManifestPlugin.after` says; one it refuses fails with `InvalidState`, naming the plugin, its
state and the action, and changes nothing at all.

Along every run from a fresh plugin the plugin agrees with the trace of its calls
(`ManifestPlugin.Follows`): it holds a start time exactly while running, its two counters are the
numbers of events handled and data processed by calls that succeeded, cleanups included, and its
configuration is the manifest's with the last initializing one laid over it key by key, until a
cleanup clears it. Laying members over others is `overlay`; the manifest's configuration is an
object, so its keys are sorted and distinct (`Entries.Keyed`), and then a key's value after the
overlay is the top one's, else the base's (`Json.lookupField_overlay`).
-/

namespace Plugboard

open Act

/-! ## Members of an object sorted by key -/

namespace Json

variable {l : List (String × Json)} {k k' : String} {v : Json}

theorem lookupField_cons (k k' : String) (v : Json) (l : List (String × Json)) :
    lookupField k ((k', v) :: l) = (lookupField k l).or (if k' = k then some v else none) := by
  simp only [lookupField]
  cases lookupField k l <;> rfl

theorem lookupField_of_forall_ne (h : ∀ x ∈ l, x.1 ≠ k) : lookupField k l = none := by
  induction l with
  | nil => rfl
  | cons x l ih =>
    rw [lookupField_cons, ih fun y hy => h y (List.mem_cons_of_mem _ hy),
      if_neg (h x List.mem_cons_self)]
    rfl

theorem mem_insertSorted {x : String × Json} (hx : x ∈ insertSorted k v l) :
    x = (k, v) ∨ x ∈ l := by
  induction l with
  | nil => simpa [insertSorted] using hx
  | cons y l ih =>
    simp only [insertSorted] at hx
    split at hx
    · rcases List.mem_cons.1 hx with rfl | hx
      · exact .inl rfl
      · exact .inr (List.mem_cons_of_mem _ hx)
    · split at hx
      · rcases List.mem_cons.1 hx with rfl | hx
        · exact .inl rfl
        · exact .inr hx
      · rcases List.mem_cons.1 hx with rfl | hx
        · exact .inr List.mem_cons_self
        · exact (ih hx).imp_right (List.mem_cons_of_mem _)

/-- Putting a member in keeps the members sorted by key, each key once. -/
theorem keyed_insertSorted (hl : Entries.Keyed l) : Entries.Keyed (insertSorted k v l) := by
  induction l with
  | nil => exact List.pairwise_singleton _ _
  | cons y l ih =>
    rw [Entries.Keyed, List.pairwise_cons] at hl
    simp only [insertSorted]
    split
    · rename_i hk
      subst hk
      exact List.pairwise_cons.2 ⟨hl.1, hl.2⟩
    · split
      · rename_i _ hlt
        refine List.pairwise_cons.2 ⟨?_, List.pairwise_cons.2 hl⟩
        intro x hx
        rcases List.mem_cons.1 hx with rfl | hx
        · exact hlt
        · exact lt_trans hlt (hl.1 x hx)
      · rename_i hne hlt
        have hgt : y.1 < k := lt_of_le_of_ne (not_lt.1 hlt) (Ne.symm hne)
        refine List.pairwise_cons.2 ⟨fun x hx => ?_, ih hl.2⟩
        rcases mem_insertSorted hx with rfl | hx
        · exact hgt
        · exact hl.1 x hx

/-- After putting a member in, its key has the new value and every other key its old one. -/
theorem lookupField_insertSorted (hl : Entries.Keyed l) (k' : String) :
    lookupField k' (insertSorted k v l) = if k = k' then some v else lookupField k' l := by
  induction l with
  | nil => simp [insertSorted, lookupField]
  | cons y l ih =>
    rw [Entries.Keyed, List.pairwise_cons] at hl
    simp only [insertSorted]
    split
    · -- the member replaces the one with its key, which is the only one
      rename_i hk
      subst hk
      rw [lookupField_cons, lookupField_cons]
      by_cases hk' : y.1 = k'
      · subst hk'
        rw [lookupField_of_forall_ne fun x hx => ne_of_gt (hl.1 x hx)]
        simp
      · simp [hk']
    · split
      · -- the member goes first, before every key of the list, so its key is in none of them
        rename_i _ hlt
        rw [lookupField_cons]
        by_cases hk' : k = k'
        · subst hk'
          have hnone : lookupField k (y :: l) = none :=
            lookupField_of_forall_ne fun x hx => by
              rcases List.mem_cons.1 hx with rfl | hx
              · exact ne_of_gt hlt
              · exact ne_of_gt (lt_trans hlt (hl.1 x hx))
          simp [hnone]
        · simp [hk']
      · rw [lookupField_cons, ih hl.2, lookupField_cons]
        by_cases hk' : k = k'
        · simp [hk']
        · simp [hk']

/-- Laying members over sorted ones gives each key the top value when there is one, and the base
value otherwise. -/
theorem lookupField_overlay {base : List (String × Json)} (hb : Entries.Keyed base)
    (top : List (String × Json)) (k : String) :
    lookupField k (overlay base top) = (lookupField k top).or (lookupField k base) := by
  induction top generalizing base with
  | nil => rfl
  | cons m top ih =>
    -- the first member goes in first, and the rest are laid over the result
    rw [overlay, List.foldl_cons, ← overlay, ih (keyed_insertSorted hb),
      lookupField_insertSorted hb, lookupField_cons, Option.or_assoc]
    by_cases hm : m.1 = k <;> simp [hm]

end Json

/-! ## The calls of the instance interface -/

namespace Instance

/-- A call of the instance interface; `prepare` initializes the plugin with a configuration. -/
inductive Call where
  | prepare (config : List (String × Json))
  | start
  | stop
  | cleanup
  | status
  | handleEvent (e : Event)
  | processData (data : Json)

namespace Call

/-- Making a call, with its answer as JSON: `null` for the calls that answer nothing. -/
def run : Call → Act Instance Json
  | prepare config => (fun _ => .null) <$> Instance.prepare config
  | start => (fun _ => .null) <$> Instance.start
  | stop => (fun _ => .null) <$> Instance.stop
  | cleanup => (fun _ => .null) <$> Instance.cleanup
  | status => do return (← Act.self).status.toJson
  | handleEvent e => (fun _ => .null) <$> Instance.handleEvent e
  | processData data => Instance.processData data

/-- Whether a manifest plugin in state `st` takes the call: it initializes only when unloaded,
starts when initialized or stopped, stops, handles events and processes data only when running,
and cleans up and reports its status in every state. -/
def allowedIn : Call → ManifestState → Bool
  | prepare _, st => st == .unloaded
  | start, st => st == .initialized || st == .stopped
  | stop, st | handleEvent _, st | processData _, st => st == .running
  | cleanup, _ | status, _ => true

/-- The action a refusal of the call names. Cleaning up and reporting the status are never
refused. -/
def action : Call → String
  | prepare _ => "initialize"
  | start => "start"
  | stop => "stop"
  | cleanup => "clean up"
  | status => "report status"
  | handleEvent _ => "handle events"
  | processData _ => "process data"

/-- Whether the call hands the plugin an event. -/
def handlesEvent : Call → Bool
  | handleEvent _ => true
  | _ => false

/-- Whether the call hands the plugin data. -/
def processesData : Call → Bool
  | processData _ => true
  | _ => false

/-- The initializing configuration in force after the call succeeds, from the one before it:
a preparation brings its own, a cleanup clears it, and every other call keeps it. -/
def configAfter : Call → Option (List (String × Json)) → Option (List (String × Json))
  | prepare config, _ => some config
  | cleanup, _ => none
  | _, given => given

end Call

end Instance

namespace ManifestPlugin

open Instance

/-- What a call its state allows leaves the plugin as, a start stamped with the clock reading
`t`. -/
def after (p : ManifestPlugin) (t : Instant) : Call → ManifestPlugin
  | .prepare config => { p with config := overlay p.metadata.config config, state := .initialized }
  | .start => { p with state := .running, startedAt := some t }
  | .stop => { p with state := .stopped, startedAt := none }
  | .cleanup => p.cleanup
  | .status => p
  | .handleEvent _ => { p with eventsHandled := p.eventsHandled + 1 }
  | .processData _ => { p with itemsProcessed := p.itemsProcessed + 1 }

variable {p q : ManifestPlugin} {c : Call} {env : Env}

theorem exec_onManifest_error {α : Type} (e : Error) (i : Instance) :
    (onManifest (.error e : Outcome (α × ManifestPlugin))).exec i env = (.error e, i, env) := rfl

theorem exec_onManifest_ok {α : Type} (x : α) (i : Instance) :
    (onManifest (.ok (x, q))).exec i env = (.ok x, .manifest q, env) := rfl

/-- A call the plugin's state refuses fails with `InvalidState`, naming the plugin, its state
and the action, and changes neither the plugin nor the environment. -/
theorem exec_of_refused (h : c.allowedIn p.state = false) :
    c.run.exec (.manifest p) env = (.error (p.refuse c.action), .manifest p, env) := by
  cases c with
  | prepare cfg =>
    have hs : p.state ≠ .unloaded := by simpa [Call.allowedIn] using h
    simp [Call.run, exec_map, Instance.prepare, ManifestPlugin.prepare, hs, exec_onManifest_error,
      Except.map, Call.action]
  | start =>
    have hs : p.state ≠ .initialized ∧ p.state ≠ .stopped := by simpa [Call.allowedIn] using h
    simp only [Call.run, exec_map, Instance.start, exec_self_bind]
    cases hst : p.state <;> simp_all [exec_fail, Except.map, Call.action]
  | stop =>
    have hs : p.state ≠ .running := by simpa [Call.allowedIn] using h
    simp [Call.run, exec_map, Instance.stop, ManifestPlugin.stop, hs, exec_onManifest_error,
      Except.map, Call.action]
  | cleanup => cases h
  | status => cases h
  | handleEvent e =>
    have hs : p.state ≠ .running := by simpa [Call.allowedIn] using h
    simp [Call.run, exec_map, Instance.handleEvent, ManifestPlugin.handleEvent, hs,
      exec_onManifest_error, Except.map, Call.action]
  | processData d =>
    have hs : p.state ≠ .running := by simpa [Call.allowedIn] using h
    simp [Call.run, Instance.processData, ManifestPlugin.processData, hs,
      exec_onManifest_error, Call.action]

/-- A call the plugin's state allows answers, and leaves the plugin as `after` says. -/
theorem exec_of_allowed (h : c.allowedIn p.state = true) (env : Env) :
    ∃ x env', c.run.exec (.manifest p) env = (.ok x, .manifest (p.after env.clock.now.1 c), env') := by
  cases c with
  | prepare cfg =>
    have hs : p.state = .unloaded := by simpa [Call.allowedIn] using h
    exact ⟨.null, env, by rw [Call.run, exec_map, exec_prepare_manifest hs]; rfl⟩
  | start =>
    have hs : p.state = .initialized ∨ p.state = .stopped := by simpa [Call.allowedIn] using h
    exact ⟨.null, _, by rw [Call.run, exec_map, exec_start_manifest hs]; rfl⟩
  | stop =>
    have hs : p.state = .running := by simpa [Call.allowedIn] using h
    exact ⟨.null, env, by rw [Call.run, exec_map, exec_stop_manifest hs]; rfl⟩
  | cleanup => exact ⟨.null, env, rfl⟩
  | status => exact ⟨_, env, rfl⟩
  | handleEvent e =>
    have hs : p.state = .running := by simpa [Call.allowedIn] using h
    exact ⟨.null, env, by rw [Call.run, exec_map, exec_handleEvent_manifest, if_pos hs]; rfl⟩
  | processData d =>
    have hs : p.state = .running := by simpa [Call.allowedIn] using h
    refine ⟨.obj [("config", .obj p.config), ("data", d), ("plugin_id", .str p.metadata.id),
      ("version", .str p.metadata.version)], env, ?_⟩
    simp [Call.run, Instance.processData, ManifestPlugin.processData, hs, exec_onManifest_ok,
      after]

end ManifestPlugin


/-! ## Runs -/

namespace Instance

/-- The instance and the environment after each call of a run is made in turn, from where the
one before left them, whatever it answered. -/
def runCalls : List Call → Instance → Env → Instance × Env
  | [], i, env => (i, env)
  | c :: cs, i, env => runCalls cs (c.run.exec i env).2.1 (c.run.exec i env).2.2

/-- Each call of a run with whether it succeeded, in order. -/
def trace : List Call → Instance → Env → List (Call × Bool)
  | [], _, _ => []
  | c :: cs, i, env =>
    (c, (c.run.exec i env).1.isOk) :: trace cs (c.run.exec i env).2.1 (c.run.exec i env).2.2

/-- How many of the calls of a trace that `pick` selects succeeded. -/
def succeeded (pick : Call → Bool) (t : List (Call × Bool)) : Nat :=
  t.countP fun x => x.2 && pick x.1

/-- The initializing configuration in force after a trace: the one its last successful
preparation brought, unless a cleanup came after it. -/
def givenConfig (t : List (Call × Bool)) : Option (List (String × Json)) :=
  t.foldl (fun given x => if x.2 then x.1.configAfter given else given) none

variable {t : List (Call × Bool)} {c : Call}

@[simp] theorem succeeded_nil (pick : Call → Bool) : succeeded pick [] = 0 := rfl

@[simp] theorem succeeded_append_refused (pick : Call → Bool) :
    succeeded pick (t ++ [(c, false)]) = succeeded pick t := by
  simp [succeeded, List.countP_append]

@[simp] theorem succeeded_append_taken (pick : Call → Bool) :
    succeeded pick (t ++ [(c, true)]) = succeeded pick t + if pick c then 1 else 0 := by
  simp [succeeded, List.countP_append]

@[simp] theorem givenConfig_nil : givenConfig [] = none := rfl

@[simp] theorem givenConfig_append_refused : givenConfig (t ++ [(c, false)]) = givenConfig t := by
  simp [givenConfig, List.foldl_append]

@[simp] theorem givenConfig_append_taken :
    givenConfig (t ++ [(c, true)]) = c.configAfter (givenConfig t) := by
  simp [givenConfig, List.foldl_append]

end Instance

namespace ManifestPlugin

open Instance Json

/-- A manifest plugin made from the metadata `m` agrees with the trace `t` of the calls it took:
it holds a start time exactly while running, it is unloaded exactly when no preparation is in
force, its counters count the events and data of the calls that succeeded, and its configuration
is empty while unloaded and otherwise the manifest's with the preparing one laid over it. -/
structure Follows (m : Metadata) (t : List (Call × Bool)) (p : ManifestPlugin) : Prop where
  metadata : p.metadata = m
  startedAt : p.startedAt.isSome = true ↔ p.state = .running
  unloaded : givenConfig t = none ↔ p.state = .unloaded
  eventsHandled : p.eventsHandled = succeeded Call.handlesEvent t
  itemsProcessed : p.itemsProcessed = succeeded Call.processesData t
  cleared : givenConfig t = none → p.config = []
  overlaid : ∀ c, givenConfig t = some c →
    ∀ k, lookupField k p.config = (lookupField k c).or (lookupField k m.config)

variable {m : Metadata} {t : List (Call × Bool)} {p : ManifestPlugin} {c : Call}

/-- A fresh plugin agrees with the empty trace. -/
theorem follows_create (m : Metadata) (directory : String) : Follows m [] (create m directory) where
  metadata := rfl
  startedAt := by simp [create]
  unloaded := by simp [create]
  eventsHandled := rfl
  itemsProcessed := rfl
  cleared _ := rfl
  overlaid _ h := by cases h

/-- Agreement with a trace depends only on the configuration in force and the two counts. -/
theorem Follows.of_trace {t' : List (Call × Bool)} (hf : Follows m t p)
    (hg : givenConfig t' = givenConfig t)
    (he : succeeded Call.handlesEvent t' = succeeded Call.handlesEvent t)
    (hi : succeeded Call.processesData t' = succeeded Call.processesData t) : Follows m t' p :=
  ⟨hf.metadata, hf.startedAt, hg ▸ hf.unloaded, he ▸ hf.eventsHandled, hi ▸ hf.itemsProcessed,
    hg ▸ hf.cleared, hg ▸ hf.overlaid⟩

/-- A refused call leaves the plugin agreeing with the longer trace. -/
theorem Follows.refused (hf : Follows m t p) : Follows m (t ++ [(c, false)]) p :=
  hf.of_trace (by simp) (by simp) (by simp)

/-- A call that keeps the configuration, taken in a state other than unloaded and leaving one
other than unloaded, keeps the plugin agreeing with the trace in all but the lifecycle fields it
changes. -/
theorem Follows.configKept {p' : ManifestPlugin} (hf : Follows m t p) (hc : c.configAfter = id)
    (hs : p.state ≠ .unloaded) (hs' : p'.state ≠ .unloaded) (hmeta : p'.metadata = p.metadata)
    (hconfig : p'.config = p.config) (hstart : p'.startedAt.isSome = true ↔ p'.state = .running)
    (he : p'.eventsHandled = succeeded Call.handlesEvent (t ++ [(c, true)]))
    (hi : p'.itemsProcessed = succeeded Call.processesData (t ++ [(c, true)])) :
    Follows m (t ++ [(c, true)]) p' := by
  have hg : givenConfig (t ++ [(c, true)]) = givenConfig t := by
    rw [givenConfig_append_taken, hc, id]
  refine ⟨hmeta.trans hf.metadata, hstart, ?_, he, hi, ?_, ?_⟩
  · rw [hg]
    exact ⟨fun h => absurd (hf.unloaded.1 h) hs, fun h => absurd h hs'⟩
  · rw [hg, hconfig]
    exact hf.cleared
  · rw [hg, hconfig]
    exact hf.overlaid

/-- A call the plugin's state allows leaves it agreeing with the longer trace. -/
theorem Follows.after (hm : Entries.Keyed m.config) (hf : Follows m t p)
    (h : c.allowedIn p.state = true) (tm : Instant) : Follows m (t ++ [(c, true)]) (p.after tm c) := by
  cases c with
  | prepare cfg =>
    -- an unloaded plugin has no start time, and takes the manifest's configuration afresh
    have hs : p.state = .unloaded := by simpa [Call.allowedIn] using h
    have hst : p.startedAt.isSome = false := by simpa [hs] using hf.startedAt
    refine ⟨hf.metadata, by simpa [after] using hst, by simp [after, Call.configAfter],
      by simp [after, Call.handlesEvent, hf.eventsHandled],
      by simp [after, Call.processesData, hf.itemsProcessed], by simp [Call.configAfter], ?_⟩
    intro given hg k
    simp only [givenConfig_append_taken, Call.configAfter, Option.some.injEq] at hg
    rw [after, ← hg, ← hf.metadata]
    exact lookupField_overlay (hf.metadata ▸ hm) cfg k
  | start =>
    have hs : p.state = .initialized ∨ p.state = .stopped := by simpa [Call.allowedIn] using h
    refine hf.configKept rfl ?_ (by simp [after]) rfl rfl (by simp [after])
      (by simp [after, Call.handlesEvent, hf.eventsHandled])
      (by simp [after, Call.processesData, hf.itemsProcessed])
    rcases hs with hs | hs <;> simp [hs]
  | stop =>
    have hs : p.state = .running := by simpa [Call.allowedIn] using h
    exact hf.configKept rfl (by simp [hs]) (by simp [after]) rfl rfl (by simp [after])
      (by simp [after, Call.handlesEvent, hf.eventsHandled])
      (by simp [after, Call.processesData, hf.itemsProcessed])
  | cleanup =>
    refine ⟨hf.metadata, by simp [after, cleanup], by simp [after, cleanup, Call.configAfter],
      by simp [after, cleanup, Call.handlesEvent, hf.eventsHandled],
      by simp [after, cleanup, Call.processesData, hf.itemsProcessed], fun _ => rfl, ?_⟩
    intro given hg
    simp [Call.configAfter] at hg
  | status =>
    show Follows m (t ++ [(.status, true)]) p
    exact hf.of_trace (by simp [Call.configAfter]) (by simp [Call.handlesEvent])
      (by simp [Call.processesData])
  | handleEvent e =>
    have hs : p.state = .running := by simpa [Call.allowedIn] using h
    exact hf.configKept rfl (by simp [hs]) (by simp [after, hs]) rfl rfl
      (by simpa [after] using hf.startedAt) (by simp [after, Call.handlesEvent, hf.eventsHandled])
      (by simp [after, Call.processesData, hf.itemsProcessed])
  | processData d =>
    have hs : p.state = .running := by simpa [Call.allowedIn] using h
    exact hf.configKept rfl (by simp [hs]) (by simp [after, hs]) rfl rfl
      (by simpa [after] using hf.startedAt) (by simp [after, Call.handlesEvent, hf.eventsHandled])
      (by simp [after, Call.processesData, hf.itemsProcessed])

/-- Every call leaves the plugin a manifest plugin agreeing with the trace one call longer. -/
theorem Follows.call (hm : Entries.Keyed m.config) (hf : Follows m t p) (c : Call) (env : Env) :
    ∃ p', (c.run.exec (.manifest p) env).2.1 = .manifest p' ∧
      Follows m (t ++ [(c, (c.run.exec (.manifest p) env).1.isOk)]) p' := by
  cases h : c.allowedIn p.state with
  | false =>
    rw [exec_of_refused h]
    exact ⟨p, rfl, hf.refused⟩
  | true =>
    obtain ⟨x, env', he⟩ := exec_of_allowed h env
    rw [he]
    exact ⟨_, rfl, hf.after hm h _⟩

/-- Along a run the plugin stays a manifest plugin, agreeing with the trace extended by the run's
own. -/
theorem Follows.run (hm : Entries.Keyed m.config) (cs : List Call) :
    ∀ (t : List (Call × Bool)) (p : ManifestPlugin) (env : Env), Follows m t p →
      ∃ p', (runCalls cs (.manifest p) env).1 = .manifest p' ∧
        Follows m (t ++ trace cs (.manifest p) env) p' := by
  induction cs with
  | nil => exact fun t p _ hf => ⟨p, rfl, by simpa [trace] using hf⟩
  | cons c cs ih =>
    intro t p env hf
    -- the first call extends the trace by one, and the rest of the run goes on from there
    obtain ⟨p1, h1, hf1⟩ := hf.call hm c env
    obtain ⟨p', h', hf'⟩ := ih _ p1 (c.run.exec (.manifest p) env).2.2 hf1
    refine ⟨p', by rw [runCalls, h1]; exact h', ?_⟩
    rw [trace, h1, ← List.singleton_append, ← List.append_assoc]
    exact hf'

/-- What a plugin reports: running, with one worker, exactly in the running state. -/
theorem status_running_iff : p.status.running = true ↔ p.state = .running := by
  simp [status]

theorem status_workers_eq_one_iff : p.status.workers = 1 ↔ p.state = .running := by
  by_cases hs : p.state = .running <;> simp [status, hs]

/-- **The lifecycle of a manifest plugin.** Run any calls of the instance interface on a plugin
fresh from a manifest. Then the next call succeeds exactly when the state allows it, and one it
refuses fails with `InvalidState`, naming the plugin, its state and the action, and changes
nothing. Throughout, the plugin holds a start time, reports itself running and has one worker
exactly while running; it has counted every event handled and every datum processed by the calls
that succeeded since it was made; and its configuration is the manifest's with the last
preparing one laid over it key by key, until a cleanup empties it. -/
theorem manifest_plugin_follows_its_lifecycle (m : Metadata) (directory : String)
    (hm : Entries.Keyed m.config) (cs : List Call) (env : Env) :
    ∃ p, (runCalls cs (.manifest (create m directory)) env).1 = .manifest p ∧
      (∀ (c : Call) (env' : Env),
        (c.run.exec (.manifest p) env').1.isOk = c.allowedIn p.state ∧
        (c.allowedIn p.state = false →
          c.run.exec (.manifest p) env' =
            (.error (.invalidState m.id p.state.name c.action), .manifest p, env'))) ∧
      (p.startedAt.isSome = true ↔ p.state = .running) ∧
      ((Instance.manifest p).status.running = true ↔ p.state = .running) ∧
      ((Instance.manifest p).status.workers = 1 ↔ p.state = .running) ∧
      p.eventsHandled =
        succeeded Call.handlesEvent (trace cs (.manifest (create m directory)) env) ∧
      p.itemsProcessed =
        succeeded Call.processesData (trace cs (.manifest (create m directory)) env) ∧
      (givenConfig (trace cs (.manifest (create m directory)) env) = none ↔
        p.state = .unloaded) ∧
      (givenConfig (trace cs (.manifest (create m directory)) env) = none → p.config = []) ∧
      ∀ given, givenConfig (trace cs (.manifest (create m directory)) env) = some given →
        ∀ k, lookupField k p.config = (lookupField k given).or (lookupField k m.config) := by
  obtain ⟨p, hp, hf⟩ := Follows.run hm cs [] _ env (follows_create m directory)
  rw [List.nil_append] at hf
  refine ⟨p, hp, fun c env' => ⟨?_, fun h => ?_⟩, hf.startedAt, status_running_iff,
    status_workers_eq_one_iff, hf.eventsHandled, hf.itemsProcessed, hf.unloaded, hf.cleared,
    hf.overlaid⟩
  · cases h : c.allowedIn p.state with
    | false => rw [exec_of_refused h]; rfl
    | true =>
      obtain ⟨x, env'', he⟩ := exec_of_allowed h env'
      rw [he]
      rfl
  · rw [exec_of_refused h, refuse, hf.metadata]

/-- A formatter whose manifest sets an indent and a style, prepared with a style of its own,
then started twice, handed data and stopped, follows its lifecycle. -/
theorem formatter_follows_its_lifecycle :
    let m : Metadata := { Metadata.create "fmt" "Formatter" "1.0.0" with
      config := [("indent", Json.ofNat 2), ("style", .str "compact")] }
    let cs : List Call :=
      [.prepare [("style", .str "pretty")], .start, .start, .processData .null, .stop]
    let i := Instance.manifest (create m "/plugins/fmt")
    Entries.Keyed m.config ∧
    ∃ p, (runCalls cs i {}).1 = .manifest p ∧
      (∀ (c : Call) (env' : Env),
        (c.run.exec (.manifest p) env').1.isOk = c.allowedIn p.state ∧
        (c.allowedIn p.state = false →
          c.run.exec (.manifest p) env' =
            (.error (.invalidState m.id p.state.name c.action), .manifest p, env'))) ∧
      (p.startedAt.isSome = true ↔ p.state = .running) ∧
      ((Instance.manifest p).status.running = true ↔ p.state = .running) ∧
      ((Instance.manifest p).status.workers = 1 ↔ p.state = .running) ∧
      p.eventsHandled = succeeded Call.handlesEvent (trace cs i {}) ∧
      p.itemsProcessed = succeeded Call.processesData (trace cs i {}) ∧
      (givenConfig (trace cs i {}) = none ↔ p.state = .unloaded) ∧
      (givenConfig (trace cs i {}) = none → p.config = []) ∧
      ∀ given, givenConfig (trace cs i {}) = some given →
        ∀ k, lookupField k p.config = (lookupField k given).or (lookupField k m.config) := by
  intro m cs i
  have hm : Entries.Keyed m.config := by simp only [m, Entries.Keyed]; decide
  exact ⟨hm, manifest_plugin_follows_its_lifecycle m "/plugins/fmt" hm cs {}⟩

end ManifestPlugin

end Plugboard
