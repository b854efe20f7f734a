import Plugboard.Proofs.ServiceDirectory
/-!
# The directory's change stream

Each call on a service directory is either refused, and then fails and changes nothing, or goes
through and announces at most one change on the stream (`Directory.Call.exec_cases`). A
registration is refused when its id has a service, and every other call but a listing when its
id has none. One that goes through announces the service registered, the service updated, the id
deregistered, or the id's new health when it differs from the one stored; a heartbeat and a read
announce nothing. Every call keeps the services in increasing order of id, so no id has two.

A watcher that starts watching before a run of calls, and reads along the run without ever
falling more than the stream's capacity behind, reads exactly those announcements, in call order
(`Directory.readAlong_of_keepsUp`). A bridge pushing a registration announces it as registered
when its id has no service yet and as updated when it has one, and leaves that service under the
id (`Bridge.exec_register_announces`, `Bridge.exec_update_announces`).
-/

namespace Plugboard

open Act

namespace Directory

/-- Services in increasing order of id, so that no id has two. -/
def Keyed (ss : List Service) : Prop := ss.Pairwise fun a b => a.id < b.id

variable {ss : List Service} {s x : Service} {id : String} {d : Directory} {env : Env}

theorem Keyed.nodup_ids (hk : Keyed ss) : (ss.map (·.id)).Nodup := by
  rw [List.Nodup, List.pairwise_map]
  exact hk.imp ne_of_lt

theorem mem_putIn : x ∈ putIn s ss → x = s ∨ x ∈ ss := by
  induction ss with
  | nil => simp [putIn]
  | cons y ys ih =>
    simp only [putIn]
    split_ifs
    · simp only [List.mem_cons]
      rintro (rfl | hx)
      · exact .inl rfl
      · exact .inr (.inr hx)
    · simp only [List.mem_cons]
      rintro (rfl | rfl | hx)
      · exact .inl rfl
      · exact .inr (.inl rfl)
      · exact .inr (.inr hx)
    · intro hx
      rcases List.mem_cons.1 hx with rfl | hx
      · exact .inr List.mem_cons_self
      · rcases ih hx with rfl | hx
        · exact .inl rfl
        · exact .inr (List.mem_cons_of_mem y hx)

theorem keyed_putIn (hk : Keyed ss) : Keyed (putIn s ss) := by
  induction ss with
  | nil => exact List.pairwise_singleton _ s
  | cons y ys ih =>
    have hy : ∀ z ∈ ys, y.id < z.id := (List.pairwise_cons.1 hk).1
    have hys : Keyed ys := (List.pairwise_cons.1 hk).2
    simp only [putIn]
    split_ifs with heq hlt
    · -- the service takes the place of the one with its id
      exact List.pairwise_cons.2 ⟨fun z hz => heq ▸ hy z hz, hys⟩
    · -- the service goes first, below the one that was first
      refine List.pairwise_cons.2 ⟨fun z hz => ?_, hk⟩
      rcases List.mem_cons.1 hz with rfl | hz
      · exact hlt
      · exact hlt.trans (hy z hz)
    · -- the service goes further in, above the first
      have hgt : y.id < s.id := lt_of_le_of_ne (not_lt.1 hlt) (Ne.symm heq)
      refine List.pairwise_cons.2 ⟨fun z hz => ?_, ih hys⟩
      rcases mem_putIn hz with rfl | hz
      · exact hgt
      · exact hy z hz

/-- Looking up the id of a service just put in finds it. -/
theorem find?_putIn_self (s : Service) (ss : List Service) :
    (putIn s ss).find? (·.id == s.id) = some s := by
  induction ss with
  | nil => simp [putIn]
  | cons y ys ih =>
    simp only [putIn]
    split_ifs with heq hlt
    · simp
    · simp
    · rw [List.find?_cons_of_neg (by simpa using Ne.symm heq)]
      exact ih

/-- A call on a service directory. -/
inductive Call where
  | register (s : Service)
  | update (s : Service)
  | deregister (id : String)
  | updateHealth (id : String) (health : ServiceHealth)
  | heartbeat (id : String)
  | get (id : String)
  | list

namespace Call

/-- Making a call, its answer dropped. -/
def run : Call → Act Directory Unit
  | register s => Directory.register s
  | update s => Directory.update s
  | deregister id => Directory.deregister id
  | updateHealth id h => Directory.updateHealth id h
  | heartbeat id => Directory.heartbeat id
  | get id => (fun _ => ()) <$> Directory.get id
  | list => (fun _ => ()) <$> Directory.list

/-- Whether a directory refuses a call: a registration of an id that has a service, or a call on
an id that has none. A listing is never refused. -/
def refused (d : Directory) : Call → Bool
  | register s => (d.find? s.id).isSome
  | update s => (d.find? s.id).isNone
  | deregister id | updateHealth id _ | heartbeat id | get id => (d.find? id).isNone
  | list => false

/-- The change a call on `d` announces when it goes through: a registration, an update or a
deregistration always, a health only when it differs from the one stored, anything else never. -/
def notice (d : Directory) : Call → Option ServiceEvent
  | register s => some (.registered s)
  | update s => some (.updated s)
  | deregister id => some (.deregistered id)
  | updateHealth id h =>
    (d.find? id).bind fun s => if s.health = h then none else some (.healthChanged id h)
  | heartbeat _ | get _ | list => none

/-- **What one call can do.** A refused call fails and leaves the directory as it was. One that
goes through answers and announces its notice, and either leaves the services as they were, puts
one in, or takes an id out. -/
theorem exec_cases (c : Call) (d : Directory) (env : Env) :
    (c.refused d = true ∧ ∃ e, c.run.exec d env = (.error e, d, env)) ∨
    (c.refused d = false ∧ ∃ ss env', c.run.exec d env =
        (.ok (), { services := ss, events := d.events ++ (c.notice d).toList }, env') ∧
      (ss = d.services ∨ (∃ s, ss = putIn s d.services) ∨
        ∃ id, ss = d.services.filter (·.id != id))) := by
  cases c with
  | register s =>
    cases h : (d.find? s.id).isSome
    · exact .inr ⟨h, _, _, exec_register_missing s h, .inr (.inl ⟨s, rfl⟩)⟩
    · exact .inl ⟨h, _, exec_register_found s h⟩
  | update s =>
    cases h : d.find? s.id with
    | none => exact .inl ⟨by simp [refused, h], _, exec_update_missing s (by rw [h]; rfl)⟩
    | some x =>
      exact .inr ⟨by simp [refused, h], _, _, exec_update_found s (by rw [h]; rfl),
        .inr (.inl ⟨s, rfl⟩)⟩
  | deregister id =>
    cases h : d.find? id with
    | none => exact .inl ⟨by simp [refused, h], _, exec_deregister_missing (by rw [h]; rfl)⟩
    | some x =>
      exact .inr ⟨by simp [refused, h], _, _, exec_deregister_found (by rw [h]; rfl),
        .inr (.inr ⟨id, rfl⟩)⟩
  | updateHealth id hl =>
    cases h : d.find? id with
    | none => exact .inl ⟨by simp [refused, h], _, exec_updateHealth_missing h hl⟩
    | some x =>
      -- the health is announced only when it changes
      have hn : (notice d (updateHealth id hl)).toList =
          if x.health = hl then [] else [.healthChanged id hl] := by
        simp only [notice, h, Option.bind_some]
        split_ifs <;> rfl
      refine .inr ⟨by simp [refused, h], _, { env with clock := env.clock.now.2 }, ?_,
        .inr (.inl ⟨{ x with health := hl, updatedAt := env.clock.now.1 }, rfl⟩)⟩
      rw [run, exec_updateHealth_found h hl env, hn]
  | heartbeat id =>
    cases h : d.find? id with
    | none => exact .inl ⟨by simp [refused, h], _, exec_heartbeat_missing h⟩
    | some x =>
      refine .inr ⟨by simp [refused, h], _, { env with clock := env.clock.now.2 }, ?_,
        .inr (.inl ⟨{ x with lastHeartbeat := some env.clock.now.1 }, rfl⟩)⟩
      rw [run, exec_heartbeat_found h, notice, Option.toList_none, List.append_nil]
  | get id =>
    cases h : d.find? id with
    | none =>
      refine .inl ⟨by simp [refused, h], missing id, ?_⟩
      rw [run, exec_map, exec_get, h]
      rfl
    | some x =>
      refine .inr ⟨by simp [refused, h], d.services, env, ?_, .inl rfl⟩
      rw [run, exec_map, exec_get, h]
      simp [notice, Except.map]
  | list => exact .inr ⟨rfl, d.services, env, by simp [run, notice]; rfl, .inl rfl⟩

/-- A call answers exactly when it is not refused, and the stream gains its notice exactly when it
answers. -/
theorem exec_announces (c : Call) (d : Directory) (env : Env) :
    (c.run.exec d env).1.isOk = !c.refused d ∧
    (c.run.exec d env).2.1.events = d.events ++ if c.refused d then [] else (c.notice d).toList := by
  rcases exec_cases c d env with ⟨hr, e, he⟩ | ⟨hr, ss, env', he, -⟩
  · rw [he, hr]
    exact ⟨rfl, by simp⟩
  · rw [he, hr]
    exact ⟨rfl, by simp⟩

/-- Every call keeps the services in increasing order of id. -/
theorem keyed_run (c : Call) (hk : Keyed d.services) (env : Env) :
    Keyed (c.run.exec d env).2.1.services := by
  rcases exec_cases c d env with ⟨-, e, he⟩ | ⟨-, ss, env', he, hss⟩
  · rw [he]
    exact hk
  · rw [he]
    rcases hss with rfl | ⟨s, rfl⟩ | ⟨id, rfl⟩
    · exact hk
    · exact keyed_putIn hk
    · exact hk.sublist List.filter_sublist

end Call

/-- The directory and the environment after each call of a run is made in turn, from where the
one before left them, whatever it answered. -/
def runCalls : List Call → Directory → Env → Directory × Env
  | [], d, env => (d, env)
  | c :: cs, d, env => runCalls cs (c.run.exec d env).2.1 (c.run.exec d env).2.2

/-- The announcements of a run: each call's notice, when it is not refused, in call order. -/
def announced : List Call → Directory → Env → List ServiceEvent
  | [], _, _ => []
  | c :: cs, d, env =>
    (if c.refused d then [] else (c.notice d).toList) ++
      announced cs (c.run.exec d env).2.1 (c.run.exec d env).2.2

/-- Along a run the stream gains exactly the run's announcements. -/
theorem events_runCalls (cs : List Call) (d : Directory) (env : Env) :
    (runCalls cs d env).1.events = d.events ++ announced cs d env := by
  induction cs generalizing d env with
  | nil => simp [runCalls, announced]
  | cons c cs ih => rw [runCalls, announced, ih, (Call.exec_announces c d env).2, List.append_assoc]

/-- Along a run the services stay in increasing order of id. -/
theorem keyed_runCalls (cs : List Call) (hk : Keyed d.services) (env : Env) :
    Keyed (runCalls cs d env).1.services := by
  induction cs generalizing d env with
  | nil => exact hk
  | cons c cs ih => exact ih (Call.keyed_run c hk env) _

/-- A step of a watched run: a call on the directory, or the watcher reading what is new. -/
inductive WatchStep where
  | call (c : Call)
  | read

/-- The calls of a watched run, in order. -/
def WatchStep.calls : List WatchStep → List Call
  | [] => []
  | .call c :: ws => c :: calls ws
  | .read :: ws => calls ws

/-- What a watcher that has read up to `next` reads along a watched run. -/
def readAlong : List WatchStep → Directory → Env → Nat → List Sighting
  | [], _, _, _ => []
  | .call c :: ws, d, env, next => readAlong ws (c.run.exec d env).2.1 (c.run.exec d env).2.2 next
  | .read :: ws, d, env, next => (d.sightings next).1 ++ readAlong ws d env (d.sightings next).2

/-- Whether a watcher that has read up to `next` is never more than the stream's capacity behind
when it reads along a watched run. -/
def keepsUp : List WatchStep → Directory → Env → Nat → Bool
  | [], _, _, _ => true
  | .call c :: ws, d, env, next => keepsUp ws (c.run.exec d env).2.1 (c.run.exec d env).2.2 next
  | .read :: ws, d, env, next =>
    decide (d.events.length - next ≤ streamCapacity) && keepsUp ws d env d.events.length

/-- A watcher no more than the stream's capacity behind reads every announcement it has not read,
and nothing else. -/
theorem sightings_of_le {next : Nat} (h : d.events.length - next ≤ streamCapacity) :
    d.sightings next = ((d.events.drop next).map .event, d.events.length) := by
  unfold sightings
  rw [if_neg (by rw [List.length_drop]; omega)]

/-- A watcher that keeps up reads, by its last read, what it had not read when the run started,
followed by the run's announcements in call order. -/
theorem readAlong_of_keepsUp :
    ∀ (ws : List WatchStep) (d : Directory) (env : Env) (next : Nat), next ≤ d.events.length →
      keepsUp (ws ++ [.read]) d env next = true →
      readAlong (ws ++ [.read]) d env next =
        (d.events.drop next ++ announced (WatchStep.calls ws) d env).map .event
  | [], d, env, next, _, hup => by
    have hle : d.events.length - next ≤ streamCapacity := by simpa [keepsUp] using hup
    simp [readAlong, WatchStep.calls, announced, sightings_of_le hle]
  | .call c :: ws, d, env, next, hnext, hup => by
    -- the call adds its announcement after everything there was to read
    have hev := (Call.exec_announces c d env).2
    have hnext' : next ≤ (c.run.exec d env).2.1.events.length := by
      rw [hev, List.length_append]
      omega
    rw [List.cons_append, readAlong,
      readAlong_of_keepsUp ws _ _ next hnext' (by simpa [keepsUp] using hup), hev,
      List.drop_append_of_le_length hnext, WatchStep.calls, announced, List.append_assoc]
  | .read :: ws, d, env, next, hnext, hup => by
    simp only [List.cons_append, keepsUp, Bool.and_eq_true, decide_eq_true_eq] at hup
    -- this read takes everything there is, and the rest starts from the end of the stream
    rw [List.cons_append, readAlong, sightings_of_le hup.1,
      readAlong_of_keepsUp ws d env d.events.length le_rfl hup.2, List.drop_length,
      List.nil_append, WatchStep.calls, ← List.map_append]

end Directory

namespace Bridge

variable {b : Bridge} {r : Registration}

/-- A registration pushed by registering it is announced as registered when its id has no
service and as updated when it has one, and its service is then the one under its id. -/
theorem exec_register_announces (r : Registration) (b : Bridge) (env : Env) :
    ∃ s b' env', (register r).exec b env = (.ok s, b', env') ∧
      b'.directory.events = b.directory.events ++
        [if (b.directory.find? r.id).isSome then .updated s else .registered s] ∧
      b'.directory.find? r.id = some s := by
  unfold register toService
  simp only [exec_bind, exec_now, exec_self, exec_pure, onDirectory, exec_focus, exec_attempt]
  by_cases hc : (b.directory.find? r.id).isSome = true
  · rw [if_pos hc, Directory.exec_update_found (serviceAt b.config r _) hc]
    exact ⟨_, _, _, rfl, by rw [if_pos hc],
      Directory.find?_putIn_self (serviceAt b.config r env.clock.now.1) _⟩
  · have hc' : (b.directory.find? r.id).isSome = false := Bool.eq_false_iff.mpr hc
    rw [if_neg hc, Directory.exec_register_missing (serviceAt b.config r _) hc']
    exact ⟨_, _, _, rfl, by rw [hc']; rfl,
      Directory.find?_putIn_self (serviceAt b.config r env.clock.now.1) _⟩

/-- A registration pushed by updating it is announced the same way: as updated when its id has a
service, and otherwise, since the update is refused as missing, as registered. -/
theorem exec_update_announces (r : Registration) (b : Bridge) (env : Env) :
    ∃ s b' env', (update r).exec b env = (.ok s, b', env') ∧
      b'.directory.events = b.directory.events ++
        [if (b.directory.find? r.id).isSome then .updated s else .registered s] ∧
      b'.directory.find? r.id = some s := by
  unfold update toService
  simp only [exec_bind, exec_now, exec_self, exec_pure, onDirectory, exec_focus, exec_attempt]
  by_cases hc : (b.directory.find? r.id).isSome = true
  · rw [Directory.exec_update_found (serviceAt b.config r _) hc]
    exact ⟨_, _, _, rfl, by rw [if_pos hc],
      Directory.find?_putIn_self (serviceAt b.config r env.clock.now.1) b.directory.services⟩
  · -- with no service to update the update is refused as missing, and the registration is pushed
    rw [Directory.exec_update_missing (serviceAt b.config r _) (Bool.eq_false_iff.mpr hc)]
    dsimp only
    have hnf : (Directory.missing (serviceAt b.config r env.clock.now.1).id).isNotFound = true :=
      rfl
    rw [if_pos hnf]
    exact exec_register_announces r _ _

end Bridge

namespace Directory

/-- **The change stream mirrors the directory's changes.** Every call on a service directory is
refused exactly when `Call.refused` says, and then announces nothing; otherwise it announces its
`Call.notice`, at most one change. A watcher that starts watching before a run of calls and reads
along it, never more than the stream's capacity behind, has read by its last read exactly the
run's announcements, in call order. Every run keeps at most one service per id. A bridge pushing
a registration, by registering or by updating it, announces it as registered when its id has no
service yet and as updated when it has one, and leaves that service under the id, so that the
next push of the plugin is announced as an update. -/
theorem watch_stream_mirrors_changes :
    (∀ (c : Call) (d : Directory) (env : Env),
      (c.run.exec d env).1.isOk = !c.refused d ∧
      (c.run.exec d env).2.1.events =
        d.events ++ if c.refused d then [] else (c.notice d).toList) ∧
    (∀ (ws : List WatchStep) (d : Directory) (env : Env),
      keepsUp (ws ++ [.read]) d env d.watchFrom = true →
      readAlong (ws ++ [.read]) d env d.watchFrom =
        (announced (WatchStep.calls ws) d env).map .event) ∧
    (∀ (cs : List Call) (d : Directory) (env : Env), Keyed d.services →
      ((runCalls cs d env).1.services.map (·.id)).Nodup) ∧
    (∀ (b : Bridge) (r : Registration) (env : Env),
      (∃ s b' env', (Bridge.register r).exec b env = (.ok s, b', env') ∧
        b'.directory.events = b.directory.events ++
          [if (b.directory.find? r.id).isSome then .updated s else .registered s] ∧
        b'.directory.find? r.id = some s) ∧
      (∃ s b' env', (Bridge.update r).exec b env = (.ok s, b', env') ∧
        b'.directory.events = b.directory.events ++
          [if (b.directory.find? r.id).isSome then .updated s else .registered s] ∧
        b'.directory.find? r.id = some s)) := by
  refine ⟨Call.exec_announces, fun ws d env hup => ?_,
    fun cs d env hk => (keyed_runCalls cs hk env).nodup_ids,
    fun b r env => ⟨Bridge.exec_register_announces r b env, Bridge.exec_update_announces r b env⟩⟩
  -- a new watcher starts at the end of the stream, so it has nothing left from before
  have h := readAlong_of_keepsUp ws d env d.watchFrom le_rfl hup
  rwa [watchFrom, List.drop_length, List.nil_append] at h

/-- A service `a` as a test registers it. -/
def serviceA : Service :=
  { id := "a", name := "a", address := "localhost", port := 8080, tags := ["plugin"], metadata := []
    health := .unknown, registeredAt := ⟨0, 0⟩, updatedAt := ⟨0, 0⟩ }

/-- A watcher of a fresh directory that registers `a`, marks it passing and deregisters it keeps
up, and reads the run's announcements. -/
theorem watcher_sees_register_health_deregister :
    let ws : List WatchStep :=
      [.call (.register serviceA), .call (.updateHealth "a" .passing), .call (.deregister "a")]
    keepsUp (ws ++ [.read]) {} {} ({} : Directory).watchFrom = true ∧
    readAlong (ws ++ [.read]) {} {} ({} : Directory).watchFrom =
      (announced (WatchStep.calls ws) {} {}).map .event :=
  have hup : keepsUp ([.call (.register serviceA), .call (.updateHealth "a" .passing),
      .call (.deregister "a")] ++ [.read]) {} {} ({} : Directory).watchFrom = true := by decide
  ⟨hup, watch_stream_mirrors_changes.2.1 _ _ _ hup⟩

end Directory

end Plugboard
