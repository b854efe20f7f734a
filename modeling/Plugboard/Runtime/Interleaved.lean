import Plugboard.Runtime.Manager
/-!
# Manager calls on one id, step by step

The manager holds its state's lock only for short sections. A load calls the loader, the sandbox
and the plugin outside it, and takes it twice: to reserve the id, and to release the reservation
and put the plugin in. Start, stop and unload, sending an event and passing data look the
plugin's instance up under the lock, let the lock go, and take the instance's own mutex before
they act; a start or a stop then looks the plugin up again by id to record how it went, and
sampling records its reading the same way. Calls running at once interleave at those points, and
this module makes each of them one step.

A call in progress is a `Task`: its next step, with what it carries to it. `Task.step` takes that
step over what the calls on one id share (`Shared`): the managed plugin, the reservation, whether
the sandbox admits the id, the instances whose mutex a call holds, and the clock. Instances are
known by number, in the order the loader made them, so two plugins loaded one after the other
under one id have two numbers. `interleave` runs tasks over a schedule, which names the task that
steps next and says how the call of the loader, the sandbox or the plugin it makes, if any,
answers: `none` for success, or the error it fails with. A step that needs an instance's mutex
while another call holds it waits: it leaves everything as it is.

`Shared.writes` lists the writes of a plugin's record made after a start, a stop or a sample: the
instance the writing call held, and the instance whose record it wrote.
-/

namespace Plugboard

namespace Manager

/-- A start or a stop of a plugin. -/
inductive Move where
  | start
  | stop

namespace Move

/-- The states a move is allowed from. -/
def allowed : Move → PluginState → Bool
  | .start => PluginState.canStart
  | .stop => PluginState.canStop

/-- The state a move reaches. -/
def target : Move → PluginState
  | .start => .running
  | .stop => .stopped

end Move

/-- The manager's calls, as one id sees them. -/
inductive Request where
  /-- Loading a plugin with the id: its metadata, its path, and whether it is native. -/
  | load (metadata : Metadata) (path : String) (native : Bool)
  | lifecycle (m : Move)
  | unload
  | sendEvent
  | processData
  /-- Broadcasting an event, as far as it goes to the id. -/
  | broadcast
  /-- Sampling resources, as far as it goes to the id; `status` is what the instance reports. -/
  | sample (status : InstanceStatus)

/-- What the manager's calls on one id share. -/
structure Shared where
  /-- The managed plugin: the number of its instance, and its record. -/
  entry : Option (Nat × PluginInfo)
  /-- Whether a load in flight has reserved the id. -/
  reserved : Bool
  /-- Whether the sandbox admits the id. -/
  admitted : Bool
  /-- The instances whose mutex a call holds. -/
  locked : List Nat
  /-- How many instances the loader has made. -/
  made : Nat
  clock : Clock
  /-- The writes of a record after a start, a stop or a sample, latest first: the instance the
  writing call held, and the instance whose record it wrote. -/
  writes : List (Nat × Nat)

/-- Lets go of an instance's mutex. -/
def Shared.unlock (s : Shared) (h : Nat) : Shared := { s with locked := s.locked.erase h }

/-- What a call does once it holds an instance's mutex. -/
inductive Holding where
  | lifecycle (m : Move)
  | unload
  | deliver
  | sample (status : InstanceStatus)

/-- Which calls a returned one counts among. -/
inductive Kind where
  | load
  | unload
  | other

/-- A call in progress: its next step, and what it carries to it. `h` is the number of the
instance the call holds. -/
inductive Task where
  /-- Not started. -/
  | call (c : Request)
  /-- A load whose loader made instance `h`, to be recorded as `info` at its load time;
  reserving the id is next. -/
  | reserving (h : Nat) (info : Instant → PluginInfo)
  /-- A load holding the reservation; the sandbox's admission is next. -/
  | admitting (h : Nat) (info : Instant → PluginInfo)
  /-- A load the sandbox admitted; the plugin's initialization is next. -/
  | preparing (h : Nat) (info : Instant → PluginInfo)
  /-- A load whose plugin failed to initialize; its removal from the sandbox is next. -/
  | leaving
  /-- A load that failed; releasing the reservation is next. -/
  | releasing
  /-- A load ready; releasing the reservation and putting the plugin in is next. -/
  | inserting (h : Nat) (info : Instant → PluginInfo)
  /-- Waiting for instance `h`'s mutex. -/
  | acquiring (h : Nat) (next : Holding)
  /-- A start or a stop holding the mutex; the check of the plugin's state is next. -/
  | checking (h : Nat) (m : Move)
  /-- The instance's own start or stop is next. -/
  | stepping (h : Nat) (m : Move)
  /-- Recording how the instance's step went is next. -/
  | recording (h : Nat) (m : Move) (r : Outcome Unit)
  /-- An unload holding the mutex; reading the plugin's state is next. -/
  | unloading (h : Nat)
  /-- The instance's stop before it is unloaded is next. -/
  | stopping (h : Nat)
  /-- The instance's cleanup is next. -/
  | cleaning (h : Nat)
  /-- The removal from the sandbox is next. -/
  | unadmitting (h : Nat)
  /-- Forgetting the plugin is next. -/
  | forgetting (h : Nat)
  /-- An event or data holding the mutex; the instance's call is next. -/
  | delivering (h : Nat)
  /-- A sample holding the mutex; reading the instance's status is next. -/
  | sampling (h : Nat) (status : InstanceStatus)
  /-- The sandbox's judgement of the usage is next. -/
  | judging (h : Nat) (usage : ResourceUsage)
  /-- Recording the usage is next. -/
  | noting (h : Nat) (usage : ResourceUsage)
  /-- Returned, `Ok` or not. -/
  | done (kind : Kind) (ok : Bool)

/-- The step a call takes first once it holds instance `h`'s mutex. -/
def Holding.first (h : Nat) : Holding → Task
  | .lifecycle m => .checking h m
  | .unload => .unloading h
  | .deliver => .delivering h
  | .sample status => .sampling h status

/-- Looking the instance up under the lock, to take its mutex next and then do `next`; a call of
kind `k` fails when there is no plugin. -/
def lookup (next : Holding) (k : Kind) (s : Shared) : Task × Shared :=
  match s.entry with
  | none => (.done k false, s)
  | some (h, _) => (.acquiring h next, s)

/-- The first step of a call: a load calls the loader; the others look the plugin up under the
lock. A broadcast has nothing to deliver to an id with no plugin, and a sample nothing to sample of
a plugin that is not running. -/
def Request.begin (o : Option Error) : Request → Shared → Task × Shared
  | .load md path native, s =>
    match o with
    | some _ => (.done .load false, s)
    | none => (.reserving s.made (PluginInfo.loaded md path native), { s with made := s.made + 1 })
  | .lifecycle m, s => lookup (.lifecycle m) .other s
  | .unload, s => lookup .unload .unload s
  | .sendEvent, s => lookup .deliver .other s
  | .processData, s => lookup .deliver .other s
  | .broadcast, s =>
    match s.entry with
    | none => (.done .other true, s)
    | some (h, _) => (.acquiring h .deliver, s)
  | .sample status, s =>
    match s.entry with
    | some (h, info) =>
      if info.state = .running then (.acquiring h (.sample status), s) else (.done .other true, s)
    | none => (.done .other true, s)

namespace Task

/-- One step of a task; `o` is how the call of the loader, the sandbox or the plugin it makes, if
any, answers. -/
def step (o : Option Error) : Task → Shared → Task × Shared
  | .call c, s => c.begin o s
  | .reserving h info, s =>
    if s.entry.isSome || s.reserved then (.done .load false, s)
    else (.admitting h info, { s with reserved := true })
  | .admitting h info, s =>
    if s.admitted || o.isSome then (.releasing, s)
    else (.preparing h info, { s with admitted := true })
  | .preparing h info, s =>
    match o with
    | some _ => (.leaving, s)
    | none => (.inserting h info, s)
  | .leaving, s => (.releasing, { s with admitted := false })
  | .releasing, s => (.done .load false, { s with reserved := false })
  | .inserting h info, s =>
    (.done .load true,
      { s with reserved := false, entry := some (h, info s.clock.now.1), clock := s.clock.now.2 })
  | .acquiring h next, s =>
    if h ∈ s.locked then (.acquiring h next, s)
    else (next.first h, { s with locked := h :: s.locked })
  | .checking h m, s =>
    match s.entry with
    | none => (.done .other false, s.unlock h)
    | some (_, info) =>
      if m.allowed info.state then (.stepping h m, s) else (.done .other false, s.unlock h)
  | .stepping h m, s =>
    (.recording h m (match o with | none => .ok () | some e => .error e), s)
  | .recording h m r, s =>
    match s.entry, r with
    | none, r => (.done .other r.isOk, s.unlock h)
    | some (h', info), .ok () =>
      (.done .other true,
        ({ s with entry := some (h', info.succeeded m.target s.clock.now.1)
                  clock := s.clock.now.2
                  writes := (h, h') :: s.writes } : Shared).unlock h)
    | some (h', info), .error e =>
      (.done .other false,
        ({ s with entry := some (h', info.failed e), writes := (h, h') :: s.writes } : Shared).unlock h)
  | .unloading h, s =>
    match s.entry with
    | none => (.done .unload false, s.unlock h)
    | some (_, info) => if info.state.canStop then (.stopping h, s) else (.cleaning h, s)
  | .stopping h, s => (.cleaning h, s)
  | .cleaning h, s => (.unadmitting h, s)
  | .unadmitting h, s => (.forgetting h, { s with admitted := false })
  | .forgetting h, s => (.done .unload true, ({ s with entry := none } : Shared).unlock h)
  | .delivering h, s => (.done .other o.isNone, s.unlock h)
  | .sampling h status, s =>
    (.judging h (ResourceUsage.ofStatus status s.clock.now.1),
      ({ s with clock := s.clock.now.2 } : Shared).unlock h)
  | .judging h usage, s => (.noting h usage, s)
  | .noting h usage, s =>
    match s.entry with
    | none => (.done .other true, s)
    | some (h', info) =>
      (.done .other true,
        { s with entry := some (h', { info with resources := usage }), writes := (h, h') :: s.writes })
  | .done k ok, s => (.done k ok, s)

end Task

/-- Steps the task at `i`, if there is one. -/
def stepAt (ts : List Task) (i : Nat) (o : Option Error) (s : Shared) : List Task × Shared :=
  match ts[i]? with
  | none => (ts, s)
  | some t => (ts.set i (t.step o s).1, (t.step o s).2)

/-- Runs tasks over a schedule, whose entries name the task that steps and say how the call it
makes answers. -/
def interleave : List Task → List (Nat × Option Error) → Shared → List Task × Shared
  | ts, [], s => (ts, s)
  | ts, (i, o) :: sch, s => interleave (stepAt ts i o s).1 sch (stepAt ts i o s).2

end Manager

end Plugboard
