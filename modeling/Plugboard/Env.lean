import Plugboard.Error
import Plugboard.Disk.Basic
import Plugboard.Time
/-!
# The world a component acts in

Components keep their own state, but share two things with everything else: the disk their
files live on and the clock they read. An action of a component with state `σ` reads and writes
both its own state and this environment, and either answers or fails with an `Error`. A failure
keeps every change made before it, as a call that fails halfway through leaves behind what it
already did.

`focus` runs an action of a part inside an action of the whole, which is how a registry drives
its store, or a hub its registry.
-/

namespace Plugboard

/-- What every component shares: the disk and the clock. -/
structure Env where
  disk : Disk := Disk.empty
  clock : Clock := ⟨0⟩

/-- An action of a component with state `σ`, answering an `α`. -/
abbrev Act (σ α : Type) := ExceptT Error (StateM (σ × Env)) α

namespace Act

variable {σ τ α β : Type}

/-- Runs an action from a state and environment. -/
def exec (a : Act σ α) (s : σ) (env : Env) : Except Error α × σ × Env :=
  (ExceptT.run a).run (s, env)

/-- The component's own state. -/
def self : Act σ σ := do
  return (← get).1

/-- Replaces the component's own state. -/
def put (s : σ) : Act σ Unit :=
  modify fun st => (s, st.2)

/-- Changes the component's own state. -/
def change (f : σ → σ) : Act σ Unit :=
  modify fun st => (f st.1, st.2)

/-- Fails. -/
def fail (e : Error) : Act σ α := throw e

/-- Reads the clock once. -/
def now : Act σ Instant := do
  let st ← get
  let (t, c) := st.2.clock.now
  set (st.1, { st.2 with clock := c })
  return t

/-- The disk as it is. -/
def disk : Act σ Disk := do
  return (← get).2.disk

/-- Runs a disk operation that may change the disk, naming its failure. -/
def onDisk (op : Disk → Except OsError Disk) (failure : OsError → Error) : Act σ Unit := do
  let st ← get
  match op st.2.disk with
  | .ok d => set (st.1, { st.2 with disk := d })
  | .error e => throw (failure e)

/-- Runs a disk operation that may fail part way: what it did stays, and its failure is named. -/
def onDiskKept (op : Disk → Disk × Option OsError) (failure : OsError → Error) : Act σ Unit := do
  let st ← get
  let (d, e) := op st.2.disk
  set (st.1, { st.2 with disk := d })
  match e with
  | some e => throw (failure e)
  | none => pure ()

/-- Runs a disk query, naming its failure. -/
def fromDisk (op : Disk → Except OsError α) (failure : OsError → Error) : Act σ α := do
  match op (← disk) with
  | .ok x => return x
  | .error e => throw (failure e)

/-- Turns a plain outcome into an action. -/
def ofOutcome : Outcome α → Act σ α
  | .ok x => pure x
  | .error e => throw e

/-- Runs an action of a part of the state: `view` finds the part, `update` puts it back. -/
def focus (view : τ → σ) (update : τ → σ → τ) (a : Act σ α) : Act τ α :=
  ExceptT.mk fun st =>
    let (r, s, env) := a.exec (view st.1) st.2
    pure (r, update st.1 s, env)

/-- Runs an action and hands back its outcome instead of failing, keeping its changes. -/
def attempt (a : Act σ α) : Act σ (Outcome α) :=
  ExceptT.mk fun st =>
    let (r, s, env) := a.exec st.1 st.2
    pure (.ok r, s, env)

theorem exec_pure (x : α) (s : σ) (env : Env) :
    (pure x : Act σ α).exec s env = (.ok x, s, env) := rfl

theorem exec_fail (e : Error) (s : σ) (env : Env) :
    (fail e : Act σ α).exec s env = (.error e, s, env) := rfl

end Act

end Plugboard
