import Plugboard.Console.Reply
import Plugboard.Console.Stamp
import Plugboard.Json.Write
/-!
# Sessions

A session drives one component through a list of steps. Each step answers on its own: `{"ok": v}`
with its value, the library's error, or the refusal of a step that cannot be read; a failing step
does not end the session, but a failure of the program as a whole ends it and answers alone.
Sessions over stores, registries, managers and hubs also have steps that act on the files
directly: `fs.write`, `fs.mkdir`, `fs.remove`, `fs.list` and `fs.read`.

The clock readings taken during each `sample` step are remembered, so that the instants they
stamp can be named after the step. Sampling steps are counted from one, and counted afresh once a
component has been reopened.
-/

namespace Plugboard.Console

open Json

/-- Why a step stops short: it is refused with a message, or the program fails as a whole and
the session ends there. -/
inductive Stop where
  | refused (message : String)
  | failed

/-- One step of a session over a component with state `σ`: it may stop short, and it acts on
the component and the environment. -/
abbrev Turn (σ α : Type) := ExceptT Stop (StateM (σ × Env)) α

namespace Turn

variable {σ τ α : Type}

/-- Refuses the step with a message. -/
def refuse (m : String) : Turn σ α := throw (.refused m)

/-- Fails the program as a whole. -/
def fail : Turn σ α := throw .failed

/-- Refuses the step unless an argument could be read. -/
def decode : Decode α → Turn σ α
  | .ok x => pure x
  | .error m => refuse m

/-- Runs an action of the component; its outcome. -/
def act (a : Act σ α) : Turn σ (Outcome α) :=
  ExceptT.mk fun st =>
    let (r, s, env) := a.exec st.1 st.2
    pure (.ok r, s, env)

/-- The answer of a step: its value, or the library's error. -/
def element (f : α → Json) : Outcome α → Json
  | .ok x => .obj [("ok", f x)]
  | .error e => errorAnswer e

/-- Runs an action of the component and answers with its outcome. -/
def reply (f : α → Json) (a : Act σ α) : Turn σ Json := do
  return element f (← act a)

/-- Answers with a value. -/
def ok (v : Json) : Turn σ Json := pure (.obj [("ok", v)])

/-- The component's state. -/
def self : Turn σ σ := do return (← get).1

/-- Changes the component's state. -/
def change (f : σ → σ) : Turn σ Unit := modify fun st => (f st.1, st.2)

/-- Runs a step of a part of the component. -/
def focus (view : τ → σ) (update : τ → σ → τ) (t : Turn σ α) : Turn τ α :=
  ExceptT.mk fun st =>
    let (r, s, env) := (ExceptT.run t).run (view st.1, st.2)
    pure (r, update st.1 s, env)

end Turn

/-- Runs an action on the files for a step; a failure refuses the step with the system's own
text. -/
def filesReply {σ α : Type} (f : α → Json) (a : Act σ α) : Turn σ Json := do
  match ← Turn.act a with
  | .ok x => Turn.ok (f x)
  | .error (.io m) => Turn.refuse m
  | .error e => Turn.refuse e.message

/-- The text a step writes to a file: a text as it is, nothing for `null`, and any other value
as compact JSON. -/
def contentArg (j : Json) : String :=
  match arg? j "content" with
  | some (.str s) => s
  | some v => compact v
  | none => ""

/-- The steps that act on the files directly, or none when the step is not one. Reading,
listing and making a directory are such steps only when they name a path. -/
def fileStep {σ : Type} (op : String) (j : Json) : Option (Turn σ Json) :=
  let failure (e : OsError) : Error := .io e.text
  match op, j.field? "path" with
  | "fs.write", _ => some do
    let p ← Turn.decode (text j "path")
    filesReply (fun _ => .null) do
      if let some q := PathText.lexicalParent p then
        Act.onDiskKept (·.makeDirAll q) failure
      Act.onDisk (·.writeFile p (contentArg j)) failure
  | "fs.remove", _ => some do
    let p ← Turn.decode (text j "path")
    filesReply (fun _ => .null) (Act.onDisk (·.removeAll p) failure)
  | "fs.mkdir", some (.str p) => some do
    filesReply (fun _ => .null) (Act.onDiskKept (·.makeDirAll p) failure)
  | "fs.list", some (.str p) => some do
    filesReply Json.ofStrings (Act.fromDisk (·.listDir p) failure)
  | "fs.read", some (.str p) => some do
    filesReply Json.str (Act.fromDisk (·.readFile p) failure)
  | _, _ => none

/-- The operation a step names. -/
def opOf (step : Json) : String :=
  match step.field? "op" with
  | some (.str s) => s
  | _ => ""

/-- Whether a step samples resources. -/
def isSampling (op : String) : Bool := op == "sample" || op.endsWith ".sample"

/-- What a session has done so far: the answers of its steps, newest first, the clock readings
of its sampling steps, and whether the program failed as a whole. -/
structure Transcript where
  answers : List Json := []
  spans : List SampleSpan := []
  samples : Nat := 0
  failed : Bool := false

/-- Runs the steps of a session in order, up to a failure of the program as a whole. Steps on
the files come first when `withFiles` holds. -/
def runSteps {σ : Type} (withFiles : Bool) (handle : String → Json → Turn σ Json) :
    List Json → Transcript → σ × Env → Transcript × σ × Env
  | [], tr, st => (tr, st)
  | step :: rest, tr, st =>
    let op := opOf step
    let turn := match (if withFiles then fileStep op step else none) with
      | some t => t
      | none => handle op step
    let before := st.2.clock.reads
    let (r, st') := (ExceptT.run turn).run st
    let tr := if isSampling op then
        { tr with samples := tr.samples + 1,
                  spans := { step := tr.samples + 1, lo := before, hi := st'.2.clock.reads } :: tr.spans }
      else tr
    match r with
    | .ok j =>
      let tr := if op == "reopen" then { tr with samples := 0 } else tr
      runSteps withFiles handle rest { tr with answers := j :: tr.answers } st'
    | .error (.refused m) =>
      runSteps withFiles handle rest { tr with answers := refusal m :: tr.answers } st'
    | .error .failed => ({ tr with failed := true }, st')

/-- The steps of a session request. -/
def stepsArg (j : Json) : Decode (List Json) := do
  match ← typedOr j "steps" (.list .any) (.arr []) with
  | .arr steps => pure steps
  | _ => pure []

/-- Runs a session over a component made by `setup`, answering `{"steps": [...]}`, the setup's
failure, or the failure of the program as a whole. The component is made before the steps are
read, so a failure to make it is the answer whatever the steps are. Steps on the files are taken when
`withFiles` holds. -/
def session {σ : Type} (request : Json) (env : Env) (setup : Reply (Outcome σ))
    (handle : String → Json → Turn σ Json) (withFiles : Bool) : Json :=
  match (ExceptT.run setup).run env with
  | (.error m, _) => refusal m
  | (.ok (.error e), _) => errorAnswer e
  | (.ok (.ok s), env') =>
    match stepsArg request with
    | .error m => refusal m
    | .ok steps =>
      let (tr, _) := runSteps withFiles handle steps {} (s, env')
      if tr.failed then crashAnswer
      else stamp request (.obj [("steps", .arr tr.answers.reverse)]) tr.spans

end Plugboard.Console
