import Plugboard.Proofs.ManagerCalls
/-!
# Runs of the manager

A user drives a manager by a sequence of calls, each made whatever the disk and the clock read.
`Manager.Reachable m₀ m` says some such sequence leads from `m₀` to `m`. A property of managers
holds of every manager reachable from one that has it as soon as every call keeps it
(`Reachable.holds`), and a call keeps it as soon as the few actions the calls are built from do
(`keeps_run`): a load, a start or stop, an unload, an event or data handed to one plugin, and a
sample of one plugin.

Every call keeps the plugins and the admissions sorted by id (`keeps_sorted`). A property of each
plugin (`Each`) is then kept by every call as soon as a freshly prepared plugin has it and each
thing a call can do to one plugin keeps it (`keeps_each`); the other plugins are left as they
were.
-/

namespace Plugboard

open Act

namespace Manager

variable {P : Manager → Prop}

theorem keeps_sample (h : ∀ id, Keeps P (sampleOne id)) : Keeps P sample := by
  unfold sample
  exact keeps_self.bind fun _ =>
    (Keeps.forIn fun id _ => (h id).bind fun _ => keeps_pure _).bind fun _ => keeps_pure _

theorem keeps_deliverAll (e : Event)
    (h : ∀ id, Keeps P (onInstance id (Instance.handleEvent e))) :
    ∀ ids, Keeps P (deliverAll e ids)
  | [] => keeps_pure _
  | id :: ids => by
    unfold deliverAll
    exact (h id).attempt.bind fun r => (keeps_deliverAll e h ids).bind fun _ => by
      cases r <;> exact keeps_pure _

theorem keeps_broadcast (e : Event) (h : ∀ id, Keeps P (onInstance id (Instance.handleEvent e))) :
    Keeps P (broadcast e) := by
  unfold broadcast
  refine keeps_self.bind fun m => (keeps_deliverAll e h _).bind fun r => ?_
  rcases r with ⟨n, failures⟩
  dsimp only
  split
  · exact keeps_pure _
  · exact keeps_fail _

theorem keeps_shutdown (h : ∀ id, Keeps P (unload id))
    (hs : ∀ m, P m → P { m with monitorStopped := true }) : Keeps P shutdown := by
  unfold shutdown
  exact keeps_self.bind fun _ =>
    (Keeps.forIn fun id _ => (h id).attempt.bind fun _ => keeps_pure _).bind fun _ =>
      keeps_change hs

end Manager

/-- The calls a user makes on a manager. -/
inductive ManagerOp where
  | load (path : String)
  | start (id : String)
  | stop (id : String)
  | unload (id : String)
  | sendEvent (id : String) (e : Event)
  | broadcast (e : Event)
  | processData (id : String) (data : Json)
  | sample
  | shutdown

namespace ManagerOp

/-- Making a call, its answer dropped. -/
def run : ManagerOp → Act Manager Unit
  | load path => (fun _ => ()) <$> Manager.load path
  | start id => Manager.start id
  | stop id => Manager.stop id
  | unload id => Manager.unload id
  | sendEvent id e => Manager.sendEvent id e
  | broadcast e => (fun _ => ()) <$> Manager.broadcast e
  | processData id data => (fun _ => ()) <$> Manager.processData id data
  | sample => (fun _ => ()) <$> Manager.sample
  | shutdown => Manager.shutdown

end ManagerOp

namespace Manager

/-- The managers a manager reaches by a sequence of calls, whatever the disk and the clock read at
each call. -/
inductive Reachable (m₀ : Manager) : Manager → Prop
  | refl : Reachable m₀ m₀
  | step {m : Manager} (op : ManagerOp) (env : Env) :
      Reachable m₀ m → Reachable m₀ (op.run.exec m env).2.1

variable {P : Manager → Prop}

/-- A property kept by the actions the calls other than a load are built from, with the plugin's
own operations behind them, is kept by every call but a load. -/
theorem keeps_run_of_ne_load (hstart : ∀ id, Keeps P (start id)) (hstop : ∀ id, Keeps P (stop id))
    (hunload : ∀ id, Keeps P (unload id))
    (hevent : ∀ id e, Keeps P (onInstance id (Instance.handleEvent e)))
    (hdata : ∀ id data, Keeps P (onInstance id (Instance.processData data)))
    (hsample : ∀ id, Keeps P (sampleOne id))
    (hstopped : ∀ m, P m → P { m with monitorStopped := true }) :
    ∀ op : ManagerOp, (∀ path, op ≠ .load path) → Keeps P op.run
  | .load path, h => absurd rfl (h path)
  | .start id, _ => hstart id
  | .stop id, _ => hstop id
  | .unload id, _ => hunload id
  | .sendEvent id e, _ => hevent id e
  | .broadcast e, _ => (keeps_broadcast e fun id => hevent id e).map _
  | .processData id data, _ => (hdata id data).map _
  | .sample, _ => (keeps_sample hsample).map _
  | .shutdown, _ => keeps_shutdown hunload hstopped

/-- A property kept by a load and by the actions the other calls are built from is kept by every
call. -/
theorem keeps_run (hload : ∀ path, Keeps P (load path)) (hstart : ∀ id, Keeps P (start id))
    (hstop : ∀ id, Keeps P (stop id))
    (hunload : ∀ id, Keeps P (unload id))
    (hevent : ∀ id e, Keeps P (onInstance id (Instance.handleEvent e)))
    (hdata : ∀ id data, Keeps P (onInstance id (Instance.processData data)))
    (hsample : ∀ id, Keeps P (sampleOne id))
    (hstopped : ∀ m, P m → P { m with monitorStopped := true }) (op : ManagerOp) :
    Keeps P op.run := by
  cases op
  case load path => exact (hload path).map _
  all_goals
    exact keeps_run_of_ne_load hstart hstop hunload hevent hdata hsample hstopped _
      fun _ h => nomatch h

/-- What every call keeps holds of every manager reached from one where it holds. -/
theorem Reachable.holds {m₀ m : Manager} (h₀ : P m₀)
    (hrun : ∀ op : ManagerOp, Keeps P op.run)
    (h : Reachable m₀ m) : P m := by
  induction h with
  | refl => exact h₀
  | step op env _ ih => exact hrun op _ env ih

/-- Makes calls in turn, each on the disk and clock the call before it left; the manager and the
environment they end with. -/
def runCalls : List ManagerOp → Manager → Env → Manager × Env
  | [], m, env => (m, env)
  | op :: ops, m, env =>
    match op.run.exec m env with
    | (_, m', env') => runCalls ops m' env'

/-- Calls made from a reachable manager lead to a reachable one. -/
theorem Reachable.runCalls {m₀ : Manager} :
    ∀ (ops : List ManagerOp) {m : Manager} (env : Env), Reachable m₀ m →
      Reachable m₀ (Manager.runCalls ops m env).1
  | [], _, _, h => h
  | op :: ops, m, env, h => by
    -- the first call leads to a reachable manager, and the rest are made from there
    rcases hr : op.run.exec m env with ⟨o, m', env'⟩
    have h' : Reachable m₀ m' := by
      have hstep := Reachable.step op env h
      rwa [hr] at hstep
    simp only [Manager.runCalls, hr]
    exact Reachable.runCalls ops env' h'

variable {α : Type} {m m' : Manager} {id : String} {x y : Managed}

/-- The manager keeps its plugins, and the sandbox its admissions, in increasing order of id. -/
structure Sorted (m : Manager) : Prop where
  plugins : Entries.Keyed m.plugins
  admitted : Entries.Keyed m.sandbox.admitted

/-- A manager as it is made: no plugin loaded, none being loaded and none admitted. -/
structure Fresh (m : Manager) : Prop where
  plugins : m.plugins = []
  loading : m.loading = []
  admitted : m.sandbox.admitted = []

theorem Fresh.empty : Fresh ({} : Manager) := ⟨rfl, rfl, rfl⟩

theorem Fresh.sorted (h : Fresh m) : Sorted m where
  plugins := by rw [h.plugins]; exact List.Pairwise.nil
  admitted := by rw [h.admitted]; exact List.Pairwise.nil

theorem Sorted.put (h : Sorted m) (hs : m'.sandbox = m.sandbox)
    (hp : m'.plugins = Entries.put id y m.plugins) : Sorted m' where
  plugins := hp ▸ Entries.keyed_put h.plugins
  admitted := hs ▸ h.admitted

theorem keeps_sorted_onInstance (id : String) (a : Act Instance α) :
    Keeps Sorted (onInstance id a) := by
  intro m env hm
  cases h : m.find? id with
  | none => rw [exec_onInstance_of_find_none h]; exact hm
  | some x => rw [exec_onInstance_of_find h]; exact hm.put rfl rfl

theorem keeps_sorted_lifecycle (id action : String) (allowed : PluginState → Bool)
    (a : Act Instance Unit) (target : PluginState) :
    Keeps Sorted (lifecycle id action allowed a target) := by
  intro m env hm
  cases h : m.find? id with
  | none => rw [exec_lifecycle_of_find_none h]; exact hm
  | some x =>
    cases hs : allowed x.info.state
    case false => rw [exec_lifecycle_of_refused h hs]; exact hm
    case true =>
      rcases hr : a.exec x.inst env with ⟨_ | u, i, env'⟩
      · rw [exec_lifecycle_of_error hm.plugins h hs hr]; exact hm.put rfl rfl
      · rw [exec_lifecycle_of_ok hm.plugins h hs hr]; exact hm.put rfl rfl

theorem keeps_sorted_load (path : String) : Keeps Sorted (load path) := by
  intro m env hm
  rcases load_cases hm.admitted path env with ⟨e, he⟩ | ⟨inst, i, sb, -, -, -, hsb, -, he⟩
  · rw [he]; exact hm
  · rw [he]
    obtain ⟨-, -, rfl⟩ := Sandbox.enter_eq_ok hsb
    exact ⟨Entries.keyed_put hm.plugins, Entries.keyed_put hm.admitted⟩

theorem keeps_sorted_unload (id : String) : Keeps Sorted (unload id) := by
  intro m env hm
  cases h : m.find? id with
  | none => rw [exec_unload_of_find_none h]; exact hm
  | some x =>
    obtain ⟨env', he⟩ := exec_unload_of_find hm.plugins h env
    rw [he]
    exact ⟨hm.plugins.filter _, hm.admitted.filter _⟩

theorem keeps_sorted_sampleOne (id : String) : Keeps Sorted (sampleOne id) := by
  intro m env hm
  cases h : m.find? id with
  | none => rw [exec_sampleOne_of_find_none h]; exact hm
  | some x => rw [exec_sampleOne_of_find h]; exact hm.put rfl rfl

/-- Every call keeps the plugins and the admissions sorted. -/
theorem keeps_sorted : ∀ op : ManagerOp, Keeps Sorted op.run :=
  keeps_run keeps_sorted_load (fun id => keeps_sorted_lifecycle id _ _ _ _)
    (fun id => keeps_sorted_lifecycle id _ _ _ _) keeps_sorted_unload
    (fun id _ => keeps_sorted_onInstance id _) (fun id _ => keeps_sorted_onInstance id _)
    keeps_sorted_sampleOne fun _ h => ⟨h.plugins, h.admitted⟩

/-- A manager reached from a fresh one keeps its plugins and admissions sorted. -/
theorem Reachable.sorted {m₀ : Manager} (h₀ : Fresh m₀) (h : Reachable m₀ m) : Sorted m :=
  h.holds h₀.sorted keeps_sorted

section Each

variable {Q : String → Managed → Prop} {env : Env}

/-- Every plugin the manager keeps has a property, which may mention the id it is kept under. -/
def Each (Q : String → Managed → Prop) (m : Manager) : Prop := ∀ p ∈ m.plugins, Q p.1 p.2

theorem Each.find (h : Each Q m) (hx : m.find? id = some x) : Q id x :=
  h (id, x) (Entries.mem_of_get? hx)

theorem Each.put (h : Each Q m) (hy : Q id y) (hp : m'.plugins = Entries.put id y m.plugins) :
    Each Q m' := by
  intro p hp'
  rw [hp, Entries.mem_put] at hp'
  rcases hp' with ⟨hp', -⟩ | rfl
  · exact h p hp'
  · exact hy

theorem Each.filter (h : Each Q m) {f : String × Managed → Bool}
    (hp : m'.plugins = m.plugins.filter f) : Each Q m' := by
  intro p hp'
  rw [hp] at hp'
  exact h p (List.mem_of_mem_filter hp')

theorem each_onInstance (h : Each Q m) (a : Act Instance α)
    (hQ : ∀ x, Q id x → Q id { x with inst := (a.exec x.inst env).2.1 }) :
    Each Q ((onInstance id a).exec m env).2.1 := by
  cases hx : m.find? id with
  | none => rw [exec_onInstance_of_find_none hx]; exact h
  | some x => rw [exec_onInstance_of_find hx]; exact h.put (hQ x (h.find hx)) rfl

theorem each_lifecycle {action : String} {allowed : PluginState → Bool} {a : Act Instance Unit}
    {target : PluginState} (hk : Entries.Keyed m.plugins) (h : Each Q m)
    (hok : ∀ x i env', allowed x.info.state = true → a.exec x.inst env = (.ok (), i, env') →
      Q id x → Q id ⟨i, x.info.succeeded target env'.clock.now.1⟩)
    (herr : ∀ x i env' e, allowed x.info.state = true → a.exec x.inst env = (.error e, i, env') →
      Q id x → Q id ⟨i, x.info.failed e⟩) :
    Each Q ((lifecycle id action allowed a target).exec m env).2.1 := by
  cases hx : m.find? id with
  | none => rw [exec_lifecycle_of_find_none hx]; exact h
  | some x =>
    cases hs : allowed x.info.state
    case false => rw [exec_lifecycle_of_refused hx hs]; exact h
    case true =>
      rcases hr : a.exec x.inst env with ⟨_ | u, i, env'⟩
      · rw [exec_lifecycle_of_error hk hx hs hr]
        exact h.put (herr x i env' _ hs hr (h.find hx)) rfl
      · rw [exec_lifecycle_of_ok hk hx hs hr]
        exact h.put (hok x i env' hs hr (h.find hx)) rfl

theorem each_load (hs : Sorted m) (h : Each Q m) (path : String)
    (hfresh : ∀ inst i, m.loader.load env.disk path = .ok inst → m.find? inst.metadata.id = none →
      (Instance.prepare inst.metadata.config).exec inst env = (.ok (), i, env) →
      Q inst.metadata.id ⟨i, PluginInfo.loaded inst.metadata path i.native env.clock.now.1⟩) :
    Each Q ((load path).exec m env).2.1 := by
  rcases load_cases hs.admitted path env with ⟨e, he⟩ | ⟨inst, i, sb, hl, hnone, -, -, hp, he⟩
  · rw [he]; exact h
  · rw [he]; exact h.put (hfresh inst i hl hnone hp) rfl

theorem each_unload (hk : Entries.Keyed m.plugins) (h : Each Q m) (id : String) :
    Each Q ((unload id).exec m env).2.1 := by
  cases hx : m.find? id with
  | none => rw [exec_unload_of_find_none hx]; exact h
  | some x =>
    obtain ⟨env', he⟩ := exec_unload_of_find hk hx env
    rw [he]
    exact h.filter rfl

theorem each_sampleOne (h : Each Q m)
    (hQ : ∀ x u, Q id x → Q id { x with info := { x.info with resources := u } }) :
    Each Q ((sampleOne id).exec m env).2.1 := by
  cases hx : m.find? id with
  | none => rw [exec_sampleOne_of_find_none hx]; exact h
  | some x => rw [exec_sampleOne_of_find hx]; exact h.put (hQ x _ (h.find hx)) rfl

/-- A load keeps a property of each plugin, with the order of the plugins, when a freshly prepared
plugin has it. -/
theorem keeps_each_load
    (hfresh : ∀ (l : Loader) d path inst i env, l.load d path = .ok inst →
      (Instance.prepare inst.metadata.config).exec inst env = (.ok (), i, env) →
      Q inst.metadata.id ⟨i, PluginInfo.loaded inst.metadata path i.native env.clock.now.1⟩)
    (path : String) : Keeps (fun m => Sorted m ∧ Each Q m) (load path) :=
  (keeps_sorted_load path).and fun _ env hs h =>
    each_load hs h path fun inst i hl _ hp => hfresh _ _ _ inst i env hl hp

section Steps

variable
    (hstarted : ∀ id x i env env', x.info.state.canStart = true →
      Instance.start.exec x.inst env = (.ok (), i, env') →
      Q id x → Q id ⟨i, x.info.succeeded .running env'.clock.now.1⟩)
    (hstopped : ∀ id x i env env', x.info.state.canStop = true →
      Instance.stop.exec x.inst env = (.ok (), i, env') →
      Q id x → Q id ⟨i, x.info.succeeded .stopped env'.clock.now.1⟩)
    (hfailed : ∀ id x i env env' e,
      (x.info.state.canStart = true ∧ Instance.start.exec x.inst env = (.error e, i, env')) ∨
      (x.info.state.canStop = true ∧ Instance.stop.exec x.inst env = (.error e, i, env')) →
      Q id x → Q id ⟨i, x.info.failed e⟩)
    (hevent : ∀ id x e env, Q id x →
      Q id { x with inst := ((Instance.handleEvent e).exec x.inst env).2.1 })
    (hdata : ∀ id x data env, Q id x →
      Q id { x with inst := ((Instance.processData data).exec x.inst env).2.1 })
    (hsample : ∀ id x u, Q id x → Q id { x with info := { x.info with resources := u } })

include hstarted hstopped hfailed hevent hdata hsample

/-- A property of each plugin is kept, with the order of the plugins, by every call but a load
when a start or stop that goes through or fails keeps it, and handing a plugin an event or data or
sampling it keeps it. -/
theorem keeps_each_of_ne_load :
    ∀ op : ManagerOp, (∀ path, op ≠ .load path) → Keeps (fun m => Sorted m ∧ Each Q m) op.run :=
  keeps_run_of_ne_load
    (fun id => (keeps_sorted_lifecycle id _ _ _ _).and fun _ env hs h =>
      each_lifecycle hs.plugins h (fun x i env' ha hr => hstarted id x i env env' ha hr)
        fun x i env' e ha hr => hfailed id x i env env' e (.inl ⟨ha, hr⟩))
    (fun id => (keeps_sorted_lifecycle id _ _ _ _).and fun _ env hs h =>
      each_lifecycle hs.plugins h (fun x i env' ha hr => hstopped id x i env env' ha hr)
        fun x i env' e ha hr => hfailed id x i env env' e (.inr ⟨ha, hr⟩))
    (fun id => (keeps_sorted_unload id).and fun _ _ hs h => each_unload hs.plugins h id)
    (fun id e => (keeps_sorted_onInstance id _).and fun _ env _ h =>
      each_onInstance h _ fun x => hevent id x e env)
    (fun id data => (keeps_sorted_onInstance id _).and fun _ env _ h =>
      each_onInstance h _ fun x => hdata id x data env)
    (fun id => (keeps_sorted_sampleOne id).and fun _ _ _ h =>
      each_sampleOne h fun x u => hsample id x u)
    fun _ h => ⟨⟨h.1.plugins, h.1.admitted⟩, h.2⟩

/-- ... and by every call, when moreover a freshly prepared plugin has it. -/
theorem keeps_each
    (hfresh : ∀ (l : Loader) d path inst i env, l.load d path = .ok inst →
      (Instance.prepare inst.metadata.config).exec inst env = (.ok (), i, env) →
      Q inst.metadata.id ⟨i, PluginInfo.loaded inst.metadata path i.native env.clock.now.1⟩)
    (op : ManagerOp) : Keeps (fun m => Sorted m ∧ Each Q m) op.run := by
  cases op
  case load path => exact (keeps_each_load hfresh path).map _
  all_goals
    exact keeps_each_of_ne_load hstarted hstopped hfailed hevent hdata hsample _
      fun _ h => nomatch h

end Steps

end Each

/-! ## A manager with a started plugin -/

/-- A working directory holding the plugin directory `fmt` and its manifest. -/
def fmtDisk : Disk :=
  ⟨.dir [("work", .dir [("fmt", .dir [("manifest.json", .file
    "\x7b\"id\":\"fmt\",\"name\":\"Formatter\",\"version\":\"1.0\"\x7d")])])]⟩

/-- The manager that has loaded the plugin `fmt` from that directory. -/
def fmtLoaded : Manager := (runCalls [.load "fmt"] {} { disk := fmtDisk }).1

/-- The manager that has loaded `fmt` and then started it. -/
def fmtStarted : Manager := (runCalls [.load "fmt", .start "fmt"] {} { disk := fmtDisk }).1

theorem reachable_fmtLoaded : Reachable {} fmtLoaded := Reachable.runCalls _ _ .refl

theorem reachable_fmtStarted : Reachable {} fmtStarted := Reachable.runCalls _ _ .refl

/-- In `fmtStarted`, `fmt` is a running manifest plugin. -/
theorem fmtStarted_find :
    ∃ x p, fmtStarted.find? "fmt" = some x ∧ x.inst = .manifest p ∧ x.info.state = .running := by
  have h : (fmtStarted.find? "fmt").map (fun x => (x.info.state, x.inst.native)) =
      some (.running, false) := by
    decide +kernel
  obtain ⟨x, hx, hsn⟩ := Option.map_eq_some_iff.1 h
  obtain ⟨hstate, hnative⟩ := Prod.mk.inj hsn
  cases hi : x.inst with
  | manifest p => exact ⟨x, p, hx, hi, hstate⟩
  | echo _ | faulty _ => rw [hi] at hnative; cases hnative

end Manager

end Plugboard
