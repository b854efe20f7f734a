import Plugboard.Proofs.Lifecycle
/-!
# The manager and its sandbox agree on membership

The plugins a manager has loaded are kept in three places: its own entries, the ids its loads in
flight have reserved, and the admissions of its sandbox. They stay in step (`Manager.InStep`): the
sandbox admits exactly the plugins loaded, each kept under its own id, no reservation outlives its
load, and no more plugins are loaded than the sandbox has room for.

A load that goes through admits and loads one plugin under a free id; one that fails at any stage
changes nothing. An unload takes the plugin out of both places, whatever its instance answered.
Every other call only replaces plugins under their ids. So every manager reached from a fresh one
is in step, and shutting it down empties both places, after which a second shutdown changes
nothing.
-/

namespace Plugboard

open Act

/-- Taking out one id and then a list of them takes out the list with that id in front. -/
theorem Entries.filter_ne_filter {β : Type} (l : List (String × β)) (id : String)
    (ids : List String) :
    (l.filter (·.1 != id)).filter (fun p => !ids.contains p.1) =
      l.filter fun p => !(id :: ids).contains p.1 := by
  rw [List.filter_filter]
  apply List.filter_congr
  intro p _
  rw [List.contains_cons]
  cases h : p.1 == id <;> simp [h, bne]

namespace Manager

variable {α : Type} {m₀ m m' : Manager} {env : Env} {id : String} {x y : Managed}

/-- The manager with a plugin taken out of it and out of its sandbox. -/
def without (m : Manager) (id : String) : Manager :=
  { m with
    sandbox := { m.sandbox with admitted := m.sandbox.admitted.filter (·.1 != id) }
    plugins := m.plugins.filter (·.1 != id) }

/-- The manager and its sandbox agree on which plugins there are. -/
structure InStep (m : Manager) : Prop where
  sorted : Sorted m
  ids : Each (fun id x => x.info.id = id) m
  admitted : Entries.keys m.sandbox.admitted = Entries.keys m.plugins
  loading : m.loading = []
  room : m.plugins.length ≤ m.sandbox.config.maxPlugins

theorem Fresh.inStep (h : Fresh m) : InStep m where
  sorted := h.sorted
  ids := by
    intro p hp
    rw [h.plugins] at hp
    cases hp
  admitted := by
    rw [h.admitted, h.plugins]
    rfl
  loading := h.loading
  room := by
    rw [h.plugins]
    exact Nat.zero_le _

namespace InStep

/-- The ids the sandbox admits are those of the records the manager lists. -/
theorem sandbox_plugins (h : InStep m) : m.sandbox.plugins = m.list.map PluginInfo.id := by
  have hids : m.list.map PluginInfo.id = Entries.keys m.plugins := by
    rw [list, List.map_map, Entries.keys]
    exact List.map_congr_left fun p hp => h.ids p hp
  rw [hids, ← h.admitted]
  rfl

/-- Replacing a loaded plugin by one under the same id, with the sandbox and the reservations left
alone, keeps the manager in step. -/
theorem put (h : InStep m) (hx : m.find? id = some x)
    (hp : m'.plugins = Entries.put id y m.plugins) (hsb : m'.sandbox = m.sandbox)
    (hl : m'.loading = m.loading) (hy : y.info.id = id) : InStep m' := by
  have hkeys : Entries.keys m'.plugins = Entries.keys m.plugins := by
    rw [hp]
    exact Entries.keys_put_of_mem h.sorted.plugins (Entries.mem_keys_of_get? hx)
  refine ⟨h.sorted.put hsb hp, h.ids.put hy hp, ?_, hl ▸ h.loading, ?_⟩
  · rw [hsb, hkeys, h.admitted]
  · -- a plugin was replaced, so there are as many as before
    have hlen : m'.plugins.length = m.plugins.length := by
      simpa [Entries.keys] using congrArg List.length hkeys
    rw [hlen, hsb]
    exact h.room

/-- Taking a plugin out of the manager and out of the sandbox keeps the manager in step. -/
theorem without (h : InStep m) (id : String) : InStep (m.without id) where
  sorted := ⟨h.sorted.plugins.filter _, h.sorted.admitted.filter _⟩
  ids := h.ids.filter rfl
  admitted := by
    show Entries.keys (m.sandbox.admitted.filter _) = Entries.keys (m.plugins.filter _)
    rw [Entries.keys_filter, Entries.keys_filter, h.admitted]
  loading := h.loading
  room := (List.length_filter_le _ _).trans h.room

/-- Admitting a plugin under an id that is not loaded, and loading it under that id, keeps the
manager in step. -/
theorem enter (h : InStep m) {md : Metadata} {sb : Sandbox} (hnone : m.find? md.id = none)
    (hsb : m.sandbox.enter md = .ok sb) (hy : y.info.id = md.id) :
    InStep { m with sandbox := sb, plugins := Entries.put md.id y m.plugins } := by
  obtain ⟨-, hroom, rfl⟩ := Sandbox.enter_eq_ok hsb
  have hfree : ∀ p ∈ m.plugins, p.1 ≠ md.id := Entries.get?_eq_none_iff.1 hnone
  have hlen : m.sandbox.admitted.length = m.plugins.length := by
    simpa [Entries.keys] using congrArg List.length h.admitted
  refine ⟨⟨Entries.keyed_put h.sorted.plugins, Entries.keyed_put h.sorted.admitted⟩,
    h.ids.put hy rfl, Entries.keys_put_congr h.admitted, h.loading, ?_⟩
  -- one more plugin is loaded, and the sandbox had room for one more
  show (Entries.put md.id y m.plugins).length ≤ m.sandbox.config.maxPlugins
  rw [Entries.length_put_of_not_mem hfree]
  omega

end InStep

theorem keeps_inStep_onInstance (id : String) (a : Act Instance α) :
    Keeps InStep (onInstance id a) := by
  intro m env h
  cases hx : m.find? id with
  | none => rw [exec_onInstance_of_find_none hx]; exact h
  | some x =>
    have hxid : x.info.id = id := h.ids.find hx
    rw [exec_onInstance_of_find hx]
    exact h.put hx rfl rfl rfl hxid

theorem keeps_inStep_lifecycle (id action : String) (allowed : PluginState → Bool)
    (a : Act Instance Unit) (target : PluginState) :
    Keeps InStep (lifecycle id action allowed a target) := by
  intro m env h
  cases hx : m.find? id with
  | none => rw [exec_lifecycle_of_find_none hx]; exact h
  | some x =>
    have hxid : x.info.id = id := h.ids.find hx
    cases hs : allowed x.info.state
    case false => rw [exec_lifecycle_of_refused hx hs]; exact h
    case true =>
      rw [exec_lifecycle_records h.sorted.plugins hx hs]
      rcases a.exec x.inst env with ⟨_ | u, i, env'⟩
      · exact h.put hx rfl rfl rfl hxid
      · exact h.put hx rfl rfl rfl (PluginInfo.succeeded_id.trans hxid)

theorem keeps_inStep_sampleOne (id : String) : Keeps InStep (sampleOne id) := by
  intro m env h
  cases hx : m.find? id with
  | none => rw [exec_sampleOne_of_find_none hx]; exact h
  | some x =>
    have hxid : x.info.id = id := h.ids.find hx
    rw [exec_sampleOne_of_find hx]
    exact h.put hx rfl rfl rfl hxid

theorem keeps_inStep_load (path : String) : Keeps InStep (load path) := by
  intro m env h
  rcases load_cases h.sorted.admitted path env with
    ⟨e, he⟩ | ⟨inst, i, sb, -, hnone, -, hsb, -, he⟩
  · rw [he]
    exact h
  · rw [he]
    exact h.enter hnone hsb rfl

/-- From a manager in step with its sandbox, an unload leaves the manager without the plugin,
whether or not it was loaded and whatever its instance answered. -/
theorem unload_without (h : InStep m) (id : String) (env : Env) :
    ((unload id).exec m env).2.1 = m.without id := by
  cases hx : m.find? id with
  | none =>
    rw [exec_unload_of_find_none hx]
    -- nothing is kept under this id, neither in the manager nor in the sandbox
    have hfree : ∀ p ∈ m.plugins, p.1 ≠ id := Entries.get?_eq_none_iff.1 hx
    have hfree' : ∀ p ∈ m.sandbox.admitted, p.1 ≠ id := by
      intro p hp hid
      have hk : id ∈ Entries.keys m.plugins := by
        rw [← h.admitted]
        exact List.mem_map.2 ⟨p, hp, hid⟩
      obtain ⟨q, hq, hqid⟩ := List.mem_map.1 hk
      exact hfree q hq hqid
    simp only [without, Entries.filter_of_not_mem hfree, Entries.filter_of_not_mem hfree']
  | some x =>
    obtain ⟨env', he⟩ := exec_unload_of_find h.sorted.plugins hx env
    rw [he]
    rfl

theorem keeps_inStep_unload (id : String) : Keeps InStep (unload id) := by
  intro m env h
  rw [unload_without h]
  exact h.without id

/-- Every call keeps the manager in step with its sandbox. -/
theorem keeps_inStep : ∀ op : ManagerOp, Keeps InStep op.run :=
  keeps_run keeps_inStep_load (fun id => keeps_inStep_lifecycle id _ _ _ _)
    (fun id => keeps_inStep_lifecycle id _ _ _ _) keeps_inStep_unload
    (fun id _ => keeps_inStep_onInstance id _) (fun id _ => keeps_inStep_onInstance id _)
    keeps_inStep_sampleOne
    fun _ h => ⟨⟨h.sorted.plugins, h.sorted.admitted⟩, h.ids, h.admitted, h.loading, h.room⟩

theorem Reachable.inStep (h₀ : Fresh m₀) (h : Reachable m₀ m) : InStep m :=
  h.holds h₀.inStep keeps_inStep

theorem foldl_without (ids : List String) (m : Manager) :
    (ids.foldl without m).plugins = m.plugins.filter (fun p => !ids.contains p.1) ∧
    (ids.foldl without m).sandbox.admitted =
      m.sandbox.admitted.filter (fun p => !ids.contains p.1) := by
  induction ids generalizing m with
  | nil => simp
  | cons id ids ih =>
    rw [List.foldl_cons, (ih _).1, (ih _).2]
    exact ⟨Entries.filter_ne_filter _ id ids, Entries.filter_ne_filter _ id ids⟩

/-- Shutting down a manager in step with its sandbox unloads its plugins one after another, and
stops the sampling. -/
theorem exec_shutdown (h : InStep m) (env : Env) :
    ∃ env', shutdown.exec m env =
      (.ok (), { (Entries.keys m.plugins).foldl without m with monitorStopped := true }, env') := by
  have hround : ∀ id m env, InStep m → ∃ env',
      (Act.attempt (unload id) >>= fun _ => pure (ForInStep.yield PUnit.unit) :
        Act Manager (ForInStep PUnit)).exec m env = (.ok (.yield PUnit.unit), m.without id, env') :=
    fun id m env h => ⟨_, by rw [exec_bind, exec_attempt, unload_without h]; rfl⟩
  have hkeep : ∀ (id : String) (m : Manager), InStep m → InStep (m.without id) :=
    fun id _ h => h.without id
  obtain ⟨env1, hloop⟩ := @exec_forIn_yield Manager PUnit InStep String without PUnit.unit
    (fun id _ => Act.attempt (unload id) >>= fun _ => pure (ForInStep.yield PUnit.unit))
    hkeep hround (Entries.keys m.plugins) m env h
  unfold Entries.keys at hloop
  rw [shutdown, exec_self_bind]
  dsimp only
  rw [exec_bind, hloop]
  exact ⟨_, rfl⟩

theorem shutdown_empties (h : InStep m) (env : Env) :
    (shutdown.exec m env).2.1.plugins = [] ∧ (shutdown.exec m env).2.1.sandbox.admitted = [] := by
  obtain ⟨env', he⟩ := exec_shutdown h env
  obtain ⟨hp, ha⟩ := foldl_without (Entries.keys m.plugins) m
  rw [he]
  -- every plugin and every admission is under one of the ids the loop went through
  refine ⟨hp.trans (List.filter_eq_nil_iff.2 fun p hp' => ?_),
    ha.trans (List.filter_eq_nil_iff.2 fun p hp' => ?_)⟩
  · have hk : p.1 ∈ Entries.keys m.plugins := List.mem_map.2 ⟨p, hp', rfl⟩
    simpa using hk
  · have hk : p.1 ∈ Entries.keys m.plugins := by
      rw [← h.admitted]
      exact List.mem_map.2 ⟨p, hp', rfl⟩
    simpa using hk

theorem exec_shutdown_of_empty (hp : m.plugins = []) (hs : m.monitorStopped = true) (env : Env) :
    shutdown.exec m env = (.ok (), m, env) := by
  rw [shutdown, exec_self_bind]
  dsimp only
  rw [hp, exec_bind]
  simp only [List.map_nil, List.forIn_nil, exec_pure, exec_change]
  rw [← hs]

/-- Along every run from a fresh manager, the sandbox admits exactly the plugins the manager lists,
no reservation is left, and no more plugins are loaded than the sandbox has room for. A load that
fails changes nothing; an unload of a loaded plugin answers and takes it out of both, whatever its
instance answered; a shutdown empties both, after which a second one changes nothing. -/
theorem sandbox_membership (h₀ : Fresh m₀) (h : Reachable m₀ m) :
    (m.sandbox.plugins = m.list.map PluginInfo.id ∧ m.loading = [] ∧
      m.list.length ≤ m.sandbox.config.maxPlugins) ∧
    (∀ path env e, ((load path).exec m env).1 = .error e → ((load path).exec m env).2.1 = m) ∧
    (∀ id x env, m.find? id = some x →
      ((unload id).exec m env).1 = .ok () ∧
      ((unload id).exec m env).2.1.sandbox.plugins = m.sandbox.plugins.filter (· != id) ∧
      ((unload id).exec m env).2.1.list.map PluginInfo.id =
        (m.list.map PluginInfo.id).filter (· != id)) ∧
    ∀ env env', (shutdown.exec m env).2.1.sandbox.plugins = [] ∧
      (shutdown.exec m env).2.1.list = [] ∧
      shutdown.exec (shutdown.exec m env).2.1 env' = (.ok (), (shutdown.exec m env).2.1, env') := by
  have hs := h.inStep h₀
  refine ⟨⟨hs.sandbox_plugins, hs.loading, by rw [list, List.length_map]; exact hs.room⟩,
    fun path env e he => ?_, fun id x env hx => ?_, fun env env' => ?_⟩
  · -- a load that answers an error is one that changed nothing
    rcases load_cases hs.sorted.admitted path env with
      ⟨e', he'⟩ | ⟨_, _, _, _, _, _, _, _, he'⟩
    · rw [he']
    · rw [he'] at he
      cases he
  · obtain ⟨env', he⟩ := exec_unload_of_find hs.sorted.plugins hx env
    have hw : ((unload id).exec m env).2.1 = m.without id := unload_without hs id env
    refine ⟨by rw [he], ?_, ?_⟩
    · rw [hw]
      exact Entries.keys_filter id m.sandbox.admitted
    · rw [hw, ← (hs.without id).sandbox_plugins, ← hs.sandbox_plugins]
      exact Entries.keys_filter id m.sandbox.admitted
  · obtain ⟨hp, ha⟩ := shutdown_empties hs env
    obtain ⟨env1, he⟩ := exec_shutdown hs env
    have hstop : (shutdown.exec m env).2.1.monitorStopped = true := by rw [he]
    refine ⟨by rw [Sandbox.plugins, ha]; rfl, by rw [list, hp]; rfl,
      exec_shutdown_of_empty hp hstop env'⟩

/-- Once `fmt` is loaded and started, the sandbox admits exactly it, and unloading it answers and
leaves the sandbox empty. -/
theorem started_plugin_admitted_until_unloaded :
    Fresh ({} : Manager) ∧ Reachable {} fmtStarted ∧
      fmtStarted.sandbox.plugins = fmtStarted.list.map PluginInfo.id ∧
      fmtStarted.sandbox.plugins = ["fmt"] ∧
      ∀ env, ((unload "fmt").exec fmtStarted env).1 = .ok () ∧
        ((unload "fmt").exec fmtStarted env).2.1.sandbox.plugins = [] := by
  obtain ⟨⟨hsb, -, -⟩, -, hunload, -⟩ := sandbox_membership Fresh.empty reachable_fmtStarted
  obtain ⟨x, -, hx, -, -⟩ := fmtStarted_find
  have hadm : fmtStarted.sandbox.plugins = ["fmt"] := by decide +kernel
  refine ⟨Fresh.empty, reachable_fmtStarted, hsb, hadm, fun env => ?_⟩
  obtain ⟨hok, hplugins, -⟩ := hunload "fmt" x env hx
  refine ⟨hok, ?_⟩
  rw [hplugins, hadm]
  decide

end Manager

end Plugboard
