import Mathlib.Data.String.Basic
import Mathlib.Data.List.Sort
import Plugboard.Runtime.Manager
import Plugboard.Proofs.Exec
/-!
# What each call of the manager does

The manager keeps its plugins, and the sandbox its admissions, as entries in increasing order of
id, each put in by sorting it into the others (`Entries.put`). So no id is there twice, and an
entry is looked up, replaced or taken out by its id alone.

Each call of the manager is described here once, by its run: a start or stop the plugin's state
refuses changes nothing; one it allows calls the instance once and records how that went; a load
either changes nothing or adds one prepared plugin under an id that was free, admitted into the
sandbox; an unload takes the id out of the manager and out of the sandbox, whatever the instance
answered; a broadcast answers as the plugins take the event one by one, each from where the
broadcast started. Later proofs use these runs and never open a call.
-/

namespace Plugboard

open Act

namespace Entries

variable {β : Type}

/-- Entries in increasing order of key, so that no key is there twice. -/
def Keyed (l : List (String × β)) : Prop := l.Pairwise fun a b => a.1 < b.1

/-- The value under a key. -/
def get? (k : String) (l : List (String × β)) : Option β := (l.find? (·.1 == k)).map (·.2)

/-- The entries with one put in under its key, replacing any there, sorted in by key. -/
def put (k : String) (v : β) (l : List (String × β)) : List (String × β) :=
  (l.filter (·.1 != k) ++ [(k, v)]).mergeSort fun a b => decide (a.1 ≤ b.1)

/-- The keys, in order. -/
def keys (l : List (String × β)) : List String := l.map (·.1)

variable {k k' : String} {v v' : β} {l : List (String × β)} {x : String × β}

theorem mem_put : x ∈ put k v l ↔ (x ∈ l ∧ x.1 ≠ k) ∨ x = (k, v) := by
  simp [put, List.mem_mergeSort, List.mem_filter]

theorem Keyed.nodup_keys (hk : Keyed l) : (keys l).Nodup := by
  rw [keys, List.Nodup, List.pairwise_map]
  exact hk.imp ne_of_lt

theorem Keyed.filter (hk : Keyed l) (p : String × β → Bool) : Keyed (l.filter p) :=
  hk.sublist List.filter_sublist

/-- Entries sorted by key with no key twice are keyed. -/
theorem keyed_of_sorted (hs : l.Pairwise fun a b => a.1 ≤ b.1) (hn : (keys l).Nodup) :
    Keyed l := by
  rw [keys, List.Nodup, List.pairwise_map] at hn
  exact (hs.and hn).imp fun h => lt_of_le_of_ne h.1 h.2

theorem sorted_mergeSort (l : List (String × β)) :
    (l.mergeSort fun a b => decide (a.1 ≤ b.1)).Pairwise fun a b => a.1 ≤ b.1 := by
  have h : (l.mergeSort fun a b => decide (a.1 ≤ b.1)).Pairwise
      fun a b => decide (a.1 ≤ b.1) = true :=
    List.pairwise_mergeSort
      (fun a b c hab hbc => by simp only [decide_eq_true_eq] at *; exact le_trans hab hbc)
      (fun a b => by simpa using le_total a.1 b.1) l
  exact h.imp fun h => of_decide_eq_true h

theorem keyed_put (hk : Keyed l) : Keyed (put k v l) := by
  refine keyed_of_sorted (sorted_mergeSort _) ?_
  rw [keys, put, ((List.mergeSort_perm _ _).map _).nodup_iff, List.map_append, List.nodup_append]
  refine ⟨(hk.filter _).nodup_keys, List.nodup_singleton _, ?_⟩
  simp [List.mem_filter]

/-- Keyed entries are the same when they have the same members. -/
theorem Keyed.ext {l' : List (String × β)} (hk : Keyed l) (hk' : Keyed l')
    (h : List.Perm l l') : l = l' :=
  h.eq_of_pairwise (fun _ _ _ _ hab hba => absurd (hab.trans hba) (lt_irrefl _)) hk hk'

theorem get?_eq_some_iff (hk : Keyed l) : get? k l = some v ↔ (k, v) ∈ l := by
  induction l with
  | nil => simp [get?]
  | cons y ys ih =>
    obtain ⟨hy, hys⟩ := List.pairwise_cons.1 hk
    by_cases hyk : y.1 = k
    · have hnot : (k, v) ∉ ys := fun h => (hy _ h).ne (hyk.trans rfl)
      obtain ⟨a, b⟩ := y
      simp only at hyk
      subst hyk
      simp [get?, hnot, eq_comm]
    · have hget : get? k (y :: ys) = get? k ys := by simp [get?, hyk]
      have hne : (k, v) ≠ y := fun h => hyk (h ▸ rfl)
      rw [hget, ih hys, List.mem_cons, or_iff_right hne]

/-- A value found under a key is an entry. -/
theorem mem_of_get? (h : get? k l = some v) : (k, v) ∈ l := by
  obtain ⟨y, hy, rfl⟩ := Option.map_eq_some_iff.1 h
  have hyk : y.1 = k := by simpa using List.find?_some hy
  rw [← hyk]
  exact List.mem_of_find?_eq_some hy

theorem get?_eq_none_iff : get? k l = none ↔ ∀ y ∈ l, y.1 ≠ k := by
  simp [get?, List.find?_eq_none]

@[simp] theorem get?_put_self : get? k (put k v l) = some v := by
  unfold get?
  rcases h : (put k v l).find? (·.1 == k) with _ | y
  · exact absurd (List.find?_eq_none.1 h (k, v) (mem_put.2 (.inr rfl))) (by simp)
  · have hy := List.mem_of_find?_eq_some h
    have hyk : y.1 = k := by simpa using List.find?_some h
    rcases mem_put.1 hy with ⟨-, hne⟩ | rfl
    · exact absurd hyk hne
    · rw [h]
      rfl

theorem get?_put_of_ne (hk : Keyed l) (hne : k' ≠ k) : get? k' (put k v l) = get? k' l := by
  cases hg : get? k' l with
  | none =>
    rw [get?_eq_none_iff] at hg ⊢
    intro y hy
    rcases mem_put.1 hy with ⟨hy, -⟩ | rfl
    · exact hg y hy
    · exact hne.symm
  | some w =>
    rw [get?_eq_some_iff (keyed_put hk), mem_put]
    exact .inl ⟨(get?_eq_some_iff hk).1 hg, hne⟩

/-- Taking a key out undoes putting an entry under it. -/
theorem filter_put (hk : Keyed l) : (put k v l).filter (·.1 != k) = l.filter (·.1 != k) := by
  refine ((keyed_put hk).filter _).ext (hk.filter _) ?_
  refine ((List.mergeSort_perm _ _).filter _).trans ?_
  simp [List.filter_append, List.filter_filter]

/-- A second entry put under a key replaces the first. -/
theorem put_put (hk : Keyed l) : put k v (put k v' l) = put k v l := by
  rw [put, filter_put hk]
  rfl

/-- Entries under a key that is not there are all kept. -/
theorem filter_of_not_mem (h : ∀ y ∈ l, y.1 ≠ k) : l.filter (·.1 != k) = l :=
  List.filter_eq_self.2 fun y hy => by simpa using h y hy

/-- The keys after putting an entry in: the old keys but the new one, with the new one sorted in. -/
theorem keys_put : keys (put k v l) = (keys (l.filter (·.1 != k)) ++ [k]).mergeSort
    fun a b => decide (a ≤ b) := by
  have h :
      ((l.filter (·.1 != k) ++ [(k, v)]).mergeSort fun a b => decide (a.1 ≤ b.1)).map (·.1) =
      ((l.filter (·.1 != k) ++ [(k, v)]).map (·.1)).mergeSort fun a b => decide (a ≤ b) :=
    List.map_mergeSort fun _ _ _ _ => rfl
  rw [keys, put, h, List.map_append]
  rfl

/-- Putting an entry under a key that is there keeps the keys. -/
theorem keys_put_of_mem (hk : Keyed l) (h : k ∈ keys l) : keys (put k v l) = keys l := by
  have hs : ∀ {l : List (String × β)}, Keyed l → (keys l).Pairwise (· < ·) := fun h =>
    List.pairwise_map.2 h
  refine List.Pairwise.eq_of_mem_iff (hs (keyed_put hk)) (hs hk) fun a => ?_
  simp only [keys, List.mem_map, mem_put]
  constructor
  · rintro ⟨y, ⟨hy, -⟩ | rfl, rfl⟩
    · exact ⟨y, hy, rfl⟩
    · simpa [keys] using h
  · rintro ⟨y, hy, rfl⟩
    by_cases hyk : y.1 = k
    · exact ⟨(k, v), .inr rfl, hyk.symm⟩
    · exact ⟨y, .inl ⟨hy, hyk⟩, rfl⟩

theorem length_put_of_not_mem (h : ∀ y ∈ l, y.1 ≠ k) : (put k v l).length = l.length + 1 := by
  rw [put, List.length_mergeSort, List.length_append, filter_of_not_mem h]
  rfl

theorem mem_keys_of_get? (h : get? k l = some v) : k ∈ keys l :=
  List.mem_map.2 ⟨(k, v), mem_of_get? h, rfl⟩

theorem keys_filter (k : String) (l : List (String × β)) :
    keys (l.filter (·.1 != k)) = (keys l).filter (· != k) := by
  rw [keys, keys, List.filter_map]
  rfl

/-- What putting an entry in does to the keys depends on the keys alone. -/
theorem keys_put_congr {γ : Type} {l' : List (String × γ)} {v' : γ} (h : keys l = keys l') :
    keys (put k v l) = keys (put k v' l') := by
  rw [keys_put, keys_put, keys_filter, keys_filter, h]

end Entries

namespace Sandbox

variable {s sb : Sandbox} {md : Metadata}

/-- An admission needs an id not yet admitted and room for one more, and files the plugin's
permissions under its id. -/
theorem enter_eq_ok (h : s.enter md = .ok sb) :
    (∀ y ∈ s.admitted, y.1 ≠ md.id) ∧ s.admitted.length < s.config.maxPlugins ∧
      sb = { s with admitted := Entries.put md.id md.permissions s.admitted } := by
  unfold enter at h
  simp only [bind, Except.bind, pure, Except.pure] at h
  -- whatever the permission check decides, an admission needs a new id and room for it
  have hnew : ∀ y ∈ s.admitted, y.1 ≠ md.id := by
    intro y hy hyid
    have hdup : (s.admitted.any fun x => x.1 == md.id) = true :=
      List.any_eq_true.2 ⟨y, hy, by simp [hyid]⟩
    simp [hdup] at h
    split_ifs at h
  have hroom : s.admitted.length < s.config.maxPlugins := by
    by_contra hfull
    simp [Nat.le_of_not_lt hfull] at h
    split_ifs at h
  refine ⟨hnew, hroom, ?_⟩
  have hdup : (s.admitted.any fun x => x.1 == md.id) = false := by
    simpa using hnew
  simp [hdup, Nat.not_le_of_lt hroom] at h
  have hput : Entries.put md.id md.permissions s.admitted =
      (s.admitted ++ [(md.id, md.permissions)]).mergeSort fun a b => decide (a.1 ≤ b.1) := by
    rw [Entries.put, Entries.filter_of_not_mem hnew]
  rw [hput]
  -- past the checks, either permission branch admits the same entry
  split_ifs at h <;> cases h <;> rfl

theorem remove_getD (s : Sandbox) (id : String) :
    (s.remove id).toOption.getD s = { s with admitted := s.admitted.filter (·.1 != id) } := by
  unfold remove
  split
  · rfl
  · rename_i h
    -- no admission has the id, so taking it out keeps them all
    have hnone : ∀ y ∈ s.admitted, y.1 ≠ id := fun y hy hyid =>
      h (List.any_eq_true.2 ⟨y, hy, by simp [hyid]⟩)
    rw [Entries.filter_of_not_mem hnone]
    rfl

/-- Letting a plugin go undoes admitting it. -/
theorem remove_enter (hk : Entries.Keyed sb.admitted)
    (h : sb.enter md = .ok s) : (s.remove md.id).toOption.getD s = sb := by
  obtain ⟨hnew, -, rfl⟩ := enter_eq_ok h
  rw [remove_getD]
  simp only [Entries.filter_put hk, Entries.filter_of_not_mem hnew]

end Sandbox

namespace Instance

/-- Preparing an instance reads neither the disk nor the clock. -/
theorem exec_prepare_env (c : List (String × Json)) (i : Instance) (env : Env) :
    ((prepare c).exec i env).2.2 = env := by
  cases i with
  | echo p => rfl
  | faulty p => rfl
  | manifest p =>
    show ((onManifest ((p.prepare c).map ((), ·))).exec (.manifest p) env).2.2 = env
    cases p.prepare c <;> rfl

/-- Nor does handing it an event. -/
theorem exec_handleEvent_env (e : Event) (i : Instance) (env : Env) :
    ((handleEvent e).exec i env).2.2 = env := by
  cases i with
  | echo p => rfl
  | faulty p => rfl
  | manifest p =>
    show ((onManifest (p.handleEvent.map ((), ·))).exec (.manifest p) env).2.2 = env
    cases p.handleEvent <;> rfl

end Instance

namespace Manager

variable {α : Type} {m : Manager} {env : Env} {id : String} {x : Managed}

theorem find?_eq_get? (m : Manager) (id : String) : m.find? id = Entries.get? id m.plugins := rfl

theorem find?_put_self (m : Manager) (id : String) (y : Managed) :
    ({ m with plugins := Entries.put id y m.plugins } : Manager).find? id = some y :=
  Entries.get?_put_self

theorem exec_putManaged (id : String) (y : Managed) (m : Manager) (env : Env) :
    (putManaged id y).exec m env =
      (.ok (), { m with plugins := Entries.put id y m.plugins }, env) := rfl

theorem exec_managed_of_find (h : m.find? id = some x) :
    (managed id).exec m env = (.ok x, m, env) := by
  rw [managed, exec_self_bind, h]
  rfl

theorem exec_managed_of_find_none (h : m.find? id = none) :
    (managed id).exec m env = (.error (.notFound id), m, env) := by
  rw [managed, exec_self_bind, h]
  rfl

/-- An operation on a plugin's instance runs on the instance it has, and the plugin keeps the
instance as the operation left it, answer or failure. -/
theorem exec_onInstance_of_find (h : m.find? id = some x) (a : Act Instance α) :
    (onInstance id a).exec m env =
      ((a.exec x.inst env).1,
        { m with plugins := Entries.put id { x with inst := (a.exec x.inst env).2.1 } m.plugins },
        (a.exec x.inst env).2.2) := by
  rw [onInstance, exec_bind, exec_managed_of_find h]
  dsimp only
  rw [exec_bind, exec_get]
  dsimp only
  rcases a.exec x.inst env with ⟨r, i, env'⟩
  cases r <;> rfl

theorem exec_onInstance_of_find_none (h : m.find? id = none) (a : Act Instance α) :
    (onInstance id a).exec m env = (.error (.notFound id), m, env) := by
  rw [onInstance, exec_bind, exec_managed_of_find_none h]

theorem exec_check_of_find (h : m.find? id = some x) (action : String)
    (allowed : PluginState → Bool) :
    (check id action allowed).exec m env =
      if allowed x.info.state then (.ok (), m, env)
      else (.error (.invalidState id x.info.state.name action), m, env) := by
  rw [check, exec_bind, exec_managed_of_find h]
  dsimp only
  rw [exec_failIf]
  cases allowed x.info.state <;> rfl

theorem exec_check_of_find_none (h : m.find? id = none) (action : String)
    (allowed : PluginState → Bool) :
    (check id action allowed).exec m env = (.error (.notFound id), m, env) := by
  rw [check, exec_bind, exec_managed_of_find_none h]

theorem exec_record_ok_of_find (h : m.find? id = some x) (target : PluginState) :
    (record id target (.ok ())).exec m env =
      (.ok (), { m with
          plugins :=
            Entries.put id { x with info := x.info.succeeded target env.clock.now.1 } m.plugins },
        { env with clock := env.clock.now.2 }) := by
  rw [record, exec_self_bind, h]
  rfl

theorem exec_record_error_of_find (h : m.find? id = some x) (target : PluginState) (e : Error) :
    (record id target (.error e)).exec m env =
      (.error e, { m with plugins := Entries.put id { x with info := x.info.failed e } m.plugins },
        env) := by
  rw [record, exec_self_bind, h]
  rfl

section Lifecycle

variable {action : String} {allowed : PluginState → Bool} {a : Act Instance Unit}
  {target : PluginState} {i : Instance} {env' : Env}

/-- A step the plugin's state refuses fails, naming the plugin, its state and the step, and
changes nothing: the instance is not called. -/
theorem exec_lifecycle_of_refused (h : m.find? id = some x) (hs : allowed x.info.state = false) :
    (lifecycle id action allowed a target).exec m env =
      (.error (.invalidState id x.info.state.name action), m, env) := by
  rw [lifecycle, exec_bind, exec_check_of_find h, hs]
  rfl

theorem exec_lifecycle_of_find_none (h : m.find? id = none) :
    (lifecycle id action allowed a target).exec m env = (.error (.notFound id), m, env) := by
  rw [lifecycle, exec_bind, exec_check_of_find_none h]

/-- A step the plugin's state allows calls the instance once, from the instance the plugin has,
and then records the outcome on the plugin as the instance left it. -/
theorem exec_lifecycle_of_allowed (h : m.find? id = some x) (hs : allowed x.info.state = true) :
    (lifecycle id action allowed a target).exec m env =
      (record id target (a.exec x.inst env).1).exec
        { m with plugins := Entries.put id { x with inst := (a.exec x.inst env).2.1 } m.plugins }
        (a.exec x.inst env).2.2 := by
  rw [lifecycle, exec_bind, exec_check_of_find h, if_pos hs]
  dsimp only
  rw [exec_bind, exec_attempt, exec_onInstance_of_find h]

/-- A step the plugin's state allows and the instance takes leaves the plugin with the instance
as the step left it and its record stamped with the time the step went through. -/
theorem exec_lifecycle_of_ok (hk : Entries.Keyed m.plugins) (h : m.find? id = some x)
    (hs : allowed x.info.state = true) (hr : a.exec x.inst env = (.ok (), i, env')) :
    (lifecycle id action allowed a target).exec m env =
      (.ok (), { m with
          plugins := Entries.put id ⟨i, x.info.succeeded target env'.clock.now.1⟩ m.plugins },
        { env' with clock := env'.clock.now.2 }) := by
  rw [exec_lifecycle_of_allowed h hs, hr]
  dsimp only
  rw [exec_record_ok_of_find (find?_put_self _ _ _), Entries.put_put hk]

/-- A step the plugin's state allows and the instance fails leaves the plugin with the instance as
the step left it and its record in the error state with the failure, and fails with it. -/
theorem exec_lifecycle_of_error (hk : Entries.Keyed m.plugins) (h : m.find? id = some x)
    (hs : allowed x.info.state = true) {e : Error} (hr : a.exec x.inst env = (.error e, i, env')) :
    (lifecycle id action allowed a target).exec m env =
      (.error e, { m with plugins := Entries.put id ⟨i, x.info.failed e⟩ m.plugins }, env') := by
  rw [exec_lifecycle_of_allowed h hs, hr]
  dsimp only
  rw [exec_record_error_of_find (find?_put_self _ _ _), Entries.put_put hk]

/-- With its plugins keyed, a step the plugin's state allows runs the instance's own step once and
records how it went. -/
theorem exec_lifecycle_records (hk : Entries.Keyed m.plugins) (h : m.find? id = some x)
    (hs : allowed x.info.state = true) :
    (lifecycle id action allowed a target).exec m env =
      match a.exec x.inst env with
      | (.ok (), i, env') =>
        (.ok (), { m with
            plugins := Entries.put id ⟨i, x.info.succeeded target env'.clock.now.1⟩ m.plugins },
          { env' with clock := env'.clock.now.2 })
      | (.error e, i, env') =>
        (.error e, { m with plugins := Entries.put id ⟨i, x.info.failed e⟩ m.plugins }, env') := by
  rcases hr : a.exec x.inst env with ⟨_ | u, i, env'⟩
  case error e => exact exec_lifecycle_of_error hk h hs hr
  case ok => exact exec_lifecycle_of_ok hk h hs hr

end Lifecycle

section Load

variable {path : String} {inst : Instance} {e : Error} {md : Metadata} {sb : Sandbox}

theorem exec_load_of_unloadable (h : m.loader.load env.disk path = .error e) :
    (load path).exec m env = (.error e, m, env) := by
  rw [load, exec_self_bind, exec_disk_bind, exec_bind, exec_ofOutcome, h]

theorem exec_load_of_taken (h : m.loader.load env.disk path = .ok inst)
    (ht : ((m.find? inst.metadata.id).isSome || m.loading.contains inst.metadata.id) = true) :
    (load path).exec m env =
      (.error (.alreadyExists ("plugin " ++ inst.metadata.id ++ " is already loaded")), m,
        env) := by
  rw [load, exec_self_bind, exec_disk_bind, exec_bind, exec_ofOutcome, h]
  dsimp only
  rw [if_pos ht, exec_bind, exec_fail]

theorem exec_load_of_free (h : m.loader.load env.disk path = .ok inst)
    (ht : ((m.find? inst.metadata.id).isSome || m.loading.contains inst.metadata.id) = false) :
    (load path).exec m env =
      match (enroll inst inst.metadata).exec
          { m with loading := inst.metadata.id :: m.loading } env with
      | (.error e, m2, env2) =>
        (.error e, { m2 with loading := m2.loading.filter (· != inst.metadata.id) }, env2)
      | (.ok i, m2, env2) =>
        (.ok (PluginInfo.loaded inst.metadata path i.native env2.clock.now.1),
          { m2 with
            loading := m2.loading.filter (· != inst.metadata.id)
            plugins := Entries.put inst.metadata.id
              ⟨i, PluginInfo.loaded inst.metadata path i.native env2.clock.now.1⟩ m2.plugins },
          { env2 with clock := env2.clock.now.2 }) := by
  rw [load, exec_self_bind, exec_disk_bind, exec_bind, exec_ofOutcome, h]
  dsimp only
  rw [if_neg (by rw [ht]; exact Bool.false_ne_true), exec_bind]
  dsimp only [reserve, exec_change]
  rw [exec_bind, exec_attempt]
  rcases (enroll inst inst.metadata).exec { m with loading := inst.metadata.id :: m.loading } env
    with ⟨_ | i, m2, env2⟩ <;> rfl

theorem exec_enroll_of_refused (h : m.sandbox.enter md = .error e) :
    (enroll inst md).exec m env = (.error e, m, env) := by
  rw [enroll, exec_self_bind, exec_bind, exec_ofOutcome, h]

theorem exec_enroll_of_admitted (h : m.sandbox.enter md = .ok sb) :
    (enroll inst md).exec m env =
      match (Instance.prepare md.config).exec inst env with
      | (.error e, _, env1) => (.error (e.context "initialize plugin"),
          { m with sandbox := (sb.remove md.id).toOption.getD sb }, env1)
      | (.ok (), i, env1) => (.ok i, { m with sandbox := sb }, env1) := by
  rw [enroll, exec_self_bind, exec_bind, exec_ofOutcome, h]
  dsimp only
  rw [exec_bind, exec_change]
  dsimp only
  rw [exec_bind, exec_get]
  dsimp only
  rcases (Instance.prepare md.config).exec inst env with ⟨_ | u, i, env1⟩ <;> rfl

/-- What a load does, from a manager whose sandbox keeps its admissions keyed: it fails and
changes nothing, not even the clock, or it answers the record of a plugin the loader found under
an id that was neither loaded nor reserved, now admitted into the sandbox and prepared. -/
theorem load_cases (hk : Entries.Keyed m.sandbox.admitted) (path : String) (env : Env) :
    (∃ e, (load path).exec m env = (.error e, m, env)) ∨
    ∃ inst i sb, m.loader.load env.disk path = .ok inst ∧ m.find? inst.metadata.id = none ∧
      inst.metadata.id ∉ m.loading ∧ m.sandbox.enter inst.metadata = .ok sb ∧
      (Instance.prepare inst.metadata.config).exec inst env = (.ok (), i, env) ∧
      (load path).exec m env =
        (.ok (PluginInfo.loaded inst.metadata path i.native env.clock.now.1),
          { m with
            sandbox := sb
            plugins := Entries.put inst.metadata.id
              ⟨i, PluginInfo.loaded inst.metadata path i.native env.clock.now.1⟩ m.plugins },
          { env with clock := env.clock.now.2 }) := by
  rcases hl : m.loader.load env.disk path with e | inst
  · exact .inl ⟨e, exec_load_of_unloadable hl⟩
  cases ht : ((m.find? inst.metadata.id).isSome || m.loading.contains inst.metadata.id)
  case true => exact .inl ⟨_, exec_load_of_taken hl ht⟩
  case false =>
  have hfree : m.find? inst.metadata.id = none ∧ inst.metadata.id ∉ m.loading := by
    simpa using ht
  -- releasing the reservation gives the reserved ids back as they were
  have hrelease : (inst.metadata.id :: m.loading).filter (· != inst.metadata.id) = m.loading := by
    rw [List.filter_cons_of_neg (by simp)]
    exact List.filter_eq_self.2 fun y hy => by
      simpa using fun h : y = inst.metadata.id => hfree.2 (h ▸ hy)
  rw [exec_load_of_free hl ht]
  -- the reservation is all that changed when the sandbox is asked
  rcases he : m.sandbox.enter inst.metadata with e | sb
  · left
    have he1 : ({ m with loading := inst.metadata.id :: m.loading } : Manager).sandbox.enter
        inst.metadata = .error e := he
    rw [exec_enroll_of_refused he1]
    exact ⟨e, by simp only [hrelease]⟩
  have he1 : ({ m with loading := inst.metadata.id :: m.loading } : Manager).sandbox.enter
      inst.metadata = .ok sb := he
  rw [exec_enroll_of_admitted he1]
  -- preparing touches neither the disk nor the clock
  obtain ⟨r, i, hp⟩ :
      ∃ r i, (Instance.prepare inst.metadata.config).exec inst env = (r, i, env) :=
    ⟨_, _, Prod.ext rfl (Prod.ext rfl (Instance.exec_prepare_env _ _ _))⟩
  rw [hp]
  rcases r with e | u
  · left
    exact ⟨_, by simp only [hrelease, Sandbox.remove_enter hk he]; rfl⟩
  · right
    exact ⟨inst, i, sb, rfl, hfree.1, hfree.2, he, hp, by simp only [hrelease]⟩

end Load

/-- An unload of a loaded plugin answers, and takes the plugin out of the manager and out of the
sandbox, whatever its instance answered to being stopped and cleaned up. -/
theorem exec_unload_of_find (hk : Entries.Keyed m.plugins) (h : m.find? id = some x) (env : Env) :
    ∃ env', (unload id).exec m env =
      (.ok (), { m with
        sandbox := { m.sandbox with admitted := m.sandbox.admitted.filter (·.1 != id) }
        plugins := m.plugins.filter (·.1 != id) }, env') := by
  rw [unload, exec_bind, exec_managed_of_find h]
  dsimp only
  cases x.info.state.canStop
  case false =>
    rw [if_neg Bool.false_ne_true, exec_bind, exec_attempt, exec_onInstance_of_find h]
    dsimp only
    rw [exec_bind, exec_change]
    dsimp only
    rw [exec_change, Sandbox.remove_getD, Entries.filter_put hk]
    exact ⟨_, rfl⟩
  case true =>
    rw [if_pos rfl, exec_bind, exec_attempt, exec_onInstance_of_find h]
    dsimp only
    rw [exec_bind, exec_attempt, exec_onInstance_of_find (find?_put_self _ _ _)]
    dsimp only
    rw [exec_bind, exec_change]
    dsimp only
    rw [exec_change, Sandbox.remove_getD, Entries.filter_put (Entries.keyed_put hk),
      Entries.filter_put hk]
    exact ⟨_, rfl⟩

theorem exec_unload_of_find_none (h : m.find? id = none) :
    (unload id).exec m env = (.error (.notFound id), m, env) := by
  rw [unload, exec_bind, exec_managed_of_find_none h]

/-- A sample of a plugin records its instance's usage at the clock's next reading, whatever the
sandbox makes of it. -/
theorem exec_sampleOne_of_find (h : m.find? id = some x) :
    (sampleOne id).exec m env =
      (.ok (),
        { m with
          plugins := Entries.put id
            { x with info := { x.info with
                resources := ResourceUsage.ofStatus x.inst.status env.clock.now.1 } } m.plugins },
        { env with clock := env.clock.now.2 }) := by
  rw [sampleOne, exec_bind, exec_managed_of_find h]
  dsimp only
  rw [exec_bind_of_ok (exec_now m env), exec_self_bind]
  -- the sandbox's verdict on the sample goes to the log alone
  split <;> rfl

theorem exec_sampleOne_of_find_none (h : m.find? id = none) :
    (sampleOne id).exec m env = (.error (.notFound id), m, env) := by
  rw [sampleOne, exec_bind, exec_managed_of_find_none h]

section Events

/-- Sending an event answers as the plugin's instance takes it. -/
theorem sendEvent_answer (e : Event) (id : String) (m : Manager) (env : Env) :
    ((sendEvent id e).exec m env).1 =
      match m.find? id with
      | some x => ((Instance.handleEvent e).exec x.inst env).1
      | none => .error (.notFound id) := by
  unfold sendEvent
  cases h : m.find? id with
  | none => rw [exec_onInstance_of_find_none h]
  | some x => rw [exec_onInstance_of_find h]

/-- An operation on one plugin's instance leaves every other plugin where it was. -/
theorem find?_onInstance_of_ne (hk : Entries.Keyed m.plugins) {id' : String} (hne : id' ≠ id)
    (a : Act Instance α) : ((onInstance id a).exec m env).2.1.find? id' = m.find? id' := by
  cases h : m.find? id with
  | none => rw [exec_onInstance_of_find_none h]
  | some x =>
    rw [exec_onInstance_of_find h]
    exact Entries.get?_put_of_ne hk hne

theorem keyed_onInstance (hk : Entries.Keyed m.plugins) (id : String) (a : Act Instance α) :
    Entries.Keyed ((onInstance id a).exec m env).2.1.plugins := by
  cases h : m.find? id with
  | none => rw [exec_onInstance_of_find_none h]; exact hk
  | some x => rw [exec_onInstance_of_find h]; exact Entries.keyed_put hk

/-- What a plugin's refusal of an event adds to a broadcast's failures. -/
def refusal (id : String) : Outcome Unit → Option String
  | .ok () => none
  | .error err => some (id ++ ": " ++ err.message)

/-- Handing an event to the plugins of a list in turn, none twice, answers as handing it to each
alone from where the list started: how many took it, and the refusals in the list's order. -/
theorem exec_deliverAll (e : Event) :
    ∀ (ids : List String) (m : Manager), Entries.Keyed m.plugins → ids.Nodup →
      ((deliverAll e ids).exec m env).1 =
        .ok ((ids.filter fun id => ((sendEvent id e).exec m env).1.isOk).length,
          ids.filterMap fun id => refusal id ((sendEvent id e).exec m env).1)
  | [], _, _, _ => rfl
  | id :: ids, m, hk, hnd => by
    obtain ⟨hid, hnd⟩ := List.nodup_cons.1 hnd
    -- the rest of the list is handed the event from where this plugin's delivery left off,
    -- which every other plugin sees as the manager it started from
    have henv : ((onInstance id (Instance.handleEvent e)).exec m env).2.2 = env := by
      cases h : m.find? id with
      | none => rw [exec_onInstance_of_find_none h]
      | some x => rw [exec_onInstance_of_find h]; exact Instance.exec_handleEvent_env e x.inst env
    have hsame : ∀ id' ∈ ids, ((sendEvent id' e).exec
        ((onInstance id (Instance.handleEvent e)).exec m env).2.1 env).1 =
        ((sendEvent id' e).exec m env).1 := fun id' hid' => by
      rw [sendEvent_answer, sendEvent_answer,
        find?_onInstance_of_ne hk (by rintro rfl; exact hid hid')]
    have ih := exec_deliverAll e ids ((onInstance id (Instance.handleEvent e)).exec m env).2.1
      (keyed_onInstance hk id _) hnd
    rw [deliverAll, exec_bind, exec_attempt]
    dsimp only
    rw [exec_bind, henv]
    rcases hrest : (deliverAll e ids).exec
      ((onInstance id (Instance.handleEvent e)).exec m env).2.1 env with ⟨r, m', env'⟩
    rw [hrest] at ih
    dsimp only at ih
    subst ih
    dsimp only
    rw [List.filter_congr (fun id' hid' => by rw [hsame id' hid']),
      List.filterMap_congr (fun id' hid' => by rw [hsame id' hid'])]
    rw [List.filter_cons, List.filterMap_cons, show ((onInstance id (Instance.handleEvent e)).exec
      m env).1 = ((sendEvent id e).exec m env).1 from rfl]
    cases ((sendEvent id e).exec m env).1 with
    | ok u => simp [refusal, Except.isOk, Except.toBool]
    | error err => simp [refusal, Except.isOk, Except.toBool]

theorem refusal_eq_none {id : String} {o : Outcome Unit} : refusal id o = none ↔ o.isOk := by
  cases o <;> simp [refusal, Except.isOk, Except.toBool]

/-- A broadcast answers as the plugins take the event, each from where the broadcast started: the
number of loaded plugins when none refuses it, and the refusals sorted otherwise. -/
theorem broadcast_answer (hk : Entries.Keyed m.plugins) (e : Event) :
    ((broadcast e).exec m env).1 =
      let failures := (Entries.keys m.plugins).filterMap fun id =>
        refusal id ((sendEvent id e).exec m env).1
      if failures = [] then .ok m.plugins.length
      else .error (.eventDelivery (failures.mergeSort fun a b => decide (a ≤ b))) := by
  have hd : ((deliverAll e (Entries.keys m.plugins)).exec m env).1 = _ :=
    exec_deliverAll e _ m hk (Entries.Keyed.nodup_keys hk)
  rcases hrun : (deliverAll e (Entries.keys m.plugins)).exec m env with ⟨r, m', env'⟩
  rw [hrun] at hd
  dsimp only at hd
  subst hd
  rw [broadcast, exec_self_bind, exec_bind]
  unfold Entries.keys at hrun ⊢
  rw [hrun]
  dsimp only
  by_cases hf : (m.plugins.map (·.1)).filterMap
      (fun id => refusal id ((sendEvent id e).exec m env).1) = []
  · -- with no refusal every plugin took the event
    have hall : (m.plugins.map (·.1)).filter
        (fun id => ((sendEvent id e).exec m env).1.isOk) = m.plugins.map (·.1) :=
      List.filter_eq_self.2 fun id hid =>
        refusal_eq_none.1 (List.filterMap_eq_nil_iff.1 hf id hid)
    rw [if_pos (List.isEmpty_iff.2 hf), if_pos hf, hall, List.length_map]
    rfl
  · rw [if_neg (mt List.isEmpty_iff.1 hf), if_neg hf]
    rfl

end Events

end Manager

end Plugboard
