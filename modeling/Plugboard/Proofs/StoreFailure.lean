import Plugboard.Proofs.Cache
/-!
# A failed store call changes nothing

Every store checks a call before it writes: a closed store, an id a file store cannot take and a
missing record are all refused first. So a call that fails leaves the store as it was and the disk
untouched (`Act.FailsClean`), as long as the store holds the records of a memory store, which is
what a store holds when nothing else writes its files (`Store.Models`).

A cached store has one way to fail late. After a status or metrics change it reads the changed
record back from its backend into the cache, and a record that does not read back makes the call
fail after the backend has changed. `Store.Rereads` rules that out.
-/

namespace Plugboard

open Act

namespace MemoryStore

variable {m : MemoryStore} {env : Env} {id : String}

/-- A memory store fails a call only where it starts: closed, or without the record asked for. -/
theorem failsClean_call (c : StoreCall) (m : MemoryStore) (env : Env) :
    (ops.call c).FailsClean m env := by
  intro e s' env' h
  cases c <;>
    simp only [StoreOps.call, ops, exec_map, exec_save, exec_get, exec_delete, exec_list,
      exec_update, updateStatus, updateMetrics, exec_modify, exec_getByEndpoint, exec_search,
      exec_count, exec_close, exec_healthCheck] at h
  case close | healthCheck => cases h
  -- A closed store refuses before it changes anything.
  all_goals
    split at h
    · cases h
      exact ⟨rfl, rfl⟩
  case save | list | search | count => cases h
  -- Past that check a call fails only on a missing record, having changed nothing.
  all_goals
    split at h <;> cases h
    exact ⟨rfl, rfl⟩

/-- A closed memory store refuses every call that names an id, and changes nothing. -/
theorem exec_call_of_closed (hc : m.closed = true) {c : StoreCall} (hids : c.ids ≠ []) :
    (ops.call c).exec m env = (.error closedError, m, env) := by
  cases c
  case list | getByEndpoint | search | count | close | healthCheck => exact absurd rfl hids
  all_goals
    simp only [StoreOps.call, ops, exec_map, exec_save, exec_get, exec_delete, exec_update,
      updateStatus, updateMetrics, exec_modify, hc, if_true]
    rfl

/-- Taking an id out of a store that has no record of it changes nothing. -/
theorem erase_of_findIn (hn : findIn id m.records = none) : m.erase id = m := by
  show { m with records := removeFrom id m.records } = m
  rw [removeFrom_of_findIn hn]

end MemoryStore

namespace FileStore

variable {f : FileStore} {m : MemoryStore} {env : Env}

/-- Changing a stored record fails only where the record is missing, before anything is
written. -/
theorem failsClean_modify {rs : List Registration} (hh : f.Holds env.disk rs)
    (hopen : f.closed = false) {id : String} (ht : f.Takes id) {g : Registration → Registration}
    (hg : ∀ r, (g r).id = r.id) : (modify id g).FailsClean f env := by
  cases hf : MemoryStore.findIn id rs with
  | none => exact FailsClean.of_kept (by rw [exec_modify_of_not_mem hh hopen ht g hf])
  | some r =>
    obtain ⟨d', hrun, -⟩ := exec_modify_of_mem hh hopen ht hg hf
    exact FailsClean.of_ok hrun

/-- A file store that mirrors a memory store fails a call only before it writes: closed, unable
to take the id, or without the record asked for. -/
theorem Mirrors.failsClean_call (hm : f.Mirrors env.disk m) (c : StoreCall) :
    (ops.call c).FailsClean f env := by
  by_cases hids : c.ids = []
  · -- The calls that name no id never change the store or the disk.
    cases c <;> simp only [StoreCall.ids, reduceCtorEq] at hids <;> simp only [StoreOps.call, ops]
    case list flt =>
      obtain ⟨o, ho⟩ := exec_list_frame f env flt
      exact (FailsClean.of_kept (by rw [ho])).map _
    case search q flt =>
      obtain ⟨o, ho⟩ := exec_search_frame f env q flt
      exact (FailsClean.of_kept (by rw [ho])).map _
    case getByEndpoint e =>
      obtain ⟨o, ho⟩ := exec_getByEndpoint_frame f env e
      exact (FailsClean.of_kept (by rw [ho])).map _
    case count =>
      obtain ⟨o, ho⟩ := exec_count_frame f env
      exact (FailsClean.of_kept (by rw [ho])).map _
    case healthCheck =>
      obtain ⟨o, ho⟩ := exec_healthCheck_frame f env
      exact (FailsClean.of_kept (by rw [ho])).map _
    case close => exact (FailsClean.of_ok (exec_close f env)).map _
  -- A call naming an id is refused unchanged where the store is closed or cannot take the id.
  cases hc : m.closed
  case true => exact FailsClean.of_kept (by rw [exec_call_of_closed (hm.1.trans hc) hids])
  by_cases ht : ∀ id ∈ c.ids, f.Takes id
  case neg =>
    obtain ⟨e, he⟩ := hm.refuses ht
    exact FailsClean.of_kept (by rw [he])
  -- Otherwise only a missing record fails a call, before anything is written.
  have hh := hm.holds hc
  have hopen := hm.open hc
  cases c <;> simp only [StoreCall.ids, List.mem_singleton, forall_eq] at ht hids <;>
    simp only [StoreOps.call, ops]
  case save r =>
    obtain ⟨d', hrun, -⟩ := exec_save hh hopen ht
    exact (FailsClean.of_ok hrun).map _
  case get id =>
    refine (FailsClean.of_kept ?_).map _
    rw [exec_get hh hopen ht]
    split <;> rfl
  case delete id =>
    cases hf : MemoryStore.findIn id m.records with
    | none => exact (FailsClean.of_kept (by rw [exec_delete_of_not_mem hh hopen ht hf])).map _
    | some r =>
      obtain ⟨d', hrun, -⟩ := exec_delete_of_mem hh hopen ht hf
      exact (FailsClean.of_ok hrun).map _
  case update r =>
    cases hf : MemoryStore.findIn r.id m.records with
    | none => exact (FailsClean.of_kept (by rw [exec_update_of_not_mem hh hopen ht hf])).map _
    | some p =>
      obtain ⟨d', hrun, -⟩ := exec_update_of_mem hh hopen ht hf
      exact (FailsClean.of_ok hrun).map _
  case updateStatus id st =>
    refine (failsClean_modify hh hopen ht ?_).map _
    intro r
    rfl
  case updateMetrics id mt =>
    refine (failsClean_modify hh hopen ht ?_).map _
    intro r
    rfl
  all_goals exact absurd trivial hids

end FileStore

namespace Tier

variable {b : Tier} {m : MemoryStore} {env : Env}

/-- A tier that keeps the records of a memory store fails a call only before it changes
anything. -/
theorem failsClean_call (hb : b.Models env.disk m) (c : StoreCall) :
    (ops.call c).FailsClean b env := by
  cases b with
  | memory m' =>
    exact FailsClean.embed Tier.memory (exec_call_memory env m' c)
      (MemoryStore.failsClean_call c m' env)
  | file f => exact FailsClean.embed Tier.file (exec_call_file env f c) (hb.failsClean_call c)

/-- A tier whose store is closed refuses every call that names an id, and changes nothing. -/
theorem exec_call_of_closed (hb : b.Models env.disk m) (hc : m.closed = true) {c : StoreCall}
    (hids : c.ids ≠ []) : ∃ e, (ops.call c).exec b env = (.error e, b, env) := by
  cases b with
  | memory m' =>
    cases hb
    exact ⟨_, by rw [exec_call_memory, MemoryStore.exec_call_of_closed hc hids]⟩
  | file f =>
    exact ⟨_, by rw [exec_call_file, FileStore.exec_call_of_closed (hb.1.trans hc) hids]⟩

/-- A tier that answers a call naming an id keeps an open store. -/
theorem open_of_ok (hb : b.Models env.disk m) (c : StoreCall) (hids : c.ids ≠ []) (x : StoreReply)
    (h : ((ops.call c).exec b env).1 = .ok x) : m.closed = false := by
  cases hc : m.closed with
  | false => rfl
  | true =>
    obtain ⟨e, he⟩ := exec_call_of_closed hb hc hids
    rw [he] at h
    cases h

/-- A tier removes a record it keeps. -/
theorem exec_delete_of_mem (hb : b.Models env.disk m) (hv : m.Valid) {x : Registration}
    (hx : x ∈ m.records) : ∃ b' env', (Tier.delete x.id).exec b env = (.ok (), b', env') := by
  have hc := hv.open_of_mem hx
  have hf : MemoryStore.findIn x.id m.records = some x :=
    (MemoryStore.findIn_eq_some_iff hv.keyed).mpr ⟨hx, rfl⟩
  cases b with
  | memory m' =>
    cases hb
    rw [Tier.delete, exec_run_memory, MemoryStore.exec_delete, hc, if_neg Bool.false_ne_true, hf]
    exact ⟨_, _, rfl⟩
  | file f =>
    have hh := hb.holds hc
    obtain ⟨d', hrun, -⟩ := FileStore.exec_delete_of_mem hh (hb.open hc) (hh.takes hx) hf
    rw [Tier.delete, exec_run_file, hrun]
    exact ⟨_, _, rfl⟩

end Tier

namespace Store

variable {s : Store} {b : Tier} {c m : MemoryStore} {env : Env}

open MemoryStore (Coherent mem_putIn)

/-- A store keeping the records of the memory store `m`: its tier keeps them, and a cache in
front of it is valid and holds only records the tier holds. -/
def Models : Store → Disk → MemoryStore → Prop
  | .single b, d, m => b.Models d m
  | .cached c b, d, m => b.Models d m ∧ c.Valid ∧ Coherent c m

/-- What a cached store needs to refill its cache after its backend changes a record: whatever
the time of the change, the records the backend then keeps read back. A single tier reads
nothing back. -/
def Rereads (s : Store) (m : MemoryStore) (change : Act MemoryStore Unit) : Prop :=
  match s with
  | .single _ => True
  | .cached _ b => ∀ env, b.Keeps (change.exec m env).2.1

/-- What a cached store needs to refill its cache after its backend changes a record at one
reading of the clock: the records the backend then keeps read back. -/
def RereadsAt (s : Store) (m : MemoryStore) (change : Act MemoryStore Unit) (env : Env) : Prop :=
  match s with
  | .single _ => True
  | .cached _ b => b.Keeps (change.exec m env).2.1

theorem Rereads.rereadsAt {change : Act MemoryStore Unit} (h : s.Rereads m change) (env : Env) :
    s.RereadsAt m change env := by
  cases s with
  | single b => trivial
  | cached c b => exact h env

theorem rereadsAt_of_keeps {change : Act MemoryStore Unit}
    (h : s.backend.Keeps (change.exec m env).2.1) : s.RereadsAt m change env := by
  cases s with
  | single b => trivial
  | cached c b => exact h

/-- Writing through fails only where the backend fails, and then before the cache is asked. -/
theorem failsClean_writeThrough (hc : Coherent c m) {a : Act Tier Unit} (ha : a.FailsClean b env)
    (hopen : (a.exec b env).1 = .ok () → m.closed = false) (r : Registration) :
    (do onBackend a; onCache (MemoryStore.save r) : Act Store Unit).FailsClean (.cached c b)
      env := by
  intro e s' env' h
  rw [exec_bind, exec_onBackend_cached] at h
  rcases hrun : a.exec b env with ⟨_ | u, b', env1⟩ <;> rw [hrun] at h hopen <;> dsimp only at h
  · cases h
    obtain ⟨rfl, hd⟩ := ha _ _ _ hrun
    exact ⟨rfl, hd⟩
  · -- The backend wrote, so its store was open, and so is the cache, which takes the record.
    rw [exec_onCache_cached, MemoryStore.exec_save, hc.open (hopen rfl),
      if_neg Bool.false_ne_true] at h
    cases h

/-- Changing a record in the backend and reading it back into the cache fails only where the
backend fails, when the changed record reads back. -/
theorem failsClean_writeRefresh (hv : m.Valid) (hc : Coherent c m) {a : Act Tier Unit}
    {m' : MemoryStore} (id : String) (ha : a.FailsClean b env)
    (hok : (a.exec b env).1 = .ok () →
      m.closed = false ∧ ∃ x : Registration, x.id = id ∧ m' = m.insert x)
    (hm' : (a.exec b env).2.1.Models (a.exec b env).2.2.disk m') :
    (do onBackend a; refresh id : Act Store Unit).FailsClean (.cached c b) env := by
  intro e s' env' h
  rw [exec_bind, exec_onBackend_cached] at h
  rcases hrun : a.exec b env with ⟨_ | u, b', env1⟩ <;> rw [hrun] at h hok hm' <;>
    dsimp only at h
  · cases h
    obtain ⟨rfl, hd⟩ := ha _ _ _ hrun
    exact ⟨rfl, hd⟩
  · -- The backend now keeps the changed record, which the open cache reads back.
    obtain ⟨hmo, x, rfl, rfl⟩ := hok rfl
    have hget := Tier.exec_get_of_mem hm' (hv.insert hmo x) ((mem_putIn hv.keyed).mpr (.inl rfl))
    rw [refresh, exec_bind, exec_onBackend_cached, hget] at h
    dsimp only at h
    rw [exec_onCache_cached, MemoryStore.exec_save, hc.open hmo, if_neg Bool.false_ne_true] at h
    cases h

theorem failsClean_save (hs : s.Models env.disk m) (r : Registration) :
    (save r).FailsClean s env := by
  cases s with
  | single b =>
    exact FailsClean.embed single (exec_run_single env b _ _)
      (Tier.failsClean_call hs (.save r)).of_map
  | cached c b =>
    obtain ⟨hb, -, hc⟩ := hs
    refine FailsClean.of_exec (exec_run_cached env c b _ _)
      (failsClean_writeThrough hc (Tier.failsClean_call hb (.save r)).of_map (fun h => ?_) r)
    apply Tier.open_of_ok hb (.save r) (List.cons_ne_nil _ _) .done
    simp only [StoreOps.call, Tier.ops, exec_map] at h ⊢
    rw [h]
    rfl

theorem failsClean_update (hs : s.Models env.disk m) (r : Registration) :
    (update r).FailsClean s env := by
  cases s with
  | single b =>
    exact FailsClean.embed single (exec_run_single env b _ _)
      (Tier.failsClean_call hs (.update r)).of_map
  | cached c b =>
    obtain ⟨hb, -, hc⟩ := hs
    refine FailsClean.of_exec (exec_run_cached env c b _ _)
      (failsClean_writeThrough hc (Tier.failsClean_call hb (.update r)).of_map (fun h => ?_) r)
    apply Tier.open_of_ok hb (.update r) (List.cons_ne_nil _ _) .done
    simp only [StoreOps.call, Tier.ops, exec_map] at h ⊢
    rw [h]
    rfl

/-- A removal the backend refuses leaves the cache as it was too: the backend refuses only an id
it keeps no record of, and the cache holds no record the backend lacks. -/
theorem failsClean_delete (hs : s.Models env.disk m) (hv : m.Valid) (id : String) :
    (delete id).FailsClean s env := by
  cases s with
  | single b =>
    exact FailsClean.embed single (exec_run_single env b _ _)
      (Tier.failsClean_call hs (.delete id)).of_map
  | cached c b =>
    obtain ⟨hb, -, hc⟩ := hs
    intro e s' env' h
    rw [delete, exec_run_cached, exec_bind, exec_onBackend_cached, exec_attempt] at h
    dsimp only at h
    rw [exec_bind, exec_onCache_cached, MemoryStore.exec_evict] at h
    dsimp only at h
    rw [exec_ofOutcome] at h
    rcases hrun : (Tier.delete id).exec b env with ⟨_ | u, b', env1⟩ <;> rw [hrun] at h
    · cases h
      obtain ⟨rfl, hd⟩ := (Tier.failsClean_call hb (.delete id)).of_map _ _ _ hrun
      have hn : MemoryStore.findIn id c.records = none := by
        refine MemoryStore.findIn_eq_none_iff.mpr fun x hx hid => ?_
        obtain ⟨b'', env'', hok⟩ := Tier.exec_delete_of_mem hb hv (hc.2 x hx)
        rw [hid, hrun] at hok
        cases hok
      rw [MemoryStore.erase_of_findIn hn]
      exact ⟨rfl, hd⟩
    · cases h

theorem failsClean_updateStatus_at (hs : s.Models env.disk m) (hv : m.Valid) (id : String)
    (st : Status) (hrb : s.RereadsAt m (MemoryStore.updateStatus id st) env) :
    (updateStatus id st).FailsClean s env := by
  cases s with
  | single b =>
    exact FailsClean.embed single (exec_run_single env b _ _)
      (Tier.failsClean_call hs (.updateStatus id st)).of_map
  | cached c b =>
    obtain ⟨hb, -, hc⟩ := hs
    -- The backend runs the change as the memory store does, keeping records that read back.
    have hkeep : b.TakesCall (.updateStatus id st) →
        b.Keeps ((MemoryStore.ops.call (.updateStatus id st)).exec m env).2.1 := by
      intro _
      simp only [StoreOps.call, MemoryStore.ops, exec_map]
      exact hrb
    have hf := Tier.follows_call hb (.updateStatus id st) (List.cons_ne_nil _ _) hkeep
    have hm' := Tier.models_next hb (.updateStatus id st) hkeep
    simp only [StoreOps.call, Tier.ops, MemoryStore.ops, exec_map] at hf hm'
    unfold MemoryStore.updateStatus at hf
    have h := (hf.of_map fun _ _ _ => rfl).modify hv fun _ => rfl
    exact FailsClean.of_exec (exec_run_cached env c b _ _)
      (failsClean_writeRefresh hv hc id (Tier.failsClean_call hb (.updateStatus id st)).of_map
        h.1 hm')

theorem failsClean_updateMetrics_at (hs : s.Models env.disk m) (hv : m.Valid) (id : String)
    (mt : Metrics) (hrb : s.RereadsAt m (MemoryStore.updateMetrics id mt) env) :
    (updateMetrics id mt).FailsClean s env := by
  cases s with
  | single b =>
    exact FailsClean.embed single (exec_run_single env b _ _)
      (Tier.failsClean_call hs (.updateMetrics id mt)).of_map
  | cached c b =>
    obtain ⟨hb, -, hc⟩ := hs
    have hkeep : b.TakesCall (.updateMetrics id mt) →
        b.Keeps ((MemoryStore.ops.call (.updateMetrics id mt)).exec m env).2.1 := by
      intro _
      simp only [StoreOps.call, MemoryStore.ops, exec_map]
      exact hrb
    have hf := Tier.follows_call hb (.updateMetrics id mt) (List.cons_ne_nil _ _) hkeep
    have hm' := Tier.models_next hb (.updateMetrics id mt) hkeep
    simp only [StoreOps.call, Tier.ops, MemoryStore.ops, exec_map] at hf hm'
    unfold MemoryStore.updateMetrics at hf
    have h := (hf.of_map fun _ _ _ => rfl).modify hv fun _ => rfl
    exact FailsClean.of_exec (exec_run_cached env c b _ _)
      (failsClean_writeRefresh hv hc id (Tier.failsClean_call hb (.updateMetrics id mt)).of_map
        h.1 hm')

theorem failsClean_updateStatus (hs : s.Models env.disk m) (hv : m.Valid) (id : String)
    (st : Status) (hrb : s.Rereads m (MemoryStore.updateStatus id st)) :
    (updateStatus id st).FailsClean s env :=
  failsClean_updateStatus_at hs hv id st (hrb.rereadsAt env)

theorem failsClean_updateMetrics (hs : s.Models env.disk m) (hv : m.Valid) (id : String)
    (mt : Metrics) (hrb : s.Rereads m (MemoryStore.updateMetrics id mt)) :
    (updateMetrics id mt).FailsClean s env :=
  failsClean_updateMetrics_at hs hv id mt (hrb.rereadsAt env)

end Store

end Plugboard
