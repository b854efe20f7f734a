import Plugboard.Proofs.HubSteps
import Plugboard.Proofs.StoreInterchange
/-!
# Every store keeps the registry's registrations but for their stamps

A registry writes each change to its map and then to its store, which may be a memory store, a
file store, or a cache in front of either. Whatever its kind, the store keeps the map's records,
each the same but for when it was last updated: the store stamps a status or metrics change with
its own, later reading of the clock.

`Registry.Mirrored` relates the map to the memory store that the store keeps (`Store.Models`).
One change keeps the relation (`Mirrored.stays`): a change that fails on the store fails clean,
and one that answers wrote the map and the store alike. What it asks of a file tier is that each
record it is asked to keep reads back from its text. `Registry.kept` is what a memory copy of the
store holds after the change, and `Change.ReadableAlong` asks the tier to keep that before each
change of a run. Along such a run the store lists the registry's registrations but for their
stamps, and a registry that loads the store answers as the registry does but for those stamps
(`store_lists_registry_but_stamps`).
-/

namespace Plugboard

open Act

namespace Registration

/-- Two records the same but for their stamps are the same once stamped alike. -/
theorem restamp_eq {x y : Registration} (h : x.unstamped = y.unstamped) (t : Instant) :
    ({ x with updatedAt := t } : Registration) = { y with updatedAt := t } :=
  congrArg (fun r : Registration => { r with updatedAt := t }) h

end Registration

namespace SameButStamps

variable {rs ps : List Registration}

/-- The records under an id in two lists the same but for stamps are the same but for stamps. -/
theorem findIn_unstamped (h : SameButStamps rs ps) (id : String) :
    (MemoryStore.findIn id rs).map Registration.unstamped =
      (MemoryStore.findIn id ps).map Registration.unstamped := by
  rw [← MemoryStore.findIn_map Registration.id_unstamped,
    ← MemoryStore.findIn_map Registration.id_unstamped, h]

/-- A filter selects, from two lists the same but for stamps, two lists the same but for stamps:
it neither admits nor orders by when a record was updated. -/
theorem select (h : SameButStamps rs ps) (f : Filter) : SameButStamps (f.select rs) (f.select ps) := by
  have hsel : ∀ qs : List Registration,
      (f.select qs).map Registration.unstamped = f.select (qs.map Registration.unstamped) := by
    intro qs
    have hadm : f.admits ∘ Registration.unstamped = f.admits := rfl
    -- ordering by id commutes with clearing stamps, which keeps ids
    have hsort : ((qs.filter f.admits).mergeSort fun a b => decide (a.id ≤ b.id)).map
        Registration.unstamped = ((qs.filter f.admits).map Registration.unstamped).mergeSort
          fun a b => decide (a.id ≤ b.id) :=
      List.map_mergeSort fun _ _ _ _ => rfl
    unfold Filter.select Filter.page Filter.byId
    rw [List.filter_map, hadm, ← hsort]
    cases f.limit <;> simp only [List.map_take, List.map_drop]
  unfold SameButStamps
  rw [hsel, hsel, h]

end SameButStamps

-- ---------------------------------------------------------------------------
-- Stores of every kind
-- ---------------------------------------------------------------------------

namespace Tier

variable {b : Tier} {d : Disk} {m m' : MemoryStore} {env : Env}

/-- Whether a tier can list its records: a memory tier always, a file tier when the disk takes its
directory's path. -/
def Lists : Tier → Prop
  | .memory _ => True
  | .file f => f.Lists

theorem Alike.lists {b' : Tier} (h : Alike b b') : b'.Lists ↔ b.Lists := by
  cases b <;> cases b'
  · exact Iff.rfl
  · exact h.elim
  · exact h.elim
  · exact FileStore.lists_congr h

/-- The open store a tier keeps holds only records the tier can keep. -/
theorem keeps_of_models (hb : b.Models d m) (hc : m.closed = false) : b.Keeps m := by
  cases b with
  | memory _ => trivial
  | file f =>
    obtain ⟨_, _, _, hl⟩ := hb.holds hc
    exact hl.readsBack

/-- A tier keeps a store's records with one more put in, when it keeps that one where another
store holds it. -/
theorem Keeps.insert (hm : b.Keeps m) (hk : MemoryStore.Keyed m.records) (hm' : b.Keeps m')
    {x : Registration} (hx : x ∈ m'.records) : b.Keeps (m.insert x) := by
  cases b with
  | memory _ => trivial
  | file f =>
    intro y hy
    rcases (MemoryStore.mem_putIn hk).mp hy with rfl | ⟨hy, -⟩
    · exact hm' y hx
    · exact hm y hy

theorem Keeps.erase (hm : b.Keeps m) (hk : MemoryStore.Keyed m.records) (id : String) :
    b.Keeps (m.erase id) := by
  cases b with
  | memory _ => trivial
  | file f => exact fun y hy => hm y ((MemoryStore.mem_removeFrom hk).mp hy).1

/-- A tier keeping an open store lists its records. -/
theorem exec_list_of_models (hb : b.Models env.disk m) (hc : m.closed = false) (hls : b.Lists)
    (flt : Filter) : ((Tier.list flt).exec b env).1 = .ok (flt.select m.records) := by
  cases b with
  | memory m' =>
    cases hb
    rw [Tier.list, exec_run_memory, MemoryStore.exec_list, hc, if_neg Bool.false_ne_true]
  | file f =>
    rw [Tier.list, exec_run_file, FileStore.exec_list (hb.holds hc) (hb.open hc) hls]

/-- A tier takes the removal of a record the open store it keeps holds. -/
theorem takesCall_delete (hb : b.Models d m) (hc : m.closed = false) {x : Registration}
    (hx : x ∈ m.records) : b.TakesCall (.delete x.id) := by
  intro id hid
  rw [show (StoreCall.delete x.id).ids = [x.id] from rfl, List.mem_singleton] at hid
  subst hid
  cases b with
  | memory _ => trivial
  | file f => exact (hb.holds hc).takes hx

end Tier

namespace Store

variable {s : Store} {d : Disk} {m : MemoryStore} {env : Env}

theorem Models.backend (hs : s.Models d m) : s.backend.Models d m := by
  cases s with
  | single b => exact hs
  | cached c b => exact hs.1

/-- A store keeping an open store's records lists them, when its tier can list. -/
theorem exec_list_of_models (hs : s.Models env.disk m) (hc : m.closed = false)
    (hls : s.backend.Lists) (flt : Filter) :
    ((list flt).exec s env).1 = .ok (flt.select m.records) := by
  cases s with
  | single b =>
    rw [list, exec_onBackend_single]
    exact Tier.exec_list_of_models hs hc hls flt
  | cached c b =>
    rw [list, exec_onBackend_cached]
    exact Tier.exec_list_of_models hs.1 hc hls flt

/-- After any call, a store keeping the records of `m` keeps what its tier keeps next, on the disk
the call leaves, when the tier can keep what the memory store's run of the call leaves. -/
theorem models_next (hs : s.Models env.disk m) (hv : m.Valid) (k : StoreCall)
    (hkeep : s.backend.TakesCall k → s.backend.Keeps ((MemoryStore.ops.call k).exec m env).2.1) :
    ((ops.call k).exec s env).2.1.Models ((ops.call k).exec s env).2.2.disk
      (s.backend.next k m env) := by
  cases s with
  | single b =>
    rw [exec_call_single]
    exact Tier.models_next hs k hkeep
  | cached c b =>
    obtain ⟨hb, hcv, hc⟩ := hs
    obtain ⟨-, henv, c', hst, hcv', hc'⟩ := cached_call hb hv hcv hc k hkeep
    rw [hst, henv]
    exact ⟨Tier.models_next hb k hkeep, hcv', hc'⟩

/-- What a call naming ids does to a store keeping the records of `m`, when its tier can keep what
the memory store's run of the call leaves: the store then keeps what the tier keeps next, on the
disk the call leaves, with a tier of the same kind. A call the tier takes answers as the memory
store does; one it does not take fails. -/
theorem step (hs : s.Models env.disk m) (hv : m.Valid) (k : StoreCall) (hids : k.ids ≠ [])
    (hkeep : s.backend.TakesCall k → s.backend.Keeps ((MemoryStore.ops.call k).exec m env).2.1) :
    ((ops.call k).exec s env).2.1.Models ((ops.call k).exec s env).2.2.disk
        (s.backend.next k m env) ∧
      Tier.Alike s.backend ((ops.call k).exec s env).2.1.backend ∧
      (s.backend.TakesCall k →
        Outcome.Same ((ops.call k).exec s env).1 ((MemoryStore.ops.call k).exec m env).1) ∧
      (¬ s.backend.TakesCall k → ∃ e, ((ops.call k).exec s env).1 = .error e) := by
  refine ⟨models_next hs hv k hkeep, ?_⟩
  cases s with
  | single b =>
    obtain ⟨halike, htaken, hrefused⟩ := Tier.step hs k hkeep
    rw [exec_call_single]
    refine ⟨halike, fun ht => (htaken ht).2.2 hids, fun ht => ?_⟩
    obtain ⟨e, he⟩ := hrefused ht
    exact ⟨e, by rw [he]⟩
  | cached c b =>
    obtain ⟨hb, hcv, hc⟩ := hs
    obtain ⟨halike, htaken, hrefused⟩ := Tier.step hb k hkeep
    obtain ⟨hsame, -, c', hst, -, -⟩ := cached_call hb hv hcv hc k hkeep
    rw [hst]
    refine ⟨halike, fun ht => hsame.trans ((htaken ht).2.2 hids), fun ht => ?_⟩
    -- the cached store fails as its backend does
    obtain ⟨e, he⟩ := hrefused ht
    rw [he] at hsame
    rcases ho : ((ops.call k).exec (.cached c b) env).1 with e' | r
    · exact ⟨e', rfl⟩
    · rw [ho] at hsame
      exact hsame.elim

/-- A write that answered on a store keeping the records of `m`, where the memory store's form
of the write leaves records the tier can keep: that form answered too, and the store keeps what it
left, on the disk the write left, with a tier of the same kind. -/
theorem written (hs : s.Models env.disk m) (hv : m.Valid) (k : StoreCall) (hids : k.ids ≠ [])
    {a : Act Store Unit} (b : Act MemoryStore Unit)
    (hk : ops.call k = (fun _ => StoreReply.done) <$> a)
    (hkm : MemoryStore.ops.call k = (fun _ => StoreReply.done) <$> b)
    (hkeep : s.backend.Keeps (b.exec m env).2.1) {s' : Store} {env1 : Env}
    (hw : a.exec s env = (.ok (), s', env1)) :
    (b.exec m env).1 = .ok () ∧ s'.Models env1.disk (b.exec m env).2.1 ∧
      Tier.Alike s.backend s'.backend := by
  have hmem : (MemoryStore.ops.call k).exec m env =
      ((b.exec m env).1.map fun _ => StoreReply.done, (b.exec m env).2) := by
    rw [hkm, exec_map]
  obtain ⟨hmod, halike, htaken, hrefused⟩ :=
    step hs hv k hids fun _ => by rw [hmem]; exact hkeep
  rw [hk, exec_map, hw] at hmod halike htaken hrefused
  by_cases ht : s.backend.TakesCall k
  · rw [Tier.next_of_takesCall ht, hmem] at hmod
    have hsame := htaken ht
    rw [hmem] at hsame
    refine ⟨?_, hmod, halike⟩
    rcases hb : (b.exec m env).1 with e | u
    · rw [hb] at hsame
      exact hsame.elim
    · rfl
  · obtain ⟨e, he⟩ := hrefused ht
    cases he

/-- A write on a store that is a memory tier runs as the memory store's form of the write. -/
theorem exec_write_memory {k : StoreCall} {a : Act Store Unit} {b : Act MemoryStore Unit}
    (hk : ops.call k = (fun _ => StoreReply.done) <$> a)
    (hkm : MemoryStore.ops.call k = (fun _ => StoreReply.done) <$> b) (n : MemoryStore)
    (env : Env) :
    a.exec (.single (.memory n)) env =
      ((b.exec n env).1, .single (.memory (b.exec n env).2.1), (b.exec n env).2.2) := by
  have h := exec_call_memory env n k
  rw [hk, hkm, exec_map, exec_map] at h
  rcases ha : a.exec (.single (.memory n)) env with ⟨oa, sa, ea⟩
  rcases hb : b.exec n env with ⟨ob, sb, eb⟩
  rw [ha, hb] at h
  simp only [Prod.mk.injEq] at h
  obtain ⟨ho, rfl, rfl⟩ := h
  -- the reply a write's answer is mapped to tells the answer
  rcases oa with e | ⟨⟩ <;> rcases ob with e' | ⟨⟩ <;> cases ho <;> rfl

/-- A store removes a record the open store it keeps holds, and then keeps the rest, with a tier
of the same kind. -/
theorem exec_delete_of_mem (hs : s.Models env.disk m) (hv : m.Valid) {x : Registration}
    (hx : x ∈ m.records) :
    ∃ s' env1, (delete x.id).exec s env = (.ok (), s', env1) ∧
      s'.Models env1.disk (m.erase x.id) ∧ Tier.Alike s.backend s'.backend := by
  have hc := hv.open_of_mem hx
  have hkm : MemoryStore.ops.call (.delete x.id) =
      (fun _ => StoreReply.done) <$> MemoryStore.delete x.id := rfl
  have hmem : (MemoryStore.delete x.id).exec m env = (.ok (), m.erase x.id, env) := by
    rw [MemoryStore.exec_delete, hc, if_neg Bool.false_ne_true,
      (MemoryStore.findIn_eq_some_iff hv.keyed).mpr ⟨hx, rfl⟩]
  have hkeep : s.backend.Keeps ((MemoryStore.delete x.id).exec m env).2.1 := by
    rw [hmem]
    exact (Tier.keeps_of_models hs.backend hc).erase hv.keyed x.id
  obtain ⟨-, -, htaken, -⟩ := step hs hv (.delete x.id) (List.cons_ne_nil _ _) fun _ => by
    rw [hkm, exec_map]
    exact hkeep
  -- the tier takes the removal, so the store answers as the memory store does
  have hsame := htaken (Tier.takesCall_delete hs.backend hc hx)
  rw [show ops.call (.delete x.id) = (fun _ => StoreReply.done) <$> delete x.id from rfl, hkm,
    exec_map, exec_map, hmem] at hsame
  rcases hd : (delete x.id).exec s env with ⟨_ | ⟨⟩, s', env1⟩
  · rw [hd] at hsame
    exact hsame.elim
  · obtain ⟨-, hmod, halike⟩ := written hs hv (.delete x.id) (List.cons_ne_nil _ _)
      (MemoryStore.delete x.id) rfl hkm hkeep hd
    rw [hmem] at hmod
    exact ⟨s', env1, rfl, hmod, halike⟩

end Store

namespace MemoryStore

variable {n : MemoryStore} {env : Env}

/-- A change of a stored record, on an open store holding the record `old` but for its stamp,
answers and puts in `old` changed and stamped with the clock's reading, when the change does not
read the stamp. -/
theorem exec_modify_of_same (hc : n.closed = false) {id : String} {old : Registration}
    (hn : (findIn id n.records).map Registration.unstamped = some old.unstamped)
    (g : Registration → Registration) (hg : ∀ r, (g r).unstamped = (g r.unstamped).unstamped) :
    ((modify id g).exec n env).1 = .ok () ∧
      ((modify id g).exec n env).2.1 = n.insert { g old with updatedAt := env.clock.now.1 } := by
  obtain ⟨x, hx, hxo⟩ := Option.map_eq_some_iff.mp hn
  rw [exec_modify, hc, if_neg Bool.false_ne_true, hx]
  exact ⟨rfl, congrArg n.insert
    (Registration.restamp_eq (Registration.unstamped_restamp hxo g hg _ _) _)⟩

/-- A replacement, on an open store holding a record under the id, answers and puts it in. -/
theorem exec_update_of_same (hc : n.closed = false) {r old : Registration}
    (hn : (findIn r.id n.records).map Registration.unstamped = some old.unstamped) :
    ((update r).exec n env).1 = .ok () ∧ ((update r).exec n env).2.1 = n.insert r := by
  obtain ⟨x, hx, -⟩ := Option.map_eq_some_iff.mp hn
  rw [exec_update, hc, if_neg Bool.false_ne_true, hx]
  exact ⟨rfl, rfl⟩

end MemoryStore

-- ---------------------------------------------------------------------------
-- A change that makes one store write
-- ---------------------------------------------------------------------------

namespace Registry

variable {α β : Type} {reg reg' : Registry} {env env' : Env} {m : MemoryStore}

/-- A change that put `w` into the map and then wrote to the store, going on with what leaves the
map, the store and the disk as they are: either the write failed, and of the registry only the
store changed, as the write left it; or it answered, and the change ended with `w` in the map and
the store and the disk as the write left them. -/
theorem persisted (reg : Registry) (hk : MemoryStore.Keyed reg.plugins) {w : Registration}
    {ctx : String} {a : Act Store Unit} {rest : Unit → Act Registry β}
    (hl : LeavesRecords (rest ())) (hd : KeepsDisk (rest ())) {o : Outcome β}
    (h : (persist w.id (reg.find? w.id) ctx a >>= rest).exec
      { reg with plugins := MemoryStore.putIn w reg.plugins } env = (o, reg', env')) :
    (∃ e s', a.exec reg.store env = (.error e, s', env') ∧ reg' = { reg with store := s' }) ∨
      ∃ s' env1, a.exec reg.store env = (.ok (), s', env1) ∧
        reg'.plugins = MemoryStore.putIn w reg.plugins ∧ reg'.store = s' ∧
        env'.disk = env1.disk := by
  rcases persist_bind_of_putIn hk rfl rfl h with ⟨e, s', hw, -, rfl⟩ | ⟨s', env1, hw, h'⟩
  · exact .inl ⟨e, s', hw, rfl⟩
  · obtain ⟨hp, hs⟩ := hl.of_exec h'
    exact .inr ⟨s', env1, hw, hp, hs, hd.of_exec h'⟩

/-- A registry call that, whatever the store, puts `w` into the map and then has the store make
the write `a` at `envs`, on the disk it was called on, going on with what leaves the map, the
store and the disk as they are. -/
def Writes (act : Act Registry α) (reg : Registry) (env : Env) (w : Registration) (envs : Env)
    (a : Act Store Unit) : Prop :=
  envs.disk = env.disk ∧ ∃ (ctx : String) (rest : Unit → Act Registry α),
    LeavesRecords (rest ()) ∧ KeepsDisk (rest ()) ∧
    ∀ s, act.exec { reg with store := s } env =
      (persist w.id (reg.find? w.id) ctx a >>= rest).exec
        { reg with plugins := MemoryStore.putIn w reg.plugins, store := s } envs

theorem writes_updateStatus {id : String} {st : Status} {old : Registration}
    (hf : reg.find? id = some old) (hst : old.status ≠ st) (env : Env) :
    Writes (updateStatus id st) reg env { old with status := st, updatedAt := env.clock.now.1 }
      { env with clock := env.clock.now.2 } (Store.updateStatus id st) := by
  obtain rfl : old.id = id := MemoryStore.id_of_findIn hf
  refine ⟨rfl, "persist status", ?rest, ?hl, ?hd, fun s => ?eq⟩
  case eq =>
    have hf' : ({ reg with store := s } : Registry).find? old.id = some old := hf
    rw [hf]
    unfold updateStatus
    rw [exec_self_bind]
    simp only [hf', beq_iff_eq, hst, if_false]
    rw [exec_bind_of_ok (exec_now _ env), exec_bind_of_ok (exec_insert _ _ _)]
  case hl =>
    exact (leavesRecords_onBridge _).bind fun _ => (leavesRecords_emit _).bind fun _ =>
      leavesRecords_pure _
  case hd =>
    exact (keepsDisk_onBridge (Bridge.keepsDisk_update _)).bind fun _ =>
      (keepsDisk_change _).bind fun _ => keepsDisk_pure _

theorem writes_heartbeat {id : String} {old : Registration} (hf : reg.find? id = some old)
    (env : Env) :
    Writes (heartbeat id) reg env
      { old with lastSeen := env.clock.now.1, updatedAt := env.clock.now.2.now.1 }
      { env with clock := env.clock.now.2.now.2 }
      (Store.update { old with lastSeen := env.clock.now.1, updatedAt := env.clock.now.2.now.1 }) := by
  obtain rfl : old.id = id := MemoryStore.id_of_findIn hf
  refine ⟨rfl, "persist heartbeat", ?rest, ?hl, ?hd, fun s => ?eq⟩
  case eq =>
    have hf' : ({ reg with store := s } : Registry).find? old.id = some old := hf
    rw [hf]
    unfold heartbeat
    rw [exec_bind, exec_modify_of_find hf' (exec_markSeen _ env)]
  case hl => exact (leavesRecords_onBridge _).bind fun _ => leavesRecords_pure _
  case hd => exact (keepsDisk_onBridge (Bridge.keepsDisk_heartbeat _)).bind fun _ => keepsDisk_pure _

theorem writes_updateHealth {id : String} {report : HealthReport} {old : Registration}
    (hf : reg.find? id = some old) (env : Env) :
    Writes (updateHealth id report) reg env
      { old with health := some report, updatedAt := env.clock.now.1 }
      { env with clock := env.clock.now.2 }
      (Store.update { old with health := some report, updatedAt := env.clock.now.1 }) := by
  obtain rfl : old.id = id := MemoryStore.id_of_findIn hf
  refine ⟨rfl, "persist health", ?rest, ?hl, ?hd, fun s => ?eq⟩
  case eq =>
    have hf' : ({ reg with store := s } : Registry).find? old.id = some old := hf
    rw [hf]
    unfold updateHealth
    rw [exec_bind, exec_modify_of_find hf' (exec_pure _ _ env)]
  case hl => exact (leavesRecords_onBridge _).bind fun _ => leavesRecords_emit _
  case hd => exact (keepsDisk_onBridge (Bridge.keepsDisk_syncHealth _)).bind fun _ => keepsDisk_change _

theorem writes_updateMetrics {id : String} {mt : Metrics} {old : Registration}
    (hf : reg.find? id = some old) (env : Env) :
    Writes (updateMetrics id mt) reg env { old with metrics := some mt, updatedAt := env.clock.now.1 }
      { env with clock := env.clock.now.2 } (Store.updateMetrics id mt) := by
  obtain rfl : old.id = id := MemoryStore.id_of_findIn hf
  refine ⟨rfl, "persist metrics", ?rest, ?hl, ?hd, fun s => ?eq⟩
  case eq =>
    have hf' : ({ reg with store := s } : Registry).find? old.id = some old := hf
    rw [hf]
    unfold updateMetrics
    rw [exec_bind, exec_modify_of_find hf' (exec_pure _ _ env)]
  case hl => exact leavesRecords_emit _
  case hd => exact keepsDisk_change _

/-- A valid registration saves one record, stamped as registered, whatever the store; the first
registration of an id is registered at the clock's reading. -/
theorem writes_register (reg : Registry) {r : Registration} (hval : r.validate = .ok ()) (env : Env) :
    ∃ w, (reg.find? r.id = none → w = { r with
          registeredAt := env.clock.now.1, status := .registered, lastSeen := env.clock.now.1
          updatedAt := env.clock.now.1 }) ∧
      Writes (register r) reg env w { env with clock := env.clock.now.2 } (Store.save w) := by
  refine ⟨?w, fun hn => ?new, rfl, "persist registration", ?rest, ?hl, ?hd, fun s => ?eq⟩
  case eq =>
    have hf' : ({ reg with store := s } : Registry).find? r.id = reg.find? r.id := rfl
    unfold register
    rw [exec_bind, hval, exec_ofOutcome]
    dsimp only
    rw [exec_bind_of_ok (exec_now _ env), exec_self_bind, exec_bind_of_ok (exec_insert _ _ _), hf']
    rfl
  case new =>
    simp only [hn]
  -- the bridge never reports a failure to register, so the undoing of the save is never run
  case hl =>
    intro R E
    obtain ⟨o, R1, E1, hrun, hne⟩ := exec_onBridge_register _ R E
    have hp := (leavesRecords_onBridge _).of_exec hrun
    rw [exec_bind_of_ok hrun]
    split
    · exact absurd rfl (hne _)
    · rw [exec_bind_of_ok (exec_emit _ _ _), exec_pure]
      exact hp
  case hd =>
    intro R E
    obtain ⟨o, R1, E1, hrun, hne⟩ := exec_onBridge_register _ R E
    have hdisk := (keepsDisk_onBridge (Bridge.keepsDisk_register _)).of_exec hrun
    rw [exec_bind_of_ok hrun]
    split
    · exact absurd rfl (hne _)
    · rw [exec_bind_of_ok (exec_emit _ _ _), exec_pure]
      exact hdisk

-- ---------------------------------------------------------------------------
-- The calls that write nothing
-- ---------------------------------------------------------------------------

/-- A registration the validation refuses changes nothing. -/
theorem exec_register_of_invalid {r : Registration} {e : Error} (hval : r.validate = .error e) :
    (register r).exec reg env = (.error e, reg, env) := by
  unfold register
  rw [exec_bind, hval, exec_ofOutcome]

theorem exec_updateStatus_of_find_none {id : String} {st : Status} (hf : reg.find? id = none) :
    (updateStatus id st).exec reg env = (.error (.notFound id), reg, env) := by
  unfold updateStatus
  rw [exec_self_bind]
  simp only [hf]
  rfl

/-- A status change to the status a registration has answers with it and changes nothing. -/
theorem exec_updateStatus_of_same {id : String} {st : Status} {old : Registration}
    (hf : reg.find? id = some old) (hst : old.status = st) :
    (updateStatus id st).exec reg env = (.ok old, reg, env) := by
  unfold updateStatus
  rw [exec_self_bind]
  simp only [hf, hst, beq_self_eq_true, if_true]
  rfl

/-- An unregistration of a registered id whose removal from the store answers takes the id out of
the map and leaves the store, and the disk, as the removal left them. -/
theorem exec_unregister_of_deleted {id : String} {old : Registration}
    (hf : reg.find? id = some old) {s' : Store} {env1 : Env}
    (hd : (Store.delete id).exec reg.store env = (.ok (), s', env1)) :
    ((unregister id).exec reg env).2.1.plugins = MemoryStore.removeFrom id reg.plugins ∧
      ((unregister id).exec reg env).2.1.store = s' ∧
      ((unregister id).exec reg env).2.2.disk = env1.disk := by
  obtain ⟨reg', env', hrun, hp, hst⟩ := exec_remove_deregister id
    { eventType := unregisteredEvent, pluginId := id,
      payload := [("new_status", .str Status.unregistered.name),
        ("old_status", .str old.status.name)] } { reg with store := s' } env1
  have hdisk := ((keepsDisk_change _).bind fun _ => (keepsDisk_change _).bind fun _ =>
    (keepsDisk_onBridge (Bridge.keepsDisk_deregister id)).bind fun _ => keepsDisk_pure _).of_exec hrun
  unfold unregister
  rw [exec_self_bind]
  simp only [hf]
  rw [exec_bind, exec_onStore, exec_attempt, hd]
  dsimp only
  rw [hrun]
  exact ⟨hp, hst, hdisk⟩

-- ---------------------------------------------------------------------------
-- The memory copy of a registry's store
-- ---------------------------------------------------------------------------

/-- The registry with its store replaced by an open memory store holding its registrations. -/
def onMemory (reg : Registry) : Registry :=
  { reg with store := .single (.memory { records := reg.plugins }) }

/-- What the memory copy of a registry's store holds after an action: the records a store of any
kind is asked by the action to keep. -/
def kept (act : Act Registry α) (reg : Registry) (env : Env) : MemoryStore :=
  match (act.exec reg.onMemory env).2.1.store with
  | .single (.memory n) => n
  | _ => {}

theorem kept_map (act : Act Registry α) (k : α → β) :
    kept (k <$> act) reg env = kept act reg env := by
  unfold kept
  rw [exec_map]

/-- A write on the memory copy of a store that the memory store answers leaves what the memory
store leaves. -/
theorem kept_of_writes (hk : MemoryStore.Keyed reg.plugins) {act : Act Registry α}
    {w : Registration} {envs : Env} {a : Act Store Unit} (hw : Writes act reg env w envs a)
    {k : StoreCall} {b : Act MemoryStore Unit}
    (hka : Store.ops.call k = (fun _ => StoreReply.done) <$> a)
    (hkm : MemoryStore.ops.call k = (fun _ => StoreReply.done) <$> b)
    (hok : (b.exec { records := reg.plugins } envs).1 = .ok ()) :
    kept act reg env = (b.exec { records := reg.plugins } envs).2.1 := by
  obtain ⟨-, ctx, rest, hl, hd, hrun⟩ := hw
  have hmem := Store.exec_write_memory hka hkm { records := reg.plugins } envs
  rw [hok] at hmem
  unfold kept
  rcases hx : act.exec reg.onMemory env with ⟨o, reg', env'⟩
  rcases persisted reg.onMemory hk hl hd ((hrun _).symm.trans hx) with
    ⟨e, s', hfail, -⟩ | ⟨s', env1, hwr, -, hst, -⟩
  · cases hmem.symm.trans hfail
  · have h2 := hmem.symm.trans hwr
    simp only [Prod.mk.injEq] at h2
    obtain ⟨-, rfl, -⟩ := h2
    rw [hst]

/-- The first valid registration of an id asks the store to keep the map's records and the new one,
stamped as registered at the clock's reading. -/
theorem kept_register_of_none (hk : MemoryStore.Keyed reg.plugins) {r : Registration}
    (hval : r.validate = .ok ()) (hn : reg.find? r.id = none) :
    kept (register r) reg env = { records := MemoryStore.putIn { r with
      registeredAt := env.clock.now.1, status := .registered, lastSeen := env.clock.now.1
      updatedAt := env.clock.now.1 } reg.plugins } := by
  obtain ⟨w, hnew, hw⟩ := writes_register reg hval env
  obtain rfl := hnew hn
  rw [kept_of_writes hk hw (k := .save _) (b := MemoryStore.save _) rfl rfl
      (by rw [MemoryStore.exec_save_of_open rfl]),
    MemoryStore.exec_save_of_open rfl]
  rfl

/-- A status change of a registered id to another status asks the store to keep the map's records
with that one changed, stamped updated at the store's own reading of the clock, which follows the
map's. -/
theorem kept_updateStatus (hk : MemoryStore.Keyed reg.plugins) {id : String} {st : Status}
    {old : Registration} (hf : reg.find? id = some old) (hst : old.status ≠ st) :
    kept (updateStatus id st) reg env =
      { records := MemoryStore.putIn { old with status := st, updatedAt := env.clock.now.2.now.1 }
          reg.plugins } := by
  obtain rfl : old.id = id := MemoryStore.id_of_findIn hf
  have hmod : ((MemoryStore.updateStatus old.id st).exec { records := reg.plugins }
      { env with clock := env.clock.now.2 }).1 = .ok () ∧ _ :=
    MemoryStore.exec_modify_of_same (n := { records := reg.plugins }) rfl
      (congrArg (Option.map Registration.unstamped) hf) (fun r => { r with status := st })
      fun _ => rfl
  rw [kept_of_writes hk (writes_updateStatus hf hst env) (k := .updateStatus old.id st)
    (b := MemoryStore.updateStatus old.id st) rfl rfl hmod.1]
  exact hmod.2

/-- An unregistration of a registered id asks the store to keep the map's records but that one. -/
theorem kept_unregister {id : String} {old : Registration} (hf : reg.find? id = some old) :
    kept (unregister id) reg env = { records := MemoryStore.removeFrom id reg.plugins } := by
  have hmem : (MemoryStore.delete id).exec { records := reg.plugins } env =
      (.ok (), { records := MemoryStore.removeFrom id reg.plugins }, env) := by
    rw [MemoryStore.exec_delete, if_neg Bool.false_ne_true]
    rw [show MemoryStore.findIn id reg.plugins = some old from hf]
    rfl
  have hd : (Store.delete id).exec reg.onMemory.store env =
      (.ok (), .single (.memory { records := MemoryStore.removeFrom id reg.plugins }), env) := by
    rw [show reg.onMemory.store = .single (.memory { records := reg.plugins }) from rfl,
      Store.exec_write_memory (k := .delete id) (a := Store.delete id) (b := MemoryStore.delete id)
        rfl rfl, hmem]
  obtain ⟨-, hst, -⟩ := exec_unregister_of_deleted (show reg.onMemory.find? id = some old from hf) hd
  unfold kept
  rw [hst]

-- ---------------------------------------------------------------------------
-- A registry mirrored by its store
-- ---------------------------------------------------------------------------

/-- A registry whose store keeps, on a disk, a valid open memory store holding the registry's
registrations but for their update stamps, with a tier that can list them. -/
structure Mirrored (reg : Registry) (d : Disk) (m : MemoryStore) : Prop where
  keyed : MemoryStore.Keyed reg.plugins
  models : reg.store.Models d m
  valid : m.Valid
  isOpen : m.closed = false
  lists : reg.store.backend.Lists
  same : SameButStamps m.records reg.plugins

/-- After an action the registry is still mirrored by its store, on the disk the action left, with
a tier of the same kind. -/
def StaysMirrored (act : Act Registry α) (reg : Registry) (env : Env) : Prop :=
  ∃ m', Mirrored (act.exec reg env).2.1 (act.exec reg env).2.2.disk m' ∧
    Tier.Alike reg.store.backend (act.exec reg env).2.1.store.backend

namespace Mirrored

variable {act : Act Registry α}

/-- An action that leaves the registry and the disk as they were keeps the two alike. -/
theorem stays_of_unchanged (h : Mirrored reg env.disk m) (hr : (act.exec reg env).2.1 = reg)
    (hd : (act.exec reg env).2.2.disk = env.disk) : StaysMirrored act reg env := by
  unfold StaysMirrored
  rw [hr, hd]
  exact ⟨m, h, Tier.Alike.refl _⟩

/-- What a change that makes one store write asks of a mirrored store. The write, run by a memory
store holding the map's record under the id but for its stamp, answers and puts in `w'`; and the
tier keeps what the memory copy of the store keeps. Then the memory store's form of the write,
run on the store's records, answers and puts `w'` in, which the tier keeps. -/
theorem keeps_write (h : Mirrored reg env.disk m) {w w' : Registration} {envs : Env}
    {a : Act Store Unit} (hw : Writes act reg env w envs a) {k : StoreCall}
    {b : Act MemoryStore Unit} (hka : Store.ops.call k = (fun _ => StoreReply.done) <$> a)
    (hkm : MemoryStore.ops.call k = (fun _ => StoreReply.done) <$> b)
    (hb : ∀ n : MemoryStore, n.closed = false →
      (MemoryStore.findIn w.id n.records).map Registration.unstamped =
        (reg.find? w.id).map Registration.unstamped →
      (b.exec n envs).1 = .ok () ∧ (b.exec n envs).2.1 = n.insert w')
    (hread : reg.store.backend.Keeps (kept act reg env)) :
    (b.exec m envs).1 = .ok () ∧ (b.exec m envs).2.1 = m.insert w' ∧
      reg.store.backend.Keeps (b.exec m envs).2.1 := by
  -- the memory copy of the store puts `w'` in, so the tier keeps it
  obtain ⟨hok0, hput0⟩ := hb { records := reg.plugins } rfl rfl
  have hmem : w' ∈ (kept act reg env).records := by
    rw [kept_of_writes h.keyed hw hka hkm hok0, hput0]
    exact (MemoryStore.mem_putIn h.keyed).mpr (.inl rfl)
  -- the store's own record under the id is the map's but for its stamp
  obtain ⟨hok, hput⟩ := hb m h.isOpen (h.same.findIn_unstamped w.id)
  refine ⟨hok, hput, ?_⟩
  rw [hput]
  exact (Tier.keeps_of_models h.models.backend h.isOpen).insert h.valid.keyed hread hmem

/-- A change that makes one store write keeps the registry and its store alike, when the write
asks of the store what `keeps_write` says, and fails clean where it fails. The store, when it
answered, holds `w'` too, and a failed write changed nothing. -/
theorem stays_of_writes (h : Mirrored reg env.disk m) {w w' : Registration} {envs : Env}
    {a : Act Store Unit} (hw : Writes act reg env w envs a) (k : StoreCall) (hids : k.ids ≠ [])
    (b : Act MemoryStore Unit) (hka : Store.ops.call k = (fun _ => StoreReply.done) <$> a)
    (hkm : MemoryStore.ops.call k = (fun _ => StoreReply.done) <$> b)
    (hb : ∀ n : MemoryStore, n.closed = false →
      (MemoryStore.findIn w.id n.records).map Registration.unstamped =
        (reg.find? w.id).map Registration.unstamped →
      (b.exec n envs).1 = .ok () ∧ (b.exec n envs).2.1 = n.insert w')
    (hw' : w'.unstamped = w.unstamped)
    (hfails : reg.store.Models envs.disk m → reg.store.backend.Keeps (b.exec m envs).2.1 →
      a.FailsClean reg.store envs)
    (hread : reg.store.backend.Keeps (kept act reg env)) : StaysMirrored act reg env := by
  have henv := hw.1
  have hs : reg.store.Models envs.disk m := by
    rw [henv]
    exact h.models
  obtain ⟨-, hput, hkeep⟩ := h.keeps_write hw hka hkm hb hread
  obtain ⟨-, ctx, rest, hl, hd, hrun⟩ := hw
  unfold StaysMirrored
  rcases hx : act.exec reg env with ⟨o, reg', env'⟩
  rcases persisted reg h.keyed hl hd ((hrun reg.store).symm.trans hx) with
    ⟨e, s', hfail, rfl⟩ | ⟨s', env1, hwr, hp, hst, hdisk⟩
  · -- a failed write changed nothing
    obtain ⟨rfl, hde⟩ := hfails hs hkeep e s' env' hfail
    refine ⟨m, ?_, Tier.Alike.refl _⟩
    show Mirrored { reg with store := reg.store } env'.disk m
    rw [hde, henv]
    exact h
  · obtain ⟨-, hmod, halike⟩ := Store.written hs h.valid k hids b hka hkm hkeep hwr
    rw [hput] at hmod
    refine ⟨m.insert w', ⟨?keyed, ?models, h.valid.insert h.isOpen w', h.isOpen, ?lists, ?same⟩, ?_⟩
    case keyed =>
      rw [hp]
      exact MemoryStore.keyed_putIn h.keyed
    case models =>
      rw [hst, hdisk]
      exact hmod
    case lists =>
      rw [hst]
      exact halike.lists.mpr h.lists
    case same =>
      rw [hp]
      exact h.same.putIn hw'
    rw [hst]
    exact halike

/-- A change that makes one store write, asking of the store what `keeps_write` says, has the
write answer when the tier takes it, and so ends with the write's record in the map. -/
theorem plugins_of_takes (h : Mirrored reg env.disk m) {w w' : Registration} {envs : Env}
    {a : Act Store Unit} (hw : Writes act reg env w envs a) (k : StoreCall) (hids : k.ids ≠ [])
    (b : Act MemoryStore Unit) (hka : Store.ops.call k = (fun _ => StoreReply.done) <$> a)
    (hkm : MemoryStore.ops.call k = (fun _ => StoreReply.done) <$> b)
    (hb : ∀ n : MemoryStore, n.closed = false →
      (MemoryStore.findIn w.id n.records).map Registration.unstamped =
        (reg.find? w.id).map Registration.unstamped →
      (b.exec n envs).1 = .ok () ∧ (b.exec n envs).2.1 = n.insert w')
    (hread : reg.store.backend.Keeps (kept act reg env)) (ht : reg.store.backend.TakesCall k) :
    (act.exec reg env).2.1.plugins = MemoryStore.putIn w reg.plugins := by
  obtain ⟨hok, hput, hkeep⟩ := h.keeps_write hw hka hkm hb hread
  have hs : reg.store.Models envs.disk m := by
    rw [hw.1]
    exact h.models
  obtain ⟨-, -, htaken, -⟩ := Store.step hs h.valid k hids fun _ => by
    rw [hkm, exec_map]
    exact hkeep
  -- the store answers as the memory store's form of the write does
  have hsame := htaken ht
  rw [hka, hkm, exec_map, exec_map, hok] at hsame
  obtain ⟨-, ctx, rest, hl, hd, hrun⟩ := hw
  rcases hx : act.exec reg env with ⟨o, reg', env'⟩
  rcases persisted reg h.keyed hl hd ((hrun reg.store).symm.trans hx) with
    ⟨e, s', hfail, -⟩ | ⟨s', env1, -, hp, -⟩
  · rw [hfail] at hsame
    exact hsame.elim
  · exact hp

theorem stays_register (h : Mirrored reg env.disk m) (r : Registration)
    (hread : reg.store.backend.Keeps (kept (register r) reg env)) :
    StaysMirrored (register r) reg env := by
  rcases hval : r.validate with e | ⟨⟩
  · exact h.stays_of_unchanged (by rw [exec_register_of_invalid hval])
      (by rw [exec_register_of_invalid hval])
  · obtain ⟨w, -, hw⟩ := writes_register reg hval env
    exact h.stays_of_writes hw (.save w) (List.cons_ne_nil _ _) (MemoryStore.save w) rfl rfl
      (fun n hc _ => ⟨by rw [MemoryStore.exec_save_of_open hc],
        by rw [MemoryStore.exec_save_of_open hc]⟩)
      rfl (fun hs _ => Store.failsClean_save hs w) hread

theorem stays_updateStatus (h : Mirrored reg env.disk m) (id : String) (st : Status)
    (hread : reg.store.backend.Keeps (kept (updateStatus id st) reg env)) :
    StaysMirrored (updateStatus id st) reg env := by
  cases hf : reg.find? id with
  | none =>
    exact h.stays_of_unchanged (by rw [exec_updateStatus_of_find_none hf])
      (by rw [exec_updateStatus_of_find_none hf])
  | some old =>
    by_cases hst : old.status = st
    · exact h.stays_of_unchanged (by rw [exec_updateStatus_of_same hf hst])
        (by rw [exec_updateStatus_of_same hf hst])
    · obtain rfl : old.id = id := MemoryStore.id_of_findIn hf
      exact h.stays_of_writes (writes_updateStatus hf hst env) (.updateStatus old.id st)
        (List.cons_ne_nil _ _) (MemoryStore.updateStatus old.id st) rfl rfl
        (fun n hc hn => MemoryStore.exec_modify_of_same hc
          (hn.trans (congrArg (Option.map Registration.unstamped) hf))
          (fun r => { r with status := st }) fun _ => rfl)
        rfl (fun hs hkeep => Store.failsClean_updateStatus_at hs h.valid old.id st
          (Store.rereadsAt_of_keeps hkeep))
        hread

theorem stays_heartbeat (h : Mirrored reg env.disk m) (id : String)
    (hread : reg.store.backend.Keeps (kept (heartbeat id) reg env)) :
    StaysMirrored (heartbeat id) reg env := by
  cases hf : reg.find? id with
  | none =>
    have hrun : (heartbeat id).exec reg env = (.error (.notFound id), reg, env) :=
      exec_bind_of_error (exec_modify_of_find_none hf _)
    exact h.stays_of_unchanged (by rw [hrun]) (by rw [hrun])
  | some old =>
    obtain rfl : old.id = id := MemoryStore.id_of_findIn hf
    exact h.stays_of_writes (writes_heartbeat hf env) (.update _) (List.cons_ne_nil _ _)
      (MemoryStore.update _) rfl rfl
      (fun n hc hn => MemoryStore.exec_update_of_same hc
        (hn.trans (congrArg (Option.map Registration.unstamped) hf)))
      rfl (fun hs _ => Store.failsClean_update hs _) hread

theorem stays_updateHealth (h : Mirrored reg env.disk m) (id : String) (report : HealthReport)
    (hread : reg.store.backend.Keeps (kept (updateHealth id report) reg env)) :
    StaysMirrored (updateHealth id report) reg env := by
  cases hf : reg.find? id with
  | none =>
    have hrun : (updateHealth id report).exec reg env = (.error (.notFound id), reg, env) :=
      exec_bind_of_error (exec_modify_of_find_none hf _)
    exact h.stays_of_unchanged (by rw [hrun]) (by rw [hrun])
  | some old =>
    obtain rfl : old.id = id := MemoryStore.id_of_findIn hf
    exact h.stays_of_writes (writes_updateHealth hf env) (.update _) (List.cons_ne_nil _ _)
      (MemoryStore.update _) rfl rfl
      (fun n hc hn => MemoryStore.exec_update_of_same hc
        (hn.trans (congrArg (Option.map Registration.unstamped) hf)))
      rfl (fun hs _ => Store.failsClean_update hs _) hread

theorem stays_updateMetrics (h : Mirrored reg env.disk m) (id : String) (mt : Metrics)
    (hread : reg.store.backend.Keeps (kept (updateMetrics id mt) reg env)) :
    StaysMirrored (updateMetrics id mt) reg env := by
  cases hf : reg.find? id with
  | none =>
    have hrun : (updateMetrics id mt).exec reg env = (.error (.notFound id), reg, env) :=
      exec_bind_of_error (exec_modify_of_find_none hf _)
    exact h.stays_of_unchanged (by rw [hrun]) (by rw [hrun])
  | some old =>
    obtain rfl : old.id = id := MemoryStore.id_of_findIn hf
    exact h.stays_of_writes (writes_updateMetrics hf env) (.updateMetrics old.id mt)
      (List.cons_ne_nil _ _) (MemoryStore.updateMetrics old.id mt) rfl rfl
      (fun n hc hn => MemoryStore.exec_modify_of_same hc
        (hn.trans (congrArg (Option.map Registration.unstamped) hf))
        (fun r => { r with metrics := some mt }) fun _ => rfl)
      rfl (fun hs hkeep => Store.failsClean_updateMetrics_at hs h.valid old.id mt
        (Store.rereadsAt_of_keeps hkeep))
      hread

/-- An unregistration needs nothing of the tier: the store holds a record under a registered id,
which it removes. -/
theorem stays_unregister (h : Mirrored reg env.disk m) (id : String) :
    StaysMirrored (unregister id) reg env := by
  cases hf : reg.find? id with
  | none =>
    exact h.stays_of_unchanged (by rw [exec_unregister_of_find_none hf])
      (by rw [exec_unregister_of_find_none hf])
  | some old =>
    obtain ⟨x, hx, -⟩ := h.same.findIn_some hf
    have hxm : x ∈ m.records := ((MemoryStore.findIn_eq_some_iff h.valid.keyed).mp hx).1
    obtain rfl : x.id = id := MemoryStore.id_of_findIn hx
    obtain ⟨s', env1, hd, hmod, halike⟩ := Store.exec_delete_of_mem h.models h.valid hxm
    obtain ⟨hp, hst, hdisk⟩ := exec_unregister_of_deleted hf hd
    refine ⟨m.erase x.id, ⟨?keyed, ?models, h.valid.erase x.id, h.isOpen, ?lists, ?same⟩, ?_⟩
    case keyed =>
      rw [hp]
      exact MemoryStore.keyed_removeFrom h.keyed
    case models =>
      rw [hst, hdisk]
      exact hmod
    case lists =>
      rw [hst]
      exact halike.lists.mpr h.lists
    case same =>
      rw [hp]
      exact h.same.removeFrom x.id
    rw [hst]
    exact halike

/-- One change, succeeding or failing, keeps the registry and its store alike, when the tier keeps
what the change leaves in the memory copy of the store. -/
theorem stays (h : Mirrored reg env.disk m) (ch : Change)
    (hread : reg.store.backend.Keeps (kept ch.run reg env)) : StaysMirrored ch.run reg env := by
  cases ch with
  | register r =>
    have hr := h.stays_register r (by rw [← kept_map (register r) fun _ => ()]; exact hread)
    unfold StaysMirrored at hr ⊢
    rw [show (Change.register r).run = (fun _ => ()) <$> register r from rfl, exec_map]
    exact hr
  | unregister id => exact h.stays_unregister id
  | updateStatus id st =>
    have hr := h.stays_updateStatus id st
      (by rw [← kept_map (updateStatus id st) fun _ => ()]; exact hread)
    unfold StaysMirrored at hr ⊢
    rw [show (Change.updateStatus id st).run = (fun _ => ()) <$> updateStatus id st from rfl,
      exec_map]
    exact hr
  | heartbeat id => exact h.stays_heartbeat id hread
  | updateHealth id report => exact h.stays_updateHealth id report hread
  | updateMetrics id mt => exact h.stays_updateMetrics id mt hread

end Mirrored

end Registry

namespace Change

/-- Along a run of changes, each store is asked to keep only records its tier can keep: before
each change, the tier keeps what the change leaves in the memory copy of the store. Nothing is
asked of a memory tier; a file tier, that each such record reads back. -/
def ReadableAlong : List Change → Registry → Env → Prop
  | [], _, _ => True
  | ch :: chs, reg, env =>
    reg.store.backend.Keeps (Registry.kept ch.run reg env) ∧
      ReadableAlong chs (ch.run.exec reg env).2.1 (ch.run.exec reg env).2.2

end Change

namespace Registry

variable {reg reg' : Registry} {env : Env} {m : MemoryStore}

/-- Two registries answer alike but for the stamps of their records: for each id the same
registration, and for each filter the same list. -/
def AnswersAlike (reg reg' : Registry) : Prop :=
  (∀ id, (reg.find? id).map Registration.unstamped = (reg'.find? id).map Registration.unstamped) ∧
    ∀ f : Filter, SameButStamps (reg.list f) (reg'.list f)

theorem answersAlike_of_same (h : SameButStamps reg.plugins reg'.plugins) :
    AnswersAlike reg reg' :=
  ⟨h.findIn_unstamped, h.select⟩

/-- The store of a registry reflects its registrations: it lists them but for their stamps, and a
registry with an empty map loading from the store reads as many, and then answers as the
registry does but for the stamps. -/
def StoreReflects (reg : Registry) (env : Env) : Prop :=
  (∃ rs, ((Store.list {}).exec reg.store env).1 = .ok rs ∧ SameButStamps rs (reg.list {})) ∧
    (load.exec { reg with plugins := [] } env).1 = .ok reg.count ∧
    AnswersAlike (load.exec { reg with plugins := [] } env).2.1 reg

namespace Mirrored

/-- A mirrored registry's store reflects the registry: it lists the records it keeps, in order of
id, and a load puts exactly those into an empty map. -/
theorem reflects (h : Mirrored reg env.disk m) : StoreReflects reg env := by
  unfold StoreReflects
  have hlist := Store.exec_list_of_models h.models h.isOpen h.lists {}
  rw [Filter.select_empty_of_keyed h.valid.keyed] at hlist
  have hreg : reg.list {} = reg.plugins := Filter.select_empty_of_keyed h.keyed
  have hfold : m.records.foldl (fun acc r => MemoryStore.putIn r acc) [] = m.records := by
    rw [MemoryStore.foldl_putIn (by rw [List.nil_append]; exact h.valid.keyed), List.nil_append]
  have hlen : m.records.length = reg.count := by
    have hl := congrArg List.length h.same
    rwa [List.length_map, List.length_map] at hl
  rcases hl : (Store.list {}).exec reg.store env with ⟨o, s1, env1⟩
  rw [hl] at hlist
  obtain rfl : o = .ok m.records := hlist
  obtain ⟨env2, hload⟩ := exec_load_of_ok
    (show (Store.list {}).exec ({ reg with plugins := [] } : Registry).store env = _ from hl)
  refine ⟨⟨m.records, rfl, by rw [hreg]; exact h.same⟩, by rw [hload, hlen], ?_⟩
  rw [hload]
  apply answersAlike_of_same
  show SameButStamps (m.records.foldl _ []) reg.plugins
  rw [hfold]
  exact h.same

/-- Along a run of changes, each store asked to keep only records its tier can keep, the registry
stays mirrored by its store, which so reflects it after each change. The induction carries
`Mirrored`. -/
theorem run (h : Mirrored reg env.disk m) (chs : List Change)
    (hread : Change.ReadableAlong chs reg env) : Change.Along StoreReflects chs reg env := by
  induction chs generalizing reg m env with
  | nil => trivial
  | cons ch chs ih =>
    obtain ⟨m', h', -⟩ := h.stays ch hread.1
    exact ⟨h'.reflects, ih h' hread.2⟩

/-- Nothing is asked of a memory tier: a registry mirrored by a store on memory, alone or behind a
cache, asks along every run only what its tier keeps. -/
theorem readableAlong_of_memory (h : Mirrored reg env.disk m)
    (hmem : ∃ n, reg.store.backend = .memory n) (chs : List Change) :
    Change.ReadableAlong chs reg env := by
  induction chs generalizing reg m env with
  | nil => trivial
  | cons ch chs ih =>
    obtain ⟨n, hn⟩ := hmem
    have hk : reg.store.backend.Keeps (kept ch.run reg env) := by
      rw [hn]
      trivial
    obtain ⟨m', h', halike⟩ := h.stays ch hk
    refine ⟨hk, ih h' ?_⟩
    -- the store after the change has a tier of the same kind: a memory tier
    rw [hn] at halike
    rcases hb : (ch.run.exec reg env).2.1.store.backend with n' | f
    · exact ⟨n', rfl⟩
    · rw [hb] at halike
      exact halike.elim

end Mirrored

/-- From an empty registry over a store of any kind keeping an empty store on the disk, with a
tier that can list, after each change of any run, succeeding or failing, where each store is
asked to keep only records its tier can keep: the store lists the registry's registrations, each
the same but for when it was last updated; and a registry loading them afresh from the store reads
as many and answers for each id and each filter as the registry does, but for those stamps. -/
theorem store_lists_registry_but_stamps (s : Store) (bridge : Option Bridge) (bus : EventBus)
    (env : Env) (hs : s.Models env.disk {}) (hls : s.backend.Lists) (chs : List Change)
    (hread : Change.ReadableAlong chs { store := s, bridge := bridge, bus := bus } env) :
    Change.Along StoreReflects chs { store := s, bridge := bridge, bus := bus } env := by
  have h : Mirrored { store := s, bridge := bridge, bus := bus } env.disk {} :=
    { keyed := List.Pairwise.nil
      models := hs
      valid := MemoryStore.valid_empty
      isOpen := rfl
      lists := hls
      same := rfl }
  exact h.run chs hread

/-- A registration and its removal, through an empty cache in front of a file store over the
working directory, empty on the empty disk: the store is asked to keep the registered record, which
reads back, and then nothing. -/
theorem store_lists_registry_through_file_store :
    let s : Store := .cached {} (.file { directory := "." })
    let chs := [Change.register (Registration.create "p" "P" "1.0" ⟨0, 0⟩), .unregister "p"]
    s.Models ({} : Env).disk {} ∧ s.backend.Lists ∧
      Change.ReadableAlong chs { store := s, bus := EventBus.create 100 } {} ∧
      Change.Along StoreReflects chs { store := s, bus := EventBus.create 100 } {} := by
  intro s chs
  obtain ⟨hm, hls⟩ := FileStore.mirrors_empty_of_listDir (f := { directory := "." }) rfl
    (listDir_dot_slashes 0 (by omega))
  have hs : s.Models ({} : Env).disk {} :=
    ⟨hm, MemoryStore.valid_empty, MemoryStore.coherent_empty {}⟩
  have h0 : Mirrored { store := s, bus := EventBus.create 100 } ({} : Env).disk {} :=
    { keyed := List.Pairwise.nil
      models := hs
      valid := MemoryStore.valid_empty
      isOpen := rfl
      lists := hls
      same := rfl }
  -- the registration saves the plain record, which the file store keeps and reads back
  obtain ⟨w, hnew, hw⟩ := writes_register { store := s, bus := EventBus.create 100 }
    (r := Registration.create "p" "P" "1.0" ⟨0, 0⟩) rfl {}
  obtain rfl : w = FileStore.plainRecord := hnew rfl
  have hsave : ∀ n : MemoryStore, n.closed = false →
      ((MemoryStore.save FileStore.plainRecord).exec n { clock := ⟨1⟩ }).1 = .ok () ∧
        ((MemoryStore.save FileStore.plainRecord).exec n { clock := ⟨1⟩ }).2.1 =
          n.insert FileStore.plainRecord :=
    fun n hc => ⟨by rw [MemoryStore.exec_save_of_open hc], by rw [MemoryStore.exec_save_of_open hc]⟩
  have hkept : kept (register (Registration.create "p" "P" "1.0" ⟨0, 0⟩))
      { store := s, bus := EventBus.create 100 } {} = { records := [FileStore.plainRecord] } :=
    kept_register_of_none h0.keyed rfl rfl
  have hread1 : s.backend.Keeps (kept (register (Registration.create "p" "P" "1.0" ⟨0, 0⟩))
      { store := s, bus := EventBus.create 100 } {}) := by
    rw [hkept]
    intro x hx
    rw [List.mem_singleton.mp hx]
    exact FileStore.readsBack_plainRecord
  have hplug := h0.plugins_of_takes hw (.save _) (List.cons_ne_nil _ _) _ rfl rfl
    (fun n hc _ => hsave n hc) hread1 fun id hid => by
      rw [show (StoreCall.save FileStore.plainRecord).ids = ["p"] from rfl,
        List.mem_singleton] at hid
      subst hid
      exact ⟨by decide, by decide, by decide⟩
  -- the removal then asks the store to keep nothing
  have hread2 : ∀ reg : Registry, reg.plugins = [FileStore.plainRecord] →
      ∀ env : Env, reg.store.backend.Keeps (kept (unregister "p") reg env) := by
    intro reg hp env
    have hf : reg.find? "p" = some FileStore.plainRecord := by
      rw [find?, hp]
      rfl
    rw [kept_unregister hf, hp]
    cases reg.store.backend with
    | memory _ => trivial
    | file _ => exact fun x hx => absurd hx List.not_mem_nil
  have hread : Change.ReadableAlong chs { store := s, bus := EventBus.create 100 } {} := by
    refine ⟨by rw [show (Change.register _).run = _ <$> register _ from rfl, kept_map]; exact hread1,
      hread2 _ ?_ _, trivial⟩
    rw [show (Change.register _).run = (fun _ => ()) <$> register _ from rfl, exec_map]
    exact hplug
  exact ⟨hs, hls, hread,
    store_lists_registry_but_stamps s none (EventBus.create 100) {} hs hls chs hread⟩

/-- After a registration and a status change over an empty memory store, the registry lists the
record as updated at the clock's second reading, and the store lists it as updated at the third:
the two lists differ. -/
theorem status_change_stamps_store_later :
    let r1 := (Change.register (Registration.create "p" "P" "1.0" ⟨0, 0⟩)).run.exec
      { store := .single (.memory {}), bus := EventBus.create 100 } {}
    let r2 := (Change.updateStatus "p" .active).run.exec r1.2.1 r1.2.2
    (r2.2.1.list {}).map (·.updatedAt) = [Clock.instantOf 2] ∧
      ((Store.list {}).exec r2.2.1.store r2.2.2).1.map (List.map (·.updatedAt)) =
        .ok [Clock.instantOf 3] := by
  intro r1 r2
  -- The run computes; only the listing's sort by id needs the lemma for sorted lists.
  obtain ⟨q, hq, hplug⟩ : ∃ q, r2.2.1.plugins = [q] ∧ q.updatedAt = Clock.instantOf 2 :=
    ⟨_, rfl, rfl⟩
  obtain ⟨x, hstore, hx⟩ : ∃ x, r2.2.1.store = .single (.memory { records := [x] }) ∧
      x.updatedAt = Clock.instantOf 3 := ⟨_, rfl, rfl⟩
  have hsingle : ∀ y : Registration, Filter.select {} [y] = [y] :=
    fun y => Filter.select_empty_of_keyed (List.pairwise_singleton _ y)
  refine ⟨?_, ?_⟩
  · show (Filter.select {} r2.2.1.plugins).map (·.updatedAt) = _
    rw [hq, hsingle, List.map_singleton, hplug]
  · rw [hstore, Store.list, Store.exec_onBackend_single, Tier.list, Tier.exec_run_memory,
      MemoryStore.exec_list, if_neg Bool.false_ne_true, hsingle]
    show Except.ok [x.updatedAt] = _
    rw [hx]

end Registry

end Plugboard
