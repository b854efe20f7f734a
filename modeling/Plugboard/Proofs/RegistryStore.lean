import Plugboard.Proofs.RegistryFailure
/-!
# The registry and its store agree but for update stamps

A registry keeps its registrations twice: in its map, and in its store. Every change writes the
map and then the store. Registering, a heartbeat and a health report hand the store the record
the map now holds. A status or a metrics change hands it only the change, and the store stamps
the changed record with its own reading of the clock, a reading later than the registry's. So the
two copies of a record can differ in when they were last updated, and in nothing else.

This module gives the words for it: `Registration.unstamped` and `SameButStamps`, and how putting
a record in and taking an id out keep two lists alike; what a store on memory does with a call;
and what registering and unregistering leave when they answer. `Plugboard.Proofs.StoreMirror`
carries the two copies along every run, over stores of every kind.
-/

namespace Plugboard

open Act

namespace Registration

/-- A registration with the instant it was last updated at cleared: what two copies of a record
share when each was stamped by its own reading of the clock. -/
def unstamped (r : Registration) : Registration := { r with updatedAt := ⟨0, 0⟩ }

@[simp] theorem id_unstamped (r : Registration) : r.unstamped.id = r.id := rfl

/-- Two copies that agree but for their stamps still agree after one change stamps each anew,
when the change itself does not read the stamp. -/
theorem unstamped_restamp {x y : Registration} (h : x.unstamped = y.unstamped)
    (g : Registration → Registration) (hg : ∀ r, (g r).unstamped = (g r.unstamped).unstamped)
    (t t' : Instant) :
    ({ g x with updatedAt := t }).unstamped = ({ g y with updatedAt := t' }).unstamped :=
  calc ({ g x with updatedAt := t }).unstamped
      = (g x).unstamped := rfl
    _ = (g x.unstamped).unstamped := hg x
    _ = (g y.unstamped).unstamped := by rw [h]
    _ = (g y).unstamped := (hg y).symm
    _ = ({ g y with updatedAt := t' }).unstamped := rfl

end Registration

/-- Two lists of registrations that are the same but for when each record was last updated. -/
def SameButStamps (rs ps : List Registration) : Prop :=
  rs.map Registration.unstamped = ps.map Registration.unstamped

namespace MemoryStore

variable {f : Registration → Registration}

/-- Putting a record in commutes with a map that keeps ids, as the place depends on ids alone. -/
theorem map_putIn (hf : ∀ r, (f r).id = r.id) (r : Registration) (rs : List Registration) :
    (putIn r rs).map f = putIn (f r) (rs.map f) := by
  induction rs with
  | nil => rfl
  | cons x xs ih =>
    simp only [putIn, List.map_cons, hf]
    split_ifs <;> simp [ih]

theorem map_removeFrom (hf : ∀ r, (f r).id = r.id) (id : String) (rs : List Registration) :
    (removeFrom id rs).map f = removeFrom id (rs.map f) := by
  induction rs with
  | nil => rfl
  | cons x xs ih =>
    simp only [removeFrom, List.map_cons, hf]
    split_ifs <;> simp [ih]

theorem findIn_map (hf : ∀ r, (f r).id = r.id) (id : String) (rs : List Registration) :
    findIn id (rs.map f) = (findIn id rs).map f := by
  induction rs with
  | nil => rfl
  | cons x xs ih =>
    simp only [findIn, List.map_cons, hf]
    split_ifs <;> simp [ih]

end MemoryStore

namespace SameButStamps

open MemoryStore (putIn removeFrom findIn)

variable {rs ps : List Registration}

theorem putIn (h : SameButStamps rs ps) {r p : Registration} (hr : r.unstamped = p.unstamped) :
    SameButStamps (putIn r rs) (putIn p ps) := by
  unfold SameButStamps at h ⊢
  rw [MemoryStore.map_putIn Registration.id_unstamped,
    MemoryStore.map_putIn Registration.id_unstamped, h, hr]

theorem removeFrom (h : SameButStamps rs ps) (id : String) :
    SameButStamps (removeFrom id rs) (removeFrom id ps) := by
  unfold SameButStamps at h ⊢
  rw [MemoryStore.map_removeFrom Registration.id_unstamped,
    MemoryStore.map_removeFrom Registration.id_unstamped, h]

/-- The record under an id in one list is, but for its stamp, the record under it in the other. -/
theorem findIn_some (h : SameButStamps rs ps) {id : String} {p : Registration}
    (hp : findIn id ps = some p) : ∃ x, findIn id rs = some x ∧ x.unstamped = p.unstamped := by
  have hmap := congrArg (findIn id) h
  rw [MemoryStore.findIn_map Registration.id_unstamped,
    MemoryStore.findIn_map Registration.id_unstamped, hp] at hmap
  obtain ⟨x, hx, hxp⟩ := Option.map_eq_some_iff.mp hmap
  exact ⟨x, hx, hxp⟩

end SameButStamps

namespace Store

/-- A store whose backend is a memory store, alone or behind a cache. -/
def OnMemory : Store → Prop
  | .single (.memory _) => True
  | .cached _ (.memory _) => True
  | _ => False

variable {s : Store} {m : MemoryStore} {d : Disk} {env : Env}

/-- A call on a store on memory answers as the memory store it keeps does, leaves the clock as that
store does, and leaves a store on memory that keeps what that store is left with. -/
theorem step_onMemory (hs : s.Models d m) (hm : s.OnMemory) (hv : m.Valid) (k : StoreCall)
    (env : Env) (d' : Disk) :
    Outcome.Same ((ops.call k).exec s env).1 ((MemoryStore.ops.call k).exec m env).1 ∧
      ((ops.call k).exec s env).2.2 = ((MemoryStore.ops.call k).exec m env).2.2 ∧
      ((ops.call k).exec s env).2.1.Models d' ((MemoryStore.ops.call k).exec m env).2.1 ∧
      ((ops.call k).exec s env).2.1.OnMemory := by
  cases s with
  | single b =>
    cases b with
    | memory m' =>
      cases hs
      rw [exec_call_memory]
      exact ⟨Outcome.same_refl _, rfl, rfl, trivial⟩
    | file f => exact hm.elim
  | cached c b =>
    cases b with
    | memory m' =>
      obtain ⟨hb, hcv, hc⟩ := hs
      cases hb
      have hb : (Tier.memory m).Models env.disk m := rfl
      have htakes : (Tier.memory m).TakesCall k := fun _ _ => trivial
      -- The cached store agrees with its memory backend, whose next store is the memory run's.
      obtain ⟨hsame, henv, c', hst, hcv', hc'⟩ := cached_call hb hv hcv hc k fun _ => trivial
      rw [Tier.exec_call_memory] at hsame henv hst
      rw [Tier.next_of_takesCall htakes] at hc'
      rw [hst]
      exact ⟨hsame, henv, ⟨rfl, hcv', hc'⟩, trivial⟩
    | file f => exact hm.elim

end Store

namespace MemoryStore

variable {m : MemoryStore} {env : Env}

theorem exec_save_of_open (hc : m.closed = false) (r : Registration) :
    (save r).exec m env = (.ok (), m.insert r, env) := by
  rw [exec_save, hc, if_neg Bool.false_ne_true]

end MemoryStore

namespace Change

/-- A property that holds of the registry and the environment after each change of a run, each
made from where the one before left off. -/
def Along (P : Registry → Env → Prop) : List Change → Registry → Env → Prop
  | [], _, _ => True
  | ch :: chs, reg, env =>
    P (ch.run.exec reg env).2.1 (ch.run.exec reg env).2.2 ∧
      Along P chs (ch.run.exec reg env).2.1 (ch.run.exec reg env).2.2

end Change

namespace Registry

variable {α β : Type} {reg reg' : Registry} {env env' : Env}

/-- An action that leaves the map and the store as they are, as telling the bridge and announcing
on the bus do. -/
def LeavesRecords (a : Act Registry α) : Prop :=
  ∀ reg env, (a.exec reg env).2.1.plugins = reg.plugins ∧ (a.exec reg env).2.1.store = reg.store

theorem LeavesRecords.of_exec {a : Act Registry α} (ha : LeavesRecords a) {o : Outcome α}
    (h : a.exec reg env = (o, reg', env')) :
    reg'.plugins = reg.plugins ∧ reg'.store = reg.store := by
  have hl := ha reg env
  rw [h] at hl
  exact hl

theorem LeavesRecords.bind {a : Act Registry α} {f : α → Act Registry β} (ha : LeavesRecords a)
    (hf : ∀ x, LeavesRecords (f x)) : LeavesRecords (a >>= f) := by
  intro reg env
  rcases hr : a.exec reg env with ⟨_ | x, reg1, env1⟩
  · rw [exec_bind, hr]
    exact ha.of_exec hr
  · rw [exec_bind, hr]
    obtain ⟨hp, hs⟩ := ha.of_exec hr
    obtain ⟨hp', hs'⟩ := hf x reg1 env1
    exact ⟨hp'.trans hp, hs'.trans hs⟩

theorem leavesRecords_pure (x : α) : LeavesRecords (pure x : Act Registry α) :=
  fun _ _ => ⟨rfl, rfl⟩

theorem leavesRecords_emit (ev : Event) : LeavesRecords (emit ev) :=
  fun _ _ => ⟨rfl, rfl⟩

theorem leavesRecords_onBridge (a : Act Bridge α) : LeavesRecords (onBridge a) := by
  intro reg env
  unfold onBridge
  rw [exec_self_bind]
  split
  · exact ⟨rfl, rfl⟩
  · rw [exec_bind, exec_focus, exec_attempt]
    exact ⟨rfl, rfl⟩

theorem exec_remove (id : String) (reg : Registry) (env : Env) :
    (remove id).exec reg env =
      (.ok (), { reg with plugins := MemoryStore.removeFrom id reg.plugins }, env) :=
  rfl

/-- A change that answered after a store write had the write answer, and went on from the store it
left. -/
theorem exec_persist_bind_of_ok {id ctx : String} {previous : Option Registration}
    {a : Act Store Unit} {rest : Unit → Act Registry β} {x : β}
    (h : (persist id previous ctx a >>= rest).exec reg env = (.ok x, reg', env')) :
    ∃ s' env1, a.exec reg.store env = (.ok (), s', env1) ∧
      (rest ()).exec { reg with store := s' } env1 = (.ok x, reg', env') := by
  rcases ha : a.exec reg.store env with ⟨_ | ⟨⟩, s1, env1⟩
  · obtain ⟨reg1, -, hp⟩ := exec_persist_refused id ctx previous ha
    rw [exec_bind_of_error hp] at h
    cases h
  · rw [exec_bind_of_ok (exec_persist_ok ha)] at h
    exact ⟨s1, env1, rfl, h⟩

/-- A registration that answered: its answer is the record it was given, stamped as registered
and seen and updated at the clock's reading, with the registration time of an entry of the same
version or else that reading. The record went into the map, the store saved it, and the bridge,
told of it, reported no failure; all that follows is the announcement. -/
theorem register_of_ok {r x : Registration} (h : (register r).exec reg env = (.ok x, reg', env')) :
    ∃ ts, x = { r with
          registeredAt := ts, status := .registered, lastSeen := env.clock.now.1
          updatedAt := env.clock.now.1 } ∧
      (∀ old, reg.find? r.id = some old →
        ts = if old.version == r.version then old.registeredAt else env.clock.now.1) ∧
      (reg.find? r.id = none → ts = env.clock.now.1) ∧
      ∃ s' env1 o reg1,
        (Store.save x).exec reg.store { env with clock := env.clock.now.2 } = (.ok (), s', env1) ∧
        (onBridge (Bridge.register x)).exec
          { reg with plugins := MemoryStore.putIn x reg.plugins, store := s' } env1 =
          (.ok o, reg1, env') ∧
        reg'.plugins = reg1.plugins ∧ reg'.store = reg1.store := by
  unfold register at h
  rw [exec_bind] at h
  cases hval : r.validate with
  | error e0 =>
    rw [hval, exec_ofOutcome] at h
    cases h
  | ok u =>
    rw [hval, exec_ofOutcome] at h
    dsimp only at h
    rw [exec_bind_of_ok (exec_now reg env), exec_self_bind,
      exec_bind_of_ok (exec_insert _ _ _)] at h
    obtain ⟨s', env1, hsave, hrest⟩ := exec_persist_bind_of_ok h
    obtain ⟨o, reg1, env2, hrun, hne⟩ := exec_onBridge_register _ _ env1
    rw [exec_bind_of_ok hrun] at hrest
    -- the bridge never reports a failure to register, so its compensation is never run
    split at hrest
    · exact absurd rfl (hne _)
    · rw [exec_bind_of_ok (exec_emit _ _ _), exec_pure] at hrest
      cases hrest
      refine ⟨_, rfl, fun old hf => ?_, fun hf => ?_, s', env1, o, reg1, hsave, hrun, rfl, rfl⟩
      · simp only [hf]
        split <;> rfl
      · simp only [hf]

/-- An unregistration that answered found the id, asked the store to remove it, and took it out
of the map; the store then is as the removal left it, whatever it answered. -/
theorem unregister_writes {id : String} (h : (unregister id).exec reg env = (.ok (), reg', env')) :
    reg'.plugins = MemoryStore.removeFrom id reg.plugins ∧
      reg'.store = ((Store.delete id).exec reg.store env).2.1 := by
  unfold unregister at h
  rw [exec_self_bind] at h
  split at h
  · rw [exec_bind, exec_onStore, exec_attempt] at h
    dsimp only at h
    rcases hd : (Store.delete id).exec reg.store env with ⟨_ | u, s1, env1⟩ <;> rw [hd] at h <;>
      dsimp only at h
    · rename_i e
      cases hnf : e.isNotFound
      · rw [hnf] at h
        cases h
      · rw [hnf, if_neg (by decide), exec_bind, exec_remove] at h
        exact ((leavesRecords_emit _).bind fun _ =>
          (leavesRecords_onBridge _).bind fun _ => leavesRecords_pure _).of_exec h
    · rw [exec_bind, exec_remove] at h
      exact ((leavesRecords_emit _).bind fun _ =>
        (leavesRecords_onBridge _).bind fun _ => leavesRecords_pure _).of_exec h
  · rw [exec_fail] at h
    cases h

end Registry

end Plugboard
