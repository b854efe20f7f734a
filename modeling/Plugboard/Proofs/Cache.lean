import Plugboard.Proofs.Tier
/-!
# A cache in front of a tier

A cached store keeps a memory store, the cache, in front of a tier, the backend. Along every run
of calls the cache stays coherent with the backend: every record it holds is the record the
backend answers for that id (`Store.CacheAgrees`), after failed calls as after the others. And the
cache is not seen from outside: each call answers as the backend alone would, with a failure of
the same kind, and leaves the backend as the backend alone would. A read of an id the cache holds
is answered from the cache, whatever the backend is.

The run is followed by induction over the calls. The invariant is `MemoryStore.Coherent`: the
cache holds only records of the memory store the backend keeps, and is closed only when that
store is. What one call does to the backend (`Tier.step`) decides which store the backend keeps
next (`Tier.next`); each operation of the cached store keeps the invariant for it
(`Store.agrees_save` and the others), and `Store.cached_call` puts them together.
-/

namespace Plugboard

open Act

namespace MemoryStore

variable {c m m' : MemoryStore} {r x : Registration}

/-- A cache coherent with the store `m` its backend keeps: every record it holds is one of `m`'s,
and it is closed only when `m` is. -/
def Coherent (c m : MemoryStore) : Prop :=
  (c.closed = true → m.closed = true) ∧ ∀ x ∈ c.records, x ∈ m.records

theorem coherent_empty (m : MemoryStore) : Coherent {} m :=
  ⟨fun h => Bool.noConfusion h, fun _ hx => absurd hx List.not_mem_nil⟩

/-- A record put into both the cache and the backend's store keeps them coherent. -/
theorem Coherent.insert (hcv : c.Valid) (hv : m.Valid) (h : Coherent c m) (r : Registration) :
    Coherent (c.insert r) (m.insert r) := by
  refine ⟨h.1, fun x hx => ?_⟩
  rcases (mem_putIn hcv.keyed).mp hx with rfl | ⟨hx, hne⟩
  · exact (mem_putIn hv.keyed).mpr (.inl rfl)
  · exact (mem_putIn hv.keyed).mpr (.inr ⟨h.2 x hx, hne⟩)

/-- A record the backend keeps may be put into the cache. -/
theorem Coherent.insert_mem (hcv : c.Valid) (h : Coherent c m) (hr : r ∈ m.records) :
    Coherent (c.insert r) m := by
  refine ⟨h.1, fun x hx => ?_⟩
  rcases (mem_putIn hcv.keyed).mp hx with rfl | ⟨hx, -⟩
  · exact hr
  · exact h.2 x hx

/-- Taking an id out of the cache keeps it coherent with a store that lost at most that id. -/
theorem Coherent.erase (hcv : c.Valid) (hv : m.Valid) (h : Coherent c m) (id : String)
    (hm' : m' = m ∨ m' = m.erase id) : Coherent (c.erase id) m' := by
  refine ⟨fun hc => ?_, fun x hx => ?_⟩
  · rcases hm' with rfl | rfl
    · exact h.1 hc
    · exact h.1 hc
  · obtain ⟨hx, hne⟩ := (mem_removeFrom hcv.keyed).mp hx
    rcases hm' with rfl | rfl
    · exact h.2 x hx
    · exact (mem_removeFrom hv.keyed).mpr ⟨h.2 x hx, hne⟩

/-- A cache coherent with an open store is open. -/
theorem Coherent.open (h : Coherent c m) (hm : m.closed = false) : c.closed = false := by
  cases hcc : c.closed with
  | false => rfl
  | true => exact absurd (hm.symm.trans (h.1 hcc)) Bool.false_ne_true

theorem coherent_closed (hm' : m'.closed = true) :
    Coherent { records := [], closed := true } m' :=
  ⟨fun _ => hm', fun _ hx => absurd hx List.not_mem_nil⟩

end MemoryStore

namespace Tier

variable {b : Tier} {m : MemoryStore} {env : Env}

/-- The store a tier keeps after a call: the memory store's run of the call when the tier takes
it, and the store it kept before when it does not. -/
def next (b : Tier) (c : StoreCall) (m : MemoryStore) (env : Env) : MemoryStore :=
  if b.TakesCall c then ((MemoryStore.ops.call c).exec m env).2.1 else m

theorem next_of_takesCall {c : StoreCall} (h : b.TakesCall c) :
    b.next c m env = ((MemoryStore.ops.call c).exec m env).2.1 :=
  if_pos h

theorem next_of_not_takesCall {c : StoreCall} (h : ¬ b.TakesCall c) : b.next c m env = m :=
  if_neg h

/-- After a call that leaves the memory store as it is, the tier keeps the same store. -/
theorem next_of_keeps {c : StoreCall} (h : ((MemoryStore.ops.call c).exec m env).2.1 = m) :
    b.next c m env = m := by
  unfold next
  split
  · exact h
  · rfl

/-- After a call that only reads, the tier keeps the same store. -/
theorem next_of_reads {c : StoreCall} (hc : c.reads = true) : b.next c m env = m :=
  next_of_keeps (congrArg Prod.fst (MemoryStore.exec_call_of_reads hc m env))

/-- A call that names no id is taken by every tier. -/
theorem takesCall_of_ids_nil {c : StoreCall} (h : c.ids = []) : b.TakesCall c := by
  intro id hid
  rw [h] at hid
  exact absurd hid List.not_mem_nil

/-- How a tier's run of an operation follows the memory store's run of it: it answers alike and
keeps what the memory store is left with, or it refuses, changing nothing, and keeps `m`. -/
def Follows {α : Type} (t : Outcome α × Tier × Env) (r : Outcome α × MemoryStore × Env)
    (b : Tier) (env : Env) (m m' : MemoryStore) : Prop :=
  (Outcome.Same t.1 r.1 ∧ m' = r.2.1) ∨ (∃ e, t = (.error e, b, env) ∧ m' = m)

theorem Follows.of_map {α β : Type} {t : Outcome α × Tier × Env}
    {r : Outcome α × MemoryStore × Env} {m' : MemoryStore} {k : α → β}
    (hk : Function.Injective k) (h : Follows (t.1.map k, t.2) (r.1.map k, r.2) b env m m') :
    Follows t r b env m m' := by
  rcases h with ⟨hs, hm'⟩ | ⟨e, ht, hm'⟩
  · exact .inl ⟨hs.of_map hk, hm'⟩
  · refine .inr ⟨e, ?_, hm'⟩
    obtain ⟨t1, t2⟩ := t
    simp only [Prod.mk.injEq] at ht
    obtain ⟨h1, h2⟩ := ht
    rcases t1 with e' | a
    · cases h1
      rw [h2]
    · cases h1

section Follows

variable {α : Type} {t : Outcome α × Tier × Env} {r : Outcome α × MemoryStore × Env}
  {m' : MemoryStore}

/-- A tier's run that answered answered as the memory store did, and keeps what it left. -/
theorem Follows.ok_run (hf : Follows t r b env m m') {a : α} (ha : t.1 = .ok a) :
    r.1 = .ok a ∧ m' = r.2.1 := by
  rcases hf with ⟨hs, rfl⟩ | ⟨e, ht, -⟩
  · rw [ha] at hs
    rcases hr : r.1 with e' | a'
    · rw [hr] at hs
      exact hs.elim
    · rw [hr] at hs
      exact ⟨congrArg Except.ok hs.symm, rfl⟩
  · rw [ht] at ha
    cases ha

/-- A tier's run that failed keeps `m`, when the memory store keeps its records on a failure. -/
theorem Follows.error_keeps (hf : Follows t r b env m m')
    (hkeep : ∀ e, r.1 = .error e → r.2.1 = m) {e : Error} (he : t.1 = .error e) : m' = m := by
  rcases hf with ⟨hs, rfl⟩ | ⟨_, _, rfl⟩
  · rw [he] at hs
    rcases hr : r.1 with e' | a
    · exact hkeep e' hr
    · rw [hr] at hs
      exact hs.elim
  · rfl

end Follows

section Operations

/-! What the memory store's run of each writing operation says, through `Follows`, of the store
the tier keeps next. -/

variable {t : Outcome Unit × Tier × Env} {m' : MemoryStore}

theorem Follows.save {r : Registration}
    (hf : Follows t ((MemoryStore.save r).exec m env) b env m m') :
    (t.1 = .ok () → m.closed = false ∧ m' = m.insert r) ∧ (∀ e, t.1 = .error e → m' = m) := by
  cases hc : m.closed with
  | false =>
    rw [MemoryStore.exec_save, hc, if_neg Bool.false_ne_true] at hf
    exact ⟨fun ha => ⟨rfl, (hf.ok_run ha).2⟩, fun e he => hf.error_keeps (fun e' h => by cases h) he⟩
  | true =>
    rw [MemoryStore.exec_save, hc, if_pos rfl] at hf
    exact ⟨fun ha => (by cases (hf.ok_run ha).1), fun e he => hf.error_keeps (fun e' _ => rfl) he⟩

theorem Follows.update {r : Registration}
    (hf : Follows t ((MemoryStore.update r).exec m env) b env m m') :
    (t.1 = .ok () → m.closed = false ∧ m' = m.insert r) ∧ (∀ e, t.1 = .error e → m' = m) := by
  cases hc : m.closed with
  | false =>
    rw [MemoryStore.exec_update, hc, if_neg Bool.false_ne_true] at hf
    cases hfind : MemoryStore.findIn r.id m.records with
    | some p =>
      rw [hfind] at hf
      exact ⟨fun ha => ⟨rfl, (hf.ok_run ha).2⟩,
        fun e he => hf.error_keeps (fun e' h => by cases h) he⟩
    | none =>
      rw [hfind] at hf
      exact ⟨fun ha => (by cases (hf.ok_run ha).1), fun e he => hf.error_keeps (fun e' _ => rfl) he⟩
  | true =>
    rw [MemoryStore.exec_update, hc, if_pos rfl] at hf
    exact ⟨fun ha => (by cases (hf.ok_run ha).1), fun e he => hf.error_keeps (fun e' _ => rfl) he⟩

/-- A change of a stored record that answered put in a record under the same id. -/
theorem Follows.modify {id : String} {g : Registration → Registration} (hv : m.Valid)
    (hf : Follows t ((MemoryStore.modify id g).exec m env) b env m m') (hg : ∀ r, (g r).id = r.id) :
    (t.1 = .ok () → m.closed = false ∧ ∃ x : Registration, x.id = id ∧ m' = m.insert x) ∧
      (∀ e, t.1 = .error e → m' = m) := by
  cases hc : m.closed with
  | false =>
    rw [MemoryStore.exec_modify, hc, if_neg Bool.false_ne_true] at hf
    cases hfind : MemoryStore.findIn id m.records with
    | some p =>
      rw [hfind] at hf
      have hid : p.id = id := ((MemoryStore.findIn_eq_some_iff hv.keyed).mp hfind).2
      refine ⟨fun ha => ⟨rfl, _, ?_, (hf.ok_run ha).2⟩,
        fun e he => hf.error_keeps (fun e' h => by cases h) he⟩
      show (g p).id = id
      rw [hg, hid]
    | none =>
      rw [hfind] at hf
      exact ⟨fun ha => (by cases (hf.ok_run ha).1), fun e he => hf.error_keeps (fun e' _ => rfl) he⟩
  | true =>
    rw [MemoryStore.exec_modify, hc, if_pos rfl] at hf
    exact ⟨fun ha => (by cases (hf.ok_run ha).1), fun e he => hf.error_keeps (fun e' _ => rfl) he⟩

/-- Removing an id leaves the store without it, or as it was. -/
theorem Follows.delete {id : String}
    (hf : Follows t ((MemoryStore.delete id).exec m env) b env m m') :
    m' = m ∨ m' = m.erase id := by
  rcases hf with ⟨-, rfl⟩ | ⟨_, _, rfl⟩
  · rw [MemoryStore.exec_delete]
    split
    · exact .inl rfl
    · split
      · exact .inr rfl
      · exact .inl rfl
  · exact .inl rfl

end Operations

/-- A call with ids runs on a tier as `Follows` says, towards the store the tier keeps next. -/
theorem follows_call (hb : b.Models env.disk m) (c : StoreCall) (hids : c.ids ≠ [])
    (hkeep : b.TakesCall c → b.Keeps ((MemoryStore.ops.call c).exec m env).2.1) :
    Follows ((ops.call c).exec b env) ((MemoryStore.ops.call c).exec m env) b env m
      (b.next c m env) := by
  obtain ⟨-, htaken, hrefused⟩ := step hb c hkeep
  by_cases ht : b.TakesCall c
  · exact .inl ⟨(htaken ht).2.2 hids, next_of_takesCall ht⟩
  · obtain ⟨e, he⟩ := hrefused ht
    exact .inr ⟨e, he, next_of_not_takesCall ht⟩

/-- After a call the tier keeps the store `next` names. -/
theorem models_next (hb : b.Models env.disk m) (c : StoreCall)
    (hkeep : b.TakesCall c → b.Keeps ((MemoryStore.ops.call c).exec m env).2.1) :
    ((ops.call c).exec b env).2.1.Models ((ops.call c).exec b env).2.2.disk (b.next c m env) := by
  obtain ⟨-, htaken, hrefused⟩ := step hb c hkeep
  by_cases ht : b.TakesCall c
  · rw [next_of_takesCall ht]
    exact (htaken ht).1
  · obtain ⟨e, he⟩ := hrefused ht
    rw [next_of_not_takesCall ht, he]
    exact hb

theorem valid_next (hv : m.Valid) (b : Tier) (c : StoreCall) (env : Env) :
    (b.next c m env).Valid := by
  unfold next
  split
  · exact hv.call c env
  · exact hv

end Tier

namespace Store

variable {α : Type} {b : Tier} {c m m' : MemoryStore} {env : Env}

open MemoryStore (Coherent findIn_eq_some_iff mem_putIn)

theorem exec_onBackend_cached (a : Act Tier α) :
    (onBackend a).exec (.cached c b) env =
      ((a.exec b env).1, .cached c (a.exec b env).2.1, (a.exec b env).2.2) := rfl

theorem exec_onCache_cached (a : Act MemoryStore α) :
    (onCache a).exec (.cached c b) env =
      ((a.exec c env).1, .cached (a.exec c env).2.1 b, (a.exec c env).2.2) := rfl

/-- Every record the cache holds is the record the backend answers for its id, and the backend
answers it without changing anything. -/
def CacheAgrees (s : Store) (env : Env) : Prop :=
  ∀ x ∈ s.cache.records, (Tier.get x.id).exec s.backend env = (.ok x, s.backend, env)

theorem cacheAgrees_of_coherent (hb : b.Models env.disk m) (hv : m.Valid) (hc : Coherent c m) :
    CacheAgrees (.cached c b) env :=
  fun x hx => Tier.exec_get_of_mem hb hv (hc.2 x hx)

/-- A run of the cached store agrees with the backend's own run: the same answer up to the kind
of a failure, the same environment, the backend left as it is left, and a cache coherent with the
store `m` the backend then keeps. -/
def Agrees (rc : Outcome α × Store × Env) (t : Outcome α × Tier × Env) (m : MemoryStore) : Prop :=
  Outcome.Same rc.1 t.1 ∧ rc.2.2 = t.2.2 ∧ ∃ c, rc.2.1 = .cached c t.2.1 ∧ c.Valid ∧ Coherent c m

theorem Agrees.map {β : Type} {rc : Outcome α × Store × Env} {t : Outcome α × Tier × Env}
    (h : Agrees rc t m) (k : α → β) : Agrees (rc.1.map k, rc.2) (t.1.map k, t.2) m :=
  ⟨h.1.map k, h.2⟩

/-- An operation the cached store sends to the backend alone agrees with it. -/
theorem agrees_onBackend (hcv : c.Valid) (hc : Coherent c m) (a : Act Tier α) :
    Agrees ((onBackend a).exec (.cached c b) env) (a.exec b env) m :=
  ⟨Outcome.same_refl _, rfl, c, rfl, hcv, hc⟩

/-- Writing through: the backend first and, when it answered, the cache. -/
theorem agrees_writeThrough (hcv : c.Valid) (hv : m.Valid) (hc : Coherent c m) (a : Act Tier Unit)
    (r : Registration) (hok : (a.exec b env).1 = .ok () → m.closed = false ∧ m' = m.insert r)
    (herr : ∀ e, (a.exec b env).1 = .error e → m' = m) :
    Agrees ((do onBackend a; onCache (MemoryStore.save r) : Act Store Unit).exec (.cached c b) env)
      (a.exec b env) m' := by
  rw [exec_bind, exec_onBackend_cached]
  rcases hrun : a.exec b env with ⟨_ | u, b', env'⟩ <;> rw [hrun] at hok herr
  · -- The backend failed: the cache is left alone.
    rw [herr _ rfl]
    exact ⟨Outcome.same_refl _, rfl, c, rfl, hcv, hc⟩
  · -- The backend wrote, so it was open, and so is the cache.
    obtain ⟨hmo, rfl⟩ := hok rfl
    have hco := hc.open hmo
    dsimp only
    rw [exec_onCache_cached, MemoryStore.exec_save, hco, if_neg Bool.false_ne_true]
    exact ⟨rfl, rfl, _, rfl, hcv.insert hco r, hc.insert hcv hv r⟩

/-- Saving agrees with the backend: the cache takes the record once the backend has it. -/
theorem agrees_save (hcv : c.Valid) (hv : m.Valid) (hc : Coherent c m) (r : Registration)
    (hf : Tier.Follows ((Tier.save r).exec b env) ((MemoryStore.save r).exec m env) b env m m') :
    Agrees ((save r).exec (.cached c b) env) ((Tier.save r).exec b env) m' := by
  rw [save, exec_run_cached]
  exact agrees_writeThrough hcv hv hc _ r hf.save.1 hf.save.2

/-- Replacing agrees with the backend: the cache takes the record once the backend has it. -/
theorem agrees_update (hcv : c.Valid) (hv : m.Valid) (hc : Coherent c m) (r : Registration)
    (hf : Tier.Follows ((Tier.update r).exec b env) ((MemoryStore.update r).exec m env) b env m
      m') :
    Agrees ((update r).exec (.cached c b) env) ((Tier.update r).exec b env) m' := by
  rw [update, exec_run_cached]
  exact agrees_writeThrough hcv hv hc _ r hf.update.1 hf.update.2

/-- Changing a record in the backend and reading it back into the cache. -/
theorem agrees_writeRefresh (hcv : c.Valid) (hv : m.Valid) (hc : Coherent c m) (a : Act Tier Unit)
    (id : String)
    (hok : (a.exec b env).1 = .ok () →
      m.closed = false ∧ ∃ x : Registration, x.id = id ∧ m' = m.insert x)
    (herr : ∀ e, (a.exec b env).1 = .error e → m' = m)
    (hm' : (a.exec b env).2.1.Models (a.exec b env).2.2.disk m') :
    Agrees ((do onBackend a; refresh id : Act Store Unit).exec (.cached c b) env) (a.exec b env)
      m' := by
  rw [exec_bind, exec_onBackend_cached]
  rcases hrun : a.exec b env with ⟨_ | u, b', env'⟩ <;> rw [hrun] at hok herr hm'
  · rw [herr _ rfl]
    exact ⟨Outcome.same_refl _, rfl, c, rfl, hcv, hc⟩
  · obtain ⟨hmo, x, rfl, rfl⟩ := hok rfl
    have hco := hc.open hmo
    -- The backend now answers the changed record, and the cache takes it.
    have hget := Tier.exec_get_of_mem hm' (hv.insert hmo x) ((mem_putIn hv.keyed).mpr (.inl rfl))
    dsimp only
    rw [refresh, exec_bind, exec_onBackend_cached, hget]
    dsimp only
    rw [exec_onCache_cached, MemoryStore.exec_save, hco, if_neg Bool.false_ne_true]
    exact ⟨rfl, rfl, _, rfl, hcv.insert hco x, hc.insert hcv hv x⟩

/-- Setting a status agrees with the backend: the cache reads the changed record back. -/
theorem agrees_updateStatus (hcv : c.Valid) (hv : m.Valid) (hc : Coherent c m) (id : String)
    (s : Status)
    (hf : Tier.Follows ((Tier.updateStatus id s).exec b env)
      ((MemoryStore.updateStatus id s).exec m env) b env m m')
    (hm' : ((Tier.updateStatus id s).exec b env).2.1.Models
      ((Tier.updateStatus id s).exec b env).2.2.disk m') :
    Agrees ((updateStatus id s).exec (.cached c b) env) ((Tier.updateStatus id s).exec b env) m' := by
  unfold MemoryStore.updateStatus at hf
  have h := hf.modify hv fun _ => rfl
  rw [updateStatus, exec_run_cached]
  exact agrees_writeRefresh hcv hv hc _ id h.1 h.2 hm'

/-- Setting metrics agrees with the backend: the cache reads the changed record back. -/
theorem agrees_updateMetrics (hcv : c.Valid) (hv : m.Valid) (hc : Coherent c m) (id : String)
    (mt : Metrics)
    (hf : Tier.Follows ((Tier.updateMetrics id mt).exec b env)
      ((MemoryStore.updateMetrics id mt).exec m env) b env m m')
    (hm' : ((Tier.updateMetrics id mt).exec b env).2.1.Models
      ((Tier.updateMetrics id mt).exec b env).2.2.disk m') :
    Agrees ((updateMetrics id mt).exec (.cached c b) env) ((Tier.updateMetrics id mt).exec b env)
      m' := by
  unfold MemoryStore.updateMetrics at hf
  have h := hf.modify hv fun _ => rfl
  rw [updateMetrics, exec_run_cached]
  exact agrees_writeRefresh hcv hv hc _ id h.1 h.2 hm'

/-- Removing agrees with the backend: the cache drops the id whether or not the backend could. -/
theorem agrees_delete (hcv : c.Valid) (hv : m.Valid) (hc : Coherent c m) (id : String)
    (hf : Tier.Follows ((Tier.delete id).exec b env) ((MemoryStore.delete id).exec m env) b env m
      m') :
    Agrees ((delete id).exec (.cached c b) env) ((Tier.delete id).exec b env) m' := by
  rw [delete, exec_run_cached, exec_bind, exec_onBackend_cached, exec_attempt]
  dsimp only
  rw [exec_bind, exec_onCache_cached, MemoryStore.exec_evict]
  dsimp only
  rw [exec_ofOutcome]
  exact ⟨Outcome.same_refl _, rfl, _, rfl, hcv.erase id, hc.erase hcv hv id hf.delete⟩

/-- Reading agrees with the backend: a record the cache holds is the backend's, a closed cache
fails as the closed backend does, and a miss goes to the backend and keeps what it answers. -/
theorem agrees_get (hb : b.Models env.disk m) (hv : m.Valid) (hcv : c.Valid) (hc : Coherent c m)
    (id : String) (hok : ∀ y, ((Tier.get id).exec b env).1 = .ok y → y ∈ m.records) :
    Agrees ((get id).exec (.cached c b) env) ((Tier.get id).exec b env) m := by
  rw [get, exec_run_cached, exec_bind, exec_onCache_cached, exec_attempt, MemoryStore.exec_get]
  cases hcc : c.closed with
  | true =>
    obtain ⟨e, hrun, hkind⟩ := Tier.exec_get_of_closed hb (hc.1 hcc) id
    rw [hrun]
    exact ⟨hkind.symm, rfl, c, rfl, hcv, hc⟩
  | false =>
    rw [if_neg Bool.false_ne_true]
    cases hfind : MemoryStore.findIn id c.records with
    | some x =>
      obtain ⟨hx, rfl⟩ := (findIn_eq_some_iff hcv.keyed).mp hfind
      rw [Tier.exec_get_of_mem hb hv (hc.2 x hx)]
      exact ⟨rfl, rfl, c, rfl, hcv, hc⟩
    | none =>
      dsimp only
      rw [if_pos (show (Error.notFound id).isNotFound = true from rfl), exec_bind,
        exec_onBackend_cached]
      rcases hrun : (Tier.get id).exec b env with ⟨_ | y, b', env'⟩
      · exact ⟨Outcome.same_refl _, rfl, c, rfl, hcv, hc⟩
      · have hy : y ∈ m.records := hok y (by rw [hrun])
        dsimp only
        rw [exec_bind, exec_onCache_cached, MemoryStore.exec_save, hcc, if_neg Bool.false_ne_true]
        exact ⟨rfl, rfl, _, rfl, hcv.insert hcc y, hc.insert_mem hcv hy⟩

/-- Closing agrees with the backend: the cache closes empty, and so does the store it follows. -/
theorem agrees_close (hm' : m'.closed = true) :
    Agrees (close.exec (.cached c b) env) (Tier.close.exec b env) m' := by
  rw [close, exec_run_cached, exec_bind, exec_onCache_cached, MemoryStore.exec_close]
  exact ⟨Outcome.same_refl _, rfl, _, rfl, MemoryStore.valid_closed,
    MemoryStore.coherent_closed hm'⟩

/-- The health check agrees with the backend: a closed cache says no, as its closed backend does. -/
theorem agrees_healthCheck (hb : b.Models env.disk m) (hcv : c.Valid) (hc : Coherent c m) :
    Agrees (healthCheck.exec (.cached c b) env) (Tier.healthCheck.exec b env) m := by
  rw [healthCheck, exec_run_cached, exec_bind, exec_onCache_cached, MemoryStore.exec_healthCheck]
  cases hcc : c.closed with
  | false => exact agrees_onBackend hcv hc _
  | true =>
    rw [Tier.exec_healthCheck_of_closed hb (hc.1 hcc)]
    exact ⟨rfl, rfl, c, rfl, hcv, hc⟩

/-- Each call of the cached store agrees with the backend's own run of it, towards the store the
backend keeps next. -/
theorem cached_call (hb : b.Models env.disk m) (hv : m.Valid) (hcv : c.Valid) (hc : Coherent c m)
    (k : StoreCall) (hkeep : b.TakesCall k → b.Keeps ((MemoryStore.ops.call k).exec m env).2.1) :
    Agrees ((Store.ops.call k).exec (.cached c b) env) ((Tier.ops.call k).exec b env)
      (b.next k m env) := by
  -- A call that names an id runs on the backend as `Follows` says; the others read, or close.
  have hf := fun hids => Tier.follows_call hb k hids hkeep
  have hm' := Tier.models_next hb k hkeep
  cases k with
  | save r =>
    have hf := hf (List.cons_ne_nil _ _)
    simp only [StoreOps.call, Store.ops, Tier.ops, MemoryStore.ops, exec_map] at hf ⊢
    exact (agrees_save hcv hv hc r (hf.of_map fun _ _ _ => rfl)).map _
  | update r =>
    have hf := hf (List.cons_ne_nil _ _)
    simp only [StoreOps.call, Store.ops, Tier.ops, MemoryStore.ops, exec_map] at hf ⊢
    exact (agrees_update hcv hv hc r (hf.of_map fun _ _ _ => rfl)).map _
  | delete id =>
    have hf := hf (List.cons_ne_nil _ _)
    simp only [StoreOps.call, Store.ops, Tier.ops, MemoryStore.ops, exec_map] at hf ⊢
    exact (agrees_delete hcv hv hc id (hf.of_map fun _ _ _ => rfl)).map _
  | updateStatus id st =>
    have hf := hf (List.cons_ne_nil _ _)
    simp only [StoreOps.call, Store.ops, Tier.ops, MemoryStore.ops, exec_map] at hf hm' ⊢
    exact (agrees_updateStatus hcv hv hc id st (hf.of_map fun _ _ _ => rfl) hm').map _
  | updateMetrics id mt =>
    have hf := hf (List.cons_ne_nil _ _)
    simp only [StoreOps.call, Store.ops, Tier.ops, MemoryStore.ops, exec_map] at hf hm' ⊢
    exact (agrees_updateMetrics hcv hv hc id mt (hf.of_map fun _ _ _ => rfl) hm').map _
  | get id =>
    have hf := hf (List.cons_ne_nil _ _)
    rw [Tier.next_of_reads rfl]
    simp only [StoreOps.call, Store.ops, Tier.ops, MemoryStore.ops, exec_map] at hf ⊢
    refine (agrees_get hb hv hcv hc id fun y hy => ?_).map _
    -- The backend answered as the memory store does: with a record it holds.
    have hr := ((hf.of_map fun _ _ h => StoreReply.one.inj h).ok_run hy).1
    cases hmc : m.closed
    · rw [MemoryStore.exec_get, hmc, if_neg Bool.false_ne_true] at hr
      cases hfind : MemoryStore.findIn id m.records with
      | none =>
        rw [hfind] at hr
        cases hr
      | some z =>
        rw [hfind] at hr
        cases hr
        exact ((findIn_eq_some_iff hv.keyed).mp hfind).1
    · rw [MemoryStore.exec_get, hmc, if_pos rfl] at hr
      cases hr
  -- The listings and the count go to the backend alone, and leave its store as it is.
  | list flt =>
    rw [Tier.next_of_reads rfl]
    simp only [StoreOps.call, Store.ops, Tier.ops, exec_map, list]
    exact (agrees_onBackend hcv hc _).map _
  | getByEndpoint e =>
    rw [Tier.next_of_reads rfl]
    simp only [StoreOps.call, Store.ops, Tier.ops, exec_map, getByEndpoint]
    exact (agrees_onBackend hcv hc _).map _
  | search q flt =>
    rw [Tier.next_of_reads rfl]
    simp only [StoreOps.call, Store.ops, Tier.ops, exec_map, search]
    exact (agrees_onBackend hcv hc _).map _
  | count =>
    rw [Tier.next_of_reads rfl]
    simp only [StoreOps.call, Store.ops, Tier.ops, exec_map, count]
    exact (agrees_onBackend hcv hc _).map _
  | close =>
    have hnext : b.next .close m env = { records := [], closed := true } :=
      Tier.next_of_takesCall (Tier.takesCall_of_ids_nil rfl)
    simp only [StoreOps.call, Store.ops, Tier.ops, exec_map]
    rw [hnext]
    exact (agrees_close rfl).map _
  | healthCheck =>
    rw [Tier.next_of_reads rfl]
    simp only [StoreOps.call, Store.ops, Tier.ops, exec_map]
    exact (agrees_healthCheck hb hcv hc).map _

/-- Along a run, the cached store stays coherent and answers as its backend alone does. The
induction carries the store the backend keeps, valid, with a coherent cache in front. -/
theorem cached_run (calls : List StoreCall) {c m : MemoryStore} {b : Tier} {env : Env}
    (hb : b.Models env.disk m) (hv : m.Valid) (hcv : c.Valid) (hc : Coherent c m)
    (hrb : b.ReadableAlong calls m env) :
    Store.ops.Along CacheAgrees calls (.cached c b) env ∧
      List.Forall₂ Outcome.Same (Store.ops.answers calls (.cached c b) env)
        (Store.ops.answers calls (.single b) env) := by
  induction calls generalizing c m b env with
  | nil => exact ⟨trivial, .nil⟩
  | cons k ks ih =>
    have hrb' := hrb.cons
    have hkeep : b.TakesCall k → b.Keeps ((MemoryStore.ops.call k).exec m env).2.1 :=
      fun ht => (hrb'.1 ht).1
    obtain ⟨halike, htaken, hrefused⟩ := Tier.step hb k hkeep
    obtain ⟨hs, henv, c', hst, hcv', hc'⟩ := cached_call hb hv hcv hc k hkeep
    have hb' := Tier.models_next hb k hkeep
    have hv' := Tier.valid_next hv b k env
    -- The rest of the run stays readable from where the backend is left.
    have hrb'' : ((Tier.ops.call k).exec b env).2.1.ReadableAlong ks (b.next k m env)
        ((Tier.ops.call k).exec b env).2.2 := by
      by_cases ht : b.TakesCall k
      · rw [Tier.next_of_takesCall ht]
        exact (hrb'.1 ht).2 _ _ halike (htaken ht).2.1
      · obtain ⟨e, he⟩ := hrefused ht
        rw [Tier.next_of_not_takesCall ht, he]
        exact hrb'.2 ht b (Tier.Alike.refl b)
    obtain ⟨halong, hanswers⟩ := ih hb' hv' hcv' hc' hrb''
    rw [StoreOps.along_cons, StoreOps.answers_cons, StoreOps.answers_cons, exec_call_single, hst,
      henv]
    exact ⟨⟨cacheAgrees_of_coherent hb' hv' hc', halong⟩, .cons hs hanswers⟩

/-- A read of an id the cache holds is answered from the cache, whatever the backend. -/
theorem exec_get_of_cached (hcc : c.closed = false) {id : String} {x : Registration}
    (hx : c.find? id = some x) : (get id).exec (.cached c b) env = (.ok x, .cached c b, env) := by
  rw [get, exec_run_cached, exec_bind, exec_onCache_cached, exec_attempt, MemoryStore.exec_get,
    hcc, if_neg Bool.false_ne_true, ← MemoryStore.find?_eq, hx]
  rfl

/-- A cache in front of a tier is coherent with it and cannot be seen. Starting empty in front of
a tier that keeps a valid memory store, along any run of calls (when the tier is a file store, the
records it comes to keep read back): after every call each record in the cache is the one the
backend answers for its id; every call answers as it would on the backend alone, up to the kind of
a failure; and a read of an id in an open cache is answered from the cache, whatever the backend
is. -/
theorem cache_refines_backend (b : Tier) (m : MemoryStore) (env : Env) (calls : List StoreCall)
    (hb : b.Models env.disk m) (hv : m.Valid) (hrb : b.ReadableAlong calls m env) :
    Store.ops.Along CacheAgrees calls (.cached {} b) env ∧
      List.Forall₂ Outcome.Same (Store.ops.answers calls (.cached {} b) env)
        (Store.ops.answers calls (.single b) env) ∧
      ∀ (c : MemoryStore) (b' : Tier) (env' : Env) (id : String) (x : Registration),
        c.closed = false → c.find? id = some x →
          (get id).exec (.cached c b') env' = (.ok x, .cached c b', env') := by
  obtain ⟨halong, hanswers⟩ :=
    cached_run calls hb hv MemoryStore.valid_empty (MemoryStore.coherent_empty m) hrb
  exact ⟨halong, hanswers, fun c b' env' id x hcc hx => exec_get_of_cached hcc hx⟩

/-- An empty cache in front of an empty memory tier, saving a registration and reading it back
from the cache. -/
theorem cache_refines_memory_backend :
    (Tier.memory {}).Models ({} : Env).disk {} ∧ MemoryStore.Valid {} ∧
      (Tier.memory {}).ReadableAlong [.save (.create "p" "P" "1.0" ⟨0, 0⟩), .get "p"] {} {} ∧
      Store.ops.Along CacheAgrees [.save (.create "p" "P" "1.0" ⟨0, 0⟩), .get "p"]
        (.cached {} (.memory {})) {} ∧
      List.Forall₂ Outcome.Same
        (Store.ops.answers [.save (.create "p" "P" "1.0" ⟨0, 0⟩), .get "p"]
          (.cached {} (.memory {})) {})
        (Store.ops.answers [.save (.create "p" "P" "1.0" ⟨0, 0⟩), .get "p"]
          (.single (.memory {})) {}) ∧
      ∀ (c : MemoryStore) (b' : Tier) (env' : Env) (id : String) (x : Registration),
        c.closed = false → c.find? id = some x →
          (get id).exec (.cached c b') env' = (.ok x, .cached c b', env') :=
  ⟨rfl, MemoryStore.valid_empty, trivial,
    cache_refines_backend (.memory {}) {} {} _ rfl MemoryStore.valid_empty trivial⟩

end Store

end Plugboard
