import Mathlib.Data.String.Basic
import Mathlib.Data.List.Nodup
import Plugboard.Store.Memory
import Plugboard.Proofs.Exec
/-!
# The memory store, record by record

A memory store and the registry's own map keep their records in increasing order of id, so no
id is there twice: `Keyed`. Putting a record in, taking an id out and looking an id up are then
described by membership alone, and two keyed lists with the same members are the same list.

Selecting with a filter depends only on which records are given, not on their order, as long as
no id is given twice; this is why a store may list its records in any order it finds them.

Each operation of the memory store is then described by one equation for its run.
-/

namespace Plugboard

namespace MemoryStore

/-- Records in increasing order of id. -/
def Keyed (rs : List Registration) : Prop := rs.Pairwise fun a b => a.id < b.id

variable {rs : List Registration} {r x : Registration} {id : String}

theorem Keyed.nodup_ids (hk : Keyed rs) : (rs.map (·.id)).Nodup := by
  rw [List.Nodup, List.pairwise_map]
  exact hk.imp ne_of_lt

theorem Keyed.id_inj (hk : Keyed rs) (hx : x ∈ rs) (hr : r ∈ rs) (h : x.id = r.id) : x = r :=
  List.inj_on_of_nodup_map hk.nodup_ids hx hr h

/-- Two keyed lists with the same records are equal. -/
theorem Keyed.ext {rs' : List Registration} (hk : Keyed rs) (hk' : Keyed rs')
    (h : ∀ x, x ∈ rs ↔ x ∈ rs') : rs = rs' := by
  have hnd : ∀ {l : List Registration}, Keyed l → l.Nodup :=
    fun hl => hl.imp fun h he => ne_of_lt h (congrArg Registration.id he)
  refine List.Perm.eq_of_pairwise ?_
    (show List.Pairwise (fun a b : Registration => a.id < b.id) rs from hk) hk' ?_
  · intro a b _ _ hab hba
    exact absurd (hab.trans hba) (lt_irrefl _)
  · exact (List.perm_ext_iff_of_nodup (hnd hk) (hnd hk')).2 h

theorem findIn_eq_some_iff (hk : Keyed rs) : findIn id rs = some r ↔ r ∈ rs ∧ r.id = id := by
  induction rs with
  | nil => simp [findIn]
  | cons y ys ih =>
    have hy : ∀ z ∈ ys, y.id < z.id := (List.pairwise_cons.1 hk).1
    simp only [findIn]
    split
    · rename_i hyid
      constructor
      · rintro ⟨⟩
        exact ⟨List.mem_cons_self, hyid⟩
      · rintro ⟨hr, rfl⟩
        rcases List.mem_cons.1 hr with rfl | hr
        · rfl
        · exact absurd hyid (ne_of_lt (hy r hr))
    · rename_i hyid
      rw [ih (List.pairwise_cons.1 hk).2, List.mem_cons]
      constructor
      · rintro ⟨hr, h⟩
        exact ⟨.inr hr, h⟩
      · rintro ⟨rfl | hr, h⟩
        · exact absurd h hyid
        · exact ⟨hr, h⟩

theorem findIn_eq_none_iff : findIn id rs = none ↔ ∀ x ∈ rs, x.id ≠ id := by
  induction rs with
  | nil => simp [findIn]
  | cons y ys ih =>
    simp only [findIn, List.mem_cons, forall_eq_or_imp]
    split <;> simp_all

theorem mem_putIn (hk : Keyed rs) : x ∈ putIn r rs ↔ x = r ∨ (x ∈ rs ∧ x.id ≠ r.id) := by
  induction rs with
  | nil => simp [putIn]
  | cons y ys ih =>
    have hy : ∀ z ∈ ys, y.id < z.id := (List.pairwise_cons.1 hk).1
    simp only [putIn]
    split
    · rename_i heq
      simp only [List.mem_cons]
      constructor
      · rintro (rfl | hx)
        · exact .inl rfl
        · exact .inr ⟨.inr hx, heq ▸ (ne_of_lt (hy x hx)).symm⟩
      · rintro (rfl | ⟨rfl | hx, hne⟩)
        · exact .inl rfl
        · exact absurd heq.symm hne
        · exact .inr hx
    · split
      · rename_i _ hlt
        simp only [List.mem_cons]
        constructor
        · rintro (rfl | rfl | hx)
          · exact .inl rfl
          · exact .inr ⟨.inl rfl, (ne_of_lt hlt).symm⟩
          · exact .inr ⟨.inr hx, (ne_of_lt (hlt.trans (hy x hx))).symm⟩
        · rintro (rfl | ⟨rfl | hx, _⟩)
          · exact .inl rfl
          · exact .inr (.inl rfl)
          · exact .inr (.inr hx)
      · rename_i hne _
        rw [List.mem_cons, ih (List.pairwise_cons.1 hk).2, List.mem_cons]
        constructor
        · rintro (hx | hx | ⟨hx, hxr⟩)
          · exact .inr ⟨.inl hx, hx ▸ Ne.symm hne⟩
          · exact .inl hx
          · exact .inr ⟨.inr hx, hxr⟩
        · rintro (hx | ⟨hx | hx, hxr⟩)
          · exact .inr (.inl hx)
          · exact .inl hx
          · exact .inr (.inr ⟨hx, hxr⟩)

theorem keyed_putIn (hk : Keyed rs) : Keyed (putIn r rs) := by
  induction rs with
  | nil => simp [putIn, Keyed]
  | cons y ys ih =>
    have hy : ∀ z ∈ ys, y.id < z.id := (List.pairwise_cons.1 hk).1
    have hys : Keyed ys := (List.pairwise_cons.1 hk).2
    simp only [putIn]
    split
    · rename_i heq
      exact List.pairwise_cons.2 ⟨fun z hz => heq ▸ hy z hz, hys⟩
    · split
      · rename_i _ hlt
        refine List.pairwise_cons.2 ⟨?_, hk⟩
        intro z hz
        rcases List.mem_cons.1 hz with rfl | hz
        · exact hlt
        · exact hlt.trans (hy z hz)
      · rename_i hne hnlt
        have hlt : y.id < r.id := lt_of_le_of_ne (not_lt.1 hnlt) (Ne.symm hne)
        refine List.pairwise_cons.2 ⟨?_, ih hys⟩
        intro z hz
        rcases (mem_putIn hys).1 hz with rfl | ⟨hz, _⟩
        · exact hlt
        · exact hy z hz

theorem mem_removeFrom (hk : Keyed rs) : x ∈ removeFrom id rs ↔ x ∈ rs ∧ x.id ≠ id := by
  induction rs with
  | nil => simp [removeFrom]
  | cons y ys ih =>
    have hy : ∀ z ∈ ys, y.id < z.id := (List.pairwise_cons.1 hk).1
    simp only [removeFrom]
    split
    · rename_i heq
      constructor
      · intro hx
        exact ⟨List.mem_cons_of_mem _ hx, heq ▸ (ne_of_lt (hy x hx)).symm⟩
      · rintro ⟨hx, hne⟩
        rcases List.mem_cons.1 hx with rfl | hx
        · exact absurd heq hne
        · exact hx
    · rw [List.mem_cons, List.mem_cons, ih (List.pairwise_cons.1 hk).2]
      constructor
      · rintro (rfl | ⟨hx, hne⟩)
        · exact ⟨.inl rfl, by assumption⟩
        · exact ⟨.inr hx, hne⟩
      · rintro ⟨rfl | hx, hne⟩
        · exact .inl rfl
        · exact .inr ⟨hx, hne⟩

/-- Taking out an id that no record has leaves the records as they are. -/
theorem removeFrom_of_findIn (hn : findIn id rs = none) : removeFrom id rs = rs := by
  induction rs with
  | nil => rfl
  | cons y ys ih =>
    simp only [findIn] at hn
    simp only [removeFrom]
    split at hn
    · cases hn
    · rename_i hne
      rw [if_neg hne, ih hn]

theorem keyed_removeFrom (hk : Keyed rs) : Keyed (removeFrom id rs) :=
  hk.sublist (by
    induction rs with
    | nil => exact List.Sublist.refl _
    | cons y ys ih =>
      simp only [removeFrom]
      split
      · exact List.sublist_cons_self _ _
      · exact (ih (List.pairwise_cons.1 hk).2).cons_cons _)

theorem findIn_putIn (hk : Keyed rs) :
    findIn id (putIn r rs) = if r.id = id then some r else findIn id rs := by
  split
  · rename_i h
    exact (findIn_eq_some_iff (keyed_putIn hk)).2 ⟨(mem_putIn hk).2 (.inl rfl), h⟩
  · rename_i h
    cases hf : findIn id rs with
    | none =>
      refine findIn_eq_none_iff.2 fun x hx => ?_
      rcases (mem_putIn hk).1 hx with rfl | ⟨hx, _⟩
      · exact h
      · exact findIn_eq_none_iff.1 hf x hx
    | some p =>
      obtain ⟨hp, rfl⟩ := (findIn_eq_some_iff hk).1 hf
      exact (findIn_eq_some_iff (keyed_putIn hk)).2 ⟨(mem_putIn hk).2 (.inr ⟨hp, Ne.symm h⟩), rfl⟩

theorem findIn_removeFrom (hk : Keyed rs) {id' : String} :
    findIn id' (removeFrom id rs) = if id = id' then none else findIn id' rs := by
  split
  · rename_i h
    exact findIn_eq_none_iff.2 fun x hx => h ▸ ((mem_removeFrom hk).1 hx).2
  · rename_i h
    cases hf : findIn id' rs with
    | none => exact findIn_eq_none_iff.2 fun x hx => findIn_eq_none_iff.1 hf x ((mem_removeFrom hk).1 hx).1
    | some p =>
      obtain ⟨hp, rfl⟩ := (findIn_eq_some_iff hk).1 hf
      exact (findIn_eq_some_iff (keyed_removeFrom hk)).2 ⟨(mem_removeFrom hk).2 ⟨hp, Ne.symm h⟩, rfl⟩

/-- Putting back the record an id had undoes putting another record in its place. -/
theorem putIn_putIn_of_findIn (hk : Keyed rs) {p : Registration} (hp : findIn r.id rs = some p) :
    putIn p (putIn r rs) = rs := by
  obtain ⟨hpm, hpid⟩ := (findIn_eq_some_iff hk).1 hp
  refine Keyed.ext (keyed_putIn (keyed_putIn hk)) hk fun x => ?_
  rw [mem_putIn (keyed_putIn hk), mem_putIn hk, hpid]
  constructor
  · rintro (rfl | ⟨rfl | ⟨hx, _⟩, hne⟩)
    · exact hpm
    · exact absurd rfl hne
    · exact hx
  · intro hx
    by_cases h : x.id = r.id
    · exact .inl (hk.id_inj hx hpm (h.trans hpid.symm))
    · exact .inr ⟨.inr ⟨hx, h⟩, h⟩

/-- Taking out an id that was not there before undoes putting a record under it. -/
theorem removeFrom_putIn_of_findIn (hk : Keyed rs) (hn : findIn r.id rs = none) :
    removeFrom r.id (putIn r rs) = rs := by
  refine Keyed.ext (keyed_removeFrom (keyed_putIn hk)) hk fun x => ?_
  rw [mem_removeFrom (keyed_putIn hk), mem_putIn hk]
  constructor
  · rintro ⟨rfl | ⟨hx, _⟩, hne⟩
    · exact absurd rfl hne
    · exact hx
  · intro hx
    have hne : x.id ≠ r.id := findIn_eq_none_iff.1 hn x hx
    exact ⟨.inr ⟨hx, hne⟩, hne⟩

end MemoryStore

-- ---------------------------------------------------------------------------
-- Selecting from records in any order
-- ---------------------------------------------------------------------------

namespace Filter

theorem pairwise_byId (rs : List Registration) :
    (byId rs).Pairwise fun a b => decide (a.id ≤ b.id) = true := by
  unfold byId
  refine List.pairwise_mergeSort ?_ ?_ rs
  · intro a b c hab hbc
    simp only [decide_eq_true_eq] at hab hbc ⊢
    exact le_trans hab hbc
  · intro a b
    simpa using le_total a.id b.id

/-- Ordering by id does not depend on the order records are given in, as long as no id is given
twice. -/
theorem byId_perm {rs rs' : List Registration} (hp : rs.Perm rs') (hn : (rs.map (·.id)).Nodup) :
    byId rs = byId rs' := by
  refine List.Perm.eq_of_pairwise ?_ (pairwise_byId _) (pairwise_byId _) ?_
  · intro a b ha hb hab hba
    simp only [decide_eq_true_eq] at hab hba
    have ha' : a ∈ rs := List.mem_mergeSort.1 ha
    have hb' : b ∈ rs := hp.symm.subset (List.mem_mergeSort.1 hb)
    exact List.inj_on_of_nodup_map hn ha' hb' (le_antisymm hab hba)
  · unfold byId
    exact (List.mergeSort_perm _ _).trans (hp.trans (List.mergeSort_perm _ _).symm)

/-- Keeping some of the records keeps their ids distinct. -/
theorem nodup_ids_filter (p : Registration → Bool) {rs : List Registration}
    (hn : (rs.map (·.id)).Nodup) : ((rs.filter p).map (·.id)).Nodup :=
  (List.filter_sublist.map _).nodup hn

/-- Selection does not depend on the order records are given in, as long as no id is given
twice. -/
theorem select_perm (f : Filter) {rs rs' : List Registration} (hp : rs.Perm rs')
    (hn : (rs.map (·.id)).Nodup) : f.select rs = f.select rs' := by
  unfold select
  rw [byId_perm (hp.filter f.admits) (nodup_ids_filter f.admits hn)]

/-- The empty filter gives keyed records back as they are. -/
theorem select_empty_of_keyed {rs : List Registration} (hk : MemoryStore.Keyed rs) :
    Filter.select {} rs = rs := by
  have hall : rs.filter (Filter.admits {}) = rs := List.filter_eq_self.2 fun _ _ => rfl
  simp only [select, page, hall, Option.getD_none, List.drop_zero, byId]
  exact List.mergeSort_of_pairwise (hk.imp fun h => decide_eq_true (le_of_lt h))

end Filter

-- ---------------------------------------------------------------------------
-- Runs of the operations
-- ---------------------------------------------------------------------------

namespace MemoryStore

open Act

variable {α : Type} (m : MemoryStore) (env : Env)

theorem exec_ensureOpen_bind (f : Unit → Act MemoryStore α) :
    (ensureOpen >>= f).exec m env =
      if m.closed then (.error closedError, m, env) else (f ()).exec m env := by
  simp only [ensureOpen, exec_bind, exec_self, exec_failIf]
  cases m.closed <;> rfl

@[simp] theorem find?_eq (id : String) : m.find? id = findIn id m.records := rfl

theorem exec_save (r : Registration) :
    (save r).exec m env =
      if m.closed then (.error closedError, m, env) else (.ok (), m.insert r, env) := by
  simp only [save, exec_ensureOpen_bind, exec_change]

theorem exec_get (id : String) :
    (get id).exec m env =
      if m.closed then (.error closedError, m, env) else
        match findIn id m.records with
        | some r => (.ok r, m, env)
        | none => (.error (.notFound id), m, env) := by
  simp only [get, exec_ensureOpen_bind, exec_self_bind, find?_eq]
  cases findIn id m.records <;> rfl

theorem exec_delete (id : String) :
    (delete id).exec m env =
      if m.closed then (.error closedError, m, env) else
        match findIn id m.records with
        | some _ => (.ok (), m.erase id, env)
        | none => (.error (.notFound id), m, env) := by
  simp only [delete, exec_ensureOpen_bind, exec_self_bind, find?_eq]
  cases findIn id m.records <;> rfl

@[simp] theorem exec_evict (id : String) : (evict id).exec m env = (.ok (), m.erase id, env) := rfl

theorem exec_list (f : Filter) :
    (list f).exec m env =
      if m.closed then (.error closedError, m, env) else (.ok (f.select m.records), m, env) := by
  simp only [list, exec_ensureOpen_bind, exec_self_bind]
  rfl

theorem exec_update (r : Registration) :
    (update r).exec m env =
      if m.closed then (.error closedError, m, env) else
        match findIn r.id m.records with
        | some _ => (.ok (), m.insert r, env)
        | none => (.error (.notFound r.id), m, env) := by
  simp only [update, exec_ensureOpen_bind, exec_self_bind, find?_eq]
  cases findIn r.id m.records <;> rfl

theorem exec_modify (id : String) (g : Registration → Registration) :
    (modify id g).exec m env =
      if m.closed then (.error closedError, m, env) else
        match findIn id m.records with
        | some r => (.ok (), m.insert { g r with updatedAt := env.clock.now.1 },
            { env with clock := env.clock.now.2 })
        | none => (.error (.notFound id), m, env) := by
  simp only [modify, exec_ensureOpen_bind, exec_self_bind, find?_eq]
  cases findIn id m.records <;> rfl

theorem exec_getByEndpoint (e : String) :
    (getByEndpoint e).exec m env =
      if m.closed then (.error closedError, m, env) else
        match m.records.find? (·.hasEndpoint e) with
        | some r => (.ok r, m, env)
        | none => (.error (noEndpoint e), m, env) := by
  simp only [getByEndpoint, exec_ensureOpen_bind, exec_self_bind]
  cases m.records.find? (·.hasEndpoint e) <;> rfl

theorem exec_search (q : String) (f : Filter) :
    (search q f).exec m env =
      if m.closed then (.error closedError, m, env) else
        (.ok (f.select (m.records.filter (matchesText · q))), m, env) := by
  simp only [search, exec_ensureOpen_bind, exec_self_bind]
  rfl

@[simp] theorem exec_close : close.exec m env = (.ok (), { records := [], closed := true }, env) :=
  rfl

@[simp] theorem exec_healthCheck : healthCheck.exec m env = (.ok !m.closed, m, env) := rfl

theorem exec_count :
    count.exec m env =
      if m.closed then (.error closedError, m, env) else (.ok m.records.length, m, env) := by
  simp only [count, exec_ensureOpen_bind, exec_self_bind]
  rfl

end MemoryStore

end Plugboard
