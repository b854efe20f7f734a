import Plugboard.Proofs.StoreFailure
/-!
# A store answers for the record it has just saved

Installing a plugin saves its registration and, a moment later, sets its status. The status
change reads the record back: a memory store finds it in memory, a file store reads and decodes
the file it has just written, and a cache in front of either asks its backend for the record once
the backend has changed it. This module says what such a change does.

A tier that has just saved a record under an id finds it there again (`Tier.Saved`): a memory
tier holds a record under the id, a file tier has the id's file written in a directory of record
files (`FileStore.Written`). A status change then answers, unless the backend is a file store
whose file for the id holds a text that does not read as a record with that id (`Garbled`), and
no directory keeping the records of a memory store holds such a file (`Tier.Models.not_garbled`).

A tier that is open and can keep a record under an id (`Tier.Accepts`) removes it, or answers that
it has none. Saving, changing a status and removing never make a tier stop accepting an id.
-/

namespace Plugboard

open Act

namespace MemoryStore

/-- A record just put in is found under its id, however the list was ordered. -/
theorem findIn_putIn_self (r : Registration) : ∀ rs, findIn r.id (putIn r rs) = some r
  | [] => by simp [putIn, findIn]
  | x :: xs => by
    unfold putIn
    split
    · simp [findIn]
    · split
      · simp [findIn]
      · rename_i hne _
        simp only [findIn, Ne.symm hne, if_false]
        exact findIn_putIn_self r xs

theorem id_of_findIn {id : String} {x : Registration} :
    ∀ {rs : List Registration}, findIn id rs = some x → x.id = id
  | [], h => by cases h
  | y :: ys, h => by
    unfold findIn at h
    split at h
    · cases h
      assumption
    · exact id_of_findIn h

end MemoryStore

namespace FileStore

variable {f : FileStore} {env : Env} {id t : String} {m : MemoryStore}

/-- The store's directory holds only record files, and the file of `id`, an id the store takes,
holds the text `t`. -/
def Written (f : FileStore) (d : Disk) (id t : String) : Prop :=
  f.Takes id ∧ ∃ here es, d.DirAt f.directory here es ∧ f.Tidy es ∧
    Node.lookup (recordName id) es = some (.file t)

/-- The open store's file for `id` holds a text that does not read as a record with that id. -/
def Garbled (f : FileStore) (d : Disk) (id : String) : Prop :=
  f.closed = false ∧ badId id = false ∧
    ∃ t, d.readFile (PathText.join f.directory (recordName id)) = .ok t ∧
      ∀ r, Registration.readText t = .ok r → r.id ≠ id

/-- Every file of a directory keeping the records of a memory store reads as its own record. -/
theorem Mirrors.not_garbled (hm : f.Mirrors env.disk m) : ¬ f.Garbled env.disk id := by
  rintro ⟨hc, hb, t, hread, hbad⟩
  have hh := hm.2 (hm.1.symm.trans hc)
  obtain ⟨r, hr, hid, rfl⟩ := exists_mem_of_readFile hh hb hread
  obtain ⟨_, _, _, hl⟩ := hh
  exact hbad r (hl.readsBack r hr) hid

theorem Written.readFile (hw : f.Written env.disk id t) :
    env.disk.readFile (PathText.join f.directory (recordName id)) = .ok t := by
  obtain ⟨ht, here, es, hd, hti, hl⟩ := hw
  have hs : Node.step es (recordName id) = .ok (some (.file t)) :=
    Node.step_eq_ok_iff.mpr ⟨recordName_short ht.2, hl⟩
  rw [hd.readFile_join (plain_recordName ht.1) (admits_recordPath hti.noNul ht), hs]
  rfl

/-- Reading a written record decodes its text, and changes nothing. -/
theorem exec_readRecord_of_written (hw : f.Written env.disk id t) :
    (readRecord id).exec f env =
      (decodeAt (PathText.join f.directory (recordName id)) t, f, env) := by
  unfold readRecord
  rw [exec_bind_of_ok (exec_pathFor f env hw.1.1), exec_disk_bind, hw.readFile]
  exact exec_ofOutcome _ _ _

/-- Writing a record into the directory keeps it a directory of record files, writes the
record's own file, and leaves the file of every other id as it was. -/
theorem Written.write (hw : f.Written env.disk id t) {r : Registration} (ht : f.Takes r.id) :
    ∃ d', (writeRecord r).exec f env = (.ok (), f, { env with disk := d' }) ∧
      f.Written d' r.id r.storedText ∧ (r.id ≠ id → f.Written d' id t) := by
  obtain ⟨hti, here, es, hd, hy, hl⟩ := hw
  have hd' := hd.graft hy.lookup_ne_dir
    (Node.setEntry (recordName r.id) (some (.file r.storedText)) es)
  refine ⟨_, exec_writeRecord_of_tidy hd hy ht,
    ⟨ht, here, _, hd', hy.put _ _, Node.lookup_setEntry_self _ _ _⟩, fun hne => ?_⟩
  refine ⟨hti, here, _, hd', hy.put _ _, ?_⟩
  rw [Node.lookup_setEntry_ne fun h => hne (recordName_inj h).symm]
  exact hl

/-- Changing a written record, whose change keeps its id: the store decodes the file and writes
the changed record back. This answers, with the file of the id written again (with the change,
or as it was when its text read as a record with another id); or it fails, having changed
nothing but the clock, on a file whose text does not read as a record with the id. -/
theorem exec_modify_of_written (hw : f.Written env.disk id t) (hc : f.closed = false)
    {g : Registration → Registration} (hg : ∀ r, (g r).id = r.id) :
    (∃ env' t', (modify id g).exec f env = (.ok (), f, env') ∧ f.Written env'.disk id t') ∨
      ∃ e env', (modify id g).exec f env = (.error e, f, env') ∧ env'.disk = env.disk ∧
        f.Garbled env.disk id := by
  unfold modify
  rw [exec_ensureOpen_bind, hc, if_neg Bool.false_ne_true, exec_bind,
    exec_readRecord_of_written hw]
  cases hdec : Registration.readText t with
  | error e =>
    -- Nothing reads from the text: the file is garbled.
    simp only [decodeAt, hdec]
    refine .inr ⟨_, env, rfl, rfl, hc, hw.1.1, t, hw.readFile, fun r hr => ?_⟩
    rw [hdec] at hr
    cases hr
  | ok x =>
    simp only [decodeAt, hdec]
    rw [exec_bind_of_ok (exec_now f env)]
    have hid : ({ g x with updatedAt := env.clock.now.1 } : Registration).id = x.id := hg x
    by_cases htx : f.Takes x.id
    · -- The changed record is written, under the id it read as.
      have hw' : f.Written ({ env with clock := env.clock.now.2 } : Env).disk id t := hw
      obtain ⟨d', hrun, hnew, hold⟩ := hw'.write (r := { g x with updatedAt := env.clock.now.1 })
        (hid ▸ htx)
      by_cases hx : x.id = id
      · rw [hid, hx] at hnew
        exact .inl ⟨_, _, hrun, hnew⟩
      · exact .inl ⟨_, _, hrun, hold (hid ▸ hx)⟩
    · -- A record read under another id, that the store refuses: the text is not the id's.
      have hread := hw.readFile
      obtain ⟨htid, here, es, hd, -, -⟩ := hw
      have hd' : ({ env with clock := env.clock.now.2 } : Env).disk.DirAt f.directory here es := hd
      obtain ⟨e, hrun⟩ := exec_writeRecord_of_not_takes
        (r := { g x with updatedAt := env.clock.now.1 }) hd' (hid ▸ htx)
      refine .inr ⟨e, _, hrun, rfl, hc, htid.1, t, hread, fun r hr hrid => ?_⟩
      rw [hdec] at hr
      cases hr
      exact htx (hrid ▸ htid)

/-- Reading a written record answers, or fails, changing nothing, on a garbled file. -/
theorem exec_get_of_written (hw : f.Written env.disk id t) (hc : f.closed = false) :
    (∃ x, (get id).exec f env = (.ok x, f, env)) ∨
      ∃ e, (get id).exec f env = (.error e, f, env) ∧ f.Garbled env.disk id := by
  rw [get, exec_ensureOpen_bind, hc, if_neg Bool.false_ne_true, exec_readRecord_of_written hw]
  cases hdec : Registration.readText t with
  | error e =>
    simp only [decodeAt, hdec]
    refine .inr ⟨_, rfl, hc, hw.1.1, t, hw.readFile, fun r hr => ?_⟩
    rw [hdec] at hr
    cases hr
  | ok x =>
    simp only [decodeAt, hdec]
    exact .inl ⟨x, rfl⟩

end FileStore

namespace Tier

variable {b b' : Tier} {m : MemoryStore} {env env' : Env} {id : String}

/-- An open tier that can keep a record under an id. -/
def Accepts : Tier → String → Prop
  | .memory m, _ => m.closed = false
  | .file f, id => f.closed = false ∧ f.Takes id

/-- A tier that has saved a record under an id and finds it there again: an open memory tier
holding a record under the id, or an open file tier with the id's file written in a directory of
record files. -/
def Saved : Tier → Disk → String → Prop
  | .memory m, _, id => m.closed = false ∧ (MemoryStore.findIn id m.records).isSome
  | .file f, d, id => f.closed = false ∧ ∃ t, f.Written d id t

/-- A file tier whose file for the id is garbled. -/
def Garbled : Tier → Disk → String → Prop
  | .memory _, _, _ => False
  | .file f, d, id => f.Garbled d id

theorem Models.not_garbled (hb : b.Models env.disk m) (id : String) : ¬ b.Garbled env.disk id := by
  cases b with
  | memory _ => exact fun h => h
  | file f => exact FileStore.Mirrors.not_garbled hb

theorem Saved.accepts {d : Disk} (hs : b.Saved d id) : b.Accepts id := by
  cases b with
  | memory _ => exact hs.1
  | file f =>
    obtain ⟨hc, t, hw⟩ := hs
    exact ⟨hc, hw.1⟩

/-- A save that answered leaves the record saved, and the tier accepting every id it accepted. -/
theorem saved_of_save (hb : b.Models env.disk m) {u : Registration}
    (h : (Tier.save u).exec b env = (.ok (), b', env')) :
    b'.Saved env'.disk u.id ∧ ∀ id, b.Accepts id → b'.Accepts id := by
  cases b with
  | memory m0 =>
    rw [Tier.save, exec_run_memory, MemoryStore.exec_save] at h
    cases hc : m0.closed
    · rw [hc, if_neg Bool.false_ne_true] at h
      dsimp only at h
      cases h
      refine ⟨⟨hc, ?_⟩, fun _ h => h⟩
      show (MemoryStore.findIn u.id (MemoryStore.putIn u m0.records)).isSome = true
      rw [MemoryStore.findIn_putIn_self]
      rfl
    · rw [hc, if_pos rfl] at h
      dsimp only at h
      cases h
  | file f =>
    rw [Tier.save, exec_run_file, FileStore.save, FileStore.exec_ensureOpen_bind] at h
    cases hc : f.closed
    · rw [hc, if_neg Bool.false_ne_true] at h
      obtain ⟨here, es, hd, hl⟩ := hb.2 (hb.1.symm.trans hc)
      by_cases ht : f.Takes u.id
      · rw [FileStore.exec_writeRecord_of_tidy hd hl.tidy ht] at h
        dsimp only at h
        cases h
        exact ⟨⟨hc, _, ht, here, _, hd.graft hl.tidy.lookup_ne_dir _, hl.tidy.put _ _,
          Node.lookup_setEntry_self _ _ _⟩, fun _ h => h⟩
      · obtain ⟨e, he⟩ := FileStore.exec_writeRecord_of_not_takes hd ht
        rw [he] at h
        dsimp only at h
        cases h
    · rw [hc, if_pos rfl] at h
      dsimp only at h
      cases h

/-- A status change of a saved record answers, leaving the record saved and the tier accepting
what it accepted; or it fails on a garbled file, changing nothing but the clock. -/
theorem updateStatus_of_saved (hs : b.Saved env.disk id) (st : Status) :
    (∃ b' env', (Tier.updateStatus id st).exec b env = (.ok (), b', env') ∧
      b'.Saved env'.disk id ∧ ∀ id', b.Accepts id' → b'.Accepts id') ∨
    ∃ e env', (Tier.updateStatus id st).exec b env = (.error e, b, env') ∧
      env'.disk = env.disk ∧ b.Garbled env.disk id := by
  cases b with
  | memory m0 =>
    obtain ⟨hc, hf⟩ := hs
    obtain ⟨x, hx⟩ := Option.isSome_iff_exists.mp hf
    refine .inl ⟨.memory (m0.insert { x with status := st, updatedAt := env.clock.now.1 }),
      { env with clock := env.clock.now.2 }, ?_, ⟨hc, ?_⟩, fun _ h => h⟩
    · rw [Tier.updateStatus, exec_run_memory, MemoryStore.updateStatus, MemoryStore.exec_modify,
        hc, if_neg Bool.false_ne_true, hx]
    · -- The changed record keeps the id it was found under.
      have hxid := MemoryStore.id_of_findIn hx
      have hid : ({ x with status := st, updatedAt := env.clock.now.1 } : Registration).id = id :=
        hxid
      show (MemoryStore.findIn id (MemoryStore.putIn _ m0.records)).isSome = true
      rw [← hid, MemoryStore.findIn_putIn_self]
      rfl
  | file f =>
    obtain ⟨hc, t, hw⟩ := hs
    rw [Tier.updateStatus, exec_run_file, FileStore.updateStatus]
    rcases FileStore.exec_modify_of_written hw hc (g := fun r => { r with status := st })
        fun _ => rfl with ⟨env', t', hrun, hw'⟩ | ⟨e, env', hrun, hdisk, hg⟩
    · rw [hrun]
      exact .inl ⟨_, _, rfl, ⟨hc, t', hw'⟩, fun _ h => h⟩
    · rw [hrun]
      exact .inr ⟨e, env', rfl, hdisk, hg⟩

/-- Reading a saved record answers, or fails on a garbled file; neither changes anything. -/
theorem get_of_saved (hs : b.Saved env.disk id) :
    (∃ x, (Tier.get id).exec b env = (.ok x, b, env)) ∨
      ∃ e, (Tier.get id).exec b env = (.error e, b, env) ∧ b.Garbled env.disk id := by
  cases b with
  | memory m0 =>
    obtain ⟨hc, hf⟩ := hs
    obtain ⟨x, hx⟩ := Option.isSome_iff_exists.mp hf
    refine .inl ⟨x, ?_⟩
    rw [Tier.get, exec_run_memory, MemoryStore.exec_get, hc, if_neg Bool.false_ne_true, hx]
  | file f =>
    obtain ⟨hc, t, hw⟩ := hs
    rw [Tier.get, exec_run_file]
    rcases FileStore.exec_get_of_written hw hc with ⟨x, hrun⟩ | ⟨e, hrun, hg⟩
    · rw [hrun]
      exact .inl ⟨x, rfl⟩
    · rw [hrun]
      exact .inr ⟨e, rfl, hg⟩

/-- A tier keeping the records of a memory store, that accepts an id, removes it or answers that
it has none, and keeps accepting every id it accepted. -/
theorem delete_of_accepts (hb : b.Models env.disk m) (ha : b.Accepts id) :
    ∃ o b' env', (Tier.delete id).exec b env = (o, b', env') ∧
      (o = .ok () ∨ o = .error (.notFound id)) ∧ ∀ id', b.Accepts id' → b'.Accepts id' := by
  cases b with
  | memory m0 =>
    rw [Tier.delete, exec_run_memory, MemoryStore.exec_delete, show m0.closed = false from ha,
      if_neg Bool.false_ne_true]
    split
    · exact ⟨_, _, _, rfl, .inl rfl, fun _ h => h⟩
    · exact ⟨_, _, _, rfl, .inr rfl, fun _ h => h⟩
  | file f =>
    obtain ⟨hc, ht⟩ := ha
    have hh := hb.2 (hb.1.symm.trans hc)
    rw [Tier.delete, exec_run_file]
    cases hf : MemoryStore.findIn id m.records with
    | some r =>
      obtain ⟨d', hrun, -⟩ := FileStore.exec_delete_of_mem hh hc ht hf
      rw [hrun]
      exact ⟨_, _, _, rfl, .inl rfl, fun _ h => h⟩
    | none =>
      rw [FileStore.exec_delete_of_not_mem hh hc ht hf]
      exact ⟨_, _, _, rfl, .inr rfl, fun _ h => h⟩

/-- A removal, whatever it answers, leaves a tier accepting every id it accepted: a memory tier
stays open, and a file store is not changed by removing a file. -/
theorem accepts_delete (hb : b.Models env.disk m) (id : String) {id' : String} (ha : b.Accepts id') :
    ((Tier.delete id).exec b env).2.1.Accepts id' := by
  cases b with
  | memory m0 =>
    have hc : m0.closed = false := ha
    rw [Tier.delete, exec_run_memory, MemoryStore.exec_delete, hc, if_neg Bool.false_ne_true]
    split
    · exact hc
    · exact hc
  | file f =>
    have hh := hb.2 (hb.1.symm.trans ha.1)
    rw [Tier.delete, exec_run_file]
    by_cases ht : f.Takes id
    · cases hf : MemoryStore.findIn id m.records with
      | some r =>
        obtain ⟨d', hrun, -⟩ := FileStore.exec_delete_of_mem hh ha.1 ht hf
        rw [hrun]
        exact ha
      | none =>
        rw [FileStore.exec_delete_of_not_mem hh ha.1 ht hf]
        exact ha
    · obtain ⟨e, hrun⟩ := FileStore.exec_delete_of_not_takes hh ht
      rw [hrun]
      exact ha

end Tier

namespace Store

variable {s s' : Store} {m : MemoryStore} {env env' : Env} {id : String}

/-- A store that has saved a record under an id: its backend has, and its cache is open. -/
def Saved (s : Store) (d : Disk) (id : String) : Prop := s.backend.Saved d id ∧ s.cache.closed = false

/-- A save that answered leaves the record saved, and the backend accepting every id it
accepted. -/
theorem saved_of_save (hs : s.Models env.disk m) {u : Registration}
    (h : (Store.save u).exec s env = (.ok (), s', env')) :
    s'.Saved env'.disk u.id ∧ ∀ id, s.backend.Accepts id → s'.backend.Accepts id := by
  cases s with
  | single b =>
    rw [Store.save, exec_run_single] at h
    rcases hrun : (Tier.save u).exec b env with ⟨o, b', env1⟩
    rw [hrun] at h
    dsimp only at h
    cases h
    obtain ⟨hsaved, hacc⟩ := Tier.saved_of_save hs hrun
    exact ⟨⟨hsaved, rfl⟩, hacc⟩
  | cached c b =>
    rw [Store.save, exec_run_cached, exec_bind, exec_onBackend_cached] at h
    rcases hrun : (Tier.save u).exec b env with ⟨_ | o, b', env1⟩ <;> rw [hrun] at h <;>
      dsimp only at h
    · cases h
    obtain ⟨hsaved, hacc⟩ := Tier.saved_of_save hs.1 hrun
    rw [exec_onCache_cached, MemoryStore.exec_save] at h
    cases hc : c.closed
    · rw [hc, if_neg Bool.false_ne_true] at h
      dsimp only at h
      cases h
      exact ⟨⟨hsaved, hc⟩, hacc⟩
    · rw [hc, if_pos rfl] at h
      dsimp only at h
      cases h

/-- A status change of a saved record answers, leaving the backend accepting what it accepted,
or fails with the backend's file for the id garbled. -/
theorem updateStatus_of_saved (hs : s.Saved env.disk id) (st : Status) :
    (∃ s' env', (Store.updateStatus id st).exec s env = (.ok (), s', env') ∧
      ∀ id', s.backend.Accepts id' → s'.backend.Accepts id') ∨
    ∃ e s' env', (Store.updateStatus id st).exec s env = (.error e, s', env') ∧
      s'.backend.Garbled env'.disk id := by
  cases s with
  | single b =>
    have hb : b.Saved env.disk id := hs.1
    rw [Store.updateStatus, exec_run_single]
    rcases Tier.updateStatus_of_saved hb st with ⟨b', env', hrun, -, hacc⟩ |
      ⟨e, env', hrun, hdisk, hg⟩
    · rw [hrun]
      exact .inl ⟨.single b', env', rfl, hacc⟩
    · rw [hrun]
      refine .inr ⟨e, .single b, env', rfl, ?_⟩
      rw [hdisk]
      exact hg
  | cached c b =>
    have hb : b.Saved env.disk id := hs.1
    have hc : c.closed = false := hs.2
    rw [Store.updateStatus, exec_run_cached, exec_bind, exec_onBackend_cached]
    rcases Tier.updateStatus_of_saved hb st with ⟨b', env1, hrun, hsaved, hacc⟩ |
      ⟨e, env1, hrun, hdisk, hg⟩
    · rw [hrun]
      dsimp only
      -- The refresh reads the record back from the backend into the open cache.
      rw [Store.refresh, exec_bind, exec_onBackend_cached]
      rcases Tier.get_of_saved hsaved with ⟨x, hget⟩ | ⟨e, hget, hg⟩
      · rw [hget]
        dsimp only
        rw [exec_onCache_cached, MemoryStore.exec_save, hc, if_neg Bool.false_ne_true]
        exact .inl ⟨_, _, rfl, hacc⟩
      · rw [hget]
        exact .inr ⟨e, .cached c b', env1, rfl, hg⟩
    · rw [hrun]
      refine .inr ⟨e, .cached c b, env1, rfl, ?_⟩
      rw [hdisk]
      exact hg

/-- A store keeping the records of a memory store, whose backend accepts an id, removes it or
answers that it has none, and its backend keeps accepting every id it accepted. -/
theorem delete_of_accepts (hs : s.Models env.disk m) (ha : s.backend.Accepts id) :
    ∃ o s' env', (Store.delete id).exec s env = (o, s', env') ∧
      (o = .ok () ∨ o = .error (.notFound id)) ∧
      ∀ id', s.backend.Accepts id' → s'.backend.Accepts id' := by
  cases s with
  | single b =>
    have ha : b.Accepts id := ha
    obtain ⟨o, b', env1, hrun, ho, hacc⟩ := Tier.delete_of_accepts hs ha
    rw [Store.delete, exec_run_single, hrun]
    exact ⟨o, _, _, rfl, ho, hacc⟩
  | cached c b =>
    have ha : b.Accepts id := ha
    obtain ⟨o, b', env1, hrun, ho, hacc⟩ := Tier.delete_of_accepts hs.1 ha
    rw [Store.delete, exec_run_cached, exec_bind, exec_onBackend_cached, exec_attempt, hrun]
    dsimp only
    rw [exec_bind, exec_onCache_cached, MemoryStore.exec_evict]
    dsimp only
    rw [exec_ofOutcome]
    exact ⟨o, _, _, rfl, ho, hacc⟩

/-- A removal, whatever it answers, leaves the backend accepting every id it accepted. -/
theorem accepts_delete (hs : s.Models env.disk m) (id : String) {id' : String}
    (ha : s.backend.Accepts id') : ((Store.delete id).exec s env).2.1.backend.Accepts id' := by
  cases s with
  | single b =>
    have ha : b.Accepts id' := ha
    rw [Store.delete, exec_run_single]
    exact Tier.accepts_delete hs id ha
  | cached c b =>
    have ha : b.Accepts id' := ha
    have hacc := Tier.accepts_delete hs.1 id ha
    rcases hrun : (Tier.delete id).exec b env with ⟨o, b', env1⟩
    rw [hrun] at hacc
    rw [Store.delete, exec_run_cached, exec_bind, exec_onBackend_cached, exec_attempt, hrun]
    dsimp only
    rw [exec_bind, exec_onCache_cached, MemoryStore.exec_evict]
    dsimp only
    rw [exec_ofOutcome]
    exact hacc

/-- A store keeping the records of a memory store has no garbled file. -/
theorem Models.not_garbled (hs : s.Models env.disk m) (id : String) :
    ¬ s.backend.Garbled env.disk id := by
  cases s with
  | single b => exact Tier.Models.not_garbled hs id
  | cached c b => exact Tier.Models.not_garbled hs.1 id

end Store

end Plugboard
