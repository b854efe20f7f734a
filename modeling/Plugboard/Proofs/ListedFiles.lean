import Plugboard.Proofs.HubSteps
import Plugboard.Proofs.Pages
/-!
# What a file store lists it can fetch and delete

A file store lists whatever its directory holds that reads as a registration, trusting the id
written inside each file, while it fetches, rewrites and deletes an id at the file named after
it. The two agree when each record the directory holds is filed under its own id (`Filed`), as
the store's own writes leave it; the directory may hold anything else besides: other files,
files that do not decode, subdirectories.

Over such a directory every listed record is fetched by its id (`Filed.get_of_listed`), and a
delete that answers removes exactly the records listed under its id and leaves the directory
filed (`Filed.remove`, `Filed.readable_remove`). So a registry that loads the store restores the
listed records, can unregister each of them for good, and can write each back whose files fit
(`Registry.exec_load_of_filed`, `Registry.exec_unregister_of_filed`,
`Registry.changeable_of_filed`); `Filed.every_listed_record_is_served` puts these together as
`Serves`.

A directory that files a record under another id breaks this: a file `a.json` holding id `b` is
listed as `b`, which cannot be fetched, and two files holding one id outlive the delete of that
id (`foreign_file_listed_not_fetched`).
-/

namespace Plugboard

open Act

namespace FileStore

/-- The records that the entries of a directory read as, in the order of their names. -/
def readable (f : FileStore) (d : Disk) (names : List String) : List Registration :=
  names.filterMap fun n => entryRecord d (PathText.join f.directory n)

/-- The directory of a store files each record under its own id: the directory is there, its
entries have names a directory can hold, sorted with none twice, and each entry that reads and
decodes as a registration is the file the store keeps that registration's id in. -/
structure Filed (f : FileStore) (d : Disk) (here : List String) (es : List (String × Node)) :
    Prop where
  dirAt : d.DirAt f.directory here es
  sorted : Node.Sorted es
  plain : ∀ e ∈ es, PathText.Plain e.1
  own : ∀ e ∈ es, ∀ r, entryRecord d (PathText.join f.directory e.1) = some r →
    badId r.id = false ∧ e.1 = recordName r.id

variable {f f' : FileStore} {env env' : Env} {d : Disk} {here : List String}
  {es : List (String × Node)} {r : Registration}

theorem exec_readAll_eq (f : FileStore) (env : Env) :
    readAll.exec f env = match env.disk.listDir f.directory with
      | .ok names => (.ok (readable f env.disk names), f, env)
      | .error e => (.error (.storage ("list " ++ f.directory ++ ": " ++ e.text)), f, env) := by
  unfold readAll
  rw [exec_self_bind, exec_bind, exec_fromDisk]
  cases env.disk.listDir f.directory <;> rfl

/-- A listing that answers found the store open and its directory listed, and selects from what
the directory's entries read as. -/
theorem list_of_ok {flt : Filter} {rs : List Registration}
    (h : (list flt).exec f env = (.ok rs, f', env')) :
    f.closed = false ∧ ∃ names, env.disk.listDir f.directory = .ok names ∧
      rs = flt.select (readable f env.disk names) := by
  rw [list, exec_ensureOpen_bind] at h
  cases hc : f.closed with
  | true =>
    rw [hc, if_pos rfl] at h
    cases h
  | false =>
    rw [hc, if_neg Bool.false_ne_true, exec_bind, exec_readAll_eq] at h
    refine ⟨rfl, ?_⟩
    cases hl : env.disk.listDir f.directory with
    | error e =>
      rw [hl] at h
      cases h
    | ok names =>
      rw [hl] at h
      cases h
      exact ⟨names, rfl, rfl⟩

/-- An entry that reads as a record names a file of the store's extension whose text decodes as
that record. -/
theorem entryRecord_eq_some {p : String} (h : entryRecord d p = some r) :
    ∃ text, d.readFile p = .ok text ∧ decodeAt p text = .ok r := by
  unfold entryRecord at h
  split at h
  · cases hread : d.readFile p with
    | error e =>
      rw [hread] at h
      cases h
    | ok text =>
      rw [hread] at h
      refine ⟨text, rfl, ?_⟩
      cases hdec : decodeAt p text with
      | error e => simp [hdec, Except.toOption] at h
      | ok x => simpa [hdec, Except.toOption] using h
  · cases h

/-- Reading the record of an id whose file reads as a record gives that record. -/
theorem exec_readRecord_of_entryRecord {id : String} (hb : badId id = false)
    (he : entryRecord env.disk (PathText.join f.directory (recordName id)) = some r) :
    (readRecord id).exec f env = (.ok r, f, env) := by
  obtain ⟨text, hread, hdec⟩ := entryRecord_eq_some he
  unfold readRecord
  rw [exec_bind_of_ok (exec_pathFor f env hb), exec_disk_bind, hread]
  simp only [exec_ofOutcome, hdec]

/-- Entries with names in increasing order, each of which reads as a record filed under that
record's id, read as records with no id twice. -/
theorem nodup_ids_readable {l : List (String × Node)} (hs : Node.Sorted l)
    (hown : ∀ e ∈ l, ∀ r, entryRecord d (PathText.join f.directory e.1) = some r →
      e.1 = recordName r.id) :
    ((readable f d (l.map (·.1))).map (·.id)).Nodup := by
  induction l with
  | nil => simp [readable]
  | cons e l ih =>
    have hrest := ih (List.Pairwise.of_cons hs) fun e' he' => hown e' (List.mem_cons_of_mem _ he')
    cases he : entryRecord d (PathText.join f.directory e.1) with
    | none => simpa [readable, he] using hrest
    | some r =>
      simp only [readable, List.map_cons, List.filterMap_cons, he, List.nodup_cons] at hrest ⊢
      refine ⟨fun hmem => ?_, hrest⟩
      -- a later record with the same id would sit at the same name, which comes only once
      obtain ⟨r', hr', hid⟩ := List.mem_map.1 hmem
      obtain ⟨n, hn, he'⟩ := List.mem_filterMap.1 hr'
      obtain ⟨e', he'l, rfl⟩ := List.mem_map.1 hn
      have hlt : e.1 < e'.1 := List.rel_of_pairwise_cons hs he'l
      rw [hown e List.mem_cons_self r he, hown e' (List.mem_cons_of_mem _ he'l) r' he', hid] at hlt
      exact lt_irrefl _ hlt

/-- A path read alike on two disks reads as the same record on both. -/
theorem entryRecord_congr {d' : Disk} {p : String} (h : d'.readFile p = d.readFile p) :
    entryRecord d' p = entryRecord d p := by
  unfold entryRecord
  rw [h]

/-- A run that answers past the path of an id found the id usable as a file name. -/
theorem badId_of_pathFor_bind {α : Type} {id : String} {g : String → Act FileStore α} {x : α}
    (h : (pathFor id >>= g).exec f env = (.ok x, f', env')) : badId id = false := by
  cases hb : badId id with
  | false => rfl
  | true =>
    obtain ⟨e, he⟩ := exec_pathFor_bind_of_badId f env hb g
    rw [he] at h
    cases h

/-- A delete that answers found the store open and removed a file at its id's name, and nothing
else. -/
theorem delete_of_ok (hd : env.disk.DirAt f.directory here es) {id : String}
    (h : (delete id).exec f env = (.ok (), f', env')) :
    f.closed = false ∧ f' = f ∧ badId id = false ∧
      (∃ t, Node.lookup (recordName id) es = some (.file t)) ∧
      env' = { env with
        disk := ⟨env.disk.root.graft here (Node.setEntry (recordName id) none es)⟩ } := by
  rw [delete, exec_ensureOpen_bind] at h
  cases hc : f.closed with
  | true =>
    rw [hc, if_pos rfl] at h
    cases h
  | false =>
    rw [hc, if_neg Bool.false_ne_true] at h
    have hb := badId_of_pathFor_bind h
    rw [exec_bind_of_ok (exec_pathFor f env hb), exec_disk_bind] at h
    cases hrm : env.disk.removeFile (PathText.join f.directory (recordName id)) with
    | error e =>
      rw [hrm] at h
      cases e <;> cases h
    | ok d' =>
      rw [hrm] at h
      obtain ⟨t, hs⟩ := hd.step_of_removeFile (plain_recordName hb) hrm
      rw [hd.removeFile_join (plain_recordName hb) (Disk.admits_of_removeFile hrm), hs] at hrm
      cases hrm
      cases h
      exact ⟨rfl, rfl, hb, ⟨t, (Node.step_eq_ok_iff.mp hs).2⟩, rfl⟩

namespace Filed

/-- A record the entries of a filed directory read as is filed under its id. -/
theorem of_readable (hf : f.Filed d here es) (hr : r ∈ readable f d (es.map (·.1))) :
    badId r.id = false ∧ entryRecord d (PathText.join f.directory (recordName r.id)) = some r := by
  obtain ⟨n, hn, he⟩ := List.mem_filterMap.1 hr
  obtain ⟨e, hmem, rfl⟩ := List.mem_map.1 hn
  obtain ⟨hb, hname⟩ := hf.own e hmem r he
  exact ⟨hb, hname ▸ he⟩

/-- The directory is listed by its entries' names. -/
theorem listDir_eq (hf : f.Filed d here es) (hls : f.Lists) :
    d.listDir f.directory = .ok (es.map (·.1)) :=
  hf.dirAt.listDir_eq hls.1 hls.2

/-- The names a listing of a filed directory reads are its entries' names. -/
theorem names_of_listDir (hf : f.Filed d here es) {names : List String}
    (h : d.listDir f.directory = .ok names) : names = es.map (·.1) := by
  obtain ⟨here', es', hd', hmap, -⟩ := Disk.dirAt_of_listDir h
  obtain ⟨-, rfl⟩ := hf.dirAt.unique hd'
  exact hmap.symm

/-- No two records a filed directory holds have one id: each sits at the one name of its id. -/
theorem nodup_ids (hf : f.Filed d here es) : ((readable f d (es.map (·.1))).map (·.id)).Nodup :=
  nodup_ids_readable hf.sorted fun e he r hr => (hf.own e he r hr).2

/-- Every record a listing of a filed directory answers is fetched by its id. -/
theorem get_of_listed (hf : f.Filed env.disk here es) {flt : Filter} {rs : List Registration}
    (hl : (list flt).exec f env = (.ok rs, f', env')) (hr : r ∈ rs) :
    (get r.id).exec f env = (.ok r, f, env) := by
  obtain ⟨hopen, names, hnames, rfl⟩ := list_of_ok hl
  rw [hf.names_of_listDir hnames] at hr
  obtain ⟨hb, he⟩ := hf.of_readable (Filter.select_sublist flt _ r hr).1
  rw [get, exec_ensureOpen_bind, hopen, if_neg Bool.false_ne_true]
  exact exec_readRecord_of_entryRecord hb he

/-- An open store lists a filed directory as what its entries read as. -/
theorem exec_list (hf : f.Filed env.disk here es) (hls : f.Lists) (hopen : f.closed = false)
    (flt : Filter) :
    (list flt).exec f env = (.ok (flt.select (readable f env.disk (es.map (·.1)))), f, env) := by
  rw [list, exec_ensureOpen_bind, hopen, if_neg Bool.false_ne_true, exec_bind, exec_readAll_eq,
    hf.listDir_eq hls]
  rfl

section Removal

variable {id t : String} (hf : f.Filed d here es) (ht : Node.lookup (recordName id) es = some (.file t))
include hf ht

/-- Removing the file of an id keeps every subdirectory where it was. -/
theorem dirAt_remove :
    (⟨d.root.graft here (Node.setEntry (recordName id) none es)⟩ : Disk).DirAt f.directory here
      (Node.setEntry (recordName id) none es) :=
  hf.dirAt.graft_keeping fun m e hm => by
    have hne : m ≠ recordName id := by
      rintro rfl
      rw [ht] at hm
      cases hm
    rwa [Node.lookup_setEntry_ne hne]

/-- Every other name reads as it did before the file of an id was removed. -/
theorem entryRecord_remove {n : String} (hn : PathText.Plain n) (hne : n ≠ recordName id) :
    entryRecord ⟨d.root.graft here (Node.setEntry (recordName id) none es)⟩
      (PathText.join f.directory n) = entryRecord d (PathText.join f.directory n) :=
  entryRecord_congr (hf.dirAt.readFile_join_congr (hf.dirAt_remove ht) hn
    (Node.step_setEntry_ne hne none es))

/-- Removing the file of an id keeps a directory filed. -/
theorem remove :
    f.Filed ⟨d.root.graft here (Node.setEntry (recordName id) none es)⟩ here
      (Node.setEntry (recordName id) none es) where
  dirAt := hf.dirAt_remove ht
  sorted := Node.sorted_setEntry _ _ hf.sorted
  plain e he := by
    rw [Node.setEntry_none_eq_filter _ hf.sorted, List.mem_filter] at he
    exact hf.plain e he.1
  own e he r hr := by
    rw [Node.setEntry_none_eq_filter _ hf.sorted, List.mem_filter] at he
    have hne : e.1 ≠ recordName id := by simpa using he.2
    rw [hf.entryRecord_remove ht (hf.plain e he.1) hne] at hr
    exact hf.own e he.1 r hr

/-- Removing the file of an id drops from what the directory reads as exactly the records of that
id, and keeps the rest in their order. -/
theorem readable_remove :
    readable f ⟨d.root.graft here (Node.setEntry (recordName id) none es)⟩
        ((Node.setEntry (recordName id) none es).map (·.1)) =
      (readable f d (es.map (·.1))).filter (·.id ≠ id) := by
  have hnames : (Node.setEntry (recordName id) none es).map (·.1) =
      (es.filter (·.1 ≠ recordName id)).map (·.1) := by
    rw [Node.setEntry_none_eq_filter _ hf.sorted]
  rw [hnames]
  simp only [readable, List.filterMap_map, List.filterMap_filter, List.filter_filterMap]
  refine List.filterMap_congr fun e he => ?_
  simp only [Function.comp_apply]
  by_cases hne : e.1 = recordName id
  · -- the removed name read, if at all, as a record of that id
    rw [if_neg (by simpa using hne)]
    cases hr : entryRecord d (PathText.join f.directory e.1) with
    | none => rfl
    | some r =>
      have hid : r.id = id := recordName_inj ((hf.own e he r hr).2.symm.trans hne)
      simp [Option.filter_some, hid]
  · rw [if_pos (by simpa using hne), hf.entryRecord_remove ht (hf.plain e he) hne]
    cases hr : entryRecord d (PathText.join f.directory e.1) with
    | none => rfl
    | some r =>
      have hid : r.id ≠ id := fun h => hne ((hf.own e he r hr).2.trans (h ▸ rfl))
      simp [Option.filter_some, hid]

end Removal

/-- A delete that answers on a filed directory leaves it filed, and a listing afterwards selects
from what the directory read as before, less the records of the deleted id. -/
theorem delete_listed (hf : f.Filed env.disk here es) (hls : f.Lists) {id : String}
    (h : (delete id).exec f env = (.ok (), f', env')) :
    f' = f ∧ f.Filed env'.disk here (Node.setEntry (recordName id) none es) ∧
      ∀ flt : Filter, (list flt).exec f env' =
        (.ok (flt.select ((readable f env.disk (es.map (·.1))).filter (·.id ≠ id))), f, env') := by
  obtain ⟨hopen, rfl, -, ⟨t, ht⟩, rfl⟩ := delete_of_ok hf.dirAt h
  have hf' := hf.remove ht
  refine ⟨rfl, hf', fun flt => ?_⟩
  rw [hf'.exec_list hls hopen, hf.readable_remove ht]

/-- The file of an id that reads as a record is a file of the directory, at a path the disk
takes, holding a record of that id. -/
theorem entry_of_entryRecord (hf : f.Filed d here es) {id : String} {p : Registration}
    (hb : badId id = false) (he : entryRecord d (PathText.join f.directory (recordName id)) = some p) :
    p.id = id ∧ Disk.Admits (PathText.join f.directory (recordName id)) ∧
      ∃ text, Node.step es (recordName id) = .ok (some (.file text)) := by
  obtain ⟨text, hread, -⟩ := entryRecord_eq_some he
  have hs := hf.dirAt.step_of_readFile (plain_recordName hb) hread
  have hname := (hf.own _ (Node.mem_of_lookup_eq_some (Node.step_eq_ok_iff.mp hs).2) p he).2
  exact ⟨(recordName_inj hname).symm, Disk.admits_of_readFile hread, text, hs⟩

/-- The file of an id that reads as a record is no directory. -/
theorem lookup_ne_dir_of_entryRecord (hf : f.Filed d here es) {id : String} {p : Registration}
    (hb : badId id = false) (he : entryRecord d (PathText.join f.directory (recordName id)) = some p) :
    ∀ e, Node.lookup (recordName id) es ≠ some (.dir e) := by
  obtain ⟨-, -, text, hs⟩ := hf.entry_of_entryRecord hb he
  intro e h
  rw [(Node.step_eq_ok_iff.mp hs).2] at h
  cases h

/-- Deleting an id whose file reads as a record answers, and takes that file away. -/
theorem exec_delete (hf : f.Filed env.disk here es) (hopen : f.closed = false) {id : String}
    {p : Registration} (hb : badId id = false)
    (he : entryRecord env.disk (PathText.join f.directory (recordName id)) = some p) :
    (delete id).exec f env = (.ok (), f,
      { env with disk := ⟨env.disk.root.graft here (Node.setEntry (recordName id) none es)⟩ }) := by
  obtain ⟨-, hp, text, hs⟩ := hf.entry_of_entryRecord hb he
  rw [delete, exec_ensureOpen_bind, hopen, if_neg Bool.false_ne_true,
    exec_bind_of_ok (exec_pathFor f env hb), exec_disk_bind,
    hf.dirAt.removeFile_join (plain_recordName hb) hp, hs]
  rfl

section Rewrite

variable (hf : f.Filed d here es) (hls : f.Lists) (hopen : f.closed = false) {id : String}
  {p : Registration} (he : entryRecord d (PathText.join f.directory (recordName id)) = some p)
  (ht : f.Takes id) (htmp : ∀ e, Node.lookup (tempName id) es ≠ some (.dir e))
include hf hls hopen he ht htmp

/-- Replacing a record whose file reads as a record answers when its files fit and no directory
sits at its temporary name. -/
theorem exec_update {u : Registration} (hid : u.id = id) (henv : env.disk = d) :
    (update u).exec f env = (.ok (), f, { env with disk :=
      ⟨d.root.graft here (Node.setEntry (recordName id) (some (.file u.storedText))
        (Node.setEntry (tempName id) none es))⟩ }) := by
  subst hid henv
  rw [update, exec_ensureOpen_bind, hopen, if_neg Bool.false_ne_true,
    exec_bind_of_ok (exec_readRecord_of_entryRecord ht.1 he)]
  exact exec_writeRecord_of_dirAt hf.dirAt hf.sorted hls.1.1 ht htmp
    (hf.lookup_ne_dir_of_entryRecord ht.1 he) rfl rfl

/-- Changing a record whose file reads as a record answers when its files fit and no directory
sits at its temporary name: the change, stamped with the clock, is written back. -/
theorem exec_modify {g : Registration → Registration} (hg : ∀ r, (g r).id = r.id)
    (henv : env.disk = d) :
    (modify id g).exec f env = (.ok (), f, { env with clock := env.clock.now.2, disk :=
      ⟨d.root.graft here (Node.setEntry (recordName id)
        (some (.file ({ g p with updatedAt := env.clock.now.1 } : Registration).storedText))
        (Node.setEntry (tempName id) none es))⟩ }) := by
  obtain ⟨hid, -⟩ := hf.entry_of_entryRecord ht.1 he
  rw [modify, exec_ensureOpen_bind, hopen, if_neg Bool.false_ne_true,
    exec_bind_of_ok (exec_readRecord_of_entryRecord ht.1 (henv ▸ he)),
    exec_bind_of_ok (exec_now f env),
    exec_writeRecord_of_dirAt hf.dirAt hf.sorted hls.1.1 ht htmp
      (hf.lookup_ne_dir_of_entryRecord ht.1 he)]
  · -- the record written back keeps the id it was read under
    exact (hg p).trans hid
  · exact henv

end Rewrite

end Filed

end FileStore

namespace Act

theorem KeepsDisk.forIn {ι β : Type} {σ : Type} {f : ι → β → Act σ (ForInStep β)}
    (hf : ∀ x b, KeepsDisk (f x b)) : ∀ (xs : List ι) (b : β), KeepsDisk (forIn xs b f)
  | [], b => keepsDisk_pure b
  | x :: xs, b => by
    rw [List.forIn_cons]
    refine (hf x b).bind fun step => ?_
    cases step with
    | done b' => exact keepsDisk_pure b'
    | yield b' => exact KeepsDisk.forIn hf xs b'

end Act

namespace Filter

theorem select_empty_eq_byId (rs : List Registration) : Filter.select {} rs = byId rs := by
  have hall : rs.filter (Filter.admits {}) = rs := List.filter_eq_self.2 fun _ _ => rfl
  simp only [select, page, hall, Option.getD_none, List.drop_zero]

theorem mem_select_empty {rs : List Registration} {r : Registration} :
    r ∈ Filter.select {} rs ↔ r ∈ rs := by
  rw [select_empty_eq_byId]
  exact (List.mergeSort_perm _ _).mem_iff

/-- Records with no id twice, ordered by id, are keyed. -/
theorem keyed_select_empty {rs : List Registration} (hn : (rs.map (·.id)).Nodup) :
    MemoryStore.Keyed (Filter.select {} rs) := by
  rw [select_empty_eq_byId]
  have hnd : ((byId rs).map (·.id)).Nodup := ((List.mergeSort_perm _ _).map _).nodup_iff.2 hn
  exact ((pairwise_byId rs).and (List.pairwise_map.1 hnd)).imp fun h =>
    lt_of_le_of_ne (of_decide_eq_true h.1) h.2

end Filter

theorem Store.keepsDisk_list (flt : Filter) : KeepsDisk (Store.list flt) := by
  intro s env
  obtain ⟨o, h⟩ := Store.list_reads s env
  rw [h flt]

namespace Registry

variable {reg reg' : Registry} {f : FileStore} {env env' : Env} {here : List String}
  {es : List (String × Node)}

open FileStore

/-- Loading reads the store and fills the map; the disk stays as it was. -/
theorem keepsDisk_load : KeepsDisk load := by
  unfold load onStore
  refine ((Store.keepsDisk_list {}).attempt.focus _ _).bind fun o => ?_
  split
  · exact keepsDisk_fail _
  · exact (KeepsDisk.forIn (fun r _ => (keepsDisk_change _).bind fun _ => keepsDisk_pure _) _ _).bind
      fun _ => keepsDisk_pure _

/-- An unregistration that answered changed the disk only as the store's removal did. -/
theorem unregister_disk {id : String} (h : (unregister id).exec reg env = (.ok (), reg', env')) :
    env'.disk = ((Store.delete id).exec reg.store env).2.2.disk := by
  have hrest : ∀ ev : Event, KeepsDisk (remove id >>= fun _ => emit ev >>= fun _ =>
      onBridge (Bridge.deregister id) >>= fun _ => pure ()) := fun ev =>
    (keepsDisk_change _).bind fun _ => (keepsDisk_change _).bind fun _ =>
      (keepsDisk_onBridge (Bridge.keepsDisk_deregister id)).bind fun _ => keepsDisk_pure _
  unfold unregister at h
  rw [exec_self_bind] at h
  split at h
  · rw [exec_bind, exec_onStore, exec_attempt] at h
    dsimp only at h
    rcases hd : (Store.delete id).exec reg.store env with ⟨_ | u, s1, env1⟩ <;> rw [hd] at h <;>
      dsimp only at h
    · rename_i e
      cases hnf : e.isNotFound
      · rw [hnf] at h
        cases h
      · rw [hnf, if_neg (by decide)] at h
        exact (hrest _).of_exec h
    · exact (hrest _).of_exec h
  · rw [exec_fail] at h
    cases h

/-- A store write that answers lets a change go on to what follows it, and what follows cannot
fail. -/
theorem exec_persist_bind_answers {id ctx : String} {previous : Option Registration}
    {a : Act Store Unit} {rest : Unit → Act Registry Unit} {s' : Store} {env1 : Env}
    (ha : a.exec reg.store env = (.ok (), s', env1)) (hrest : ∀ x, NeverFails (rest x)) :
    ∃ reg' env', (persist id previous ctx a >>= rest).exec reg env = (.ok (), reg', env') := by
  rw [exec_bind_of_ok (exec_persist_ok ha)]
  exact NeverFails.answers (hrest ()) _ _

/-- Every change of the registration with an id answers: a heartbeat, a health report, a metrics
report and a status change. -/
def Changeable (reg : Registry) (env : Env) (id : String) : Prop :=
  (∃ reg' env', (heartbeat id).exec reg env = (.ok (), reg', env')) ∧
  (∀ report, ∃ reg' env', (updateHealth id report).exec reg env = (.ok (), reg', env')) ∧
  (∀ mt, ∃ reg' env', (updateMetrics id mt).exec reg env = (.ok (), reg', env')) ∧
  ∀ st, ∃ x reg' env', (updateStatus id st).exec reg env = (.ok x, reg', env')

/-- A registry with an empty map over an open store on a filed directory loads what the
directory reads as, ordered by id, and leaves the disk as it was. -/
theorem exec_load_of_filed (hf : f.Filed env.disk here es) (hls : f.Lists)
    (hopen : f.closed = false) (hp : reg.plugins = []) (hs : reg.store = .single (.file f)) :
    ∃ reg' env', load.exec reg env = (.ok reg'.plugins.length, reg', env') ∧
      reg'.plugins = Filter.select {} (readable f env.disk (es.map (·.1))) ∧
      reg'.store = reg.store ∧ env'.disk = env.disk := by
  have hl : (Store.list {}).exec reg.store env =
      (.ok (Filter.select {} (readable f env.disk (es.map (·.1)))), reg.store, env) := by
    rw [hs, Store.list, Store.exec_onBackend_single, Tier.list, Tier.exec_run_file,
      hf.exec_list hls hopen]
  obtain ⟨env', hload⟩ := exec_load_of_ok hl
  have hk := Filter.keyed_select_empty hf.nodup_ids
  -- sorted by id, the records go into the empty map one after another unchanged
  rw [hp, MemoryStore.foldl_putIn (by simpa using hk), List.nil_append] at hload
  exact ⟨{ reg with plugins := Filter.select {} (readable f env.disk (es.map (·.1))) }, env', hload,
    rfl, rfl, keepsDisk_load.of_exec hload⟩

/-- A registration of the map whose file on a filed directory reads as a record is unregistered,
and the store takes that file away. -/
theorem exec_unregister_of_filed (hf : f.Filed env.disk here es) (hopen : f.closed = false)
    (hs : reg.store = .single (.file f)) {id : String} {old p : Registration}
    (hfind : reg.find? id = some old) (hb : badId id = false)
    (he : entryRecord env.disk (PathText.join f.directory (recordName id)) = some p) :
    ∃ reg' env', (unregister id).exec reg env = (.ok (), reg', env') ∧
      reg'.plugins = MemoryStore.removeFrom id reg.plugins ∧ reg'.store = reg.store ∧
      env'.disk = ⟨env.disk.root.graft here (Node.setEntry (recordName id) none es)⟩ := by
  have hdel : (Store.delete id).exec reg.store env = (.ok (), reg.store,
      { env with disk := ⟨env.disk.root.graft here (Node.setEntry (recordName id) none es)⟩ }) := by
    rw [hs, Store.delete, Store.exec_run_single, Tier.delete, Tier.exec_run_file,
      hf.exec_delete hopen hb he]
  obtain ⟨reg', env', hrun, hp, hst⟩ := exec_unregister_of_delete hfind hdel (.inl rfl)
  refine ⟨reg', env', hrun, hp, hst, ?_⟩
  rw [unregister_disk hrun, hdel]

section Changes

variable (hf : f.Filed env.disk here es) (hls : f.Lists) (hopen : f.closed = false)
  (hs : reg.store = .single (.file f)) {id : String} {old p : Registration}
  (hfind : reg.find? id = some old)
  (he : entryRecord env.disk (PathText.join f.directory (recordName id)) = some p)
  (ht : f.Takes id) (htmp : ∀ e, Node.lookup (tempName id) es ≠ some (.dir e))
include hf hls hopen hs hfind he ht htmp

theorem exec_heartbeat_of_filed : ∃ reg' env', (heartbeat id).exec reg env = (.ok (), reg', env') := by
  unfold heartbeat
  rw [exec_bind, exec_modify_of_find hfind (exec_markSeen reg env)]
  dsimp only
  apply exec_persist_bind_answers ?ha fun _ => (neverFails_onBridge _).bind fun _ => neverFails_pure _
  case ha =>
    rw [hs, Store.update, Store.exec_run_single, Tier.update, Tier.exec_run_file,
      hf.exec_update hls hopen he ht htmp]
    · exact (MemoryStore.id_of_findIn hfind : old.id = id)
    · rfl

theorem exec_updateHealth_of_filed (report : HealthReport) :
    ∃ reg' env', (updateHealth id report).exec reg env = (.ok (), reg', env') := by
  unfold updateHealth
  rw [exec_bind, exec_modify_of_find hfind (exec_pure _ reg env)]
  dsimp only
  apply exec_persist_bind_answers ?ha fun _ => (neverFails_onBridge _).bind fun _ => neverFails_emit _
  case ha =>
    rw [hs, Store.update, Store.exec_run_single, Tier.update, Tier.exec_run_file,
      hf.exec_update hls hopen he ht htmp]
    · exact (MemoryStore.id_of_findIn hfind : old.id = id)
    · rfl

theorem exec_updateMetrics_of_filed (mt : Metrics) :
    ∃ reg' env', (updateMetrics id mt).exec reg env = (.ok (), reg', env') := by
  unfold updateMetrics
  rw [exec_bind, exec_modify_of_find hfind (exec_pure _ reg env)]
  dsimp only
  apply exec_persist_bind_answers ?ha fun _ => neverFails_emit _
  case ha =>
    rw [hs, Store.updateMetrics, Store.exec_run_single, Tier.updateMetrics, Tier.exec_run_file,
      FileStore.updateMetrics, hf.exec_modify hls hopen he ht htmp]
    · exact fun _ => rfl
    · rfl

theorem exec_updateStatus_of_filed (st : Status) :
    ∃ x reg' env', (updateStatus id st).exec reg env = (.ok x, reg', env') := by
  by_cases hst : old.status = st
  · -- the status is already set, and nothing is written
    refine ⟨old, reg, env, ?_⟩
    unfold updateStatus
    rw [exec_self_bind]
    simp only [hfind, hst, beq_self_eq_true, if_true]
    rfl
  · obtain ⟨x, reg', env', h, -⟩ := exec_updateStatus_of_store_ok hfind hst (by
      rw [hs, Store.updateStatus, Store.exec_run_single, Tier.updateStatus, Tier.exec_run_file,
        FileStore.updateStatus, hf.exec_modify hls hopen he ht htmp]
      · exact fun _ => rfl
      · rfl)
    exact ⟨x, reg', env', h⟩

/-- Every change of a registration whose file on a filed directory reads as a record answers,
when its files fit and no directory sits at its temporary name. -/
theorem changeable_of_filed : Changeable reg env id :=
  ⟨exec_heartbeat_of_filed hf hls hopen hs hfind he ht htmp,
    exec_updateHealth_of_filed hf hls hopen hs hfind he ht htmp,
    exec_updateMetrics_of_filed hf hls hopen hs hfind he ht htmp,
    exec_updateStatus_of_filed hf hls hopen hs hfind he ht htmp⟩

end Changes

end Registry

namespace FileStore

/-- What a store over a directory with entries `es` does with the records it lists: each is
fetched by its id; a delete that answers drops its id from every later listing; and a registry
with an empty map that loads the store restores exactly those records, unregisters each of them
for good, and can change each whose files fit where no directory sits at its temporary name. -/
def Serves (f : FileStore) (env : Env) (es : List (String × Node)) : Prop :=
  (∀ (flt : Filter) (rs : List Registration) (f' : FileStore) (env' : Env),
      (list flt).exec f env = (.ok rs, f', env') →
        ∀ r ∈ rs, (get r.id).exec f env = (.ok r, f, env)) ∧
  (∀ (id : String) (f' : FileStore) (env' : Env), (delete id).exec f env = (.ok (), f', env') →
      ∀ flt : Filter, (list flt).exec f env' =
        (.ok (flt.select ((readable f env.disk (es.map (·.1))).filter (·.id ≠ id))), f, env')) ∧
  ∀ reg0 : Registry, reg0.plugins = [] → reg0.store = .single (.file f) →
    ∃ reg env1, Registry.load.exec reg0 env = (.ok reg.plugins.length, reg, env1) ∧
      reg.plugins = Filter.select {} (readable f env.disk (es.map (·.1))) ∧
      ∀ r ∈ reg.plugins,
        (∃ reg' env', (Registry.unregister r.id).exec reg env1 = (.ok (), reg', env') ∧
          ∀ reg1 : Registry, reg1.plugins = [] → reg1.store = .single (.file f) →
            ∃ reg2 env2, Registry.load.exec reg1 env' = (.ok reg2.plugins.length, reg2, env2) ∧
              ∀ x, x ∈ reg2.plugins ↔ x ∈ reg.plugins ∧ x.id ≠ r.id) ∧
        (f.Takes r.id → (∀ e, Node.lookup (tempName r.id) es ≠ some (.dir e)) →
          Registry.Changeable reg env1 r.id)

/-- An open store over a filed directory it can list serves what it lists. -/
theorem Filed.every_listed_record_is_served {f : FileStore} {env : Env} {here : List String}
    {es : List (String × Node)} (hf : f.Filed env.disk here es) (hls : f.Lists)
    (hopen : f.closed = false) : f.Serves env es := by
  refine ⟨fun flt rs f' env' hl r hr => hf.get_of_listed hl hr,
    fun id f' env' h => (hf.delete_listed hls h).2.2, fun reg0 hp hs => ?_⟩
  obtain ⟨reg, env1, hload, hplugins, hstore, hdisk⟩ :=
    Registry.exec_load_of_filed hf hls hopen hp hs
  have hf1 : f.Filed env1.disk here es := hdisk ▸ hf
  have hkeyed : MemoryStore.Keyed reg.plugins := hplugins ▸ Filter.keyed_select_empty hf.nodup_ids
  have hs1 : reg.store = .single (.file f) := hstore.trans hs
  refine ⟨reg, env1, hload, hplugins, fun r hr => ?_⟩
  -- each restored record is the one filed under its id
  obtain ⟨hb, he⟩ := hf.of_readable (Filter.mem_select_empty.1 (hplugins ▸ hr))
  have he1 : entryRecord env1.disk (PathText.join f.directory (recordName r.id)) = some r :=
    hdisk ▸ he
  have hfind : reg.find? r.id = some r := (MemoryStore.findIn_eq_some_iff hkeyed).2 ⟨hr, rfl⟩
  refine ⟨?_, fun ht htmp => Registry.changeable_of_filed hf1 hls hopen hs1 hfind he1 ht htmp⟩
  obtain ⟨-, -, text, hstep⟩ := hf1.entry_of_entryRecord hb he1
  have hlook := (Node.step_eq_ok_iff.mp hstep).2
  obtain ⟨reg', env', hrun, -, -, hdisk'⟩ :=
    Registry.exec_unregister_of_filed hf1 hopen hs1 hfind hb he1
  refine ⟨reg', env', hrun, fun reg1 hp1 hs1' => ?_⟩
  have hf' : f.Filed env'.disk here (Node.setEntry (recordName r.id) none es) :=
    hdisk' ▸ hf1.remove hlook
  obtain ⟨reg2, env2, hload2, hplugins2, -, -⟩ := Registry.exec_load_of_filed hf' hls hopen hp1 hs1'
  refine ⟨reg2, env2, hload2, fun x => ?_⟩
  -- the next load reads the directory less the file of the record unregistered
  rw [hplugins2, Filter.mem_select_empty, hdisk', hf1.readable_remove hlook, List.mem_filter,
    hplugins, Filter.mem_select_empty, hdisk]
  simp

/-- A directory holding the one file `a.json`, filed under the id `a` it holds, is served. -/
theorem one_record_directory_is_served :
    let a := "\x7b\"id\":\"a\",\"name\":\"A\",\"version\":\"1\",\"registered_at\":\"1970-01-01T00:00:00Z\",\"updated_at\":\"1970-01-01T00:00:00Z\",\"last_seen\":\"1970-01-01T00:00:00Z\"\x7d"
    let es := [("a.json", Node.file a)]
    let f : FileStore := { directory := "d" }
    let env : Env := { disk := ⟨.dir [("work", .dir [("d", .dir es)])]⟩ }
    f.Filed env.disk ["work", "d"] es ∧ f.Lists ∧ f.closed = false ∧ f.Serves env es := by
  intro a es f env
  have hread : (entryRecord env.disk (PathText.join f.directory "a.json")).map (·.id) = some "a" := by
    decide +kernel
  have hf : f.Filed env.disk ["work", "d"] es := by
    refine ⟨⟨by decide +kernel, rfl⟩, List.pairwise_singleton _ _, fun e he => ?_,
      fun e he x hx => ?_⟩
    · simp only [es, List.mem_singleton] at he
      subst he
      exact ⟨by decide, by decide, by decide, by decide⟩
    · simp only [es, List.mem_singleton] at he
      subst he
      rw [hx] at hread
      have hid : x.id = "a" := Option.some.inj hread
      rw [hid]
      exact ⟨by decide, rfl⟩
  have hls : f.Lists := ⟨⟨by decide, by decide⟩, by decide⟩
  exact ⟨hf, hls, rfl, Filed.every_listed_record_is_served hf hls rfl⟩

/-- A directory with a single entry that reads as a record is listed, with the empty filter, as
that record. -/
theorem list_of_single_entry (hopen : f.closed = false) {n : String}
    (hl : env.disk.listDir f.directory = .ok [n])
    (he : entryRecord env.disk (PathText.join f.directory n) = some r) :
    (list {}).exec f env = (.ok [r], f, env) := by
  rw [list, exec_ensureOpen_bind, hopen, if_neg Bool.false_ne_true, exec_bind, exec_readAll_eq, hl]
  simp only [readable, List.filterMap_cons, he, List.filterMap_nil]
  rw [Filter.select_empty_of_keyed (List.pairwise_singleton _ _)]
  rfl

/-- Files named after another id than the one they hold: `a.json` holding `b` is listed as `b`,
which cannot be fetched; and with `a.json` and `b.json` both holding `a`, deleting `a` answers
while a record with id `a` is still listed. -/
theorem foreign_file_listed_not_fetched :
    let a := "\x7b\"id\":\"a\",\"name\":\"A\",\"version\":\"1\",\"registered_at\":\"1970-01-01T00:00:00Z\",\"updated_at\":\"1970-01-01T00:00:00Z\",\"last_seen\":\"1970-01-01T00:00:00Z\"\x7d"
    let b := "\x7b\"id\":\"b\",\"name\":\"B\",\"version\":\"1\",\"registered_at\":\"1970-01-01T00:00:00Z\",\"updated_at\":\"1970-01-01T00:00:00Z\",\"last_seen\":\"1970-01-01T00:00:00Z\"\x7d"
    let f : FileStore := { directory := "d" }
    let foreign : Env := { disk := ⟨.dir [("work", .dir [("d", .dir [("a.json", .file b)])])]⟩ }
    let twice : Env :=
      { disk := ⟨.dir [("work", .dir [("d", .dir [("a.json", .file a), ("b.json", .file a)])])]⟩ }
    (∃ r, (list {}).exec f foreign = (.ok [r], f, foreign) ∧ r.id = "b" ∧
      ((get r.id).exec f foreign).1.toOption.isNone = true) ∧
    (∃ env', (delete "a").exec f twice = (.ok (), f, env') ∧
      ∃ r, (list {}).exec f env' = (.ok [r], f, env') ∧ r.id = "a") := by
  intro a b f foreign twice
  obtain ⟨rb, heb, hidb⟩ := Option.map_eq_some_iff.1 (by decide +kernel :
    (entryRecord foreign.disk (PathText.join f.directory "a.json")).map (·.id) = some "b")
  refine ⟨⟨rb, list_of_single_entry rfl (by decide +kernel) heb, hidb, ?_⟩, ?_⟩
  · rw [hidb]
    decide +kernel
  -- deleting `a` takes `a.json` away, and `b.json` still holds `a`
  have hd : twice.disk.DirAt f.directory ["work", "d"] [("a.json", .file a), ("b.json", .file a)] :=
    ⟨by decide +kernel, rfl⟩
  have hb : badId "a" = false := by decide
  have hdel : (delete "a").exec f twice = (.ok (), f,
      { twice with disk := ⟨twice.disk.root.graft ["work", "d"] [("b.json", .file a)]⟩ }) := by
    rw [delete, exec_ensureOpen_bind, if_neg Bool.false_ne_true,
      exec_bind_of_ok (exec_pathFor f twice hb), exec_disk_bind,
      hd.removeFile_join (plain_recordName hb) ⟨by decide +kernel, by decide +kernel⟩]
    rfl
  obtain ⟨ra, hea, hida⟩ := Option.map_eq_some_iff.1 (by decide +kernel :
    (entryRecord ⟨twice.disk.root.graft ["work", "d"] [("b.json", .file a)]⟩
      (PathText.join f.directory "b.json")).map (·.id) = some "a")
  exact ⟨_, hdel, ra, list_of_single_entry rfl (by decide +kernel) hea, hida⟩

end FileStore

end Plugboard
