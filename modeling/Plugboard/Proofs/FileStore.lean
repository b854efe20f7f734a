import Plugboard.Store.File
import Plugboard.Proofs.Disk
import Plugboard.Proofs.MemoryStore
/-!
# The file store against the memory store

A file store keeps one file `<id>.json` per record in its directory. When the directory holds
exactly the files of some records, and each file reads back as its record (`Holds`), every
operation of the file store does what the memory store does on those records (`Tracks`): the
same answer, up to the words of a failure, the same clock, and a directory holding exactly the
records the memory store holds afterwards. Two things only the file store does: it refuses ids
that cannot name a file or whose temporary file does not fit the disk's limits (`Takes`), and it
cannot list a directory whose path the disk refuses (`Lists`). A refused call fails and changes
nothing.

The record is written to `<id>.json.tmp` and renamed onto `<id>.json`; once the rename is done
the directory is as if the record's file alone had been written and a stale temporary file taken
away (`exec_writeRecord_of_dirAt`).
-/

namespace Plugboard

/-- A registration whose stored text reads back as itself. -/
def Registration.ReadsBack (r : Registration) : Prop :=
  Registration.readText r.storedText = .ok r

namespace Registration

/-- The fields a read-back is checked on by evaluation: every field but the configuration, the
health and the metrics, and of those three only whether all are empty. -/
structure Checked where
  id : String
  name : String
  version : String
  description : String
  author : String
  category : String
  tags : List String
  permissions : List String
  dependencies : List String
  endpoints : List Endpoint
  status : Status
  plain : Bool
  registeredAt : Instant
  updatedAt : Instant
  lastSeen : Instant
  deriving DecidableEq

/-- A registration's checked fields. -/
def checked (r : Registration) : Checked :=
  ⟨r.id, r.name, r.version, r.description, r.author, r.category, r.tags, r.permissions,
    r.dependencies, r.endpoints, r.status, r.config.isEmpty && r.health.isNone && r.metrics.isNone,
    r.registeredAt, r.updatedAt, r.lastSeen⟩

/-- A registration without configuration, health or metrics reads back as soon as what its
stored text reads as has its checked fields. -/
theorem readsBack_of_checked {r : Registration} (hc : r.config = []) (hh : r.health = none)
    (hm : r.metrics = none) (h : (readText r.storedText).toOption.map checked = some r.checked) :
    r.ReadsBack := by
  unfold ReadsBack
  rcases hr : readText r.storedText with e | x
  · rw [hr] at h
    cases h
  · rw [hr] at h
    have hx := Option.some.inj h
    obtain ⟨x1, x2, x3, x4, x5, x6, x7, x8, x9, x10, x11, x12, x13, x14, x15, x16, x17⟩ := x
    obtain ⟨r1, r2, r3, r4, r5, r6, r7, r8, r9, r10, r11, r12, r13, r14, r15, r16, r17⟩ := r
    simp only [checked, Checked.mk.injEq] at hx hc hh hm
    subst hc hh hm
    obtain ⟨rfl, rfl, rfl, rfl, rfl, rfl, rfl, rfl, rfl, rfl, rfl, hplain, rfl, rfl, rfl⟩ := hx
    -- the three fields compared by emptiness are empty on the read side too
    simp only [List.isEmpty_nil, Option.isNone_none, Bool.and_true, Bool.and_eq_true,
      List.isEmpty_iff, Option.isNone_iff_eq_none] at hplain
    obtain ⟨⟨rfl, rfl⟩, rfl⟩ := hplain
    rfl

end Registration

namespace FileStore

/-- The file name of an id's record. -/
def recordName (id : String) : String := id ++ "." ++ extension

/-- The name of an id's temporary file. -/
def tempName (id : String) : String := recordName id ++ ".tmp"

variable {id id' : String}

theorem not_isEmpty_of_badId (h : badId id = false) : id ≠ "" := by
  intro he
  simp [badId, he] at h

theorem forall_mem_of_badId (h : badId id = false) :
    ∀ c ∈ id.toList, c ≠ '/' ∧ c ≠ '\\' ∧ c ≠ Char.ofNat 0 := by
  intro c hc
  simp only [badId, Bool.or_eq_false_iff, List.any_eq_false] at h
  have := h.2 c hc
  simp only [Bool.or_eq_true, beq_iff_eq, not_or] at this
  exact ⟨this.1.1, this.1.2, this.2⟩

theorem recordName_toList (id : String) :
    (recordName id).toList = id.toList ++ ['.', 'j', 's', 'o', 'n'] := by
  simp [recordName, extension, String.toList_append]

theorem tempName_toList (id : String) :
    (tempName id).toList = id.toList ++ ['.', 'j', 's', 'o', 'n', '.', 't', 'm', 'p'] := by
  simp [tempName, recordName_toList, String.toList_append]

theorem recordName_inj (h : recordName id = recordName id') : id = id' := by
  have h' := congrArg String.toList h
  rw [recordName_toList, recordName_toList] at h'
  exact String.toList_inj.mp (List.append_cancel_right h')

theorem recordName_ne_tempName : recordName id ≠ tempName id' := by
  intro h
  have h' := congrArg (fun s => s.toList.getLast?) h
  simp [recordName_toList, tempName_toList] at h'

theorem plain_of_suffix {n : String} {s : List Char} (hn : n.toList = id.toList ++ s)
    (hs : 2 ≤ s.length) (hsep : '/' ∉ s) (h : badId id = false) : PathText.Plain n := by
  have hid : id.toList ≠ [] := fun he => not_isEmpty_of_badId h (String.toList_eq_nil_iff.mp he)
  have hlen : 3 ≤ n.toList.length := by
    rw [hn, List.length_append]
    have := List.length_pos_iff.mpr hid
    omega
  refine ⟨?_, ?_, ?_, ?_⟩
  · rintro rfl
    simp at hlen
  · rw [hn, List.mem_append]
    rintro (h' | h')
    · exact (forall_mem_of_badId h _ h').1 rfl
    · exact hsep h'
  · rintro rfl
    simp at hlen
  · rintro rfl
    simp at hlen

theorem plain_recordName (h : badId id = false) : PathText.Plain (recordName id) :=
  plain_of_suffix (recordName_toList id) (by decide) (by decide) h

theorem plain_tempName (h : badId id = false) : PathText.Plain (tempName id) :=
  plain_of_suffix (tempName_toList id) (by decide) (by decide) h

/-- An id whose temporary file fits under the store's directory: its name within the name limit,
and its path within the path limit. The record's own file, four bytes shorter, fits then too. -/
def Fits (f : FileStore) (id : String) : Prop :=
  (tempName id).utf8ByteSize ≤ Disk.nameMax ∧
    (PathText.join f.directory (tempName id)).utf8ByteSize < Disk.pathMax

/-- An id the store takes: one that can name a file, and whose files fit. -/
def Takes (f : FileStore) (id : String) : Prop := badId id = false ∧ f.Fits id

theorem tempName_utf8ByteSize (id : String) :
    (tempName id).utf8ByteSize = (recordName id).utf8ByteSize + 4 := by
  simp only [tempName, String.utf8ByteSize_append]
  rfl

theorem join_recordName_append (dir : String) (h : badId id = false) :
    PathText.join dir (recordName id) ++ ".tmp" = PathText.join dir (tempName id) :=
  PathText.join_append dir (PathText.isAbsolute_eq_false_of_not_mem (plain_recordName h).2.1)
    (plain_recordName h).1 ".tmp"

theorem nul_not_mem_recordName (h : badId id = false) : Char.ofNat 0 ∉ (recordName id).toList := by
  rw [recordName_toList, List.mem_append]
  rintro (hc | hc)
  · exact (forall_mem_of_badId h _ hc).2.2 rfl
  · simp at hc

theorem nul_not_mem_tempName (h : badId id = false) : Char.ofNat 0 ∉ (tempName id).toList := by
  rw [tempName_toList, List.mem_append]
  rintro (hc | hc)
  · exact (forall_mem_of_badId h _ hc).2.2 rfl
  · simp at hc

theorem nul_not_mem_join {dir n : String} (hdir : Char.ofNat 0 ∉ dir.toList)
    (hn : PathText.Plain n) (hnul : Char.ofNat 0 ∉ n.toList) :
    Char.ofNat 0 ∉ (PathText.join dir n).toList := by
  intro hc
  rcases PathText.mem_join (PathText.isAbsolute_eq_false_of_not_mem hn.2.1) hc with h | h | h
  · exact hdir h
  · simp at h
  · exact hnul h

section Paths

variable {f : FileStore} (hdir : Char.ofNat 0 ∉ f.directory.toList) (ht : f.Takes id)
include hdir ht

theorem admits_tempPath : Disk.Admits (PathText.join f.directory (tempName id)) :=
  ⟨nul_not_mem_join hdir (plain_tempName ht.1) (nul_not_mem_tempName ht.1), ht.2.2⟩

theorem admits_recordPath : Disk.Admits (PathText.join f.directory (recordName id)) := by
  refine ⟨nul_not_mem_join hdir (plain_recordName ht.1) (nul_not_mem_recordName ht.1), ?_⟩
  have h := ht.2.2
  rw [← join_recordName_append _ ht.1, String.utf8ByteSize_append] at h
  omega

end Paths

theorem recordName_short {f : FileStore} (ht : f.Fits id) :
    (recordName id).utf8ByteSize ≤ Disk.nameMax := by
  have h := ht.1
  rw [tempName_utf8ByteSize] at h
  omega

open MemoryStore

/-- The entries of a directory holding exactly the records `rs` of a store: the file
`<id>.json` with each record's text, and nothing else. Each record reads back as itself, and its
id is one the store takes; the directory's path has no NUL character. -/
structure Layout (f : FileStore) (rs : List Registration) (es : List (String × Node)) :
    Prop where
  noNul : Char.ofNat 0 ∉ f.directory.toList
  sorted : Node.Sorted es
  file : ∀ r ∈ rs, Node.lookup (recordName r.id) es = some (.file r.storedText)
  only : ∀ name v, Node.lookup name es = some v → ∃ r ∈ rs, name = recordName r.id
  keyed : Keyed rs
  readsBack : ∀ r ∈ rs, r.ReadsBack
  takes : ∀ r ∈ rs, f.Takes r.id

/-- The store's directory holds exactly the records `rs`. -/
def Holds (f : FileStore) (d : Disk) (rs : List Registration) : Prop :=
  ∃ here es, d.DirAt f.directory here es ∧ f.Layout rs es

/-- The entries of a store's directory when each is the file of some id, and the directory's path
has no NUL character: what a directory holding records has, whether or not their texts read
back. -/
structure Tidy (f : FileStore) (es : List (String × Node)) : Prop where
  noNul : Char.ofNat 0 ∉ f.directory.toList
  sorted : Node.Sorted es
  files : ∀ name v, Node.lookup name es = some v → (∃ id, name = recordName id) ∧ ∃ t, v = .file t

section Layout

variable {f : FileStore} {rs : List Registration} {es : List (String × Node)} {d : Disk}

theorem Layout.lookup_recordName (hl : f.Layout rs es) (id : String) :
    Node.lookup (recordName id) es = (findIn id rs).map fun r => .file r.storedText := by
  cases hf : findIn id rs with
  | some r =>
    obtain ⟨hr, rfl⟩ := (findIn_eq_some_iff hl.keyed).mp hf
    exact hl.file r hr
  | none =>
    cases hv : Node.lookup (recordName id) es with
    | none => rfl
    | some v =>
      obtain ⟨r, hr, hname⟩ := hl.only _ _ hv
      exact absurd (recordName_inj hname).symm (findIn_eq_none_iff.mp hf r hr)

/-- A directory holding records is tidy. -/
theorem Layout.tidy (hl : f.Layout rs es) : f.Tidy es where
  noNul := hl.noNul
  sorted := hl.sorted
  files name v hv := by
    obtain ⟨r, hr, rfl⟩ := hl.only name v hv
    rw [hl.file r hr] at hv
    cases hv
    exact ⟨⟨r.id, rfl⟩, r.storedText, rfl⟩

theorem Tidy.lookup_tempName (hti : f.Tidy es) (id : String) :
    Node.lookup (tempName id) es = none := by
  cases hv : Node.lookup (tempName id) es with
  | none => rfl
  | some v =>
    obtain ⟨⟨id', hname⟩, -⟩ := hti.files _ _ hv
    exact absurd hname.symm recordName_ne_tempName

theorem Tidy.lookup_ne_dir (hti : f.Tidy es) (name : String) (e : List (String × Node)) :
    Node.lookup name es ≠ some (.dir e) := by
  intro hv
  obtain ⟨-, t, ht⟩ := hti.files _ _ hv
  cases ht

/-- Writing the file of an id keeps a directory tidy. -/
theorem Tidy.put (hti : f.Tidy es) (id t : String) :
    f.Tidy (Node.setEntry (recordName id) (some (.file t)) es) where
  noNul := hti.noNul
  sorted := Node.sorted_setEntry _ _ hti.sorted
  files name v hv := by
    by_cases hn : name = recordName id
    · subst hn
      rw [Node.lookup_setEntry_self] at hv
      cases hv
      exact ⟨⟨id, rfl⟩, t, rfl⟩
    · rw [Node.lookup_setEntry_ne hn] at hv
      exact hti.files name v hv

theorem Holds.keyed (hh : f.Holds d rs) : Keyed rs := by
  obtain ⟨_, _, _, hl⟩ := hh
  exact hl.keyed

/-- Writing a record's file puts the record in. -/
theorem Layout.put (hl : f.Layout rs es) {r : Registration} (hr : r.ReadsBack)
    (ht : f.Takes r.id) :
    f.Layout (putIn r rs) (Node.setEntry (recordName r.id) (some (.file r.storedText)) es) where
  noNul := hl.noNul
  sorted := Node.sorted_setEntry _ _ hl.sorted
  file x hx := by
    rcases (mem_putIn hl.keyed).mp hx with rfl | ⟨hx, hne⟩
    · exact Node.lookup_setEntry_self _ _ _
    · rw [Node.lookup_setEntry_ne (fun h => hne (recordName_inj h))]
      exact hl.file x hx
  only name v hv := by
    by_cases hn : name = recordName r.id
    · exact ⟨r, (mem_putIn hl.keyed).mpr (.inl rfl), hn⟩
    · rw [Node.lookup_setEntry_ne hn] at hv
      obtain ⟨x, hx, rfl⟩ := hl.only _ _ hv
      have hne : x.id ≠ r.id := fun h => hn (congrArg recordName h)
      exact ⟨x, (mem_putIn hl.keyed).mpr (.inr ⟨hx, hne⟩), rfl⟩
  keyed := keyed_putIn hl.keyed
  readsBack x hx := by
    rcases (mem_putIn hl.keyed).mp hx with rfl | ⟨hx, -⟩
    · exact hr
    · exact hl.readsBack x hx
  takes x hx := by
    rcases (mem_putIn hl.keyed).mp hx with rfl | ⟨hx, -⟩
    · exact ht
    · exact hl.takes x hx

/-- Removing an id's file takes its record out. -/
theorem Layout.remove (hl : f.Layout rs es) (id : String) :
    f.Layout (removeFrom id rs) (Node.setEntry (recordName id) none es) where
  noNul := hl.noNul
  sorted := Node.sorted_setEntry _ _ hl.sorted
  file x hx := by
    obtain ⟨hx, hne⟩ := (mem_removeFrom hl.keyed).mp hx
    rw [Node.lookup_setEntry_ne (fun h => hne (recordName_inj h))]
    exact hl.file x hx
  only name v hv := by
    by_cases hn : name = recordName id
    · rw [hn, Node.lookup_setEntry_none_self _ hl.sorted] at hv
      cases hv
    · rw [Node.lookup_setEntry_ne hn] at hv
      obtain ⟨x, hx, rfl⟩ := hl.only _ _ hv
      have hne : x.id ≠ id := fun h => hn (congrArg recordName h)
      exact ⟨x, (mem_removeFrom hl.keyed).mpr ⟨hx, hne⟩, rfl⟩
  keyed := keyed_removeFrom hl.keyed
  readsBack x hx := hl.readsBack x ((mem_removeFrom hl.keyed).mp hx).1
  takes x hx := hl.takes x ((mem_removeFrom hl.keyed).mp hx).1

end Layout

/-- A file store mirrors a memory store on a disk when both are closed, or both are open and the
directory holds exactly the memory store's records. -/
def Mirrors (f : FileStore) (d : Disk) (m : MemoryStore) : Prop :=
  f.closed = m.closed ∧ (m.closed = false → f.Holds d m.records)

-- ---------------------------------------------------------------------------
-- Runs of the operations
-- ---------------------------------------------------------------------------

open Act

section Runs

variable {α : Type} {f : FileStore} {env : Env} {rs : List Registration} {id : String}

theorem exec_ensureOpen_bind (f : FileStore) (env : Env) (g : Unit → Act FileStore α) :
    (ensureOpen >>= g).exec f env =
      if f.closed then (.error closedError, f, env) else (g ()).exec f env := by
  simp only [ensureOpen, exec_bind, exec_self, exec_failIf]
  cases f.closed <;> rfl

theorem exec_pathFor (f : FileStore) (env : Env) (h : badId id = false) :
    (pathFor id).exec f env = (.ok (PathText.join f.directory (recordName id)), f, env) := by
  simp only [pathFor, exec_bind, h, Bool.false_eq_true, if_false, exec_self]
  rfl

theorem exec_pathFor_bind_of_badId (f : FileStore) (env : Env) (h : badId id = true)
    (g : String → Act FileStore α) :
    ∃ e, (pathFor id >>= g).exec f env = (.error e, f, env) := by
  refine ⟨.validation ("plugin id '" ++ id ++ "' cannot be used as a file name"), ?_⟩
  simp only [pathFor, exec_bind, h, if_true, exec_fail]

/-- Reading an id the store takes answers its record, or that there is none. -/
theorem exec_readRecord (hh : f.Holds env.disk rs) (ht : f.Takes id) :
    (readRecord id).exec f env =
      match findIn id rs with
      | some r => (.ok r, f, env)
      | none => (.error (.notFound id), f, env) := by
  obtain ⟨here, es, hd, hl⟩ := hh
  have hs : Node.step es (recordName id) = .ok (Node.lookup (recordName id) es) :=
    Node.step_eq_ok_iff.mpr ⟨recordName_short ht.2, rfl⟩
  unfold readRecord
  rw [exec_bind_of_ok (exec_pathFor f env ht.1), exec_disk_bind,
    hd.readFile_join (plain_recordName ht.1) (admits_recordPath hl.noNul ht), hs,
    hl.lookup_recordName]
  cases hf : findIn id rs with
  | none => rfl
  | some r =>
    have hrb : r.ReadsBack := hl.readsBack r ((findIn_eq_some_iff hl.keyed).mp hf).1
    simp only [Option.map_some, Except.bind, decodeAt, show Registration.readText r.storedText = .ok r from hrb]
    rfl

/-- A file of the directory that reads is the file of one of the records. -/
theorem exists_mem_of_readFile (hh : f.Holds env.disk rs) (hb : badId id = false) {text : String}
    (h : env.disk.readFile (PathText.join f.directory (recordName id)) = .ok text) :
    ∃ r ∈ rs, r.id = id ∧ text = r.storedText := by
  obtain ⟨here, es, hd, hl⟩ := hh
  have hs := hd.step_of_readFile (plain_recordName hb) h
  obtain ⟨r, hr, hname⟩ := hl.only _ _ (Node.step_eq_ok_iff.mp hs).2
  have hid : r.id = id := (recordName_inj hname).symm
  have hfile := hl.file r hr
  rw [← hname, (Node.step_eq_ok_iff.mp hs).2] at hfile
  cases hfile
  exact ⟨r, hr, hid, rfl⟩

/-- Reading an id the store does not take fails and changes nothing. -/
theorem exec_readRecord_of_not_takes (hh : f.Holds env.disk rs) (ht : ¬ f.Takes id) :
    ∃ e, (readRecord id).exec f env = (.error e, f, env) := by
  cases hb : badId id with
  | true => exact exec_pathFor_bind_of_badId f env hb _
  | false =>
    unfold readRecord
    rw [exec_bind_of_ok (exec_pathFor f env hb), exec_disk_bind]
    cases hread : env.disk.readFile (PathText.join f.directory (recordName id)) with
    | ok text =>
      obtain ⟨r, hr, rfl, -⟩ := exists_mem_of_readFile hh hb hread
      obtain ⟨-, es, -, hl⟩ := hh
      exact absurd (hl.takes r hr) ht
    | error e =>
      cases e <;> exact ⟨_, rfl⟩

/-- A read the disk refuses for another reason than a missing file is a storage failure. -/
theorem exec_readRecord_of_refused (hb : badId id = false) {e : OsError}
    (hread : env.disk.readFile (PathText.join f.directory (recordName id)) = .error e)
    (he : e ≠ .notFound) :
    (readRecord id).exec f env =
      (.error (.storage ("read " ++ PathText.join f.directory (recordName id) ++ ": " ++ e.text)),
        f, env) := by
  unfold readRecord
  rw [exec_bind_of_ok (exec_pathFor f env hb), exec_disk_bind, hread]
  cases e
  case notFound => exact absurd rfl he
  all_goals rfl

/-- Writing a record the store takes succeeds where neither of its files' names is a directory:
once the temporary file is renamed, the directory is as if the record's file alone had been
written, and a stale temporary file taken away. -/
theorem exec_writeRecord_of_dirAt {d : Disk} {here : List String} {es : List (String × Node)}
    (hd : d.DirAt f.directory here es) (hs : Node.Sorted es)
    (hdir : Char.ofNat 0 ∉ f.directory.toList) (ht : f.Takes id)
    (htemp : ∀ e, Node.lookup (tempName id) es ≠ some (.dir e))
    (hrec : ∀ e, Node.lookup (recordName id) es ≠ some (.dir e)) {r : Registration}
    (hid : r.id = id) (henv : env.disk = d) :
    (writeRecord r).exec f env = (.ok (), f, { env with disk :=
      ⟨d.root.graft here (Node.setEntry (recordName id) (some (.file r.storedText))
        (Node.setEntry (tempName id) none es))⟩ }) := by
  subst hid henv
  have hs0 : Node.step es (tempName r.id) = .ok (Node.lookup (tempName r.id) es) :=
    Node.step_eq_ok_iff.mpr ⟨ht.2.1, rfl⟩
  -- The disk once the temporary file is written.
  let es1 := Node.setEntry (tempName r.id) (some (.file r.storedText)) es
  let d1 : Disk := ⟨env.disk.root.graft here es1⟩
  have hd1 : d1.DirAt f.directory here es1 := hd.graft_keeping fun m e hm => by
    have hne : m ≠ tempName r.id := by
      rintro rfl
      exact htemp e hm
    rwa [Node.lookup_setEntry_ne hne]
  have hw : env.disk.writeFile (PathText.join f.directory (tempName r.id)) r.storedText =
      .ok d1 := by
    rw [hd.writeFile_join (plain_tempName ht.1) (admits_tempPath hdir ht), hs0]
    cases hl : Node.lookup (tempName r.id) es with
    | none => rfl
    | some v =>
      cases v with
      | file t => rfl
      | dir e => exact absurd hl (htemp e)
  have hsa : Node.step es1 (tempName r.id) = .ok (some (.file r.storedText)) :=
    Node.step_setEntry_self hs0 _
  have hsb : Node.step es1 (recordName r.id) = .ok (Node.lookup (recordName r.id) es) := by
    rw [Node.step_setEntry_ne recordName_ne_tempName]
    exact Node.step_eq_ok_iff.mpr ⟨recordName_short ht.2, rfl⟩
  have hrn := hd1.rename_join (plain_tempName ht.1) (admits_tempPath hdir ht)
    (plain_recordName ht.1) (admits_recordPath hdir ht) hsa hsb hrec
  rw [Node.graft_graft, Node.setEntry_through hs recordName_ne_tempName.symm] at hrn
  unfold writeRecord
  rw [exec_bind_of_ok (exec_pathFor f env ht.1)]
  simp only [join_recordName_append _ ht.1]
  rw [exec_bind_of_ok (by rw [exec_onDisk, hw]), exec_onDisk, hrn]

/-- Writing a record the store takes into a tidy directory succeeds, as if the record's file alone
had been written. -/
theorem exec_writeRecord_of_tidy {here : List String} {es : List (String × Node)}
    (hd : env.disk.DirAt f.directory here es) (hti : f.Tidy es) {r : Registration}
    (ht : f.Takes r.id) :
    (writeRecord r).exec f env = (.ok (), f, { env with disk :=
      ⟨env.disk.root.graft here (Node.setEntry (recordName r.id) (some (.file r.storedText)) es)⟩ }) := by
  rw [exec_writeRecord_of_dirAt hd hti.sorted hti.noNul ht (hti.lookup_ne_dir _)
    (hti.lookup_ne_dir _) rfl rfl, Node.setEntry_none_of_lookup hti.sorted (hti.lookup_tempName _)]

/-- Writing a record the store takes succeeds; when the record reads back, the directory then
holds it in. -/
theorem exec_writeRecord (hh : f.Holds env.disk rs) {r : Registration} (ht : f.Takes r.id) :
    ∃ d', (writeRecord r).exec f env = (.ok (), f, { env with disk := d' }) ∧
      (r.ReadsBack → f.Holds d' (putIn r rs)) := by
  obtain ⟨here, es, hd, hl⟩ := hh
  exact ⟨_, exec_writeRecord_of_tidy hd hl.tidy ht,
    fun hr => ⟨here, _, hd.graft hl.tidy.lookup_ne_dir _, hl.put hr ht⟩⟩

/-- Writing a record whose files do not fit fails and changes nothing. -/
theorem exec_writeRecord_of_not_takes {here : List String} {es : List (String × Node)}
    (hd : env.disk.DirAt f.directory here es) {r : Registration} (ht : ¬ f.Takes r.id) :
    ∃ e, (writeRecord r).exec f env = (.error e, f, env) := by
  cases hb : badId r.id with
  | true => exact exec_pathFor_bind_of_badId f env hb _
  | false =>
    unfold writeRecord
    rw [exec_bind_of_ok (exec_pathFor f env hb)]
    simp only [join_recordName_append _ hb]
    cases hw : env.disk.writeFile (PathText.join f.directory (tempName r.id)) r.storedText with
    | error e =>
      exact ⟨_, exec_bind_of_error (by rw [exec_onDisk, hw])⟩
    | ok d1 =>
      obtain ⟨hp, old, hs⟩ := hd.step_of_writeFile (plain_tempName hb) hw
      exact absurd ⟨hb, (Node.step_eq_ok_iff.mp hs).1, hp.2⟩ ht

theorem splitAtDot_recordName (hid : id ≠ "") :
    PathText.splitAtDot (recordName id) = (id, some extension) := by
  have hne : recordName id ≠ ".." := by
    intro h
    have := congrArg (fun s => s.toList.length) h
    simp only [recordName_toList, List.length_append] at this
    simp at this
  have hl : id.toList ≠ [] := fun h => hid (String.toList_eq_nil_iff.mp h)
  unfold PathText.splitAtDot
  simp only [hne, if_false, recordName_toList, List.reverse_append]
  simp [List.findIdx?_cons, List.take_left', hl]
  rfl

theorem extension_recordPath (dir : String) (hb : badId id = false) :
    PathText.extension (PathText.join dir (recordName id)) = some extension := by
  unfold PathText.extension
  rw [PathText.fileName_join dir (plain_recordName hb)]
  simp [splitAtDot_recordName (not_isEmpty_of_badId hb)]

/-- Each record's file is listed as that record. -/
theorem entryRecord_recordPath {d : Disk} {here : List String} {es : List (String × Node)}
    (hd : d.DirAt f.directory here es) (hl : f.Layout rs es) {r : Registration} (hr : r ∈ rs) :
    entryRecord d (PathText.join f.directory (recordName r.id)) = some r := by
  have ht := hl.takes r hr
  have hs : Node.step es (recordName r.id) = .ok (some (.file r.storedText)) :=
    Node.step_eq_ok_iff.mpr ⟨recordName_short ht.2, hl.file r hr⟩
  unfold entryRecord
  rw [extension_recordPath _ ht.1, hd.readFile_join (plain_recordName ht.1)
    (admits_recordPath hl.noNul ht), hs]
  simp only [beq_self_eq_true, if_true, Except.bind, decodeAt,
    show Registration.readText r.storedText = .ok r from hl.readsBack r hr]
  rfl

/-- A store whose directory can be listed: a path the disk takes, and not the empty one. -/
def Lists (f : FileStore) : Prop := Disk.Admits f.directory ∧ f.directory ≠ ""

/-- Listing the directory reads every record once, in some order. -/
theorem exec_readAll (hh : f.Holds env.disk rs) (hls : f.Lists) :
    ∃ l, l.Perm rs ∧ readAll.exec f env = (.ok l, f, env) := by
  obtain ⟨here, es, hd, hl⟩ := hh
  let read := fun n => entryRecord env.disk (PathText.join f.directory n)
  -- Every name of the directory is the file of a record, which it reads as.
  have hname : ∀ n ∈ es.map (·.1), ∃ r ∈ rs, n = recordName r.id ∧ read n = some r := by
    intro n hn
    obtain ⟨⟨n', v⟩, hv, rfl⟩ := List.mem_map.mp hn
    obtain ⟨r, hr, hnr⟩ := hl.only n' v ((Node.lookup_eq_some_iff_mem hl.sorted).mpr hv)
    exact ⟨r, hr, hnr, by rw [hnr]; exact entryRecord_recordPath hd hl hr⟩
  have hmem : ∀ x, x ∈ (es.map (·.1)).filterMap read ↔ x ∈ rs := by
    intro x
    rw [List.mem_filterMap]
    constructor
    · rintro ⟨n, hn, hx⟩
      obtain ⟨r, hr, -, hread⟩ := hname n hn
      rw [hread] at hx
      cases hx
      exact hr
    · intro hx
      refine ⟨recordName x.id, ?_, entryRecord_recordPath hd hl hx⟩
      exact List.mem_map.mpr ⟨_, Node.mem_of_lookup_eq_some (hl.file x hx), rfl⟩
  have hkeys : (es.map (·.1)).Nodup := by
    rw [List.Nodup, List.pairwise_map]
    exact hl.sorted.imp ne_of_lt
  -- Naming each record read by its file gives back the directory's names, which are distinct.
  have hnames : ((es.map (·.1)).filterMap read).map (fun r => recordName r.id) =
      es.map (·.1) := by
    rw [List.map_filterMap]
    refine (List.filterMap_congr fun n hn => ?_).trans List.filterMap_some
    obtain ⟨r, -, rfl, hread⟩ := hname n hn
    rw [hread]
    rfl
  have hnodup : ((es.map (·.1)).filterMap read).Nodup := by
    refine List.Nodup.of_map (fun r => recordName r.id) ?_
    rw [hnames, List.Nodup, List.pairwise_map]
    exact hl.sorted.imp ne_of_lt
  have hrs : rs.Nodup := hl.keyed.imp fun h he => ne_of_lt h (congrArg Registration.id he)
  refine ⟨_, (List.perm_ext_iff_of_nodup hnodup hrs).mpr hmem, ?_⟩
  unfold readAll
  rw [exec_self_bind, exec_bind_of_ok (by rw [exec_fromDisk, hd.listDir_eq hls.1 hls.2]),
    exec_disk_bind]
  rfl

theorem exec_get (hh : f.Holds env.disk rs) (hopen : f.closed = false) (ht : f.Takes id) :
    (get id).exec f env =
      match findIn id rs with
      | some r => (.ok r, f, env)
      | none => (.error (.notFound id), f, env) := by
  rw [get, exec_ensureOpen_bind, hopen, if_neg Bool.false_ne_true, exec_readRecord hh ht]

theorem exec_get_of_not_takes (hh : f.Holds env.disk rs) (ht : ¬ f.Takes id) :
    ∃ e, (get id).exec f env = (.error e, f, env) := by
  rw [get, exec_ensureOpen_bind]
  split
  · exact ⟨_, rfl⟩
  · exact exec_readRecord_of_not_takes hh ht

theorem exec_save (hh : f.Holds env.disk rs) (hopen : f.closed = false) {r : Registration}
    (ht : f.Takes r.id) :
    ∃ d', (save r).exec f env = (.ok (), f, { env with disk := d' }) ∧
      (r.ReadsBack → f.Holds d' (putIn r rs)) := by
  rw [save, exec_ensureOpen_bind, hopen, if_neg Bool.false_ne_true]
  exact exec_writeRecord hh ht

theorem exec_save_of_not_takes (hh : f.Holds env.disk rs) {r : Registration}
    (ht : ¬ f.Takes r.id) : ∃ e, (save r).exec f env = (.error e, f, env) := by
  rw [save, exec_ensureOpen_bind]
  split
  · exact ⟨_, rfl⟩
  · obtain ⟨_, _, hd, -⟩ := hh
    exact exec_writeRecord_of_not_takes hd ht

theorem exec_delete_of_mem (hh : f.Holds env.disk rs) (hopen : f.closed = false)
    (ht : f.Takes id) {r : Registration} (hf : findIn id rs = some r) :
    ∃ d', (delete id).exec f env = (.ok (), f, { env with disk := d' }) ∧
      f.Holds d' (removeFrom id rs) := by
  obtain ⟨here, es, hd, hl⟩ := hh
  have hs : Node.step es (recordName id) = .ok (some (.file r.storedText)) := by
    refine Node.step_eq_ok_iff.mpr ⟨recordName_short ht.2, ?_⟩
    rw [hl.lookup_recordName, hf]
    rfl
  refine ⟨_, ?_, here, _, hd.graft hl.tidy.lookup_ne_dir _, hl.remove id⟩
  rw [delete, exec_ensureOpen_bind, hopen, if_neg Bool.false_ne_true,
    exec_bind_of_ok (exec_pathFor f env ht.1), exec_disk_bind,
    hd.removeFile_join (plain_recordName ht.1) (admits_recordPath hl.noNul ht), hs]
  rfl

theorem exec_delete_of_not_mem (hh : f.Holds env.disk rs) (hopen : f.closed = false)
    (ht : f.Takes id) (hf : findIn id rs = none) :
    (delete id).exec f env = (.error (.notFound id), f, env) := by
  obtain ⟨here, es, hd, hl⟩ := hh
  have hs : Node.step es (recordName id) = .ok none := by
    refine Node.step_eq_ok_iff.mpr ⟨recordName_short ht.2, ?_⟩
    rw [hl.lookup_recordName, hf]
    rfl
  rw [delete, exec_ensureOpen_bind, hopen, if_neg Bool.false_ne_true,
    exec_bind_of_ok (exec_pathFor f env ht.1), exec_disk_bind,
    hd.removeFile_join (plain_recordName ht.1) (admits_recordPath hl.noNul ht), hs]
  rfl

/-- A removal the disk refuses for another reason than a missing file is a storage failure. -/
theorem exec_delete_of_refused (hopen : f.closed = false) (hb : badId id = false) {e : OsError}
    (hrm : env.disk.removeFile (PathText.join f.directory (recordName id)) = .error e)
    (he : e ≠ .notFound) :
    (delete id).exec f env =
      (.error (.storage ("delete " ++ PathText.join f.directory (recordName id) ++ ": " ++ e.text)),
        f, env) := by
  rw [delete, exec_ensureOpen_bind, hopen, if_neg Bool.false_ne_true,
    exec_bind_of_ok (exec_pathFor f env hb), exec_disk_bind, hrm]
  cases e
  case notFound => exact absurd rfl he
  all_goals rfl

theorem exec_delete_of_not_takes (hh : f.Holds env.disk rs) (ht : ¬ f.Takes id) :
    ∃ e, (delete id).exec f env = (.error e, f, env) := by
  rw [delete, exec_ensureOpen_bind]
  split
  · exact ⟨_, rfl⟩
  cases hb : badId id with
  | true => exact exec_pathFor_bind_of_badId f env hb _
  | false =>
    rw [exec_bind_of_ok (exec_pathFor f env hb), exec_disk_bind]
    cases hrm : env.disk.removeFile (PathText.join f.directory (recordName id)) with
    | ok d' =>
      obtain ⟨here, es, hd, hl⟩ := hh
      obtain ⟨t, hs⟩ := hd.step_of_removeFile (plain_recordName hb) hrm
      obtain ⟨r, hr, hname⟩ := hl.only _ _ (Node.step_eq_ok_iff.mp hs).2
      rw [recordName_inj hname] at ht
      exact absurd (hl.takes r hr) ht
    | error e =>
      cases e <;> exact ⟨_, rfl⟩

theorem exec_update_of_mem (hh : f.Holds env.disk rs) (hopen : f.closed = false)
    {r p : Registration} (ht : f.Takes r.id) (hf : findIn r.id rs = some p) :
    ∃ d', (update r).exec f env = (.ok (), f, { env with disk := d' }) ∧
      (r.ReadsBack → f.Holds d' (putIn r rs)) := by
  rw [update, exec_ensureOpen_bind, hopen, if_neg Bool.false_ne_true,
    exec_bind_of_ok (by rw [exec_readRecord hh ht, hf])]
  exact exec_writeRecord hh ht

theorem exec_update_of_not_mem (hh : f.Holds env.disk rs) (hopen : f.closed = false)
    {r : Registration} (ht : f.Takes r.id) (hf : findIn r.id rs = none) :
    (update r).exec f env = (.error (.notFound r.id), f, env) := by
  rw [update, exec_ensureOpen_bind, hopen, if_neg Bool.false_ne_true,
    exec_bind_of_error (by rw [exec_readRecord hh ht, hf])]

theorem exec_update_of_not_takes (hh : f.Holds env.disk rs) {r : Registration}
    (ht : ¬ f.Takes r.id) : ∃ e, (update r).exec f env = (.error e, f, env) := by
  rw [update, exec_ensureOpen_bind]
  split
  · exact ⟨_, rfl⟩
  · obtain ⟨e, he⟩ := exec_readRecord_of_not_takes hh ht
    exact ⟨e, exec_bind_of_error he⟩

/-- Changing a stored record stamps it with the clock's reading and writes it back. -/
theorem exec_modify_of_mem (hh : f.Holds env.disk rs) (hopen : f.closed = false)
    (ht : f.Takes id) {g : Registration → Registration} (hg : ∀ r, (g r).id = r.id)
    {r : Registration} (hf : findIn id rs = some r) :
    ∃ d', (modify id g).exec f env =
        (.ok (), f, { env with clock := env.clock.now.2, disk := d' }) ∧
      (({ g r with updatedAt := env.clock.now.1 } : Registration).ReadsBack →
        f.Holds d' (putIn { g r with updatedAt := env.clock.now.1 } rs)) := by
  obtain ⟨hr_mem, rfl⟩ := (findIn_eq_some_iff hh.keyed).mp hf
  have ht' : f.Takes ({ g r with updatedAt := env.clock.now.1 } : Registration).id := by
    show f.Takes (g r).id
    rw [hg]
    exact ht
  have hh' : f.Holds ({ env with clock := env.clock.now.2 } : Env).disk rs := hh
  obtain ⟨d', hw, hd'⟩ := exec_writeRecord hh' ht'
  refine ⟨d', ?_, hd'⟩
  rw [modify, exec_ensureOpen_bind, hopen, if_neg Bool.false_ne_true,
    exec_bind_of_ok (by rw [exec_readRecord hh ht, hf]), exec_bind_of_ok (exec_now f env), hw]

theorem exec_modify_of_not_mem (hh : f.Holds env.disk rs) (hopen : f.closed = false)
    (ht : f.Takes id) (g : Registration → Registration) (hf : findIn id rs = none) :
    (modify id g).exec f env = (.error (.notFound id), f, env) := by
  rw [modify, exec_ensureOpen_bind, hopen, if_neg Bool.false_ne_true,
    exec_bind_of_error (by rw [exec_readRecord hh ht, hf])]

theorem exec_modify_of_not_takes (hh : f.Holds env.disk rs) (ht : ¬ f.Takes id)
    (g : Registration → Registration) : ∃ e, (modify id g).exec f env = (.error e, f, env) := by
  rw [modify, exec_ensureOpen_bind]
  split
  · exact ⟨_, rfl⟩
  · obtain ⟨e, he⟩ := exec_readRecord_of_not_takes hh ht
    exact ⟨e, exec_bind_of_error he⟩

/-- Listing never changes the store or the disk. -/
theorem exec_readAll_frame (f : FileStore) (env : Env) :
    ∃ o, readAll.exec f env = (o, f, env) := by
  unfold readAll
  rw [exec_self_bind, exec_bind, exec_fromDisk]
  cases f.directory |> env.disk.listDir with
  | ok names => exact ⟨_, rfl⟩
  | error e => exact ⟨_, rfl⟩

theorem exec_list_frame (f : FileStore) (env : Env) (flt : Filter) :
    ∃ o, (list flt).exec f env = (o, f, env) := by
  rw [list, exec_ensureOpen_bind]
  split
  · exact ⟨_, rfl⟩
  · obtain ⟨o, ho⟩ := exec_readAll_frame f env
    rw [exec_bind, ho]
    cases o
    · exact ⟨_, rfl⟩
    · exact ⟨_, rfl⟩

theorem exec_search_frame (f : FileStore) (env : Env) (q : String) (flt : Filter) :
    ∃ o, (search q flt).exec f env = (o, f, env) := by
  rw [search, exec_ensureOpen_bind]
  split
  · exact ⟨_, rfl⟩
  · obtain ⟨o, ho⟩ := exec_readAll_frame f env
    rw [exec_bind, ho]
    cases o
    · exact ⟨_, rfl⟩
    · exact ⟨_, rfl⟩

theorem exec_getByEndpoint_frame (f : FileStore) (env : Env) (e : String) :
    ∃ o, (getByEndpoint e).exec f env = (o, f, env) := by
  rw [getByEndpoint, exec_ensureOpen_bind]
  split
  · exact ⟨_, rfl⟩
  · obtain ⟨o, ho⟩ := exec_readAll_frame f env
    rw [exec_bind, ho]
    cases o with
    | error e => exact ⟨_, rfl⟩
    | ok l =>
      dsimp only
      cases (Filter.select {} l).find? (·.hasEndpoint e)
      · exact ⟨_, rfl⟩
      · exact ⟨_, rfl⟩

theorem exec_count_frame (f : FileStore) (env : Env) : ∃ o, count.exec f env = (o, f, env) := by
  obtain ⟨o, ho⟩ := exec_list_frame f env {}
  rw [count, exec_bind, ho]
  cases o
  · exact ⟨_, rfl⟩
  · exact ⟨_, rfl⟩

theorem exec_healthCheck_frame (f : FileStore) (env : Env) :
    ∃ o, healthCheck.exec f env = (o, f, env) := by
  rw [healthCheck, exec_self_bind]
  split
  · exact ⟨_, rfl⟩
  · exact ⟨_, rfl⟩

theorem exec_list (hh : f.Holds env.disk rs) (hopen : f.closed = false) (hls : f.Lists)
    (flt : Filter) : (list flt).exec f env = (.ok (flt.select rs), f, env) := by
  obtain ⟨l, hp, hr⟩ := exec_readAll hh hls
  have hk : Keyed rs := hh.keyed
  rw [list, exec_ensureOpen_bind, hopen, if_neg Bool.false_ne_true, exec_bind_of_ok hr,
    Filter.select_perm flt hp ((hp.map _).nodup_iff.mpr hk.nodup_ids)]
  rfl

theorem exec_search (hh : f.Holds env.disk rs) (hopen : f.closed = false) (hls : f.Lists)
    (q : String) (flt : Filter) :
    (search q flt).exec f env = (.ok (flt.select (rs.filter (matchesText · q))), f, env) := by
  obtain ⟨l, hp, hr⟩ := exec_readAll hh hls
  have hk : Keyed rs := hh.keyed
  have hnd : ((l.filter (matchesText · q)).map (·.id)).Nodup :=
    ((hp.map _).nodup_iff.mpr hk.nodup_ids).sublist (List.filter_sublist.map _)
  rw [search, exec_ensureOpen_bind, hopen, if_neg Bool.false_ne_true, exec_bind_of_ok hr,
    Filter.select_perm flt (hp.filter _) hnd]
  rfl

theorem exec_getByEndpoint (hh : f.Holds env.disk rs) (hopen : f.closed = false)
    (hls : f.Lists) (e : String) :
    (getByEndpoint e).exec f env =
      match rs.find? (·.hasEndpoint e) with
      | some r => (.ok r, f, env)
      | none => (.error (MemoryStore.noEndpoint e), f, env) := by
  obtain ⟨l, hp, hr⟩ := exec_readAll hh hls
  have hk : Keyed rs := hh.keyed
  rw [getByEndpoint, exec_ensureOpen_bind, hopen, if_neg Bool.false_ne_true, exec_bind_of_ok hr,
    Filter.select_perm {} hp ((hp.map _).nodup_iff.mpr hk.nodup_ids),
    Filter.select_empty_of_keyed hk]
  cases rs.find? (·.hasEndpoint e) <;> rfl

theorem exec_count (hh : f.Holds env.disk rs) (hopen : f.closed = false) (hls : f.Lists) :
    count.exec f env = (.ok rs.length, f, env) := by
  have hk : Keyed rs := hh.keyed
  rw [count, exec_bind_of_ok (exec_list hh hopen hls {}), Filter.select_empty_of_keyed hk]
  rfl

theorem exec_healthCheck (hh : f.Holds env.disk rs) (hopen : f.closed = false)
    (hls : f.Lists) : healthCheck.exec f env = (.ok true, f, env) := by
  obtain ⟨here, es, hd, -⟩ := hh
  rw [healthCheck, exec_self_bind, hopen]
  simp only [Bool.false_eq_true, if_false, exec_disk_bind, hd.isDir_eq hls.1 hls.2]
  rfl

@[simp] theorem exec_close (f : FileStore) (env : Env) :
    close.exec f env = (.ok (), { f with closed := true }, env) := rfl

end Runs

-- ---------------------------------------------------------------------------
-- Against the memory store
-- ---------------------------------------------------------------------------

/-- A run of the file store `f` does what a memory-store run does: an answer that agrees, the
same clock afterwards, and a file store over the same directory mirroring the memory store
afterwards. -/
def Tracks {α : Type} (f : FileStore) (rf : Outcome α × FileStore × Env)
    (rm : Outcome α × MemoryStore × Env) : Prop :=
  Outcome.Same rf.1 rm.1 ∧ rf.2.2.clock = rm.2.2.clock ∧ Mirrors rf.2.1 rf.2.2.disk rm.2.1 ∧
    rf.2.1.directory = f.directory

section Tracking

variable {α : Type} {f : FileStore} {m : MemoryStore} {env : Env} {d : Disk}

/-- Closed stores both refuse, and stay as they are. -/
theorem tracks_closed (hm : Mirrors f env.disk m) :
    Tracks f ((.error closedError, f, env) : Outcome α × FileStore × Env)
      (.error MemoryStore.closedError, m, env) :=
  ⟨rfl, rfl, hm, rfl⟩

theorem tracks_unchanged {o o' : Outcome α} (hm : Mirrors f env.disk m) (ho : Outcome.Same o o') :
    Tracks f (o, f, env) (o', m, env) :=
  ⟨ho, rfl, hm, rfl⟩

theorem Mirrors.holds (hm : Mirrors f d m) (hc : m.closed = false) : f.Holds d m.records :=
  hm.2 hc

theorem Mirrors.open (hm : Mirrors f d m) (hc : m.closed = false) : f.closed = false :=
  hm.1.trans hc

theorem tracks_get (hm : Mirrors f env.disk m) (id : String) (ht : f.Takes id) :
    Tracks f ((get id).exec f env) ((MemoryStore.get id).exec m env) := by
  rw [MemoryStore.exec_get]
  cases hc : m.closed
  · rw [exec_get (hm.holds hc) (hm.open hc) ht, if_neg Bool.false_ne_true]
    cases findIn id m.records
    · exact tracks_unchanged hm rfl
    · exact tracks_unchanged hm rfl
  · rw [get, exec_ensureOpen_bind, hm.1.trans hc, if_pos rfl, if_pos rfl]
    exact tracks_closed hm

theorem tracks_save (hm : Mirrors f env.disk m) {r : Registration} (ht : f.Takes r.id)
    (hrb : ∀ x ∈ ((MemoryStore.save r).exec m env).2.1.records, x.ReadsBack) :
    Tracks f ((save r).exec f env) ((MemoryStore.save r).exec m env) := by
  rw [MemoryStore.exec_save] at hrb ⊢
  cases hc : m.closed
  · rw [if_neg Bool.false_ne_true]
    rw [hc, if_neg Bool.false_ne_true] at hrb
    have hr : r.ReadsBack := hrb r ((mem_putIn (hm.holds hc).keyed).mpr (.inl rfl))
    obtain ⟨d', hrun, hd'⟩ := exec_save (hm.holds hc) (hm.open hc) ht
    rw [hrun]
    exact ⟨rfl, rfl, ⟨hm.1, fun _ => hd' hr⟩, rfl⟩
  · rw [save, exec_ensureOpen_bind, hm.1.trans hc, if_pos rfl, if_pos rfl]
    exact tracks_closed hm

theorem tracks_delete (hm : Mirrors f env.disk m) (id : String) (ht : f.Takes id) :
    Tracks f ((delete id).exec f env) ((MemoryStore.delete id).exec m env) := by
  rw [MemoryStore.exec_delete]
  cases hc : m.closed
  · rw [if_neg Bool.false_ne_true]
    cases hf : findIn id m.records with
    | none =>
      rw [exec_delete_of_not_mem (hm.holds hc) (hm.open hc) ht hf]
      exact tracks_unchanged hm rfl
    | some r =>
      obtain ⟨d', hrun, hd'⟩ := exec_delete_of_mem (hm.holds hc) (hm.open hc) ht hf
      rw [hrun]
      exact ⟨rfl, rfl, ⟨hm.1, fun _ => hd'⟩, rfl⟩
  · rw [delete, exec_ensureOpen_bind, hm.1.trans hc, if_pos rfl, if_pos rfl]
    exact tracks_closed hm

theorem tracks_update (hm : Mirrors f env.disk m) {r : Registration} (ht : f.Takes r.id)
    (hrb : ∀ x ∈ ((MemoryStore.update r).exec m env).2.1.records, x.ReadsBack) :
    Tracks f ((update r).exec f env) ((MemoryStore.update r).exec m env) := by
  rw [MemoryStore.exec_update] at hrb ⊢
  cases hc : m.closed
  · rw [if_neg Bool.false_ne_true]
    rw [hc, if_neg Bool.false_ne_true] at hrb
    cases hf : findIn r.id m.records with
    | none =>
      rw [exec_update_of_not_mem (hm.holds hc) (hm.open hc) ht hf]
      exact tracks_unchanged hm rfl
    | some p =>
      rw [hf] at hrb
      have hr : r.ReadsBack := hrb r ((mem_putIn (hm.holds hc).keyed).mpr (.inl rfl))
      obtain ⟨d', hrun, hd'⟩ := exec_update_of_mem (hm.holds hc) (hm.open hc) ht hf
      rw [hrun]
      exact ⟨rfl, rfl, ⟨hm.1, fun _ => hd' hr⟩, rfl⟩
  · rw [update, exec_ensureOpen_bind, hm.1.trans hc, if_pos rfl, if_pos rfl]
    exact tracks_closed hm

theorem tracks_modify (hm : Mirrors f env.disk m) (id : String) (ht : f.Takes id)
    {g : Registration → Registration} (hg : ∀ r, (g r).id = r.id)
    (hrb : ∀ x ∈ ((MemoryStore.modify id g).exec m env).2.1.records, x.ReadsBack) :
    Tracks f ((modify id g).exec f env) ((MemoryStore.modify id g).exec m env) := by
  rw [MemoryStore.exec_modify] at hrb ⊢
  cases hc : m.closed
  · rw [if_neg Bool.false_ne_true]
    rw [hc, if_neg Bool.false_ne_true] at hrb
    cases hf : findIn id m.records with
    | none =>
      rw [exec_modify_of_not_mem (hm.holds hc) (hm.open hc) ht g hf]
      exact tracks_unchanged hm rfl
    | some r =>
      rw [hf] at hrb
      have hr := hrb _ ((mem_putIn (hm.holds hc).keyed).mpr (.inl rfl))
      obtain ⟨d', hrun, hd'⟩ := exec_modify_of_mem (hm.holds hc) (hm.open hc) ht hg hf
      rw [hrun]
      exact ⟨rfl, rfl, ⟨hm.1, fun _ => hd' hr⟩, rfl⟩
  · rw [modify, exec_ensureOpen_bind, hm.1.trans hc, if_pos rfl, if_pos rfl]
    exact tracks_closed hm

theorem tracks_list (hm : Mirrors f env.disk m) (hls : f.Lists) (flt : Filter) :
    Tracks f ((list flt).exec f env) ((MemoryStore.list flt).exec m env) := by
  rw [MemoryStore.exec_list]
  cases hc : m.closed
  · rw [if_neg Bool.false_ne_true, exec_list (hm.holds hc) (hm.open hc) hls]
    exact tracks_unchanged hm rfl
  · rw [list, exec_ensureOpen_bind, hm.1.trans hc, if_pos rfl, if_pos rfl]
    exact tracks_closed hm

theorem tracks_search (hm : Mirrors f env.disk m) (hls : f.Lists) (q : String) (flt : Filter) :
    Tracks f ((search q flt).exec f env) ((MemoryStore.search q flt).exec m env) := by
  rw [MemoryStore.exec_search]
  cases hc : m.closed
  · rw [if_neg Bool.false_ne_true, exec_search (hm.holds hc) (hm.open hc) hls]
    exact tracks_unchanged hm rfl
  · rw [search, exec_ensureOpen_bind, hm.1.trans hc, if_pos rfl, if_pos rfl]
    exact tracks_closed hm

theorem tracks_getByEndpoint (hm : Mirrors f env.disk m) (hls : f.Lists) (e : String) :
    Tracks f ((getByEndpoint e).exec f env) ((MemoryStore.getByEndpoint e).exec m env) := by
  rw [MemoryStore.exec_getByEndpoint]
  cases hc : m.closed
  · rw [if_neg Bool.false_ne_true, exec_getByEndpoint (hm.holds hc) (hm.open hc) hls]
    cases m.records.find? (·.hasEndpoint e)
    · exact tracks_unchanged hm rfl
    · exact tracks_unchanged hm rfl
  · rw [getByEndpoint, exec_ensureOpen_bind, hm.1.trans hc, if_pos rfl, if_pos rfl]
    exact tracks_closed hm

theorem tracks_count (hm : Mirrors f env.disk m) (hls : f.Lists) :
    Tracks f (count.exec f env) (MemoryStore.count.exec m env) := by
  rw [MemoryStore.exec_count]
  cases hc : m.closed
  · rw [if_neg Bool.false_ne_true, exec_count (hm.holds hc) (hm.open hc) hls]
    exact tracks_unchanged hm rfl
  · rw [count, exec_bind_of_error (by rw [list, exec_ensureOpen_bind, hm.1.trans hc, if_pos rfl]),
      if_pos rfl]
    exact tracks_closed hm

theorem tracks_healthCheck (hm : Mirrors f env.disk m) (hls : f.Lists) :
    Tracks f (healthCheck.exec f env) (MemoryStore.healthCheck.exec m env) := by
  rw [MemoryStore.exec_healthCheck]
  cases hc : m.closed
  · rw [exec_healthCheck (hm.holds hc) (hm.open hc) hls]
    exact tracks_unchanged hm rfl
  · rw [healthCheck, exec_self_bind, hm.1.trans hc]
    exact tracks_unchanged hm rfl

theorem tracks_close :
    Tracks f (close.exec f env) (MemoryStore.close.exec m env) := by
  rw [exec_close, MemoryStore.exec_close]
  exact ⟨rfl, rfl, ⟨rfl, fun h => Bool.noConfusion h⟩, rfl⟩

end Tracking

end FileStore

end Plugboard
