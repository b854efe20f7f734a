import Plugboard.Proofs.FileStore
import Plugboard.Proofs.StoreCalls
/-!
# The file store answers as the memory store does

A file store over a directory that starts out empty, and a memory store that starts out empty,
given the same calls one after another and reading the same clock, answer each call alike: the
same registrations in the same order, the same count, the same flag, or failures of the same
kind. This holds for calls whose ids the file store takes (`FileStore.Takes`: a file name can be
made of the id, and its temporary file `<id>.json.tmp` fits both the 255-byte name limit and,
joined to the directory, the 4096-byte path limit), when every registration the store comes to
hold reads back from its stored text as itself.

The path limit is needed: a directory `./////…` of 4095 bytes names the working directory, which
is empty, but no record path under it is shorter than 4096 bytes, so the file store fails where
the memory store answers (`FileStore.long_path_answer_differs`).

The proof is one induction over the calls: the file store mirrors the memory store before each
call (`FileStore.Mirrors`), and each call keeps it so (`FileStore.tracks_call`). The memory store
never reads the disk, so its run from the file store's environment is its own run.
-/

namespace Plugboard

theorem toList_pushn (s : String) (c : Char) (n : Nat) :
    (s.pushn c n).toList = s.toList ++ List.replicate n c := by
  induction n with
  | zero => simp [String.pushn, Nat.repeat]
  | succ n ih =>
    rw [String.pushn, Nat.repeat, ← String.pushn, String.toList_push, ih, List.replicate_succ',
      List.append_assoc]

theorem utf8ByteSize_pushn (s : String) (c : Char) (n : Nat) :
    (s.pushn c n).utf8ByteSize = s.utf8ByteSize + n * c.utf8Size := by
  induction n with
  | zero => simp [String.pushn, Nat.repeat]
  | succ n ih =>
    rw [String.pushn, Nat.repeat, ← String.pushn, String.utf8ByteSize_push, ih, Nat.succ_mul,
      Nat.add_assoc]

/-- The path `.` followed by separators has the one name `.`. -/
theorem components_dot_slashes (n : Nat) : PathText.components (".".pushn '/' n) = ["."] := by
  have hs : ∀ k, (List.replicate k '/').splitOn '/' = List.replicate (k + 1) [] := by
    intro k
    induction k with
    | zero => rfl
    | succ k ih =>
      rw [List.replicate_succ, show '/' :: List.replicate k '/' = [] ++ '/' :: List.replicate k '/'
        from rfl, List.splitOn_append_cons_self, ih]
      rfl
  unfold PathText.components
  rw [toList_pushn, show ".".toList ++ List.replicate n '/' = ['.'] ++ List.replicate n '/' from rfl]
  cases n with
  | zero => rfl
  | succ n =>
    rw [List.replicate_succ, List.splitOn_append_cons_self, hs]
    simp [List.splitOn]
    rfl

section DotSlashes

/-! The path `.` followed by `n` separators: the working directory, named by as many bytes as
one likes. -/

variable (n : Nat)

theorem utf8ByteSize_dot_slashes : (".".pushn '/' n).utf8ByteSize = n + 1 := by
  rw [utf8ByteSize_pushn]
  show 1 + n * 1 = n + 1
  omega

theorem nul_not_mem_dot_slashes : Char.ofNat 0 ∉ (".".pushn '/' n).toList := by
  rw [toList_pushn]
  simp [List.mem_replicate]

theorem isEmpty_dot_slashes : (".".pushn '/' n).isEmpty = false := by
  rw [String.isEmpty_eq_false_iff]
  intro h
  have h' := congrArg String.toList h
  rw [toList_pushn] at h'
  simp at h'

theorem isAbsolute_dot_slashes : PathText.isAbsolute (".".pushn '/' n) = false := by
  unfold PathText.isAbsolute
  rw [toList_pushn]
  rfl

/-- With at least one separator at its end, a name is joined to the path as it is. -/
theorem join_dot_slashes {name : String} (hn : 0 < n) (hname : PathText.isAbsolute name = false) :
    PathText.join (".".pushn '/' n) name = ".".pushn '/' n ++ name := by
  have hsep : PathText.endsWithSeparator (".".pushn '/' n) = true := by
    obtain ⟨k, rfl⟩ : ∃ k, n = k + 1 := ⟨n - 1, by omega⟩
    unfold PathText.endsWithSeparator
    rw [toList_pushn, List.replicate_succ', ← List.append_assoc, List.getLast?_concat]
    rfl
  unfold PathText.join
  rw [hname, isEmpty_dot_slashes, hsep]
  rfl

/-- The path `.` followed by separators names the working directory, empty on the empty disk. -/
theorem listDir_dot_slashes (hn : n < 4095) : Disk.empty.listDir (".".pushn '/' n) = .ok [] := by
  have hnul : (".".pushn '/' n).toList.contains (Char.ofNat 0) = false := by
    simpa using nul_not_mem_dot_slashes n
  have hlen : ¬ (".".pushn '/' n).utf8ByteSize ≥ Disk.pathMax := by
    rw [utf8ByteSize_dot_slashes]
    show ¬ n + 1 ≥ 4096
    omega
  unfold Disk.listDir Disk.locate Disk.origin
  simp only [hnul, hlen, isEmpty_dot_slashes, isAbsolute_dot_slashes, components_dot_slashes,
    Bool.false_eq_true, if_false]
  simp [Disk.nodeAt, Node.find, Node.step, Node.lookup, Disk.empty, Disk.nameMax]
  rfl

end DotSlashes

open Act

namespace MemoryStore

/-- A memory store never reads the disk: a call made with another disk answers the same and
leaves that disk as it was. -/
theorem exec_call_withDisk (c : StoreCall) (m : MemoryStore) (env : Env) (d : Disk) :
    (ops.call c).exec m { env with disk := d } =
      (((ops.call c).exec m env).1, ((ops.call c).exec m env).2.1,
        { ((ops.call c).exec m env).2.2 with disk := d }) := by
  cases c <;>
    simp only [StoreOps.call, ops, exec_map, exec_save, exec_get, exec_delete, exec_list,
      exec_update, updateStatus, updateMetrics, exec_modify, exec_getByEndpoint, exec_search,
      exec_count, exec_close, exec_healthCheck]
  -- past the check that the store is open, some calls look the id up first
  case get | delete | update | updateStatus | updateMetrics | getByEndpoint =>
    split
    · rfl
    · split <;> rfl
  case save | list | search | count => split <;> rfl

/-- Every record a memory store holds along a run of calls reads back. -/
def ReadableAlong : List StoreCall → MemoryStore → Env → Prop
  | [], m, _ => ∀ r ∈ m.records, r.ReadsBack
  | c :: cs, m, env =>
    (∀ r ∈ m.records, r.ReadsBack) ∧
      ReadableAlong cs ((ops.call c).exec m env).2.1 ((ops.call c).exec m env).2.2

theorem ReadableAlong.now {cs : List StoreCall} {m : MemoryStore} {env : Env}
    (h : ReadableAlong cs m env) : ∀ r ∈ m.records, r.ReadsBack := by
  cases cs with
  | nil => exact h
  | cons c cs => exact h.1

end MemoryStore

namespace FileStore

variable {α β : Type} {f : FileStore} {m : MemoryStore} {env : Env}

theorem takes_congr {f' : FileStore} (h : f'.directory = f.directory) (id : String) :
    f'.Takes id ↔ f.Takes id := by
  simp only [Takes, Fits, h]

theorem lists_congr {f' : FileStore} (h : f'.directory = f.directory) : f'.Lists ↔ f.Lists := by
  simp only [Lists, h]

theorem Tracks.map {rf : Outcome α × FileStore × Env} {rm : Outcome α × MemoryStore × Env}
    (h : Tracks f rf rm) (k : α → β) : Tracks f (rf.1.map k, rf.2) (rm.1.map k, rm.2) :=
  ⟨h.1.map k, h.2⟩

/-- Each call the file store takes does what it does on the memory store it mirrors. -/
theorem tracks_call (hm : Mirrors f env.disk m) (hls : f.Lists) (c : StoreCall)
    (ht : ∀ id ∈ c.ids, f.Takes id)
    (hrb : ∀ x ∈ ((MemoryStore.ops.call c).exec m env).2.1.records, x.ReadsBack) :
    Tracks f ((ops.call c).exec f env) ((MemoryStore.ops.call c).exec m env) := by
  cases c <;>
    simp only [StoreOps.call, ops, MemoryStore.ops, exec_map, updateStatus, updateMetrics,
      MemoryStore.updateStatus, MemoryStore.updateMetrics] at hrb ⊢ <;>
    simp only [StoreCall.ids, List.mem_singleton, forall_eq] at ht
  case save r => exact (tracks_save hm ht hrb).map _
  case get id => exact (tracks_get hm id ht).map _
  case delete id => exact (tracks_delete hm id ht).map _
  case list flt => exact (tracks_list hm hls flt).map _
  case update r => exact (tracks_update hm ht hrb).map _
  case updateStatus id s =>
    refine (tracks_modify hm id ht ?_ hrb).map _
    intro r
    rfl
  case updateMetrics id mt =>
    refine (tracks_modify hm id ht ?_ hrb).map _
    intro r
    rfl
  case getByEndpoint e => exact (tracks_getByEndpoint hm hls e).map _
  case search q flt => exact (tracks_search hm hls q flt).map _
  case count => exact tracks_count hm hls |>.map _
  case close => exact tracks_close.map _
  case healthCheck => exact tracks_healthCheck hm hls |>.map _

/-- Run after run, a file store mirroring a memory store answers every call as the memory store
does, with the same clock readings. -/
theorem answers_same_of_mirrors {f : FileStore} {m : MemoryStore} {envF envM : Env}
    (calls : List StoreCall) (hm : Mirrors f envF.disk m) (hls : f.Lists)
    (hclock : envF.clock = envM.clock) (hids : ∀ c ∈ calls, ∀ id ∈ c.ids, f.Takes id)
    (hrb : MemoryStore.ReadableAlong calls m envM) :
    List.Forall₂ Outcome.Same (ops.answers calls f envF) (MemoryStore.ops.answers calls m envM) := by
  induction calls generalizing f m envF envM with
  | nil => exact .nil
  | cons c cs ih =>
    -- The memory store's run from the file store's environment differs only in the disk.
    have henv : envF = { envM with disk := envF.disk } := by
      cases envF
      cases envM
      cases hclock
      rfl
    have hmem := MemoryStore.exec_call_withDisk c m envM envF.disk
    rw [← henv] at hmem
    have ht := tracks_call hm hls c (hids c List.mem_cons_self)
      (by rw [hmem]; exact hrb.2.now)
    rw [hmem] at ht
    obtain ⟨hsame, hclock', hm', hdir⟩ := ht
    rw [StoreOps.answers_cons, StoreOps.answers_cons]
    refine .cons hsame (ih hm' ((lists_congr hdir).mpr hls) hclock' ?_ hrb.2)
    intro c' hc' id hid
    exact (takes_congr hdir id).mpr (hids c' (List.mem_cons_of_mem c hc') id hid)

/-- A file store over a listed empty directory mirrors the empty memory store, and can list. -/
theorem mirrors_empty_of_listDir {f : FileStore} {d : Disk} (hopen : f.closed = false)
    (h : d.listDir f.directory = .ok []) : Mirrors f d {} ∧ f.Lists := by
  obtain ⟨here, es, hd, hes, hp, hne⟩ := Disk.dirAt_of_listDir h
  obtain rfl : es = [] := List.map_eq_nil_iff.mp hes
  have hl : f.Layout [] [] :=
    { noNul := hp.1
      sorted := List.Pairwise.nil
      file := fun _ hr => absurd hr List.not_mem_nil
      only := fun _ _ hv => by simp [Node.lookup] at hv
      keyed := List.Pairwise.nil
      readsBack := fun _ hr => absurd hr List.not_mem_nil
      takes := fun _ hr => absurd hr List.not_mem_nil }
  exact ⟨⟨hopen, fun _ => ⟨here, [], hd, hl⟩⟩, hp, hne⟩

/-- Calls whose ids the file store takes get the same answers from a file store over an empty
directory as from an empty memory store reading the same clock, when every registration the
store comes to hold reads back. -/
theorem answers_same_as_memory (f : FileStore) (env : Env) (calls : List StoreCall)
    (hopen : f.closed = false) (hdir : env.disk.listDir f.directory = .ok [])
    (hids : ∀ c ∈ calls, ∀ id ∈ c.ids, f.Takes id)
    (hrb : MemoryStore.ReadableAlong calls {} env) :
    List.Forall₂ Outcome.Same (ops.answers calls f env) (MemoryStore.ops.answers calls {} env) := by
  obtain ⟨hm, hls⟩ := mirrors_empty_of_listDir hopen hdir
  exact answers_same_of_mirrors calls hm hls rfl hids hrb

/-- A registration stamped at the clock's first reading. -/
def plainRecord : Registration := Registration.create "p" "P" "1.0" (Clock.instantOf 1)

/-- The same registration with a description. -/
def describedRecord : Registration := { plainRecord with description := "Formats text" }

theorem id_plainRecord : plainRecord.id = "p" := rfl

theorem id_describedRecord : describedRecord.id = "p" := rfl

theorem readsBack_plainRecord : plainRecord.ReadsBack :=
  Registration.readsBack_of_checked rfl rfl rfl (by decide +kernel)

theorem readsBack_describedRecord : describedRecord.ReadsBack :=
  Registration.readsBack_of_checked rfl rfl rfl (by decide +kernel)

/-- A registration saved, read, replaced by a described one, listed, deleted, missed and
counted. -/
def storedCalls : List StoreCall :=
  [.save plainRecord, .get "p", .update describedRecord, .list {}, .delete "p", .get "p", .count]

/-- A file store over the working directory, empty on the empty disk, answers a registration
saved, read, replaced, listed, deleted, missed and counted as a memory store does. -/
theorem stored_record_same_as_memory :
    ({ directory := "." } : FileStore).closed = false ∧ ({} : Env).disk.listDir "." = .ok [] ∧
      (∀ c ∈ storedCalls, ∀ id ∈ c.ids, ({ directory := "." } : FileStore).Takes id) ∧
      MemoryStore.ReadableAlong storedCalls {} {} ∧
      List.Forall₂ Outcome.Same (ops.answers storedCalls { directory := "." } {})
        (MemoryStore.ops.answers storedCalls {} {}) := by
  have hopen : ({ directory := "." } : FileStore).closed = false := rfl
  have hdir : ({} : Env).disk.listDir "." = .ok [] := listDir_dot_slashes 0 (by omega)
  have hids : ∀ c ∈ storedCalls, ∀ id ∈ c.ids, ({ directory := "." } : FileStore).Takes id := by
    have hp : ({ directory := "." } : FileStore).Takes "p" := ⟨by decide, by decide, by decide⟩
    intro c hc id hid
    simp only [storedCalls, List.mem_cons, List.not_mem_nil, or_false] at hc
    rcases hc with rfl | rfl | rfl | rfl | rfl | rfl | rfl <;>
      simp only [StoreCall.ids, id_plainRecord, id_describedRecord, List.mem_singleton,
        List.not_mem_nil] at hid <;>
      (subst hid; exact hp)
  -- the memory store holds the plain record, then the described one, then nothing
  have hrb : MemoryStore.ReadableAlong storedCalls {} {} := by
    simp only [storedCalls, MemoryStore.ReadableAlong, List.not_mem_nil, IsEmpty.forall_iff,
      implies_true, StoreOps.call, MemoryStore.ops, exec_map, MemoryStore.exec_save,
      Bool.false_eq_true, ↓reduceIte, MemoryStore.insert, MemoryStore.putIn, List.mem_cons,
      or_false, forall_eq, readsBack_plainRecord, MemoryStore.exec_get, MemoryStore.findIn,
      id_plainRecord, MemoryStore.exec_update, id_describedRecord, readsBack_describedRecord,
      MemoryStore.exec_list, MemoryStore.exec_delete, MemoryStore.erase, MemoryStore.removeFrom,
      MemoryStore.exec_count, List.length_nil, and_self]
  exact ⟨hopen, hdir, hids, hrb, answers_same_as_memory _ _ _ hopen hdir hids hrb⟩

/-- A directory path of 4095 bytes may name the working directory, empty on the empty disk, while
every record path under it is longer than the disk takes: a read there fails as a storage
failure, not as a missing record. -/
theorem long_path_answer_differs :
    ∃ (f : FileStore) (env : Env) (calls : List StoreCall),
      f.closed = false ∧ env.disk.listDir f.directory = .ok [] ∧
      (∀ c ∈ calls, ∀ id ∈ c.ids, badId id = false ∧ (tempName id).utf8ByteSize ≤ Disk.nameMax) ∧
      MemoryStore.ReadableAlong calls {} env ∧
      ¬ List.Forall₂ Outcome.Same (ops.answers calls f env) (MemoryStore.ops.answers calls {} env) := by
  -- The number of separators is kept abstract, so that no step unfolds the path.
  obtain ⟨n, hn⟩ : ∃ n, n = 4094 := ⟨_, rfl⟩
  have hb : badId "p" = false := by decide
  have hpath := join_dot_slashes n (by omega)
    (PathText.isAbsolute_eq_false_of_not_mem (plain_recordName hb).2.1)
  have hread : ({} : Env).disk.readFile (PathText.join
      ({ directory := ".".pushn '/' n } : FileStore).directory (recordName "p")) =
      .error .nameTooLong := by
    dsimp only
    refine Disk.readFile_of_locate (Disk.locate_of_long ?_ ?_)
    · rw [hpath, String.toList_append, List.mem_append, not_or]
      exact ⟨nul_not_mem_dot_slashes n, nul_not_mem_recordName hb⟩
    · rw [hpath, String.utf8ByteSize_append, utf8ByteSize_dot_slashes]
      show 4096 ≤ n + 1 + 6
      omega
  refine ⟨{ directory := ".".pushn '/' n }, {}, [.get "p"], rfl, ?_, ?_, ?_, ?_⟩
  · dsimp only
    exact listDir_dot_slashes n (by omega)
  · intro c hc i hi
    simp only [List.mem_singleton] at hc
    subst hc
    simp only [StoreCall.ids, List.mem_singleton] at hi
    subst hi
    exact ⟨hb, by decide⟩
  · exact ⟨fun _ hr => absurd hr List.not_mem_nil, fun _ hr => absurd hr List.not_mem_nil⟩
  · intro h
    rw [StoreOps.answers_cons, StoreOps.answers_cons, List.forall₂_cons] at h
    have hfile := exec_readRecord_of_refused hb hread (by decide)
    -- The file store fails as storage, the memory store as a missing record.
    simp only [StoreOps.call, ops, MemoryStore.ops, exec_map, get, exec_ensureOpen_bind,
      if_neg Bool.false_ne_true, hfile, MemoryStore.exec_get, MemoryStore.findIn, Except.map,
      Outcome.same_error, Error.kind] at h
    exact absurd h.1 (by decide)

end FileStore

end Plugboard
