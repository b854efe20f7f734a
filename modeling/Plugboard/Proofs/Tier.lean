import Plugboard.Proofs.StoreInterchange
/-!
# A tier keeps a memory store's records

Each tier that can stand behind a cache is described by the memory store whose records it keeps
(`Tier.Models`): a memory tier is that store, and a file tier mirrors it in its directory. The
stores that memory operations leave are `MemoryStore.Valid`: their records are keyed by id, and
a closed store holds none.

`Tier.step` says what one call does to a tier. A call the tier takes (a file tier takes the calls
whose ids it can make file names of) does to the modelled store what the memory store does, with
the same clock reading and, when the call names an id, an answer of the same kind. A call it does
not take fails and changes nothing. Reading a record the modelled store holds answers that record
and changes nothing (`Tier.exec_get_of_mem`).
-/

namespace Plugboard

open Act

namespace MemoryStore

variable {m : MemoryStore} {x : Registration} {env : Env}

/-- A memory store as its operations leave it: records keyed by id, and none once it is closed. -/
structure Valid (m : MemoryStore) : Prop where
  keyed : Keyed m.records
  empty_of_closed : m.closed = true → m.records = []

theorem valid_empty : Valid {} := ⟨List.Pairwise.nil, fun _ => rfl⟩

theorem valid_closed : Valid { records := [], closed := true } := ⟨List.Pairwise.nil, fun _ => rfl⟩

/-- A valid store that holds a record is open. -/
theorem Valid.open_of_mem (hv : m.Valid) (hx : x ∈ m.records) : m.closed = false := by
  cases hc : m.closed with
  | false => rfl
  | true =>
    rw [hv.empty_of_closed hc] at hx
    exact absurd hx List.not_mem_nil

theorem Valid.insert (hv : m.Valid) (hc : m.closed = false) (r : Registration) :
    (m.insert r).Valid where
  keyed := keyed_putIn hv.keyed
  empty_of_closed h := absurd (hc.symm.trans h) Bool.false_ne_true

theorem Valid.erase (hv : m.Valid) (id : String) : (m.erase id).Valid where
  keyed := keyed_removeFrom hv.keyed
  empty_of_closed h := by
    show removeFrom id m.records = []
    rw [hv.empty_of_closed h]
    rfl

/-- What one call can do to a memory store: nothing, put a record into the open store, take an
id out of it, or close it. -/
theorem call_state (c : StoreCall) (m : MemoryStore) (env : Env) :
    ((ops.call c).exec m env).2.1 = m ∨
      (m.closed = false ∧ ∃ r, ((ops.call c).exec m env).2.1 = m.insert r) ∨
      (∃ id, ((ops.call c).exec m env).2.1 = m.erase id) ∨
      ((ops.call c).exec m env).2.1 = { records := [], closed := true } := by
  cases c
  case close => exact .inr (.inr (.inr rfl))
  case healthCheck => exact .inl rfl
  all_goals
    simp only [StoreOps.call, ops, exec_map, exec_save, exec_get, exec_delete, exec_list,
      exec_update, updateStatus, updateMetrics, exec_modify, exec_getByEndpoint, exec_search,
      exec_count]
    split
    · exact .inl rfl
    rename_i hnc
    have hc : m.closed = false := Bool.of_not_eq_true hnc
    clear hnc
  case save r => exact .inr (.inl ⟨hc, r, rfl⟩)
  case delete id =>
    split
    · exact .inr (.inr (.inl ⟨id, rfl⟩))
    · exact .inl rfl
  case update r =>
    split
    · exact .inr (.inl ⟨hc, r, rfl⟩)
    · exact .inl rfl
  case updateStatus id s =>
    split
    · exact .inr (.inl ⟨hc, _, rfl⟩)
    · exact .inl rfl
  case updateMetrics id mt =>
    split
    · exact .inr (.inl ⟨hc, _, rfl⟩)
    · exact .inl rfl
  case get id => split <;> exact .inl rfl
  case getByEndpoint e => split <;> exact .inl rfl
  all_goals exact .inl rfl

/-- A call that only reads leaves a memory store, and the environment, as they were. -/
theorem exec_call_of_reads {c : StoreCall} (hc : c.reads = true) (m : MemoryStore) (env : Env) :
    ((ops.call c).exec m env).2 = (m, env) := by
  cases c <;> simp only [StoreCall.reads, Bool.false_eq_true] at hc <;>
    simp only [StoreOps.call, ops, exec_map, exec_get, exec_list, exec_getByEndpoint, exec_search,
      exec_count, exec_healthCheck]
  case get id | getByEndpoint e =>
    split
    · rfl
    · split <;> rfl
  case list flt | search q flt | count => split <;> rfl

/-- Every call keeps a memory store valid. -/
theorem Valid.call (hv : m.Valid) (c : StoreCall) (env : Env) :
    ((ops.call c).exec m env).2.1.Valid := by
  rcases call_state c m env with h | ⟨hc, r, h⟩ | ⟨id, h⟩ | h <;> rw [h]
  · exact hv
  · exact hv.insert hc r
  · exact hv.erase id
  · exact valid_closed

end MemoryStore

namespace FileStore

variable {f : FileStore} {d : Disk} {m : MemoryStore} {env : Env} {rs : List Registration}

instance (f : FileStore) (id : String) : Decidable (f.Fits id) :=
  inferInstanceAs (Decidable (_ ≤ _ ∧ _ < _))

instance (f : FileStore) (id : String) : Decidable (f.Takes id) :=
  inferInstanceAs (Decidable (_ = false ∧ f.Fits id))

theorem Holds.takes (hh : f.Holds d rs) {r : Registration} (hr : r ∈ rs) : f.Takes r.id := by
  obtain ⟨_, _, _, hl⟩ := hh
  exact hl.takes r hr

/-- A closed file store refuses every call that names an id, and changes nothing. -/
theorem exec_call_of_closed (hc : f.closed = true) {c : StoreCall} (hids : c.ids ≠ []) :
    (ops.call c).exec f env = (.error closedError, f, env) := by
  cases c
  case list | getByEndpoint | search | count | close | healthCheck => exact absurd rfl hids
  all_goals
    simp only [StoreOps.call, ops, exec_map, save, get, delete, update, updateStatus,
      updateMetrics, modify, exec_ensureOpen_bind, hc, if_true]
    rfl

/-- A call naming an id the store cannot take fails and changes nothing. -/
theorem Mirrors.refuses (hm : f.Mirrors env.disk m) {c : StoreCall}
    (ht : ¬ ∀ id ∈ c.ids, f.Takes id) : ∃ e, (ops.call c).exec f env = (.error e, f, env) := by
  have hids : c.ids ≠ [] := by
    intro h
    rw [h] at ht
    exact ht fun _ hid => absurd hid List.not_mem_nil
  cases hc : m.closed with
  | true => exact ⟨_, exec_call_of_closed (hm.1.trans hc) hids⟩
  | false =>
    have hh := hm.holds hc
    cases c <;> simp only [StoreCall.ids, List.mem_singleton, forall_eq] at ht
    case save r =>
      obtain ⟨e, he⟩ := exec_save_of_not_takes hh ht
      exact ⟨e, by rw [StoreOps.call, ops, exec_map, he]; rfl⟩
    case get id =>
      obtain ⟨e, he⟩ := exec_get_of_not_takes hh ht
      exact ⟨e, by rw [StoreOps.call, ops, exec_map, he]; rfl⟩
    case delete id =>
      obtain ⟨e, he⟩ := exec_delete_of_not_takes hh ht
      exact ⟨e, by rw [StoreOps.call, ops, exec_map, he]; rfl⟩
    case update r =>
      obtain ⟨e, he⟩ := exec_update_of_not_takes hh ht
      exact ⟨e, by rw [StoreOps.call, ops, exec_map, he]; rfl⟩
    case updateStatus id s =>
      obtain ⟨e, he⟩ := exec_modify_of_not_takes hh ht fun r => { r with status := s }
      exact ⟨e, by simp only [StoreOps.call, ops, exec_map, updateStatus, he]; rfl⟩
    case updateMetrics id mt =>
      obtain ⟨e, he⟩ := exec_modify_of_not_takes hh ht fun r => { r with metrics := some mt }
      exact ⟨e, by simp only [StoreOps.call, ops, exec_map, updateMetrics, he]; rfl⟩
    all_goals exact absurd hids (by simp [StoreCall.ids])

/-- A call whose ids the store takes keeps it a mirror of the memory store, with the same answers
and clock; a listing, which needs a readable directory for that, changes nothing on either side
in any case. -/
theorem Mirrors.step (hm : f.Mirrors env.disk m) (c : StoreCall) (ht : ∀ id ∈ c.ids, f.Takes id)
    (hrb : ∀ x ∈ ((MemoryStore.ops.call c).exec m env).2.1.records, x.ReadsBack) :
    Tracks f ((ops.call c).exec f env) ((MemoryStore.ops.call c).exec m env) ∨
      (c.ids = [] ∧ ((ops.call c).exec f env).2 = (f, env) ∧
        ((MemoryStore.ops.call c).exec m env).2 = (m, env)) := by
  cases c <;>
    simp only [StoreOps.call, ops, MemoryStore.ops, exec_map, updateStatus, updateMetrics,
      MemoryStore.updateStatus, MemoryStore.updateMetrics] at hrb ⊢ <;>
    simp only [StoreCall.ids, List.mem_singleton, forall_eq] at ht
  case save r => exact .inl ((tracks_save hm ht hrb).map _)
  case get id => exact .inl ((tracks_get hm id ht).map _)
  case delete id => exact .inl ((tracks_delete hm id ht).map _)
  case update r => exact .inl ((tracks_update hm ht hrb).map _)
  case updateStatus id s =>
    refine .inl ((tracks_modify hm id ht ?_ hrb).map _)
    intro r
    rfl
  case updateMetrics id mt =>
    refine .inl ((tracks_modify hm id ht ?_ hrb).map _)
    intro r
    rfl
  case close => exact .inl (tracks_close.map _)
  case list flt =>
    obtain ⟨o, ho⟩ := exec_list_frame f env flt
    refine .inr ⟨rfl, by rw [ho], ?_⟩
    rw [MemoryStore.exec_list]
    split <;> rfl
  case search q flt =>
    obtain ⟨o, ho⟩ := exec_search_frame f env q flt
    refine .inr ⟨rfl, by rw [ho], ?_⟩
    rw [MemoryStore.exec_search]
    split <;> rfl
  case getByEndpoint e =>
    obtain ⟨o, ho⟩ := exec_getByEndpoint_frame f env e
    refine .inr ⟨rfl, by rw [ho], ?_⟩
    rw [MemoryStore.exec_getByEndpoint]
    split
    · rfl
    · split <;> rfl
  case count =>
    obtain ⟨o, ho⟩ := exec_count_frame f env
    refine .inr ⟨rfl, by rw [ho], ?_⟩
    rw [MemoryStore.exec_count]
    split <;> rfl
  case healthCheck =>
    obtain ⟨o, ho⟩ := exec_healthCheck_frame f env
    exact .inr ⟨rfl, by rw [ho], rfl⟩

end FileStore

namespace MemoryStore

/-- Whether the records along a run read back does not depend on the disk. -/
theorem ReadableAlong.withDisk {cs : List StoreCall} {m : MemoryStore} {env : Env}
    (h : ReadableAlong cs m env) (d : Disk) : ReadableAlong cs m { env with disk := d } := by
  induction cs generalizing m env with
  | nil => exact h
  | cons c cs ih =>
    refine ⟨h.1, ?_⟩
    rw [exec_call_withDisk]
    exact ih h.2

end MemoryStore

namespace Tier

variable {b : Tier} {d : Disk} {m : MemoryStore} {env : Env}

/-- The memory store whose records a tier keeps: a memory tier is that store, a file tier mirrors
it in its directory. -/
def Models : Tier → Disk → MemoryStore → Prop
  | .memory m', _, m => m' = m
  | .file f, d, m => f.Mirrors d m

/-- Whether a tier can keep a record under an id: a memory tier always can, a file tier when the
id's file names fit. -/
def Takes : Tier → String → Prop
  | .memory _, _ => True
  | .file f, id => f.Takes id

instance : (b : Tier) → (id : String) → Decidable (b.Takes id)
  | .memory _, _ => isTrue trivial
  | .file f, id => inferInstanceAs (Decidable (f.Takes id))

/-- Whether a tier takes a call: it can keep every id the call names. -/
def TakesCall (b : Tier) (c : StoreCall) : Prop := ∀ id ∈ c.ids, b.Takes id

instance (b : Tier) (c : StoreCall) : Decidable (b.TakesCall c) :=
  inferInstanceAs (Decidable (∀ id ∈ c.ids, b.Takes id))

/-- What a tier needs of the records it keeps: a file tier, that each reads back. -/
def Keeps : Tier → MemoryStore → Prop
  | .memory _, _ => True
  | .file _, m => ∀ x ∈ m.records, x.ReadsBack

/-- Two tiers of one kind, over one directory when they are file tiers. -/
def Alike : Tier → Tier → Prop
  | .memory _, .memory _ => True
  | .file f, .file f' => f'.directory = f.directory
  | _, _ => False

theorem Alike.refl : ∀ b : Tier, Alike b b
  | .memory _ => trivial
  | .file _ => rfl

theorem Alike.takesCall {b' : Tier} (h : Alike b b') (c : StoreCall) :
    b'.TakesCall c ↔ b.TakesCall c := by
  cases b <;> cases b'
  · exact Iff.rfl
  · exact h.elim
  · exact h.elim
  · exact forall₂_congr fun id _ => FileStore.takes_congr h id

/-- Every record a tier comes to keep reads back where it must: for a file tier, every record of
the memory store's run of the calls the tier takes. -/
def ReadableAlong : Tier → List StoreCall → MemoryStore → Env → Prop
  | .memory _, _, _, _ => True
  | .file f, calls, m, env =>
    MemoryStore.ReadableAlong (calls.filter fun c => decide ((Tier.file f).TakesCall c)) m env

/-- Where the first call of a run is taken, the records it leaves are kept and the rest of the run
stays readable from there; where it is not, the rest stays readable from where the run was. -/
theorem ReadableAlong.cons {c : StoreCall} {cs : List StoreCall}
    (h : b.ReadableAlong (c :: cs) m env) :
    (b.TakesCall c → b.Keeps ((MemoryStore.ops.call c).exec m env).2.1 ∧
      ∀ b' env', Alike b b' → env'.clock = ((MemoryStore.ops.call c).exec m env).2.2.clock →
        b'.ReadableAlong cs ((MemoryStore.ops.call c).exec m env).2.1 env') ∧
    (¬ b.TakesCall c → ∀ b', Alike b b' → b'.ReadableAlong cs m env) := by
  cases b with
  | memory m₀ =>
    -- Nothing needs to read back in a memory tier, and only memory tiers are alike to it.
    have hmem : ∀ b' cs m env, Alike (.memory m₀) b' → b'.ReadableAlong cs m env := by
      intro b' cs m env hb'
      cases b' with
      | memory _ => trivial
      | file _ => exact hb'.elim
    exact ⟨fun _ => ⟨trivial, fun b' _ hb' _ => hmem b' _ _ _ hb'⟩,
      fun _ b' hb' => hmem b' _ _ _ hb'⟩
  | file f =>
    -- The file tiers alike take the same calls, so their runs filter alike.
    have hfilter : ∀ b', Alike (.file f) b' → ∀ cs : List StoreCall,
        b'.ReadableAlong cs = MemoryStore.ReadableAlong
          (cs.filter fun c => decide ((Tier.file f).TakesCall c)) := by
      intro b' hb' cs
      cases b' with
      | memory _ => exact hb'.elim
      | file f' =>
        show MemoryStore.ReadableAlong _ = _
        congr 1
        exact List.filter_congr fun c _ => decide_eq_decide.mpr (hb'.takesCall c)
    simp only [ReadableAlong, List.filter_cons] at h
    constructor
    · intro ht
      rw [if_pos (decide_eq_true ht)] at h
      refine ⟨h.2.now, fun b' env' hb' hclock => ?_⟩
      rw [hfilter b' hb']
      have henv : env' = { ((MemoryStore.ops.call c).exec m env).2.2 with disk := env'.disk } := by
        cases env'
        simp only at hclock
        rw [hclock]
      rw [henv]
      exact h.2.withDisk _
    · intro ht b' hb'
      rw [if_neg (by simpa using ht)] at h
      rw [hfilter b' hb']
      exact h

/-- What one call does to a tier that keeps the records of `m`. A call the tier takes leaves it
keeping the records the memory store's run leaves, with the same clock and, when the call names
an id, an answer of the same kind; a call it does not take fails and changes nothing. -/
theorem step (hb : b.Models env.disk m) (c : StoreCall)
    (hkeep : b.TakesCall c → b.Keeps ((MemoryStore.ops.call c).exec m env).2.1) :
    Alike b ((ops.call c).exec b env).2.1 ∧
    (b.TakesCall c →
      ((ops.call c).exec b env).2.1.Models ((ops.call c).exec b env).2.2.disk
        ((MemoryStore.ops.call c).exec m env).2.1 ∧
      ((ops.call c).exec b env).2.2.clock = ((MemoryStore.ops.call c).exec m env).2.2.clock ∧
      (c.ids ≠ [] →
        Outcome.Same ((ops.call c).exec b env).1 ((MemoryStore.ops.call c).exec m env).1)) ∧
    (¬ b.TakesCall c → ∃ e, (ops.call c).exec b env = (.error e, b, env)) := by
  cases b with
  | memory m' =>
    cases hb
    rw [exec_call_memory]
    exact ⟨trivial, fun _ => ⟨rfl, rfl, fun _ => Outcome.same_refl _⟩,
      fun h => absurd (fun _ _ => trivial) h⟩
  | file f =>
    rw [exec_call_file]
    by_cases ht : (Tier.file f).TakesCall c
    · refine ⟨?_, fun _ => ?_, fun h => absurd ht h⟩ <;>
        rcases FileStore.Mirrors.step hb c ht (hkeep ht) with ⟨hs, hc, hm, hd⟩ | ⟨hnil, hf, hr⟩
      · exact hd
      · rw [hf]
        exact rfl
      · exact ⟨hm, hc, fun _ => hs⟩
      · -- A listing changes nothing on either side.
        rw [hf, hr]
        exact ⟨hb, rfl, fun h => absurd hnil h⟩
    · obtain ⟨e, he⟩ := FileStore.Mirrors.refuses hb ht
      rw [he]
      exact ⟨Alike.refl _, fun h => absurd h ht, fun _ => ⟨e, rfl⟩⟩

/-- A tier answers a read of a record it keeps with that record, and changes nothing. -/
theorem exec_get_of_mem (hb : b.Models env.disk m) (hv : m.Valid) {x : Registration}
    (hx : x ∈ m.records) : (Tier.get x.id).exec b env = (.ok x, b, env) := by
  have hc := hv.open_of_mem hx
  have hf : MemoryStore.findIn x.id m.records = some x :=
    (MemoryStore.findIn_eq_some_iff hv.keyed).mpr ⟨hx, rfl⟩
  cases b with
  | memory m' =>
    cases hb
    rw [Tier.get, exec_run_memory, MemoryStore.exec_get, hc, if_neg Bool.false_ne_true, hf]
  | file f =>
    have hh := hb.holds hc
    rw [Tier.get, exec_run_file, FileStore.exec_get hh (hb.open hc) (hh.takes hx), hf]

/-- A closed tier fails a read as a closed memory store does, and changes nothing. -/
theorem exec_get_of_closed (hb : b.Models env.disk m) (hc : m.closed = true) (id : String) :
    ∃ e, (Tier.get id).exec b env = (.error e, b, env) ∧
      e.kind = MemoryStore.closedError.kind := by
  cases b with
  | memory m' =>
    cases hb
    rw [Tier.get, exec_run_memory, MemoryStore.exec_get, hc, if_pos rfl]
    exact ⟨_, rfl, rfl⟩
  | file f =>
    rw [Tier.get, exec_run_file, FileStore.get, FileStore.exec_ensureOpen_bind, hb.1.trans hc,
      if_pos rfl]
    exact ⟨_, rfl, rfl⟩

/-- A closed tier reports that it cannot serve, and changes nothing. -/
theorem exec_healthCheck_of_closed (hb : b.Models env.disk m) (hc : m.closed = true) :
    Tier.healthCheck.exec b env = (.ok false, b, env) := by
  cases b with
  | memory m' =>
    cases hb
    rw [Tier.healthCheck, exec_run_memory, MemoryStore.exec_healthCheck, hc]
    rfl
  | file f =>
    rw [Tier.healthCheck, exec_run_file, FileStore.healthCheck, exec_self_bind, hb.1.trans hc,
      if_pos rfl]
    rfl

end Tier

end Plugboard
