import Plugboard.Runtime.Interleaved
import Mathlib.Data.List.Perm.Basic
/-!
# Manager calls on one id that overlap

Whatever the interleaving, a load reserves the id before it admits its plugin and gives the
reservation back when it puts the plugin in, so no two loads are past their reservation at once,
and every load that succeeds is matched by an unload that succeeds, but for a plugin loaded now
and not before (`Balanced`).

The rest holds only when no unload overlaps another call on the id. An unload forgets the plugin
by id, after letting its instance out of the sandbox; calls that looked the instance up before
and wait for its mutex look the plugin up again by id afterwards. In runs where every unload has
the id to itself, every call that holds an instance holds the managed one, so every record a
start, a stop or a sample writes is its own instance's, and once all calls have returned the
sandbox admits the id exactly when there is a plugin (`Tied`,
`interleaved_calls_keep_bookkeeping`). Without that, a start that looked the instance up before
an unload and a reload records its outcome on the new plugin, two loads in flight together both
succeed around an unload, and two unloads of one plugin, one looking it up before a reload, can
forget the plugin a third load put in while leaving it admitted
(`overlapping_calls_cross_plugins`).

Each invariant is proved by one lemma over the steps, in terms of what a step does to what it
reads (`Effect`, `Task.step_effect`), and carried along runs by `Along.keeps`.
-/

namespace Plugboard

namespace Manager

namespace Task

/-- Started and not returned. -/
def busy : Task → Bool
  | .call _ => false
  | .done _ _ => false
  | _ => true

/-- A call to unload. -/
def unloads : Task → Bool
  | .call .unload => true
  | .acquiring _ .unload => true
  | .unloading _ => true
  | .stopping _ => true
  | .cleaning _ => true
  | .unadmitting _ => true
  | .forgetting _ => true
  | .done .unload _ => true
  | _ => false

/-- A load holding the id's reservation. -/
def reserves : Task → Bool
  | .admitting _ _ => true
  | .preparing _ _ => true
  | .leaving => true
  | .releasing => true
  | .inserting _ _ => true
  | _ => false

/-- A load whose plugin the sandbox admits. -/
def admits : Task → Bool
  | .preparing _ _ => true
  | .leaving => true
  | .inserting _ _ => true
  | _ => false

/-- An unload past the plugin's removal from the sandbox. -/
def forgets : Task → Bool
  | .forgetting _ => true
  | _ => false

/-- The managed instance a call holds, looked up by id before it took the instance's mutex. -/
def holds : Task → Option Nat
  | .acquiring h _ => some h
  | .checking h _ => some h
  | .stepping h _ => some h
  | .recording h _ _ => some h
  | .unloading h => some h
  | .stopping h => some h
  | .cleaning h => some h
  | .unadmitting h => some h
  | .forgetting h => some h
  | .delivering h => some h
  | .sampling h _ => some h
  | .judging h _ => some h
  | .noting h _ => some h
  | _ => none

/-- A load that succeeded. -/
def loadedOk : Task → Bool
  | .done .load true => true
  | _ => false

/-- An unload that succeeded. -/
def unloadedOk : Task → Bool
  | .done .unload true => true
  | _ => false

theorem reserves_of_admits {t : Task} (h : t.admits = true) : t.reserves = true := by
  cases t <;> simp_all [admits, reserves]

/-- A call not in the middle of its work holds nothing. -/
theorem idle {t : Task} (h : t.busy = false) :
    t.reserves = false ∧ t.admits = false ∧ t.forgets = false ∧ t.holds = none := by
  cases t <;> simp_all [busy, reserves, admits, forgets, holds]

end Task

-- ---------------------------------------------------------------------------
-- What a step does
-- ---------------------------------------------------------------------------

/-- What one step does to what the invariants read: the reservation, the sandbox, the plugin's
instance, the record writes, and the task's own standing. -/
inductive Effect : Task → Shared → Task → Shared → Prop
  /-- Changes none of it; the call may come to hold the managed instance, or let its own go. -/
  | quiet {t t' : Task} {s s' : Shared}
      (flags : t'.reserves = t.reserves ∧ t'.admits = t.admits ∧ t'.forgets = t.forgets ∧
        t'.loadedOk = t.loadedOk ∧ t'.unloadedOk = t.unloadedOk)
      (shared : s'.reserved = s.reserved ∧ s'.admitted = s.admitted ∧ s'.writes = s.writes ∧
        s'.entry.map Prod.fst = s.entry.map Prod.fst)
      (holds : ∀ h, t'.holds = some h → t.holds = some h ∨ s.entry.map Prod.fst = some h) :
      Effect t s t' s'
  | reserve {h : Nat} {info : Instant → PluginInfo} {s : Shared} (vacant : s.entry = none)
      (free : s.reserved = false) :
      Effect (.reserving h info) s (.admitting h info) { s with reserved := true }
  | enter {h : Nat} {info : Instant → PluginInfo} {s : Shared} (out : s.admitted = false) :
      Effect (.admitting h info) s (.preparing h info) { s with admitted := true }
  | leave {s : Shared} : Effect .leaving s .releasing { s with admitted := false }
  | release {s : Shared} : Effect .releasing s (.done .load false) { s with reserved := false }
  | insert {h : Nat} {info : Instant → PluginInfo} {s s' : Shared}
      (shared : s'.reserved = false ∧ s'.admitted = s.admitted ∧ s'.writes = s.writes ∧
        s'.entry.map Prod.fst = some h) :
      Effect (.inserting h info) s (.done .load true) s'
  /-- A record written after a start, a stop or a sample. -/
  | record {t t' : Task} {s s' : Shared} {h h' : Nat} {info : PluginInfo}
      (holding : t.holds = some h) (entry : s.entry = some (h', info))
      (flags : t.reserves = false ∧ t.admits = false ∧ t.forgets = false ∧ t.loadedOk = false ∧
        t.unloadedOk = false ∧ t'.busy = false ∧ t'.loadedOk = false ∧ t'.unloadedOk = false)
      (shared : s'.reserved = s.reserved ∧ s'.admitted = s.admitted ∧
        s'.writes = (h, h') :: s.writes ∧ s'.entry.map Prod.fst = some h') :
      Effect t s t' s'
  | dismiss {h : Nat} {s : Shared} :
      Effect (.unadmitting h) s (.forgetting h) { s with admitted := false }
  | forget {h : Nat} {s s' : Shared}
      (shared : s'.reserved = s.reserved ∧ s'.admitted = s.admitted ∧ s'.writes = s.writes ∧
        s'.entry = none) :
      Effect (.forgetting h) s (.done .unload true) s'

/-- A step that changes nothing the invariants read, where the call keeps what it held. -/
theorem Effect.same {t t' : Task} {s s' : Shared}
    (flags : t'.reserves = t.reserves ∧ t'.admits = t.admits ∧ t'.forgets = t.forgets ∧
      t'.loadedOk = t.loadedOk ∧ t'.unloadedOk = t.unloadedOk)
    (shared : s'.reserved = s.reserved ∧ s'.admitted = s.admitted ∧ s'.writes = s.writes ∧
      s'.entry.map Prod.fst = s.entry.map Prod.fst)
    (holds : t'.holds = none ∨ t'.holds = t.holds) : Effect t s t' s' :=
  .quiet flags shared fun h ht => by
    rcases holds with hn | hs
    · rw [hn] at ht
      cases ht
    · exact .inl (hs ▸ ht)

/-- A step after which the call holds the instance it found managed, changing nothing else. -/
theorem Effect.lookedUp {t t' : Task} {s : Shared} {h : Nat} {info : PluginInfo}
    (he : s.entry = some (h, info)) (ht' : t'.holds = some h)
    (flags : t'.reserves = t.reserves ∧ t'.admits = t.admits ∧ t'.forgets = t.forgets ∧
      t'.loadedOk = t.loadedOk ∧ t'.unloadedOk = t.unloadedOk) : Effect t s t' s :=
  .quiet flags ⟨rfl, rfl, rfl, rfl⟩ fun h' hh => .inr (by
    rw [he, ← Option.some.inj (ht'.symm.trans hh)]
    rfl)

namespace Task

/-- Looking the instance up makes the call hold the managed one. -/
theorem effect_lookup (next : Holding) (k : Kind) (t : Task) (s : Shared)
    (hf : t.reserves = false ∧ t.admits = false ∧ t.forgets = false ∧ t.loadedOk = false ∧
      t.unloadedOk = false) :
    Effect t s (lookup next k s).1 (lookup next k s).2 := by
  unfold lookup
  split
  · refine Effect.same ?_ ⟨rfl, rfl, rfl, rfl⟩ (.inl rfl)
    simp_all [reserves, admits, forgets, loadedOk, unloadedOk]
  · rename_i h _ he
    cases next <;> exact Effect.lookedUp he rfl (by simp_all [reserves, admits, forgets, loadedOk, unloadedOk])

/-- Every step does one of the things `Effect` lists. -/
theorem step_effect (o : Option Error) (t : Task) (s : Shared) :
    Effect t s (t.step o s).1 (t.step o s).2 := by
  cases t with
  | call c =>
    cases c with
    | load md path native =>
      simp only [step, Request.begin]
      split <;> exact Effect.same (by simp [reserves, admits, forgets, loadedOk, unloadedOk])
        ⟨rfl, rfl, rfl, rfl⟩ (.inl rfl)
    | lifecycle m => exact effect_lookup _ _ _ s ⟨rfl, rfl, rfl, rfl, rfl⟩
    | unload => exact effect_lookup _ _ _ s ⟨rfl, rfl, rfl, rfl, rfl⟩
    | sendEvent => exact effect_lookup _ _ _ s ⟨rfl, rfl, rfl, rfl, rfl⟩
    | processData => exact effect_lookup _ _ _ s ⟨rfl, rfl, rfl, rfl, rfl⟩
    | broadcast =>
      simp only [step, Request.begin]
      split
      · exact Effect.same ⟨rfl, rfl, rfl, rfl, rfl⟩ ⟨rfl, rfl, rfl, rfl⟩ (.inl rfl)
      · rename_i h info he
        exact Effect.lookedUp he rfl ⟨rfl, rfl, rfl, rfl, rfl⟩
    | sample status =>
      simp only [step, Request.begin]
      split
      · rename_i h info he
        split
        · exact Effect.lookedUp he rfl ⟨rfl, rfl, rfl, rfl, rfl⟩
        · exact Effect.same ⟨rfl, rfl, rfl, rfl, rfl⟩ ⟨rfl, rfl, rfl, rfl⟩ (.inl rfl)
      · exact Effect.same ⟨rfl, rfl, rfl, rfl, rfl⟩ ⟨rfl, rfl, rfl, rfl⟩ (.inl rfl)
  | reserving h info =>
    simp only [step]
    split
    · exact Effect.same ⟨rfl, rfl, rfl, rfl, rfl⟩ ⟨rfl, rfl, rfl, rfl⟩ (.inl rfl)
    · rename_i hfree
      simp only [Bool.or_eq_true, not_or, Option.isSome_iff_ne_none, ne_eq, not_not,
        Bool.not_eq_true] at hfree
      exact .reserve hfree.1 hfree.2
  | admitting h info =>
    simp only [step]
    split
    · exact Effect.same ⟨rfl, rfl, rfl, rfl, rfl⟩ ⟨rfl, rfl, rfl, rfl⟩ (.inl rfl)
    · rename_i hout
      simp only [Bool.or_eq_true, not_or, Bool.not_eq_true] at hout
      exact .enter hout.1
  | preparing h info =>
    simp only [step]
    split <;> exact Effect.same ⟨rfl, rfl, rfl, rfl, rfl⟩ ⟨rfl, rfl, rfl, rfl⟩ (.inl rfl)
  | leaving => exact .leave
  | releasing => exact .release
  | inserting h info => exact .insert ⟨rfl, rfl, rfl, rfl⟩
  | acquiring h next =>
    simp only [step]
    split
    · exact Effect.same ⟨rfl, rfl, rfl, rfl, rfl⟩ ⟨rfl, rfl, rfl, rfl⟩ (.inr rfl)
    · cases next <;>
        exact Effect.same ⟨rfl, rfl, rfl, rfl, rfl⟩ ⟨rfl, rfl, rfl, rfl⟩ (.inr rfl)
  | checking h m =>
    simp only [step]
    split
    · exact Effect.same ⟨rfl, rfl, rfl, rfl, rfl⟩ ⟨rfl, rfl, rfl, rfl⟩ (.inl rfl)
    · split <;> exact Effect.same ⟨rfl, rfl, rfl, rfl, rfl⟩ ⟨rfl, rfl, rfl, rfl⟩ (by simp [holds])
  | stepping h m => exact Effect.same ⟨rfl, rfl, rfl, rfl, rfl⟩ ⟨rfl, rfl, rfl, rfl⟩ (.inr rfl)
  | recording h m r =>
    simp only [step]
    split
    · exact Effect.same ⟨rfl, rfl, rfl, rfl, rfl⟩ ⟨rfl, rfl, rfl, rfl⟩ (.inl rfl)
    · rename_i h' info he
      exact .record rfl he ⟨rfl, rfl, rfl, rfl, rfl, rfl, rfl, rfl⟩ ⟨rfl, rfl, rfl, rfl⟩
    · rename_i h' info e he
      exact .record rfl he ⟨rfl, rfl, rfl, rfl, rfl, rfl, rfl, rfl⟩ ⟨rfl, rfl, rfl, rfl⟩
  | unloading h =>
    simp only [step]
    split
    · exact Effect.same ⟨rfl, rfl, rfl, rfl, rfl⟩ ⟨rfl, rfl, rfl, rfl⟩ (.inl rfl)
    · split <;> exact Effect.same ⟨rfl, rfl, rfl, rfl, rfl⟩ ⟨rfl, rfl, rfl, rfl⟩ (.inr rfl)
  | stopping h => exact Effect.same ⟨rfl, rfl, rfl, rfl, rfl⟩ ⟨rfl, rfl, rfl, rfl⟩ (.inr rfl)
  | cleaning h => exact Effect.same ⟨rfl, rfl, rfl, rfl, rfl⟩ ⟨rfl, rfl, rfl, rfl⟩ (.inr rfl)
  | unadmitting h => exact .dismiss
  | forgetting h => exact .forget ⟨rfl, rfl, rfl, rfl⟩
  | delivering h => exact Effect.same ⟨rfl, rfl, rfl, rfl, rfl⟩ ⟨rfl, rfl, rfl, rfl⟩ (.inl rfl)
  | sampling h status =>
    exact Effect.same ⟨rfl, rfl, rfl, rfl, rfl⟩ ⟨rfl, rfl, rfl, rfl⟩ (.inr rfl)
  | judging h usage => exact Effect.same ⟨rfl, rfl, rfl, rfl, rfl⟩ ⟨rfl, rfl, rfl, rfl⟩ (.inr rfl)
  | noting h usage =>
    simp only [step]
    split
    · exact Effect.same ⟨rfl, rfl, rfl, rfl, rfl⟩ ⟨rfl, rfl, rfl, rfl⟩ (.inl rfl)
    · rename_i h' info he
      exact .record rfl he ⟨rfl, rfl, rfl, rfl, rfl, rfl, rfl, rfl⟩ ⟨rfl, rfl, rfl, rfl⟩
  | done k ok => exact Effect.same ⟨rfl, rfl, rfl, rfl, rfl⟩ ⟨rfl, rfl, rfl, rfl⟩ (.inr rfl)

end Task

-- ---------------------------------------------------------------------------
-- Runs
-- ---------------------------------------------------------------------------

/-- Whether every step of a schedule meets `C`, which reads the task that steps and the others. -/
def Along (C : Task → List Task → Bool) : List Task → List (Nat × Option Error) → Shared → Bool
  | _, [], _ => true
  | ts, (i, o) :: sch, s =>
    (match ts[i]? with
      | none => true
      | some t => C t (ts.eraseIdx i)) && Along C (stepAt ts i o s).1 sch (stepAt ts i o s).2

/-- A step that no unload shares: when `t` or another call is an unload, that other call is not
in the middle of its work. -/
def aloneWith (t : Task) (others : List Task) : Bool :=
  others.all fun u => !u.busy || !(u.unloads || t.unloads)

theorem along_true (ts : List Task) (sch : List (Nat × Option Error)) (s : Shared) :
    Along (fun _ _ => true) ts sch s = true := by
  induction sch generalizing ts s with
  | nil => rfl
  | cons p sch ih =>
    obtain ⟨i, o⟩ := p
    simp only [Along, ih, Bool.and_true]
    split <;> rfl

/-- Stepping the task at `i` leaves the others as they were. -/
theorem stepAt_perm {ts : List Task} {i : Nat} {t : Task} (ht : ts[i]? = some t)
    (o : Option Error) (s : Shared) :
    ts.Perm (t :: ts.eraseIdx i) ∧
      (stepAt ts i o s).1.Perm ((t.step o s).1 :: ts.eraseIdx i) ∧
      (stepAt ts i o s).2 = (t.step o s).2 := by
  obtain ⟨hlt, hget⟩ := List.getElem?_eq_some_iff.mp ht
  unfold stepAt
  rw [ht]
  refine ⟨(hget ▸ List.getElem_cons_eraseIdx_perm hlt).symm, ?_, rfl⟩
  have hlt' : i < (ts.set i (t.step o s).1).length := by simpa using hlt
  have hperm := List.getElem_cons_eraseIdx_perm hlt'
  rw [List.getElem_set_self, List.eraseIdx_set_eq] at hperm
  exact hperm.symm

/-- An invariant that does not depend on the order of the tasks, and that every step meeting
`C` keeps, holds after every run whose steps all meet `C`. -/
theorem Along.keeps {I : Shared → List Task → Prop} {C : Task → List Task → Bool}
    (hperm : ∀ {s ts ts'}, ts.Perm ts' → I s ts → I s ts')
    (hstep : ∀ o t O s, C t O = true → I s (t :: O) → I (t.step o s).2 ((t.step o s).1 :: O))
    {ts : List Task} {sch : List (Nat × Option Error)} {s : Shared}
    (hc : Along C ts sch s = true) (h : I s ts) :
    I (interleave ts sch s).2 (interleave ts sch s).1 := by
  induction sch generalizing ts s with
  | nil => exact h
  | cons p sch ih =>
    obtain ⟨i, o⟩ := p
    simp only [Along, Bool.and_eq_true] at hc
    apply ih hc.2
    cases ht : ts[i]? with
    | none =>
      simp only [stepAt, ht]
      exact h
    | some t =>
      simp only [ht] at hc
      obtain ⟨hp, hp', hs⟩ := stepAt_perm ht o s
      rw [hs]
      exact hperm hp'.symm (hstep o t _ s hc.1 (hperm hp h))

-- ---------------------------------------------------------------------------
-- The reservation, and loads against unloads
-- ---------------------------------------------------------------------------

/-- What every run keeps of the reservation: at most one load holds it, the flag says whether
one does, and while one does there is no plugin. -/
structure Reservation (s : Shared) (ts : List Task) : Prop where
  single : ts.countP Task.reserves ≤ 1
  flag : s.reserved = true ↔ 0 < ts.countP Task.reserves
  vacant : 0 < ts.countP Task.reserves → s.entry = none

theorem Reservation.perm {s : Shared} {ts ts' : List Task} (hp : ts.Perm ts')
    (h : Reservation s ts) : Reservation s ts' := by
  have hc := hp.countP_eq Task.reserves
  exact ⟨hc ▸ h.single, hc ▸ h.flag, hc ▸ h.vacant⟩

/-- The load holding the reservation is the only one: the others hold none. -/
theorem Reservation.others {s : Shared} {t : Task} {O : List Task} (h : Reservation s (t :: O))
    (ht : t.reserves = true) : O.countP Task.reserves = 0 := by
  have := h.single
  simp only [List.countP_cons, ht, if_true] at this
  omega

/-- The count over a list with one more task, as the count over the rest and the task's flag. -/
theorem countP_cons_toNat (p : Task → Bool) (t : Task) (O : List Task) :
    (t :: O).countP p = O.countP p + (p t).toNat := by
  rw [List.countP_cons]
  cases p t <;> rfl

theorem Reservation.cons_iff {s : Shared} {t : Task} {O : List Task} :
    Reservation s (t :: O) ↔
      O.countP Task.reserves + t.reserves.toNat ≤ 1 ∧
        (s.reserved = true ↔ 0 < O.countP Task.reserves + t.reserves.toNat) ∧
        (0 < O.countP Task.reserves + t.reserves.toNat → s.entry = none) := by
  rw [← countP_cons_toNat]
  exact ⟨fun ⟨a, b, c⟩ => ⟨a, b, c⟩, fun ⟨a, b, c⟩ => ⟨a, b, c⟩⟩

theorem Reservation.of_effect {t t' : Task} {s s' : Shared} {O : List Task}
    (he : Effect t s t' s') (h : Reservation s (t :: O)) : Reservation s' (t' :: O) := by
  rw [Reservation.cons_iff] at h ⊢
  obtain ⟨single, flag, vacant⟩ := h
  cases he with
  | quiet flags shared _ =>
    obtain ⟨hr, -⟩ := flags
    obtain ⟨hres, -, -, hent⟩ := shared
    rw [hr, hres]
    refine ⟨single, flag, fun hpos => ?_⟩
    rw [vacant hpos, Option.map_none] at hent
    exact Option.map_eq_none_iff.mp hent
  | reserve hvacant hfree =>
    simp only [Task.reserves, Bool.toNat_false, Bool.toNat_true, Nat.add_zero] at flag ⊢
    have hnone : O.countP Task.reserves = 0 := by
      rw [hfree] at flag
      exact Nat.eq_zero_of_not_pos fun hpos => Bool.false_ne_true (flag.mpr hpos)
    exact ⟨by omega, iff_of_true trivial (by omega), fun _ => hvacant⟩
  | enter _ => exact ⟨single, flag, vacant⟩
  | leave => exact ⟨single, flag, vacant⟩
  | release =>
    simp only [Task.reserves, Bool.toNat_false, Bool.toNat_true, Nat.add_zero] at single ⊢
    exact ⟨by omega, iff_of_false Bool.false_ne_true (by omega), fun _ => by omega⟩
  | insert shared =>
    obtain ⟨hres, -⟩ := shared
    simp only [Task.reserves, Bool.toNat_false, Bool.toNat_true, Nat.add_zero] at single ⊢
    rw [hres]
    exact ⟨by omega, iff_of_false Bool.false_ne_true (by omega), fun _ => by omega⟩
  | record _ hentry flags shared =>
    obtain ⟨hr, -, -, -, -, hidle, -⟩ := flags
    obtain ⟨hres, -, -, -⟩ := shared
    rw [hr] at single flag vacant
    rw [(Task.idle hidle).1, hres]
    refine ⟨single, flag, fun hpos => ?_⟩
    rw [vacant hpos] at hentry
    cases hentry
  | dismiss => exact ⟨single, flag, vacant⟩
  | forget shared =>
    obtain ⟨hres, -, -, hent⟩ := shared
    rw [hres]
    exact ⟨single, flag, fun _ => hent⟩

/-- Loads that succeeded are matched by unloads that succeeded, but for a plugin there is now
and was not before (`before`). -/
def Balanced (before : Bool) (s : Shared) (ts : List Task) : Prop :=
  ts.countP Task.loadedOk + before.toNat ≤ ts.countP Task.unloadedOk + s.entry.isSome.toNat

theorem Balanced.perm {before : Bool} {s : Shared} {ts ts' : List Task} (hp : ts.Perm ts')
    (h : Balanced before s ts) : Balanced before s ts' := by
  unfold Balanced at h ⊢
  rw [← hp.countP_eq, ← hp.countP_eq]
  exact h

/-- A plugin is put in only where there is none, as its load holds the reservation. -/
theorem Balanced.of_effect {before : Bool} {t t' : Task} {s s' : Shared} {O : List Task}
    (he : Effect t s t' s') (hr : Reservation s (t :: O)) (h : Balanced before s (t :: O)) :
    Balanced before s' (t' :: O) := by
  unfold Balanced at h ⊢
  rw [countP_cons_toNat, countP_cons_toNat] at h ⊢
  cases he with
  | quiet flags shared _ =>
    obtain ⟨-, -, -, hl, hu⟩ := flags
    obtain ⟨-, -, -, hent⟩ := shared
    have hsome : s'.entry.isSome = s.entry.isSome := by
      rw [← Option.isSome_map (f := Prod.fst), hent, Option.isSome_map]
    rw [hl, hu, hsome]
    exact h
  | reserve _ _ => exact h
  | enter _ => exact h
  | leave => exact h
  | release => exact h
  | insert shared =>
    obtain ⟨-, -, -, hent⟩ := shared
    have hvacant : s.entry = none := hr.vacant (by
      rw [countP_cons_toNat]
      simp only [Task.reserves, Bool.toNat_true]
      omega)
    have hsome : s'.entry.isSome = true := by
      rw [← Option.isSome_map (f := Prod.fst), hent]
      rfl
    simp only [Task.loadedOk, Task.unloadedOk, Bool.toNat_false, Bool.toNat_true, hvacant, hsome,
      Option.isSome_none] at h ⊢
    omega
  | record _ hentry flags shared =>
    obtain ⟨-, -, -, hl, hu, -, hl', hu'⟩ := flags
    obtain ⟨-, -, -, hent⟩ := shared
    have hsome : s'.entry.isSome = s.entry.isSome := by
      rw [← Option.isSome_map (f := Prod.fst), hent, hentry]
      rfl
    rw [hl, hu] at h
    rw [hl', hu', hsome]
    exact h
  | dismiss => exact h
  | forget shared =>
    obtain ⟨-, -, -, hent⟩ := shared
    have hle : s.entry.isSome.toNat ≤ 1 := Bool.toNat_le _
    simp only [Task.loadedOk, Task.unloadedOk, Bool.toNat_false, Bool.toNat_true, hent,
      Option.isSome_none] at h ⊢
    omega

-- ---------------------------------------------------------------------------
-- Records and the sandbox, when unloads have the id to themselves
-- ---------------------------------------------------------------------------

/-- What runs in which no unload overlaps another call keep: every call holding an instance
holds the managed one, every record write landed on the instance its call held, and the sandbox
admits the id exactly when there is a plugin not yet past its removal from the sandbox, or a
load past its admission. -/
structure Tied (s : Shared) (ts : List Task) : Prop where
  holders : ∀ t ∈ ts, ∀ h, t.holds = some h → s.entry.map Prod.fst = some h
  writes : ∀ w ∈ s.writes, w.1 = w.2
  admitted : s.admitted = true ↔
    (s.entry.isSome = true ∧ ts.countP Task.forgets = 0) ∨ 0 < ts.countP Task.admits

theorem Tied.perm {s : Shared} {ts ts' : List Task} (hp : ts.Perm ts') (h : Tied s ts) :
    Tied s ts' := by
  refine ⟨fun t ht => h.holders t (hp.mem_iff.mpr ht), h.writes, ?_⟩
  rw [← hp.countP_eq, ← hp.countP_eq]
  exact h.admitted

theorem aloneWith_forgets {t : Task} {O : List Task} (h : aloneWith t O = true) :
    ∀ u ∈ O, u.forgets = false := by
  intro u hu
  have hu' := List.all_eq_true.mp h u hu
  cases u <;> simp_all [Task.busy, Task.unloads, Task.forgets]

theorem aloneWith_idle {t : Task} {O : List Task} (h : aloneWith t O = true)
    (ht : t.unloads = true) : ∀ u ∈ O, u.busy = false := by
  intro u hu
  have hu' := List.all_eq_true.mp h u hu
  simp_all



/-- When an unload steps, the other calls are idle: none admits a plugin, none holds an instance. -/
theorem others_idle {t : Task} {O : List Task} (h : aloneWith t O = true) (ht : t.unloads = true) :
    O.countP Task.admits = 0 ∧ ∀ u ∈ O, u.holds = none := by
  have hidle := aloneWith_idle h ht
  refine ⟨List.countP_eq_zero.mpr fun u hu => ?_, fun u hu => (Task.idle (hidle u hu)).2.2.2⟩
  rw [(Task.idle (hidle u hu)).2.1]
  exact Bool.false_ne_true

theorem holders_cons {t : Task} {O : List Task} {e : Option Nat}
    (ht : ∀ h, t.holds = some h → e = some h) (hO : ∀ u ∈ O, ∀ h, u.holds = some h → e = some h) :
    ∀ u ∈ t :: O, ∀ h, u.holds = some h → e = some h :=
  List.forall_mem_cons.mpr ⟨ht, hO⟩

/-- Every step of a call that no unload overlaps keeps `Tied`. -/
theorem Tied.of_effect {t t' : Task} {s s' : Shared} {O : List Task}
    (he : Effect t s t' s') (hr : Reservation s (t :: O)) (hal : aloneWith t O = true)
    (h : Tied s (t :: O)) : Tied s' (t' :: O) := by
  obtain ⟨holders, writes, admitted⟩ := h
  have hown := holders t List.mem_cons_self
  have hO : ∀ u ∈ O, ∀ h, u.holds = some h → s.entry.map Prod.fst = some h :=
    fun u hu => holders u (List.mem_cons_of_mem _ hu)
  have hforgets : O.countP Task.forgets = 0 :=
    List.countP_eq_zero.mpr fun u hu => by rw [aloneWith_forgets hal u hu]; exact Bool.false_ne_true
  rw [countP_cons_toNat, countP_cons_toNat] at admitted
  cases he with
  | quiet flags shared hold =>
    obtain ⟨-, ha, hf, -, -⟩ := flags
    obtain ⟨-, hadm, hw, hent⟩ := shared
    have hsome : s'.entry.isSome = s.entry.isSome := by
      rw [← Option.isSome_map (f := Prod.fst), hent, Option.isSome_map]
    refine ⟨holders_cons (fun h hh => ?_) fun u hu h hh => hent.trans (hO u hu h hh), hw ▸ writes,
      ?_⟩
    · rcases hold h hh with ht | hs
      · exact hent.trans (hown h ht)
      · exact hent.trans hs
    · rw [countP_cons_toNat, countP_cons_toNat, hadm, ha, hf, hsome]
      exact admitted
  | reserve _ _ =>
    refine ⟨holders_cons (fun h hh => by cases hh) hO, writes, ?_⟩
    rw [countP_cons_toNat, countP_cons_toNat]
    exact admitted
  | enter _ =>
    refine ⟨holders_cons (fun h hh => by cases hh) hO, writes, ?_⟩
    rw [countP_cons_toNat, countP_cons_toNat]
    simp only [Task.admits, Bool.toNat_true]
    exact iff_of_true trivial (.inr (by omega))
  | leave =>
    have hvacant : s.entry = none := hr.vacant (by
      rw [countP_cons_toNat]
      simp only [Task.reserves, Bool.toNat_true]
      omega)
    -- the leaving load holds the only reservation, so no other load admits a plugin
    have hadmits : O.countP Task.admits = 0 := by
      have hle := List.countP_mono_left (p := Task.admits) (q := Task.reserves) (l := O)
        fun _ _ hu => Task.reserves_of_admits hu
      have hres := hr.others rfl
      omega
    refine ⟨holders_cons (fun h hh => by cases hh) hO, writes, ?_⟩
    rw [countP_cons_toNat, countP_cons_toNat]
    simp only [Task.admits, Bool.toNat_false, hvacant, Option.isSome_none]
    exact iff_of_false Bool.false_ne_true (by simp [hadmits])
  | release =>
    refine ⟨holders_cons (fun h hh => by cases hh) hO, writes, ?_⟩
    rw [countP_cons_toNat, countP_cons_toNat]
    exact admitted
  | insert shared =>
    obtain ⟨-, hadm, hw, hent⟩ := shared
    have hvacant : s.entry = none := hr.vacant (by
      rw [countP_cons_toNat]
      simp only [Task.reserves, Bool.toNat_true]
      omega)
    have hwas : s.admitted = true := admitted.mpr (.inr (by simp [Task.admits]))
    refine ⟨holders_cons (fun h hh => by cases hh) fun u hu h hh => ?_, hw ▸ writes, ?_⟩
    · have hnone := hO u hu h hh
      rw [hvacant] at hnone
      cases hnone
    · rw [countP_cons_toNat, countP_cons_toNat, hadm, hwas]
      have hsome : s'.entry.isSome = true := by
        rw [← Option.isSome_map (f := Prod.fst), hent]
        rfl
      exact iff_of_true rfl (.inl ⟨hsome, by simp [Task.forgets, hforgets]⟩)
  | record holding hentry flags shared =>
    obtain ⟨-, ha, hf, -, -, hidle, -⟩ := flags
    obtain ⟨-, hadm, hw, hent⟩ := shared
    have hsame := hown _ holding
    rw [hentry] at hsame
    have hh' := Option.some.inj hsame
    refine ⟨holders_cons (fun h hh => ?_) fun u hu h hh => ?_, ?_, ?_⟩
    · rw [(Task.idle hidle).2.2.2] at hh
      cases hh
    · rw [hent, ← hO u hu h hh, hentry]
      rfl
    · rw [hw]
      intro w hw'
      rcases List.mem_cons.mp hw' with rfl | hw'
      · exact hh'.symm
      · exact writes w hw'
    · have hsome : s'.entry.isSome = s.entry.isSome := by
        rw [← Option.isSome_map (f := Prod.fst), hent, hentry]
        rfl
      rw [countP_cons_toNat, countP_cons_toNat, hadm, hsome, (Task.idle hidle).2.1,
        (Task.idle hidle).2.2.1]
      rw [ha, hf] at admitted
      exact admitted
  | dismiss =>
    obtain ⟨hadmits, -⟩ := others_idle hal rfl
    refine ⟨holders_cons (fun h hh => hown h hh) hO, writes, ?_⟩
    rw [countP_cons_toNat, countP_cons_toNat]
    simp only [Task.forgets, Task.admits, Bool.toNat_true, Bool.toNat_false, hadmits]
    exact iff_of_false Bool.false_ne_true (by simp)
  | forget shared =>
    obtain ⟨-, hadm, hw, hent⟩ := shared
    obtain ⟨hadmits, hnone⟩ := others_idle hal rfl
    have hwas : s.admitted = false := by
      simp only [Task.forgets, Task.admits, Bool.toNat_true, Bool.toNat_false, hadmits] at admitted
      exact Bool.eq_false_iff.mpr fun h => by simpa using admitted.mp h
    refine ⟨holders_cons (fun h hh => by cases hh) fun u hu h hh => ?_, hw ▸ writes, ?_⟩
    · rw [hnone u hu] at hh
      cases hh
    · rw [countP_cons_toNat, countP_cons_toNat, hadm, hwas, hent]
      simp only [Task.admits, Bool.toNat_false, hadmits, Option.isSome_none]
      exact iff_of_false Bool.false_ne_true (by simp)

-- ---------------------------------------------------------------------------
-- Runs of the manager's calls
-- ---------------------------------------------------------------------------

/-- Calls not yet started hold nothing: no reservation, no admitted plugin, no instance, and
none has returned. -/
theorem countP_calls (cs : List Request) {p : Task → Bool} (hp : ∀ c, p (.call c) = false) :
    (cs.map Task.call).countP p = 0 :=
  List.countP_eq_zero.mpr fun t ht => by
    obtain ⟨c, -, rfl⟩ := List.mem_map.mp ht
    rw [hp c]
    exact Bool.false_ne_true

theorem reservation_calls (cs : List Request) {s : Shared} (hres : s.reserved = false) :
    Reservation s (cs.map .call) := by
  have hc := countP_calls cs (p := Task.reserves) fun _ => rfl
  refine ⟨by omega, ?_, fun h => by omega⟩
  rw [hres, hc]
  exact iff_of_false Bool.false_ne_true (Nat.lt_irrefl 0)

theorem tied_calls (cs : List Request) {s : Shared} (hadm : s.admitted = s.entry.isSome)
    (hw : s.writes = []) : Tied s (cs.map .call) := by
  refine ⟨fun t ht h hh => ?_, fun w hw' => ?_, ?_⟩
  · obtain ⟨c, -, rfl⟩ := List.mem_map.mp ht
    cases hh
  · rw [hw] at hw'
    cases hw'
  · rw [countP_calls cs (p := Task.forgets) fun _ => rfl,
      countP_calls cs (p := Task.admits) fun _ => rfl, hadm]
    simp

/-- The manager's calls on one id, interleaved in any way, from a state with no load in flight
and no record written, where the sandbox admits the id exactly when there is a plugin. The loads
that succeed are matched by unloads that succeed, but for a plugin there is at the end and was not
at the start. When no unload overlaps another call, every record written after a start, a stop
or a sample is the record of the instance the call held; and once every call has returned, the
sandbox admits the id exactly when there is a plugin. -/
theorem interleaved_calls_keep_bookkeeping (cs : List Request) (sch : List (Nat × Option Error))
    (s : Shared) (hres : s.reserved = false) (hadm : s.admitted = s.entry.isSome)
    (hw : s.writes = []) :
    (interleave (cs.map .call) sch s).1.countP Task.loadedOk + s.entry.isSome.toNat ≤
        (interleave (cs.map .call) sch s).1.countP Task.unloadedOk +
          (interleave (cs.map .call) sch s).2.entry.isSome.toNat ∧
      (Along aloneWith (cs.map .call) sch s = true →
        (∀ w ∈ (interleave (cs.map .call) sch s).2.writes, w.1 = w.2) ∧
        ((interleave (cs.map .call) sch s).1.all (fun t => !t.busy) = true →
          (interleave (cs.map .call) sch s).2.admitted =
            (interleave (cs.map .call) sch s).2.entry.isSome)) := by
  have hR := reservation_calls cs hres
  refine ⟨?_, fun halone => ?_⟩
  · -- the count holds along every run, as the reservation does
    have hB : Balanced s.entry.isSome s (cs.map .call) := by
      unfold Balanced
      have hl := countP_calls cs (p := Task.loadedOk) fun _ => rfl
      have hu := countP_calls cs (p := Task.unloadedOk) fun _ => rfl
      omega
    have hrun := Along.keeps (I := fun s' ts => Reservation s' ts ∧ Balanced s.entry.isSome s' ts)
      (fun hp h => ⟨h.1.perm hp, h.2.perm hp⟩)
      (fun o t _ s' _ h =>
        ⟨h.1.of_effect (Task.step_effect o t s'), h.2.of_effect (Task.step_effect o t s') h.1⟩)
      (along_true _ sch s) ⟨hR, hB⟩
    exact hrun.2
  · have hrun := Along.keeps (I := fun s' ts => Reservation s' ts ∧ Tied s' ts)
      (fun hp h => ⟨h.1.perm hp, h.2.perm hp⟩)
      (fun o t _ s' hal h =>
        ⟨h.1.of_effect (Task.step_effect o t s'), h.2.of_effect (Task.step_effect o t s') h.1 hal⟩)
      halone ⟨hR, tied_calls cs hadm hw⟩
    refine ⟨hrun.2.writes, fun hquiet => ?_⟩
    -- with every call returned, no load admits a plugin and no unload is past the sandbox
    have hidle : ∀ t ∈ (interleave (cs.map .call) sch s).1, t.busy = false := fun t ht => by
      simpa using List.all_eq_true.mp hquiet t ht
    have hf : (interleave (cs.map .call) sch s).1.countP Task.forgets = 0 :=
      List.countP_eq_zero.mpr fun t ht => by rw [(Task.idle (hidle t ht)).2.2.1]; simp
    have ha : (interleave (cs.map .call) sch s).1.countP Task.admits = 0 :=
      List.countP_eq_zero.mpr fun t ht => by rw [(Task.idle (hidle t ht)).2.1]; simp
    have hadmitted := hrun.2.admitted
    rw [hf, ha] at hadmitted
    simp only [and_true, Nat.lt_irrefl, or_false] at hadmitted
    exact Bool.eq_iff_iff.mpr hadmitted

/-- A plugin loaded, started, sampled while running, stopped and unloaded, one call after the
other: every record written is its own instance's, and the sandbox lets it go with it. -/
theorem plugin_lifecycle_keeps_bookkeeping :
    let cs := [Request.load { id := "p", name := "P", version := "1.0" } "p" false,
      .lifecycle .start, .sample { running := true }, .lifecycle .stop, .unload]
    let sch := (List.replicate 5 (0, none)) ++ (List.replicate 5 (1, none)) ++
      (List.replicate 5 (2, none)) ++ (List.replicate 5 (3, none)) ++ (List.replicate 6 (4, none))
    let s : Shared := { entry := none, reserved := false, admitted := false, locked := []
                        made := 0, clock := ⟨0⟩, writes := [] }
    s.reserved = false ∧ s.admitted = s.entry.isSome ∧ s.writes = [] ∧
      Along aloneWith (cs.map .call) sch s = true ∧
      (interleave (cs.map .call) sch s).1.all (fun t => !t.busy) = true ∧
      (interleave (cs.map .call) sch s).2.writes = [(0, 0), (0, 0), (0, 0)] ∧
      (∀ w ∈ (interleave (cs.map .call) sch s).2.writes, w.1 = w.2) ∧
      (interleave (cs.map .call) sch s).2.admitted =
        (interleave (cs.map .call) sch s).2.entry.isSome := by
  intro cs sch s
  have h := interleaved_calls_keep_bookkeeping cs sch s rfl rfl rfl
  have halone : Along aloneWith (cs.map .call) sch s = true := by
    simp only [cs, sch, s]
    rfl
  have hquiet : (interleave (cs.map .call) sch s).1.all (fun t => !t.busy) = true := by
    simp only [cs, sch, s]
    rfl
  have hwrites : (interleave (cs.map .call) sch s).2.writes = [(0, 0), (0, 0), (0, 0)] := by
    simp only [cs, sch, s]
    rfl
  exact ⟨rfl, rfl, rfl, halone, hquiet, hwrites, (h.2 halone).1, (h.2 halone).2 hquiet⟩

/-- Three runs with an unload overlapping other calls. Two loads of one plugin both in flight,
with an unload of the first between their reservations: both succeed. A start that looked up
instance 0 before an unload and a reload took the mutex afterwards: its record went to the
reloaded instance 1, which now reads as running though its instance was never started. An
unload that took the reloaded plugin out of the sandbox and waits to forget it, while a stale
unload forgets it and a third load comes in: the waiting unload forgets the third plugin, and
once all calls have returned the sandbox admits the id with no plugin held. -/
theorem overlapping_calls_cross_plugins :
    let md : Metadata := { id := "p", name := "P", version := "1.0" }
    let empty : Shared := { entry := none, reserved := false, admitted := false, locked := []
                            made := 0, clock := ⟨0⟩, writes := [] }
    let loaded : Shared := { entry := some (0, PluginInfo.loaded md "p" false (Clock.instantOf 0))
                             reserved := false, admitted := true, locked := [], made := 1
                             clock := ⟨0⟩, writes := [] }
    let twoLoads := interleave [.call (.load md "p" false), .call (.load md "p" false), .call .unload]
      ([(0, none), (1, none)] ++ List.replicate 4 (0, none) ++ List.replicate 6 (2, none) ++
        List.replicate 4 (1, none)) empty
    let staleStart := interleave [.call (.lifecycle .start), .call .unload, .call (.load md "p" false)]
      ([(0, none)] ++ List.replicate 6 (1, none) ++ List.replicate 5 (2, none) ++
        List.replicate 4 (0, none)) loaded
    let staleUnload := interleave
      [.call .unload, .call .unload, .call (.load md "p" false), .call .unload,
        .call (.load md "p" false)]
      ([(0, none)] ++ List.replicate 6 (1, none) ++ List.replicate 5 (2, none) ++
        List.replicate 5 (3, none) ++ List.replicate 5 (0, none) ++ List.replicate 5 (4, none) ++
        [(3, none)]) loaded
    ((interleave [.call (.load md "p" false), .call (.load md "p" false), .call .unload]
        [(0, none), (1, none)] empty).1.countP Task.busy = 2 ∧
      twoLoads.1.countP Task.loadedOk = 2) ∧
    (staleStart.2.writes = [(0, 1)] ∧
      staleStart.2.entry.map (fun e => (e.1, e.2.state)) = some (1, .running)) ∧
    (staleUnload.1.all (fun t => !t.busy) = true ∧ staleUnload.2.admitted = true ∧
      staleUnload.2.entry.isSome = false) := by
  intro md empty loaded twoLoads staleStart staleUnload
  simp only [twoLoads, staleStart, staleUnload, md, empty, loaded]
  exact ⟨⟨rfl, rfl⟩, ⟨rfl, rfl⟩, ⟨rfl, rfl, rfl⟩⟩

end Manager

end Plugboard
