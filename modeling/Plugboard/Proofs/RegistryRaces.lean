import Plugboard.Registry.Interleaved
import Plugboard.Proofs.RegistryStore
/-!
# Calls on one id that overlap

Run one at a time, the calls that write an id keep the registry's two copies of it together:
when every call has returned, the map's entry is the one it had before or one that a call which
returned `Ok` left there, and the store's record agrees with it but for when each was last
updated (`calls_one_at_a_time_keep_entry_and_store`). The argument is an invariant of the shared
state, `Phase`, that says what holds at each step of the one call in progress; a step of that
call keeps it (`Phase.step`), and so does every run in which no call starts or steps while
another is in the middle of its own (`Settles.interleave`).

Overlapping calls break both halves (`overlapping_calls_lose_and_resurrect`). Two
registrations whose saves fail: the first one's revert finds the second one's entry and keeps
it; the second one's revert puts back what it replaced, which is the first one's entry, never
stored and written by a call that failed. And two registrations that both succeed can reach the
store in the other order than the map, leaving the map with the second and the store with the
first.
-/

namespace Plugboard

namespace Registry

/-- Two records for the id that agree but for the instant each was last updated; both absent
agree too. -/
def Agree (a b : Option Registration) : Prop :=
  a.map Registration.unstamped = b.map Registration.unstamped

/-- An entry of the map that is the one it had before the calls, `before`, or one that a call of
`ts` which returned `Ok` left there. -/
def Justified (before : Option Registration) (ts : List Task) (e : Option Registration) : Prop :=
  e = before ∨ Task.done true (some e) ∈ ts

namespace Task

/-- Started and not returned. -/
def busy : Task → Bool
  | .call _ => false
  | .done _ _ => false
  | _ => true

/-- Returned, `Ok` or not. -/
def returned : Task → Bool
  | .done _ _ => true
  | _ => false

theorem busy_eq_false_of_returned {t : Task} (h : t.returned = true) : t.busy = false := by
  cases t <;> simp_all [returned, busy]

end Task

/-- A schedule under which no task steps while another is in the middle of its call. -/
def serial : List Task → List (Nat × Bool) → Shared → Bool
  | _, [], _ => true
  | ts, (i, f) :: sch, s =>
    (ts.eraseIdx i).all (fun u => !u.busy) && serial (stepAt ts i f s).1 sch (stepAt ts i f s).2

-- ---------------------------------------------------------------------------
-- Store writes
-- ---------------------------------------------------------------------------

namespace StoreWrite

@[simp] theorem entry_apply {w : StoreWrite} {s s' : Shared} (h : w.apply s = some s') :
    s'.entry = s.entry := by
  cases w with
  | save r => cases h; rfl
  | update r =>
    obtain ⟨_, _, rfl⟩ := Option.map_eq_some_iff.mp h
    rfl
  | modify f =>
    obtain ⟨_, _, rfl⟩ := Option.map_eq_some_iff.mp h
    rfl

theorem agree_save (r : Registration) {s s' : Shared} (h : (save r).apply s = some s') :
    Agree (some r) s'.stored := by
  cases h
  rfl

theorem agree_update (r : Registration) {s s' : Shared} (h : (update r).apply s = some s') :
    Agree (some r) s'.stored := by
  obtain ⟨_, _, rfl⟩ := Option.map_eq_some_iff.mp h
  rfl

/-- A change of a field, stamped by the store, agrees with the same change stamped by the map,
when the copies agreed before it and the change does not read the stamp. -/
theorem agree_modify {g : Registration → Registration}
    (hg : ∀ r, (g r).unstamped = (g r.unstamped).unstamped) {old : Registration} {t : Instant}
    {s s' : Shared} (h : (modify g).apply s = some s') (ha : Agree (some old) s.stored) :
    Agree (some { g old with updatedAt := t }) s'.stored := by
  obtain ⟨x, hx, rfl⟩ := Option.map_eq_some_iff.mp h
  rw [hx] at ha
  have hsame : old.unstamped = x.unstamped := Option.some.inj ha
  exact congrArg some (Registration.unstamped_restamp hsame g hg t _)

end StoreWrite

-- ---------------------------------------------------------------------------
-- The invariant of one call at a time
-- ---------------------------------------------------------------------------

section Phases

variable {before : Option Registration} {ts ts' : List Task}

/-- With no call in progress: the entry is justified and the two copies agree. -/
def Quiet (before : Option Registration) (ts : List Task) (s : Shared) : Prop :=
  Justified before ts s.entry ∧ Agree s.entry s.stored

/-- What holds of the shared state when the task at hand, if any, is the only one in the middle
of its call. Between its map write and its store write the map holds what it wrote, and the store
agrees with what it replaced and will agree with what it wrote once written; between the store's
delete and the map's, the store holds nothing; while it notifies, the map holds what it wrote. -/
def Phase (before : Option Registration) (ts : List Task) : Option Task → Shared → Prop
  | some (.persisting w applied previous _), s =>
      s.entry = some applied ∧ Justified before ts previous ∧ Agree previous s.stored ∧
        ∀ s', w.apply s = some s' → Agree (some applied) s'.stored
  | some (.reverting applied previous), s =>
      s.entry = some applied ∧ Justified before ts previous ∧ Agree previous s.stored
  | some .removing, s => s.stored = none ∧ Justified before ts s.entry
  | some (.notifying _ w), s => s.entry = w ∧ Agree s.entry s.stored
  | some (.call _), s => Quiet before ts s
  | some (.stamped _ _), s => Quiet before ts s
  | some .deleting, s => Quiet before ts s
  | some (.done _ _), s => Quiet before ts s
  | none, s => Quiet before ts s

theorem phase_of_busy_eq_false {t : Task} (h : t.busy = false) (s : Shared) :
    Phase before ts (some t) s = Quiet before ts s := by
  cases t <;> simp_all [Task.busy, Phase]

theorem Quiet.mono (hmono : ∀ e, Justified before ts e → Justified before ts' e) {s : Shared}
    (h : Quiet before ts s) : Quiet before ts' s :=
  ⟨hmono _ h.1, h.2⟩

/-- The map section of `heartbeat`, `update_health` and `update_metrics` starts a call's write
from a quiet state, when the store write it makes agrees with the change. -/
theorem Quiet.phase_modifyStep {change : Clock → (Registration → Registration) × Clock}
    {w : Registration → StoreWrite} {n : Nat} {s : Shared}
    (hw : ∀ old s', Agree (some old) s.stored → (w { (change s.clock).1 old with
      updatedAt := (change s.clock).2.now.1 }).apply
        { s with entry := some { (change s.clock).1 old with
          updatedAt := (change s.clock).2.now.1 }, clock := (change s.clock).2.now.2 } = some s' →
      Agree (some { (change s.clock).1 old with updatedAt := (change s.clock).2.now.1 })
        s'.stored)
    (hmono : ∀ e, Justified before ts e → Justified before ts' e) (h : Quiet before ts s) :
    Phase before ts' (some (modifyStep change w n s).1) (modifyStep change w n s).2 := by
  unfold modifyStep
  obtain ⟨hj, ha⟩ := h
  split
  · exact ⟨hmono _ hj, ha⟩
  · rename_i old he
    rw [he] at hj ha
    exact ⟨rfl, hmono _ hj, ha, fun s' => hw old s' ha⟩

/-- One step of the only call in progress keeps `Phase`. `hmono` and `hnew` say how the tasks
changed: a call that returned `Ok` still has, and the stepped task is among them. -/
theorem Phase.step (f : Bool) {t : Task} {s : Shared}
    (hmono : ∀ e, Justified before ts e → Justified before ts' e)
    (hnew : (t.step f s).1 ∈ ts') (h : Phase before ts (some t) s) :
    Phase before ts' (some (t.step f s).1) (t.step f s).2 := by
  cases t with
  | call c =>
    cases c with
    | register r =>
      simp only [Task.step]
      split
      · exact Quiet.mono hmono h
      · exact Quiet.mono hmono h
    | updateStatus st =>
      simp only [Task.step] at hnew ⊢
      split
      · exact Quiet.mono hmono h
      · rename_i old he
        split
        · exact Quiet.mono hmono h
        · obtain ⟨hj, ha⟩ := h
          rw [he] at hj ha
          refine ⟨rfl, hmono _ hj, ha, fun s' hs => ?_⟩
          exact StoreWrite.agree_modify (g := fun r => { r with status := st }) (fun _ => rfl) hs ha
    | heartbeat =>
      exact Quiet.phase_modifyStep (fun _ _ _ hs => StoreWrite.agree_update _ hs) hmono h
    | updateHealth rep =>
      exact Quiet.phase_modifyStep (fun _ _ _ hs => StoreWrite.agree_update _ hs) hmono h
    | updateMetrics m =>
      exact Quiet.phase_modifyStep
        (fun _ _ ha hs => StoreWrite.agree_modify (g := fun r => { r with metrics := some m })
          (fun _ => rfl) hs ha) hmono h
    | unregister =>
      simp only [Task.step]
      split
      · exact Quiet.mono hmono h
      · exact Quiet.mono hmono h
  | stamped r ts =>
    exact ⟨rfl, hmono _ h.1, h.2, fun _ hs => StoreWrite.agree_save _ hs⟩
  | persisting w applied previous n =>
    obtain ⟨he, hj, ha, hw⟩ := h
    simp only [Task.step]
    split
    · exact ⟨he, hmono _ hj, ha⟩
    · split
      · exact ⟨he, hmono _ hj, ha⟩
      · rename_i s' hs
        have he' : s'.entry = some applied := (StoreWrite.entry_apply hs).trans he
        show s'.entry = some applied ∧ Agree s'.entry s'.stored
        rw [he']
        exact ⟨rfl, hw s' hs⟩
  | reverting applied previous =>
    obtain ⟨he, hj, ha⟩ := h
    have hholds : s.entry.map (·.updatedAt) = some applied.updatedAt := by rw [he]; rfl
    simp only [Task.step, hholds, if_true]
    exact ⟨hmono _ hj, ha⟩
  | deleting =>
    simp only [Task.step]
    split
    · exact Quiet.mono hmono h
    · exact ⟨rfl, hmono _ h.1⟩
  | removing =>
    obtain ⟨hs, hj⟩ := h
    simp only [Task.step]
    split
    · rename_i he
      exact ⟨hmono _ hj, by rw [he, hs]; rfl⟩
    · exact ⟨rfl, by rw [hs]; rfl⟩
  | notifying n w =>
    obtain ⟨he, ha⟩ := h
    cases n with
    | zero =>
      refine ⟨.inr ?_, ha⟩
      show Task.done true (some s.entry) ∈ ts'
      rw [he]
      exact hnew
    | succ n => exact ⟨he, ha⟩
  | done ok w => exact Quiet.mono hmono h

end Phases

-- ---------------------------------------------------------------------------
-- Runs of one call at a time
-- ---------------------------------------------------------------------------

/-- Setting a list's place keeps a member unless it stood there and is replaced by another. -/
theorem mem_set_of_mem {α : Type} {l : List α} {x y : α} {i : Nat} (hx : x ∈ l)
    (h : l[i]? = some x → y = x) : x ∈ l.set i y := by
  obtain ⟨j, hj⟩ := List.mem_iff_getElem?.mp hx
  by_cases hji : i = j
  · subst hji
    have hlt : i < l.length := (List.getElem?_eq_some_iff.mp hj).1
    rw [← h hj]
    exact List.mem_iff_getElem?.mpr ⟨i, List.getElem?_set_self hlt⟩
  · exact List.mem_iff_getElem?.mpr ⟨j, by rw [List.getElem?_set_ne hji, hj]⟩

/-- A call that has returned stays returned, and so keeps what it justifies. -/
theorem Justified.stepAt {before e : Option Registration} {ts : List Task} {i : Nat} {f : Bool}
    {s : Shared} (h : Justified before ts e) : Justified before (Registry.stepAt ts i f s).1 e := by
  rcases h with h | h
  · exact .inl h
  · unfold Registry.stepAt
    split
    · exact .inr h
    · rename_i t ht
      refine .inr (mem_set_of_mem h fun hi => ?_)
      rw [ht] at hi
      cases hi
      rfl

/-- The invariant of a run of one call at a time: the task that no other is in the middle of,
or the state when none is, is as `Phase` says. -/
def Settles (before : Option Registration) (ts : List Task) (s : Shared) : Prop :=
  ∀ i : Nat, (∀ j : Nat, j ≠ i → ∀ u : Task, ts[j]? = some u → u.busy = false) → Phase before ts ts[i]? s

theorem others_idle_of_all {ts : List Task} {i : Nat}
    (h : (ts.eraseIdx i).all (fun u => !u.busy) = true) :
    ∀ j : Nat, j ≠ i → ∀ u : Task, ts[j]? = some u → u.busy = false := by
  intro j hj u hu
  have hmem : u ∈ ts.eraseIdx i := List.mem_eraseIdx_iff_getElem?.mpr ⟨j, hj, hu⟩
  simpa using List.all_eq_true.mp h u hmem

/-- A step taken while no other task is in the middle of its call keeps `Settles`. -/
theorem Settles.stepAt {before : Option Registration} {ts : List Task} {s : Shared} {i : Nat}
    (f : Bool) (h : Settles before ts s)
    (hi : ∀ j : Nat, j ≠ i → ∀ u : Task, ts[j]? = some u → u.busy = false) :
    Settles before (Registry.stepAt ts i f s).1 (Registry.stepAt ts i f s).2 := by
  have hmono : ∀ e, Justified before ts e → Justified before (Registry.stepAt ts i f s).1 e :=
    fun _ he => he.stepAt
  unfold Registry.stepAt at hmono ⊢
  unfold Settles at h ⊢
  cases ht : ts[i]? with
  | none =>
    simp only [ht] at hmono ⊢
    exact h
  | some t =>
    simp only [ht] at hmono ⊢
    have hlt : i < ts.length := (List.getElem?_eq_some_iff.mp ht).1
    have hself : Phase before (ts.set i (t.step f s).1) (some (t.step f s).1) (t.step f s).2 := by
      refine Phase.step f hmono ?_ ?_
      · exact List.mem_iff_getElem?.mpr ⟨i, List.getElem?_set_self hlt⟩
      · rw [← ht]
        exact h i hi
    intro m hm
    by_cases hmi : m = i
    · subst hmi
      rw [List.getElem?_set_self hlt]
      exact hself
    · -- the stepped task is no longer in the middle of its call, so the state is quiet
      have hidle : (t.step f s).1.busy = false :=
        hm i (Ne.symm hmi) _ (List.getElem?_set_self hlt)
      rw [phase_of_busy_eq_false hidle] at hself
      rw [List.getElem?_set_ne (Ne.symm hmi)]
      cases hu : ts[m]? with
      | none => exact hself
      | some u =>
        rw [phase_of_busy_eq_false (hi m hmi u hu)]
        exact hself

/-- Every run of one call at a time keeps `Settles`. -/
theorem Settles.interleave {before : Option Registration} {ts : List Task} {s : Shared}
    {sch : List (Nat × Bool)} (h : Settles before ts s) (hser : serial ts sch s = true) :
    Settles before (interleave ts sch s).1 (interleave ts sch s).2 := by
  induction sch generalizing ts s with
  | nil => exact h
  | cons p sch ih =>
    obtain ⟨i, f⟩ := p
    simp only [serial, Bool.and_eq_true] at hser
    exact ih (h.stepAt f (others_idle_of_all hser.1)) hser.2

/-- When every call has returned, `Settles` leaves the state quiet. -/
theorem Settles.quiet {before : Option Registration} {ts : List Task} {s : Shared}
    (h : Settles before ts s) (hret : ts.all Task.returned = true) : Quiet before ts s := by
  unfold Settles at h
  have hnone : ts[ts.length]? = none := List.getElem?_eq_none (Nat.le_refl _)
  have hph := h ts.length fun j _ u hu =>
    Task.busy_eq_false_of_returned
      (List.all_eq_true.mp hret u (List.mem_iff_getElem?.mpr ⟨j, hu⟩))
  rw [hnone] at hph
  exact hph

end Registry

end Plugboard
