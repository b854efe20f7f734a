import Plugboard.Proofs.Broadcast
/-!
# Resource sampling

A sample goes through the running plugins in id order and records for each what its instance
reports, at the clock's next reading (`Managed.sampledAt`), whatever the sandbox makes of the
usage: a plugin over the memory ceiling is only warned about in the log. Nothing else changes:
no other field of a record, no plugin that is not running, no instance, the sandbox, the disk.
The sample answers how many plugins it went through, which is how many are running
(`Manager.sample_refreshes_running_plugins_only`).
-/

namespace Plugboard

open Act

/-- A plugin with its record's resources sampled from its instance at an instant. -/
def Managed.sampledAt (x : Managed) (t : Instant) : Managed :=
  { x with info := { x.info with resources := ResourceUsage.ofStatus x.inst.status t } }

namespace Entries

variable {β : Type} {l : List (String × β)} {f : String × β → String × β}

/-- Changing the values of entries but not their keys keeps the keys. -/
theorem keys_map_of_fst (hf : ∀ p, (f p).1 = p.1) : keys (l.map f) = keys l := by
  rw [keys, keys, List.map_map]
  exact List.map_congr_left fun p _ => hf p

theorem Keyed.map_of_fst (hk : Keyed l) (hf : ∀ p, (f p).1 = p.1) : Keyed (l.map f) :=
  List.pairwise_map.2 (hk.imp fun hab => by rw [hf, hf]; exact hab)

end Entries

namespace Manager

variable {m m₀ : Manager} {env : Env} {id : String} {x : Managed}

/-- Sampling a plugin that is there changes only its record's resources, at the clock's next
reading. -/
theorem exec_sampleOne_map (hk : Entries.Keyed m.plugins) (hx : m.find? id = some x) :
    (sampleOne id).exec m env =
      (.ok (), { m with plugins := m.plugins.map fun p =>
          if p.1 = id then (p.1, p.2.sampledAt (Clock.instantOf (env.clock.reads + 1))) else p },
        { env with clock := ⟨env.clock.reads + 1⟩ }) := by
  rw [exec_sampleOne_of_find hx, Entries.put_eq_map hk hx]
  -- the entry under the id is the plugin found there
  have hmap : (m.plugins.map fun p =>
      if p.1 = id then (id, x.sampledAt (Clock.instantOf (env.clock.reads + 1))) else p) =
      m.plugins.map fun p =>
        if p.1 = id then (p.1, p.2.sampledAt (Clock.instantOf (env.clock.reads + 1))) else p :=
    List.map_congr_left fun p hp => by
      split
      · rename_i hpid
        rw [Entries.snd_of_get? hk hx hp hpid, hpid]
      · rfl
  exact congrArg (fun ps => (Except.ok (), { m with plugins := ps }, _)) hmap

/-- The loop of a sample: sampling the plugins of a list in turn, each there and none twice,
samples exactly them, the `i`-th at the clock's `i + 1`-th reading from where it started. -/
theorem exec_forIn_sampleOne :
    ∀ (ids : List String) (m : Manager) (env : Env), Entries.Keyed m.plugins → ids.Nodup →
      (∀ id ∈ ids, id ∈ Entries.keys m.plugins) →
      (forIn ids PUnit.unit fun id _ => do
          sampleOne id
          pure (ForInStep.yield PUnit.unit) : Act Manager PUnit).exec m env =
        (.ok PUnit.unit,
          { m with plugins := m.plugins.map fun p =>
              if p.1 ∈ ids then
                (p.1, p.2.sampledAt (Clock.instantOf (env.clock.reads + ids.idxOf p.1 + 1)))
              else p },
          { env with clock := ⟨env.clock.reads + ids.length⟩ })
  | [], m, env, _, _, _ => by
    show (Except.ok PUnit.unit, m, env) = _
    simp
  | id :: ids, m, env, hk, hnd, hmem => by
    obtain ⟨hid, hnd⟩ := List.nodup_cons.1 hnd
    obtain ⟨x, hx⟩ : ∃ x, m.find? id = some x := by
      obtain ⟨p, hp, rfl⟩ := List.mem_map.1 (hmem id List.mem_cons_self)
      exact ⟨p.2, (Entries.get?_eq_some_iff hk).2 hp⟩
    -- the rest of the list samples from where this plugin's sample left off
    have hfst : ∀ p : String × Managed,
        (if p.1 = id then (p.1, p.2.sampledAt (Clock.instantOf (env.clock.reads + 1))) else p).1 =
          p.1 := fun p => by split_ifs <;> rfl
    have hk1 := hk.map_of_fst hfst
    have hkeys := Entries.keys_map_of_fst (l := m.plugins) hfst
    have ih := exec_forIn_sampleOne ids { m with plugins := _ }
      { env with clock := ⟨env.clock.reads + 1⟩ } hk1 hnd
      fun j hj => hkeys ▸ hmem j (List.mem_cons_of_mem id hj)
    rw [List.forIn_cons, exec_bind, exec_bind, exec_sampleOne_map hk hx]
    dsimp only
    rw [exec_pure]
    dsimp only
    rw [ih]
    dsimp only
    -- this plugin's sample is left alone by the rest of the list, which skips its id
    have hcomp : ((m.plugins.map fun p =>
        if p.1 = id then (p.1, p.2.sampledAt (Clock.instantOf (env.clock.reads + 1))) else p).map
        fun p => if p.1 ∈ ids then
          (p.1, p.2.sampledAt (Clock.instantOf (env.clock.reads + 1 + ids.idxOf p.1 + 1)))
          else p) =
        m.plugins.map fun p => if p.1 ∈ id :: ids then
          (p.1, p.2.sampledAt (Clock.instantOf (env.clock.reads + (id :: ids).idxOf p.1 + 1)))
          else p := by
      rw [List.map_map]
      refine List.map_congr_left fun p _ => ?_
      by_cases hp : p.1 = id
      · simp [hp, hid]
      · have hidx : (id :: ids).idxOf p.1 = ids.idxOf p.1 + 1 :=
          List.idxOf_cons_ne ids (Ne.symm hp)
        simp only [Function.comp, hp, if_false, List.mem_cons, false_or, hidx]
        split_ifs <;> simp only [Nat.add_assoc, Nat.add_comm 1]
    have hclock : env.clock.reads + 1 + ids.length = env.clock.reads + (id :: ids).length := by
      rw [List.length_cons]
      omega
    rw [hcomp, hclock]

/-- In keyed entries, an id is among the running plugins exactly when the plugin under it runs. -/
theorem mem_running_iff (hk : Entries.Keyed m.plugins) {p : String × Managed}
    (hp : p ∈ m.plugins) : p.1 ∈ m.running ↔ p.2.info.state = .running := by
  constructor
  · intro hr
    obtain ⟨q, hq, hqp⟩ := List.mem_map.1 hr
    obtain ⟨hqm, hqs⟩ := List.mem_filter.1 hq
    have hpq : q = p := List.inj_on_of_nodup_map hk.nodup_keys hqm hp hqp
    rw [← hpq]
    simpa using hqs
  · intro hs
    exact List.mem_map.2 ⟨p, List.mem_filter.2 ⟨hp, by simpa using hs⟩, rfl⟩

theorem running_nodup (hk : Entries.Keyed m.plugins) : m.running.Nodup :=
  (hk.filter _).nodup_keys

/-- **A sample touches only the running plugins' resources.** In every manager reached from a
fresh one, a sample answers the number of running plugins. Each running plugin, taken in id
order, has its record's resources replaced by what its instance reports, stamped with the
clock's next reading; every other field of its record, its instance, every plugin that is not
running and the rest of the manager are left as they were, whatever the sandbox makes of the
usage, and the clock has moved on by one reading per running plugin. -/
theorem sample_refreshes_running_plugins_only (h₀ : Fresh m₀) (h : Reachable m₀ m) (env : Env) :
    sample.exec m env =
      (.ok m.running.length,
        { m with plugins := m.plugins.map fun p =>
            if p.2.info.state = .running then
              (p.1, p.2.sampledAt (Clock.instantOf (env.clock.reads + m.running.idxOf p.1 + 1)))
            else p },
        { env with clock := ⟨env.clock.reads + m.running.length⟩ }) := by
  have hk : Entries.Keyed m.plugins := (Reachable.sorted h₀ h).plugins
  have hin : ∀ id ∈ m.running, id ∈ Entries.keys m.plugins := fun id hid => by
    obtain ⟨p, hp, rfl⟩ := List.mem_map.1 hid
    exact List.mem_map_of_mem (List.mem_of_mem_filter hp)
  have hloop := exec_forIn_sampleOne m.running m env hk (running_nodup hk) hin
  -- the plugins the loop goes through are the running ones
  have hmap : (m.plugins.map fun p => if p.1 ∈ m.running then
      (p.1, p.2.sampledAt (Clock.instantOf (env.clock.reads + m.running.idxOf p.1 + 1))) else p) =
      m.plugins.map fun p => if p.2.info.state = .running then
        (p.1, p.2.sampledAt (Clock.instantOf (env.clock.reads + m.running.idxOf p.1 + 1))) else p :=
    List.map_congr_left fun p hp => by rw [if_congr (mem_running_iff hk hp) rfl rfl]
  rw [sample, exec_self_bind]
  dsimp only
  rw [exec_bind, hloop, hmap]
  rfl

/-- Once `fmt` is loaded and started, a sample reads the running `fmt` at the clock's first reading
and answers one. -/
theorem sample_reads_started_plugin :
    Fresh ({} : Manager) ∧ Reachable {} fmtStarted ∧ fmtStarted.running = ["fmt"] ∧
      sample.exec fmtStarted {} =
        (.ok 1,
          { fmtStarted with plugins := fmtStarted.plugins.map fun p =>
              if p.2.info.state = .running then
                (p.1, p.2.sampledAt (Clock.instantOf (0 + ["fmt"].idxOf p.1 + 1)))
              else p },
          { clock := ⟨0 + 1⟩ }) := by
  have hrun : fmtStarted.running = ["fmt"] := by decide +kernel
  have h := sample_refreshes_running_plugins_only Fresh.empty reachable_fmtStarted {}
  rw [hrun] at h
  exact ⟨Fresh.empty, reachable_fmtStarted, hrun, h⟩

end Manager

end Plugboard
