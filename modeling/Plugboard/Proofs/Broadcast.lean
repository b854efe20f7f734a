import Plugboard.Proofs.ManagerRuns
import Plugboard.Text.ByteOrder
/-!
# Broadcasting an event

A broadcast hands the event to every loaded plugin, whatever state the manager records for it:
each instance takes it exactly once, from where the broadcast started, and keeps what taking it
did, whether it accepted the event or refused it; no record of the manager changes
(`Manager.broadcast_state`). The broadcast answers with the number of loaded plugins exactly
when every instance accepts, and otherwise fails with one entry `<id>: <message>` for each
refusal and nothing else, in increasing order (`Manager.broadcast_reaches_every_plugin`), which
is the order of their UTF-8 bytes (`Manager.broadcast_refusals_in_byte_order`).
-/

namespace Plugboard

open Act

namespace Entries

variable {β : Type} {k : String} {v v' : β} {l : List (String × β)}

theorem Keyed.nodup (hk : Keyed l) : l.Nodup :=
  hk.imp fun h he => (ne_of_lt h) (congrArg Prod.fst he)

/-- The value of an entry with a key present is the value under that key. -/
theorem snd_of_get? (hk : Keyed l) (h : get? k l = some v) {p : String × β} (hp : p ∈ l)
    (hpk : p.1 = k) : p.2 = v := by
  have hp' : get? k l = some p.2 := (get?_eq_some_iff hk).2 (hpk ▸ hp)
  rw [h] at hp'
  exact (Option.some.inj hp').symm

/-- Putting a value under a key that is there replaces that entry where it stands. -/
theorem put_eq_map (hk : Keyed l) (h : get? k l = some v) :
    put k v' l = l.map fun p => if p.1 = k then (k, v') else p := by
  have hfst : ∀ p : String × β, (if p.1 = k then (k, v') else p).1 = p.1 := fun p => by
    split
    · rename_i hp; exact hp.symm
    · rfl
  have hk' : Keyed (l.map fun p => if p.1 = k then (k, v') else p) :=
    List.pairwise_map.2 (hk.imp fun hab => by rw [hfst, hfst]; exact hab)
  refine (keyed_put hk).ext hk' ((List.perm_ext_iff_of_nodup (keyed_put hk).nodup hk'.nodup).2
    fun x => ?_)
  rw [mem_put, List.mem_map]
  constructor
  · rintro (⟨hx, hxk⟩ | rfl)
    · exact ⟨x, hx, if_neg hxk⟩
    · exact ⟨(k, v), (get?_eq_some_iff hk).1 h, if_pos rfl⟩
  · rintro ⟨p, hp, rfl⟩
    split
    · exact .inr rfl
    · rename_i hpk
      exact .inl ⟨hp, hpk⟩

end Entries

/-- A managed plugin after its instance took an event, from `env`; its record is as it was. -/
def Managed.afterEvent (e : Event) (env : Env) (x : Managed) : Managed :=
  { x with inst := ((Instance.handleEvent e).exec x.inst env).2.1 }

namespace Manager

variable {m m₀ : Manager} {env : Env}

/-- The refusals of an event by the loaded plugins, in id order: `<id>: <message>` for each
plugin whose instance refuses the event, taken from `env`. -/
def refusals (m : Manager) (e : Event) (env : Env) : List String :=
  m.plugins.filterMap fun p => refusal p.1 ((Instance.handleEvent e).exec p.2.inst env).1

/-- Handing an event to one plugin changes only that plugin's instance, as taking it left it. -/
theorem onInstance_handleEvent_state (hk : Entries.Keyed m.plugins) (e : Event) (id : String) :
    ((onInstance id (Instance.handleEvent e)).exec m env).2 =
      ({ m with plugins := m.plugins.map fun p =>
          if p.1 = id then (p.1, p.2.afterEvent e env) else p }, env) := by
  cases h : m.find? id with
  | none =>
    -- no plugin has the id, so nothing is handed the event
    have hnone := Entries.get?_eq_none_iff.1 h
    rw [exec_onInstance_of_find_none h]
    have hmap : (m.plugins.map fun p => if p.1 = id then (p.1, p.2.afterEvent e env) else p) =
        m.plugins := by
      conv => rhs; rw [← List.map_id m.plugins]
      exact List.map_congr_left fun p hp => if_neg (hnone p hp)
    rw [hmap]
  | some x =>
    -- the plugin found under the id is the entry with that id
    have hmap : (m.plugins.map fun p =>
        if p.1 = id then (id, { x with inst := ((Instance.handleEvent e).exec x.inst env).2.1 })
        else p) = m.plugins.map fun p => if p.1 = id then (p.1, p.2.afterEvent e env) else p :=
      List.map_congr_left fun p hp => by
        split
        · rename_i hpid
          rw [Entries.snd_of_get? hk h hp hpid, hpid]
          rfl
        · rfl
    rw [exec_onInstance_of_find h, Instance.exec_handleEvent_env, Entries.put_eq_map hk h]
    dsimp only
    rw [hmap]

/-- Handing an event to the plugins of a list in turn, none twice, changes exactly their
instances, each as taking the event from where the list started left it. -/
theorem deliverAll_state (e : Event) (env : Env) :
    ∀ (ids : List String) (m : Manager), Entries.Keyed m.plugins → ids.Nodup →
      ((deliverAll e ids).exec m env).2 =
        ({ m with plugins := m.plugins.map fun p =>
            if p.1 ∈ ids then (p.1, p.2.afterEvent e env) else p }, env)
  | [], m, _, _ => by
    show (m, env) = _
    simp
  | id :: ids, m, hk, hnd => by
    obtain ⟨hid, hnd⟩ := List.nodup_cons.1 hnd
    have h1 : ((onInstance id (Instance.handleEvent e)).exec m env).2 = _ :=
      onInstance_handleEvent_state hk e id
    -- the rest of the list is handed the event from where this plugin's delivery left off
    have hk1 : Entries.Keyed ((onInstance id (Instance.handleEvent e)).exec m env).2.1.plugins :=
      keyed_onInstance hk id _
    rw [h1] at hk1
    have ih := deliverAll_state e env ids _ hk1 hnd
    rw [deliverAll, exec_bind, exec_attempt]
    dsimp only
    rw [congrArg Prod.fst h1, congrArg Prod.snd h1]
    generalize ((onInstance id (Instance.handleEvent e)).exec m env).1 = u
    rw [exec_bind]
    rcases hr : (deliverAll e ids).exec _ env with ⟨r, m', env'⟩
    rw [hr] at ih
    cases ih
    -- this plugin's new instance is left alone by the rest of the list, which skips its id
    have hcomp : ((m.plugins.map fun p => if p.1 = id then (p.1, p.2.afterEvent e env) else p).map
        fun p => if p.1 ∈ ids then (p.1, p.2.afterEvent e env) else p) =
        m.plugins.map fun p => if p.1 ∈ id :: ids then (p.1, p.2.afterEvent e env) else p := by
      rw [List.map_map]
      refine List.map_congr_left fun p _ => ?_
      by_cases hp : p.1 = id
      · simp [hp, hid]
      · simp [hp]
    -- what the list answered, and the plugin, decide only the answer
    rcases r with err | x
    · dsimp only
      rw [hcomp]
    · cases u <;> (dsimp only; rw [exec_pure]; dsimp only; rw [hcomp])

/-- A broadcast hands the event to every loaded plugin once, each from where the broadcast
started, and changes nothing else, whatever it answers. -/
theorem broadcast_state (hk : Entries.Keyed m.plugins) (e : Event) (env : Env) :
    ((broadcast e).exec m env).2 =
      ({ m with plugins := m.plugins.map fun p => (p.1, p.2.afterEvent e env) }, env) := by
  have hd := deliverAll_state e env (Entries.keys m.plugins) m hk hk.nodup_keys
  -- every loaded plugin's id is in the list the event is handed along
  have hall : (m.plugins.map fun p =>
      if p.1 ∈ Entries.keys m.plugins then (p.1, p.2.afterEvent e env) else p) =
      m.plugins.map fun p => (p.1, p.2.afterEvent e env) :=
    List.map_congr_left fun p hp => if_pos (List.mem_map_of_mem hp)
  rcases hrun : (deliverAll e (Entries.keys m.plugins)).exec m env with ⟨r, m', env'⟩
  rw [hrun] at hd
  cases hd
  rw [broadcast, exec_self_bind, exec_bind]
  unfold Entries.keys at hrun hall
  rw [hrun]
  rcases r with err | ⟨n, failures⟩
  · dsimp only
    rw [hall]
  · dsimp only
    split
    · rw [exec_pure, hall]
    · rw [exec_fail, hall]

/-- The refusals a broadcast collects are those of the loaded plugins' instances. -/
theorem filterMap_refusal_sendEvent (hk : Entries.Keyed m.plugins) (e : Event) (env : Env) :
    (Entries.keys m.plugins).filterMap (fun id => refusal id ((sendEvent id e).exec m env).1) =
      refusals m e env := by
  rw [Entries.keys, List.filterMap_map, refusals]
  refine List.filterMap_congr fun p hp => ?_
  have hf : m.find? p.1 = some p.2 := (Entries.get?_eq_some_iff hk).2 hp
  simp only [Function.comp, sendEvent_answer, hf]

theorem refusals_eq_nil_iff (m : Manager) (e : Event) (env : Env) :
    refusals m e env = [] ↔
      ∀ p ∈ m.plugins, ((Instance.handleEvent e).exec p.2.inst env).1.isOk := by
  rw [refusals, List.filterMap_eq_nil_iff]
  exact forall₂_congr fun _ _ => refusal_eq_none

/-- A broadcast answers the number of loaded plugins when none refuses the event, and otherwise
fails with the refusals sorted. -/
theorem broadcast_answer_of_refusals (hk : Entries.Keyed m.plugins) (e : Event) (env : Env) :
    ((broadcast e).exec m env).1 =
      if refusals m e env = [] then .ok m.plugins.length
      else .error (.eventDelivery ((refusals m e env).mergeSort fun a b => decide (a ≤ b))) := by
  rw [broadcast_answer hk, filterMap_refusal_sendEvent hk]

/-- The refusals a failed broadcast reports are in increasing order of their UTF-8 bytes. -/
theorem broadcast_refusals_in_byte_order (hk : Entries.Keyed m.plugins) (e : Event) (env : Env)
    {failures : List String}
    (h : ((broadcast e).exec m env).1 = .error (.eventDelivery failures)) :
    failures.Pairwise fun a b => Text.bytes a ≤ Text.bytes b := by
  have ha := broadcast_answer_of_refusals hk e env
  split_ifs at ha
  · rw [ha] at h
    cases h
  · rw [ha] at h
    cases h
    exact (List.pairwise_mergeSort' (· ≤ ·) _).imp Text.le_iff_bytes_le.1

/-- **A broadcast reaches every plugin and reports every refusal.** In every manager reached
from a fresh one, a broadcast hands the event to each loaded plugin exactly once, whatever state
the manager records for it, each instance keeping what taking the event did, and changes no
record; it answers the number of loaded plugins exactly when every instance accepts the event,
and otherwise fails with the refusals `<id>: <message>`, one for each plugin that refused and no
other, in increasing order. -/
theorem broadcast_reaches_every_plugin (h₀ : Fresh m₀) (h : Reachable m₀ m) (e : Event)
    (env : Env) :
    ((broadcast e).exec m env).2 =
      ({ m with plugins := m.plugins.map fun p => (p.1, p.2.afterEvent e env) }, env) ∧
    (((broadcast e).exec m env).1 = .ok m.plugins.length ↔
      ∀ p ∈ m.plugins, ((Instance.handleEvent e).exec p.2.inst env).1.isOk) ∧
    ((¬ ∀ p ∈ m.plugins, ((Instance.handleEvent e).exec p.2.inst env).1.isOk) →
      ∃ failures, ((broadcast e).exec m env).1 = .error (.eventDelivery failures) ∧
        failures.Perm (refusals m e env) ∧ failures.Pairwise (· ≤ ·)) := by
  have hk : Entries.Keyed m.plugins := (Reachable.sorted h₀ h).plugins
  have ha := broadcast_answer_of_refusals hk e env
  refine ⟨broadcast_state hk e env, ?_, fun hnot => ?_⟩
  · rw [← refusals_eq_nil_iff, ha]
    constructor
    · intro hok
      by_contra hne
      rw [if_neg hne] at hok
      cases hok
    · intro hnil
      rw [if_pos hnil]
  · have hne : refusals m e env ≠ [] := mt (refusals_eq_nil_iff m e env).1 hnot
    rw [if_neg hne] at ha
    exact ⟨_, ha, List.mergeSort_perm _ _, List.pairwise_mergeSort' (· ≤ ·) _⟩

/-- With `fmt` loaded but not started, a broadcast hands it the event, which it refuses, and the
broadcast fails naming it; once `fmt` is started, the broadcast reaches it. -/
theorem broadcast_refused_until_started :
    Fresh ({} : Manager) ∧ Reachable {} fmtLoaded ∧ Reachable {} fmtStarted ∧
      ((broadcast { eventType := "config.changed", pluginId := "p" }).exec fmtLoaded {}).1 =
        .error (.eventDelivery ["fmt: Plugin fmt cannot handle events while initialized"]) ∧
      ((broadcast { eventType := "config.changed", pluginId := "p" }).exec fmtStarted {}).1 =
        .ok 1 := by
  have hrefused : refusals fmtLoaded { eventType := "config.changed", pluginId := "p" } {} =
      ["fmt: Plugin fmt cannot handle events while initialized"] := by
    decide +kernel
  have hnot := mt (refusals_eq_nil_iff fmtLoaded _ {}).2 (by rw [hrefused]; exact List.cons_ne_nil _ _)
  obtain ⟨failures, hfail, hperm, -⟩ :=
    (broadcast_reaches_every_plugin Fresh.empty reachable_fmtLoaded _ {}).2.2 hnot
  rw [hrefused, List.perm_singleton] at hperm
  -- once started, `fmt` takes the event, so the broadcast answers with the one delivery
  have hall : refusals fmtStarted { eventType := "config.changed", pluginId := "p" } {} = [] := by
    decide +kernel
  have hok := (broadcast_reaches_every_plugin Fresh.empty reachable_fmtStarted _ {}).2.1.2
    ((refusals_eq_nil_iff fmtStarted _ {}).1 hall)
  have hlen : fmtStarted.plugins.length = 1 := by decide +kernel
  rw [hlen] at hok
  exact ⟨Fresh.empty, reachable_fmtLoaded, reachable_fmtStarted, hperm ▸ hfail, hok⟩

end Manager

end Plugboard
