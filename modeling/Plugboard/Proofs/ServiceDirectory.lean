import Plugboard.Proofs.RegistryStore
/-!
# Service discovery follows the registry

A registry with a bridge tells the bridge of each change that went through to the store: a
registration is pushed as its service, a status change pushes the service anew, a heartbeat and a
health report touch only the service's last heartbeat and its health, and an unregistration
removes the service. A change that fails does so before the bridge is told, and puts the map back.

So a bridge whose directory nothing else writes serves the registry's map (`Bridge.Serves`): its
directory holds, in id order, one service per registration, each as the bridge builds it from the
registration but for when it was updated and last heard from. Each call of the bridge the registry
makes pushes the change of the map (`Bridge.Pushes`), and `Registry.Bridged`, the map keyed by id
and served by the bridge, is kept by every change, whether it succeeds or fails, over any store.
An empty registry over an empty directory has it, and so has what filling it from its store and
pushing every registration to the bridge leaves, as a hub does when it is built; so along every run
from either, the plugin services the bridge lists are the registry's registrations
(`plugin_services_follow_registry`).
-/

namespace Plugboard

open Act

namespace Service

/-- A service with the instants it was last updated at and last heard from cleared: what the
service of a registration keeps from one push to the next. -/
def unstamped (s : Service) : Service := { s with updatedAt := ⟨0, 0⟩, lastHeartbeat := none }

@[simp] theorem id_unstamped (s : Service) : s.unstamped.id = s.id := rfl

end Service

namespace MemoryStore

variable {rs acc : List Registration} {r : Registration} {id : String}

theorem findIn_eq_find? (id : String) (rs : List Registration) :
    findIn id rs = rs.find? (·.id == id) := by
  induction rs with
  | nil => rfl
  | cons x xs ih =>
    rw [findIn, List.find?_cons, ← ih]
    by_cases hx : x.id = id
    · simp [hx]
    · have hb : (x.id == id) = false := by simpa using hx
      simp [hx, hb]

/-- A record whose id is above every id there goes last. -/
theorem putIn_of_lt (h : ∀ x ∈ rs, x.id < r.id) : putIn r rs = rs ++ [r] := by
  induction rs with
  | nil => rfl
  | cons x xs ih =>
    have hx : x.id < r.id := h x List.mem_cons_self
    simp only [putIn, ne_of_gt hx, not_lt_of_gt hx, if_false, List.cons_append]
    rw [ih fun y hy => h y (List.mem_cons_of_mem x hy)]

/-- Putting keyed records in one by one, each above the ones before, lays them out as given. -/
theorem foldl_putIn (hk : Keyed (acc ++ rs)) :
    rs.foldl (fun acc r => putIn r acc) acc = acc ++ rs := by
  induction rs generalizing acc with
  | nil => simp
  | cons r rs ih =>
    have hlt : ∀ x ∈ acc, x.id < r.id :=
      fun x hx => (List.pairwise_append.1 hk).2.2 x hx r List.mem_cons_self
    rw [List.foldl_cons, putIn_of_lt hlt, ih (by simpa using hk)]
    simp

/-- Putting in again the record an id has changes nothing. -/
theorem putIn_self_of_findIn (hk : Keyed rs) (hf : findIn r.id rs = some r) : putIn r rs = rs := by
  have hr : r ∈ rs := ((findIn_eq_some_iff hk).1 hf).1
  refine Keyed.ext (keyed_putIn hk) hk fun x => ?_
  rw [mem_putIn hk]
  constructor
  · rintro (rfl | ⟨hx, -⟩)
    · exact hr
    · exact hx
  · intro hx
    by_cases h : x.id = r.id
    · exact .inl (hk.id_inj hx hr h)
    · exact .inr ⟨hx, h⟩

theorem keyed_foldl_putIn (hk : Keyed acc) : Keyed (rs.foldl (fun acc r => putIn r acc) acc) := by
  induction rs generalizing acc with
  | nil => exact hk
  | cons r rs ih => exact ih (keyed_putIn hk)

/-- In a keyed list, taking an id out keeps every record with another id. -/
theorem removeFrom_eq_filter (hk : Keyed rs) : removeFrom id rs = rs.filter (·.id != id) := by
  induction rs with
  | nil => rfl
  | cons x xs ih =>
    have hxs : ∀ y ∈ xs, x.id < y.id := (List.pairwise_cons.1 hk).1
    simp only [removeFrom, List.filter_cons]
    split
    · rename_i hx
      subst hx
      simp only [bne_self_eq_false, Bool.false_eq_true, if_false]
      exact (List.filter_eq_self.2 fun y hy => by simpa using (ne_of_lt (hxs y hy)).symm).symm
    · rename_i hx
      simp [hx, ih (List.pairwise_cons.1 hk).2]

end MemoryStore

namespace Directory

variable {d : Directory} {env : Env} {s : Service} {id : String}

/-- Putting a registration's record in, seen through a map to services that keeps ids, puts its
service in. -/
theorem map_putIn {g : Registration → Service} (hg : ∀ r, (g r).id = r.id) (r : Registration)
    (rs : List Registration) : (MemoryStore.putIn r rs).map g = putIn (g r) (rs.map g) := by
  induction rs with
  | nil => rfl
  | cons x xs ih =>
    simp only [MemoryStore.putIn, putIn, List.map_cons, hg]
    split_ifs <;> simp [ih]

theorem map_unstamped_putIn (s : Service) (ss : List Service) :
    (putIn s ss).map Service.unstamped = putIn s.unstamped (ss.map Service.unstamped) := by
  induction ss with
  | nil => rfl
  | cons x xs ih =>
    by_cases he : s.id = x.id
    · simp [putIn, he]
    · by_cases hl : s.id < x.id
      · simp [putIn, he, hl]
      · simp [putIn, he, hl, ih]

theorem exec_update_found (s : Service) (h : (d.find? s.id).isSome = true) :
    (update s).exec d env =
      (.ok (), { d with services := putIn s d.services, events := d.events ++ [.updated s] },
        env) := by
  have hn : (d.find? s.id).isNone = false := by
    rw [← Option.not_isSome, h]
    rfl
  unfold update announce
  rw [exec_self_bind]
  simp only [hn, Bool.false_eq_true, if_false]
  rfl

theorem exec_update_missing (s : Service) (h : (d.find? s.id).isSome = false) :
    (update s).exec d env = (.error (missing s.id), d, env) := by
  have hn : (d.find? s.id).isNone = true := by
    rw [← Option.not_isSome, h]
    rfl
  unfold update
  rw [exec_self_bind, if_pos hn, exec_bind, exec_fail]

theorem exec_register_missing (s : Service) (h : (d.find? s.id).isSome = false) :
    (register s).exec d env =
      (.ok (), { d with services := putIn s d.services, events := d.events ++ [.registered s] },
        env) := by
  unfold register announce
  rw [exec_self_bind]
  simp only [h, Bool.false_eq_true, if_false]
  rfl

theorem exec_deregister_found (h : (d.find? id).isSome = true) :
    (deregister id).exec d env =
      (.ok (), { d with services := d.services.filter (·.id != id),
                        events := d.events ++ [.deregistered id] }, env) := by
  have hn : (d.find? id).isNone = false := by
    rw [← Option.not_isSome, h]
    rfl
  unfold deregister announce
  rw [exec_self_bind]
  simp only [hn, Bool.false_eq_true, if_false]
  rfl

theorem exec_heartbeat_found (h : d.find? id = some s) :
    (heartbeat id).exec d env =
      (.ok (),
        { d with services := putIn { s with lastHeartbeat := some env.clock.now.1 } d.services },
        { env with clock := env.clock.now.2 }) := by
  unfold heartbeat
  rw [exec_self_bind, h]
  rfl

/-- Setting a service's health stamps it, and announces the change only when there is one. -/
theorem exec_updateHealth_found (h : d.find? id = some s) (hl : ServiceHealth) (env : Env) :
    (updateHealth id hl).exec d env =
      (.ok (), { services := putIn { s with health := hl, updatedAt := env.clock.now.1 } d.services,
                 events := d.events ++ if s.health = hl then [] else [.healthChanged id hl] },
        { env with clock := env.clock.now.2 }) := by
  unfold updateHealth announce
  rw [exec_self_bind, h]
  dsimp only
  rw [exec_bind_of_ok (exec_now d env), exec_bind_of_ok (exec_change _ _ _)]
  by_cases he : s.health = hl
  · simp [he]
  · simp [he]

theorem exec_register_found (s : Service) (h : (d.find? s.id).isSome = true) :
    (register s).exec d env = (.error (.alreadyExists ("service " ++ s.id)), d, env) := by
  unfold register
  rw [exec_self_bind, if_pos h, exec_bind, exec_fail]

theorem exec_deregister_missing (h : (d.find? id).isSome = false) :
    (deregister id).exec d env = (.error (missing id), d, env) := by
  have hn : (d.find? id).isNone = true := by
    rw [← Option.not_isSome, h]
    rfl
  unfold deregister
  rw [exec_self_bind, if_pos hn, exec_bind, exec_fail]

theorem exec_heartbeat_missing (h : d.find? id = none) :
    (heartbeat id).exec d env = (.error (missing id), d, env) := by
  unfold heartbeat
  rw [exec_self_bind, h]
  rfl

theorem exec_updateHealth_missing (h : d.find? id = none) (hl : ServiceHealth) :
    (updateHealth id hl).exec d env = (.error (missing id), d, env) := by
  unfold updateHealth
  rw [exec_self_bind, h]
  rfl

/-- Reading a service changes nothing, and fails when there is none. -/
theorem exec_get (id : String) (d : Directory) (env : Env) :
    (get id).exec d env =
      ((match d.find? id with
        | some s => .ok s
        | none => .error (missing id)), d, env) := by
  unfold get
  rw [exec_self_bind]
  cases d.find? id <;> rfl

end Directory

namespace Bridge

variable {b : Bridge} {rs : List Registration} {r : Registration} {s : Service} {id : String}

/-- The service a bridge builds for a registration, its stamps cleared. -/
def serviceOf (c : BridgeConfig) (r : Registration) : Service := (serviceAt c r ⟨0, 0⟩).unstamped

@[simp] theorem unstamped_serviceAt (c : BridgeConfig) (r : Registration) (t : Instant) :
    (serviceAt c r t).unstamped = serviceOf c r := rfl

@[simp] theorem id_serviceOf (c : BridgeConfig) (r : Registration) : (serviceOf c r).id = r.id :=
  rfl

/-- Every service a bridge builds says it came from a plugin. -/
theorem meta?_source_serviceOf (c : BridgeConfig) (r : Registration) :
    (serviceOf c r).meta? sourceKey = some sourcePlugin := by
  unfold serviceOf Service.unstamped serviceAt Service.meta? metadataOf
  split_ifs <;> rfl

/-- A bridge serves registrations when its directory holds, in their order, one service for each,
the service as it builds it from the registration but for its stamps. -/
def Serves (b : Bridge) (rs : List Registration) : Prop :=
  b.directory.services.map Service.unstamped = rs.map (serviceOf b.config)

/-- A bridge call pushes a change of registrations from `rs` to `rs'` when, from a bridge serving
`rs`, it leaves one serving `rs'`. -/
def Pushes {α : Type} (a : Act Bridge α) (rs rs' : List Registration) : Prop :=
  ∀ b env, b.Serves rs → (a.exec b env).2.1.Serves rs'

namespace Serves

/-- A service put into the directory, built from a registration but for its stamps, serves the
registration put into the list. -/
theorem putIn (h : b.Serves rs) {d : Directory}
    (hd : d.services = Directory.putIn s b.directory.services)
    (hs : s.unstamped = serviceOf b.config r) :
    ({ b with directory := d } : Bridge).Serves (MemoryStore.putIn r rs) := by
  unfold Serves at h ⊢
  rw [hd, Directory.map_unstamped_putIn, hs, h, Directory.map_putIn (id_serviceOf b.config)]

/-- A directory without a service serves the keyed list without its registration. -/
theorem removeFrom (h : b.Serves rs) (hk : MemoryStore.Keyed rs) {d : Directory}
    (hd : d.services = b.directory.services.filter (·.id != id)) :
    ({ b with directory := d } : Bridge).Serves (MemoryStore.removeFrom id rs) := by
  have hm := congrArg (List.filter (·.id != id)) h
  simp only [List.filter_map, Function.comp_def, Service.id_unstamped, id_serviceOf] at hm
  unfold Serves
  rw [hd, MemoryStore.removeFrom_eq_filter hk]
  exact hm

/-- The registration under an id has its service in the directory. -/
theorem find (h : b.Serves rs) (hf : MemoryStore.findIn id rs = some r) :
    ∃ s, b.directory.find? id = some s ∧ s.unstamped = serviceOf b.config r := by
  have hm := congrArg (List.find? (·.id == id)) h
  simp only [List.find?_map, Function.comp_def, Service.id_unstamped, id_serviceOf,
    ← MemoryStore.findIn_eq_find?, hf, Option.map_some] at hm
  obtain ⟨s, hs, hsu⟩ := Option.map_eq_some_iff.1 hm
  exact ⟨s, hs, hsu⟩

/-- A record changed where its service does not show it is served as it was. -/
theorem putIn_unseen (h : b.Serves rs) (hk : MemoryStore.Keyed rs) {old : Registration}
    (hf : MemoryStore.findIn r.id rs = some old)
    (hs : serviceOf b.config r = serviceOf b.config old) :
    b.Serves (MemoryStore.putIn r rs) := by
  have hold : MemoryStore.findIn old.id rs = some old := by
    rw [((MemoryStore.findIn_eq_some_iff hk).1 hf).2]
    exact hf
  unfold Serves at h ⊢
  rw [Directory.map_putIn (id_serviceOf b.config), hs,
    ← Directory.map_putIn (id_serviceOf b.config), MemoryStore.putIn_self_of_findIn hk hold, h]

/-- Every service a serving bridge lists came from a plugin. -/
theorem listed (h : b.Serves rs) :
    b.directory.services.filter (fun s => s.meta? sourceKey == some sourcePlugin) =
      b.directory.services := by
  refine List.filter_eq_self.2 fun s hs => ?_
  have hm : s.unstamped ∈ rs.map (serviceOf b.config) := h ▸ List.mem_map_of_mem hs
  obtain ⟨r, -, hr⟩ := List.mem_map.1 hm
  have hmeta : s.meta? sourceKey = s.unstamped.meta? sourceKey := rfl
  rw [hmeta, ← hr, meta?_source_serviceOf]
  rfl

end Serves

theorem exec_register_puts (r : Registration) (b : Bridge) (env : Env) :
    ∃ t d env', (register r).exec b env =
        (.ok (serviceAt b.config r t), { b with directory := d }, env') ∧
      d.services = Directory.putIn (serviceAt b.config r t) b.directory.services := by
  unfold register toService
  simp only [exec_bind, exec_now, exec_self, exec_pure, onDirectory, exec_focus, exec_attempt]
  by_cases hc : (b.directory.find? r.id).isSome = true
  · rw [if_pos hc, Directory.exec_update_found (serviceAt b.config r _) hc]
    exact ⟨_, _, _, rfl, rfl⟩
  · rw [if_neg hc,
      Directory.exec_register_missing (serviceAt b.config r _) (Bool.eq_false_iff.mpr hc)]
    exact ⟨_, _, _, rfl, rfl⟩

theorem exec_update_puts (r : Registration) (b : Bridge) (env : Env) :
    ∃ t d env', (update r).exec b env =
        (.ok (serviceAt b.config r t), { b with directory := d }, env') ∧
      d.services = Directory.putIn (serviceAt b.config r t) b.directory.services := by
  unfold update toService
  simp only [exec_bind, exec_now, exec_self, exec_pure, onDirectory, exec_focus, exec_attempt]
  by_cases hc : (b.directory.find? r.id).isSome = true
  · rw [Directory.exec_update_found (serviceAt b.config r _) hc]
    exact ⟨_, _, _, rfl, rfl⟩
  · -- With no service to update the update is refused as missing, and the registration is pushed.
    rw [Directory.exec_update_missing (serviceAt b.config r _) (Bool.eq_false_iff.mpr hc)]
    dsimp only
    have hnf : (Directory.missing (serviceAt b.config r env.clock.now.1).id).isNotFound = true :=
      rfl
    rw [if_pos hnf]
    exact exec_register_puts r _ _

theorem exec_deregister_found (h : (b.directory.find? id).isSome = true) (env : Env) :
    ∃ d, (deregister id).exec b env = (.ok (), { b with directory := d }, env) ∧
      d.services = b.directory.services.filter (·.id != id) := by
  unfold deregister onDirectory
  rw [exec_bind, exec_focus, exec_attempt, Directory.exec_deregister_found h]
  exact ⟨_, rfl, rfl⟩

theorem exec_heartbeat_found (h : b.directory.find? id = some s) (env : Env) :
    ∃ t d env', (heartbeat id).exec b env = (.ok (), { b with directory := d }, env') ∧
      d.services = Directory.putIn { s with lastHeartbeat := some t } b.directory.services := by
  unfold heartbeat onDirectory
  rw [exec_bind, exec_focus, exec_attempt, Directory.exec_heartbeat_found h]
  exact ⟨_, _, _, rfl, rfl⟩

theorem exec_syncHealth_found (r : Registration) (h : b.directory.find? id = some s)
    (hid : r.id = id) (env : Env) :
    ∃ t d env', (syncHealth r).exec b env = (.ok (), { b with directory := d }, env') ∧
      d.services =
        Directory.putIn { s with health := ServiceHealth.ofRegistration r, updatedAt := t }
          b.directory.services := by
  unfold syncHealth onDirectory
  rw [exec_bind, exec_focus, exec_attempt, hid,
    Directory.exec_updateHealth_found h (ServiceHealth.ofRegistration r) env]
  exact ⟨_, _, _, rfl, rfl⟩

theorem pushes_register (u : Registration) : Pushes (register u) rs (MemoryStore.putIn u rs) := by
  intro b env hs
  obtain ⟨t, d, env', hreg, hd⟩ := exec_register_puts u b env
  rw [hreg]
  exact hs.putIn hd rfl

theorem pushes_update (u : Registration) : Pushes (update u) rs (MemoryStore.putIn u rs) := by
  intro b env hs
  obtain ⟨t, d, env', hupd, hd⟩ := exec_update_puts u b env
  rw [hupd]
  exact hs.putIn hd rfl

theorem pushes_deregister (hk : MemoryStore.Keyed rs) {old : Registration}
    (hf : MemoryStore.findIn id rs = some old) :
    Pushes (deregister id) rs (MemoryStore.removeFrom id rs) := by
  intro b env hs
  obtain ⟨s, hfs, -⟩ := hs.find hf
  obtain ⟨d, hdr, hd⟩ := exec_deregister_found (by rw [hfs]; rfl) env
  rw [hdr]
  exact hs.removeFrom hk hd

/-- A heartbeat pushes a record changed where its service does not show it. -/
theorem pushes_heartbeat {old u : Registration} (hf : MemoryStore.findIn id rs = some old)
    (hu : ∀ c, serviceOf c u = serviceOf c old) :
    Pushes (heartbeat id) rs (MemoryStore.putIn u rs) := by
  intro b env hs
  obtain ⟨s, hfs, hsu⟩ := hs.find hf
  obtain ⟨t, d, env', hbeat, hd⟩ := exec_heartbeat_found hfs env
  rw [hbeat]
  exact hs.putIn hd (hsu.trans (hu b.config).symm)

/-- Pushing a health pushes a record whose service differs from before in its health alone. -/
theorem pushes_syncHealth {old u : Registration} (hf : MemoryStore.findIn id rs = some old)
    (hid : u.id = id)
    (hu : ∀ c, serviceOf c u = { serviceOf c old with health := ServiceHealth.ofRegistration u }) :
    Pushes (syncHealth u) rs (MemoryStore.putIn u rs) := by
  intro b env hs
  obtain ⟨s, hfs, hsu⟩ := hs.find hf
  obtain ⟨t, d, env', hsync, hd⟩ := exec_syncHealth_found u hfs hid env
  rw [hsync]
  refine hs.putIn hd ?_
  rw [hu b.config, ← hsu]
  rfl

/-- Pushing registrations one by one puts each into what the bridge served. -/
theorem pushes_syncAll (us : List Registration) :
    ∀ rs, Pushes (syncAll us) rs (us.foldl (fun acc r => MemoryStore.putIn r acc) rs) := by
  induction us with
  | nil => exact fun _ _ _ hs => hs
  | cons u us ih =>
    intro rs b env hs
    obtain ⟨t, d, env1, hupd, hd⟩ := exec_update_puts u b env
    have hrest := ih (MemoryStore.putIn u rs) _ env1 (hs.putIn hd rfl)
    rw [syncAll, exec_bind, exec_attempt, hupd]
    dsimp only
    rw [exec_bind]
    rcases hr : (syncAll us).exec { b with directory := d } env1 with ⟨_ | rep, b2, env2⟩ <;>
      rw [hr] at hrest <;> exact hrest

/-- Pushing every registration of a keyed list to a bridge that served none leaves it serving the
list. -/
theorem pushes_syncAll_of_keyed (hk : MemoryStore.Keyed rs) :
    Pushes (syncAll (Filter.select {} rs)) [] rs := by
  have h := pushes_syncAll (Filter.select {} rs) []
  rw [Filter.select_empty_of_keyed hk] at h ⊢
  rwa [MemoryStore.foldl_putIn (by simpa using hk), List.nil_append] at h

theorem exec_listPluginServices (b : Bridge) (env : Env) :
    listPluginServices.exec b env =
      (.ok (b.directory.services.filter fun s => s.meta? sourceKey == some sourcePlugin), b, env) :=
  rfl

end Bridge

namespace Registry

variable {α β : Type} {reg reg' : Registry} {env env' : Env} {b : Bridge}

theorem foldl_insert (rs : List Registration) (reg : Registry) :
    rs.foldl (fun reg r => { reg with plugins := MemoryStore.putIn r reg.plugins }) reg =
      { reg with plugins := rs.foldl (fun acc r => MemoryStore.putIn r acc) reg.plugins } := by
  induction rs generalizing reg with
  | nil => rfl
  | cons r rs ih => exact ih _

/-- An action that leaves the map and the bridge as they are, as writing the store and announcing
on the bus do. -/
def LeavesBridge (a : Act Registry α) : Prop :=
  ∀ reg env, (a.exec reg env).2.1.plugins = reg.plugins ∧ (a.exec reg env).2.1.bridge = reg.bridge

theorem LeavesBridge.of_exec {a : Act Registry α} (ha : LeavesBridge a) {o : Outcome α}
    (h : a.exec reg env = (o, reg', env')) :
    reg'.plugins = reg.plugins ∧ reg'.bridge = reg.bridge := by
  have hl := ha reg env
  rw [h] at hl
  exact hl

theorem LeavesBridge.bind {a : Act Registry α} {f : α → Act Registry β} (ha : LeavesBridge a)
    (hf : ∀ x, LeavesBridge (f x)) : LeavesBridge (a >>= f) := by
  intro reg env
  rcases hr : a.exec reg env with ⟨_ | x, reg1, env1⟩
  · rw [exec_bind, hr]
    exact ha.of_exec hr
  · rw [exec_bind, hr]
    obtain ⟨hp, hb⟩ := ha.of_exec hr
    obtain ⟨hp', hb'⟩ := hf x reg1 env1
    exact ⟨hp'.trans hp, hb'.trans hb⟩

theorem leavesBridge_pure (x : α) : LeavesBridge (pure x : Act Registry α) :=
  fun _ _ => ⟨rfl, rfl⟩

theorem leavesBridge_emit (ev : Event) : LeavesBridge (emit ev) :=
  fun _ _ => ⟨rfl, rfl⟩

theorem exec_onBridge_of_some (hb : reg.bridge = some b) (a : Act Bridge α) (env : Env) :
    (onBridge a).exec reg env =
      (.ok (some (a.exec b env).1), { reg with bridge := some (a.exec b env).2.1 },
        (a.exec b env).2.2) := by
  unfold onBridge
  rw [exec_self_bind]
  split
  · rename_i hnone
    rw [hb] at hnone
    cases hnone
  · rename_i b' hsome
    rw [hb] at hsome
    cases hsome
    rw [exec_bind, exec_focus, exec_attempt]
    rfl

/-- A store write made just after a record with the id was put into the map either fails, and the
map is put back with the bridge untouched, or answers, and what follows goes on from the store it
left. -/
theorem exec_persist_bind {r : Registration} {id : String} {previous : Option Registration}
    {a : Act Store Unit} {ctx : String} {rest : Unit → Act Registry β} {o : Outcome β}
    (h : (persist id previous ctx a >>= rest).exec
      { reg with plugins := MemoryStore.putIn r reg.plugins } env = (o, reg', env'))
    (hk : MemoryStore.Keyed reg.plugins) (hid : r.id = id) (hprev : reg.find? id = previous) :
    (reg'.plugins = reg.plugins ∧ reg'.bridge = reg.bridge) ∨
      ∃ s' env1, (rest ()).exec { reg with plugins := MemoryStore.putIn r reg.plugins, store := s' }
        env1 = (o, reg', env') := by
  rcases persist_bind_of_putIn hk hid hprev h with ⟨-, -, -, -, rfl⟩ | ⟨s', env1, -, h'⟩
  · -- The store refused: the map is put back before the change fails.
    exact .inl ⟨rfl, rfl⟩
  · exact .inr ⟨s', env1, h'⟩

/-- Unregistering a registered id either stops where the store refuses the removal, with the map and
the bridge untouched, or takes the id out of the map, announces it and has the bridge forget it. -/
theorem unregister_cases {id : String} {old : Registration} (hf : reg.find? id = some old)
    {o : Outcome Unit} (h : (unregister id).exec reg env = (o, reg', env')) :
    (reg'.plugins = reg.plugins ∧ reg'.bridge = reg.bridge) ∨
      ∃ s1 env1 ev, (emit ev >>= fun _ => onBridge (Bridge.deregister id) >>= fun _ => pure ()).exec
        { reg with store := s1, plugins := MemoryStore.removeFrom id reg.plugins } env1 =
          (o, reg', env') := by
  unfold unregister at h
  rw [exec_self_bind] at h
  split at h
  · rw [exec_bind, exec_onStore, exec_attempt] at h
    dsimp only at h
    rcases hd : (Store.delete id).exec reg.store env with ⟨_ | u, s1, env1⟩ <;> rw [hd] at h <;>
      dsimp only at h
    · split at h
      · rw [exec_bind, exec_fail] at h
        cases h
        exact .inl ⟨rfl, rfl⟩
      · -- The store had no record under the id: it is taken out of the map all the same.
        rw [exec_bind_of_ok (exec_remove _ _ _)] at h
        exact .inr ⟨s1, env1, _, h⟩
    · rw [exec_bind_of_ok (exec_remove _ _ _)] at h
      exact .inr ⟨s1, env1, _, h⟩
  · rename_i hnone
    exact absurd hf (hnone old)

/-- The map is keyed by id and the registry has a bridge, which serves the map. -/
structure Bridged (reg : Registry) : Prop where
  keyed : MemoryStore.Keyed reg.plugins
  bridged : ∃ b, reg.bridge = some b
  serves : ∀ b, reg.bridge = some b → b.Serves reg.plugins

theorem Bridged.of_same (h : Bridged reg) (hp : reg'.plugins = reg.plugins)
    (hb : reg'.bridge = reg.bridge) : Bridged reg' where
  keyed := hp ▸ h.keyed
  bridged := hb ▸ h.bridged
  serves := fun b' hb' => hp ▸ h.serves b' (hb ▸ hb')

theorem bridged_of_empty (hp : reg.plugins = []) (hb : reg.bridge = some b)
    (hd : b.directory.services = []) : Bridged reg where
  keyed := hp ▸ List.Pairwise.nil
  bridged := ⟨b, hb⟩
  serves := fun b' hb' => by
    rw [hb] at hb'
    cases hb'
    unfold Bridge.Serves
    rw [hd, hp]
    rfl

/-- Telling the bridge, once the map has changed, leaves a registry whose bridge serves the changed
map, when the call pushes the change and what follows the bridge's answer touches neither. -/
theorem Bridged.of_onBridge {a : Act Bridge α} {k : Option (Outcome α) → Act Registry β}
    {o : Outcome β} (h : (onBridge a >>= k).exec reg env = (o, reg', env'))
    (hk : MemoryStore.Keyed reg.plugins) {rs : List Registration} (hb : reg.bridge = some b)
    (hs : b.Serves rs) (ha : Bridge.Pushes a rs reg.plugins)
    (hkl : LeavesBridge (k (some (a.exec b env).1))) : Bridged reg' := by
  rw [exec_bind, exec_onBridge_of_some hb] at h
  obtain ⟨hp, hbr⟩ := hkl.of_exec h
  refine ⟨hp ▸ hk, ⟨_, hbr⟩, fun b' hb' => ?_⟩
  rw [hbr] at hb'
  cases hb'
  exact hp ▸ ha b env hs

theorem keeps_bridged_register (r : Registration) : Keeps Bridged (Registry.register r) := by
  intro reg env h
  obtain ⟨b, hb⟩ := h.bridged
  rcases hr : (Registry.register r).exec reg env with ⟨o, reg', env'⟩
  unfold Registry.register at hr
  rw [exec_bind] at hr
  cases hval : r.validate with
  | error e0 =>
    rw [hval, exec_ofOutcome] at hr
    cases hr
    exact h
  | ok u =>
    rw [hval, exec_ofOutcome] at hr
    dsimp only at hr
    rw [exec_bind_of_ok (exec_now reg env), exec_self_bind,
      exec_bind_of_ok (exec_insert _ _ _)] at hr
    rcases exec_persist_bind hr h.keyed rfl rfl with ⟨hp, hbr⟩ | ⟨s', env1, hrest⟩
    · exact h.of_same hp hbr
    · -- The bridge answers a registration, so its compensation is never run.
      exact Bridged.of_onBridge hrest (MemoryStore.keyed_putIn h.keyed) hb (h.serves b hb)
        (Bridge.pushes_register _) (by
          split
          · rename_i e heq
            exact absurd (Option.some.inj heq) fun hx =>
              Bridge.neverFails_register _ b env1 e _ _ (Prod.ext hx rfl)
          · exact (leavesBridge_pure _).bind fun _ =>
              (leavesBridge_emit _).bind fun _ => leavesBridge_pure _)

theorem keeps_bridged_unregister (id : String) : Keeps Bridged (Registry.unregister id) := by
  intro reg env h
  obtain ⟨b, hb⟩ := h.bridged
  rcases hr : (Registry.unregister id).exec reg env with ⟨o, reg', env'⟩
  cases hf : reg.find? id with
  | none =>
    rw [exec_unregister_of_find_none hf] at hr
    cases hr
    exact h
  | some old =>
    rcases unregister_cases hf hr with ⟨hp, hbr⟩ | ⟨s1, env1, ev, hgo⟩
    · exact h.of_same hp hbr
    · rw [exec_bind_of_ok (exec_emit _ _ _)] at hgo
      exact Bridged.of_onBridge hgo (MemoryStore.keyed_removeFrom h.keyed) hb (h.serves b hb)
        (Bridge.pushes_deregister h.keyed hf) (leavesBridge_pure _)

theorem keeps_bridged_updateStatus (id : String) (st : Status) :
    Keeps Bridged (Registry.updateStatus id st) := by
  intro reg env h
  obtain ⟨b, hb⟩ := h.bridged
  rcases hr : (Registry.updateStatus id st).exec reg env with ⟨o, reg', env'⟩
  unfold Registry.updateStatus at hr
  rw [exec_self_bind] at hr
  split at hr
  · rename_i old hf
    split at hr
    · cases hr
      exact h
    · rw [exec_bind_of_ok (exec_now reg env), exec_bind_of_ok (exec_insert _ _ _)] at hr
      rcases exec_persist_bind hr h.keyed ((MemoryStore.findIn_eq_some_iff h.keyed).mp hf).2 hf with
        ⟨hp, hbr⟩ | ⟨s', env1, hrest⟩
      · exact h.of_same hp hbr
      · exact Bridged.of_onBridge hrest (MemoryStore.keyed_putIn h.keyed) hb (h.serves b hb)
          (Bridge.pushes_update _) ((leavesBridge_emit _).bind fun _ => leavesBridge_pure _)
  · rw [exec_fail] at hr
    cases hr
    exact h

theorem keeps_bridged_heartbeat (id : String) : Keeps Bridged (Registry.heartbeat id) := by
  intro reg env h
  obtain ⟨b, hb⟩ := h.bridged
  rcases hr : (Registry.heartbeat id).exec reg env with ⟨o, reg', env'⟩
  unfold Registry.heartbeat at hr
  cases hf : reg.find? id with
  | none =>
    rw [exec_bind_of_error (exec_modify_of_find_none hf _)] at hr
    cases hr
    exact h
  | some old =>
    rw [exec_bind, exec_modify_of_find hf (exec_markSeen reg env)] at hr
    dsimp only at hr
    rcases exec_persist_bind hr h.keyed ((MemoryStore.findIn_eq_some_iff h.keyed).mp hf).2 hf with
      ⟨hp, hbr⟩ | ⟨s', env1, hrest⟩
    · exact h.of_same hp hbr
    · exact Bridged.of_onBridge hrest (MemoryStore.keyed_putIn h.keyed) hb (h.serves b hb)
        (Bridge.pushes_heartbeat hf fun _ => rfl) (leavesBridge_pure _)

theorem keeps_bridged_updateHealth (id : String) (report : HealthReport) :
    Keeps Bridged (Registry.updateHealth id report) := by
  intro reg env h
  obtain ⟨b, hb⟩ := h.bridged
  rcases hr : (Registry.updateHealth id report).exec reg env with ⟨o, reg', env'⟩
  unfold Registry.updateHealth at hr
  cases hf : reg.find? id with
  | none =>
    rw [exec_bind_of_error (exec_modify_of_find_none hf _)] at hr
    cases hr
    exact h
  | some old =>
    rw [exec_bind, exec_modify_of_find hf (exec_pure _ reg env)] at hr
    dsimp only at hr
    have hid : old.id = id := ((MemoryStore.findIn_eq_some_iff h.keyed).mp hf).2
    rcases exec_persist_bind hr h.keyed hid hf with ⟨hp, hbr⟩ | ⟨s', env1, hrest⟩
    · exact h.of_same hp hbr
    · exact Bridged.of_onBridge hrest (MemoryStore.keyed_putIn h.keyed) hb (h.serves b hb)
        (Bridge.pushes_syncHealth hf hid fun _ => rfl)
        ((leavesBridge_emit _).bind fun _ => leavesBridge_pure _)

theorem keeps_bridged_updateMetrics (id : String) (mt : Metrics) :
    Keeps Bridged (Registry.updateMetrics id mt) := by
  intro reg env h
  rcases hr : (Registry.updateMetrics id mt).exec reg env with ⟨o, reg', env'⟩
  unfold Registry.updateMetrics at hr
  cases hf : reg.find? id with
  | none =>
    rw [exec_bind_of_error (exec_modify_of_find_none hf _)] at hr
    cases hr
    exact h
  | some old =>
    rw [exec_bind, exec_modify_of_find hf (exec_pure _ reg env)] at hr
    dsimp only at hr
    have hid : old.id = id := ((MemoryStore.findIn_eq_some_iff h.keyed).mp hf).2
    rcases exec_persist_bind hr h.keyed hid hf with ⟨hp, hbr⟩ | ⟨s', env1, hrest⟩
    · exact h.of_same hp hbr
    · -- Metrics are not part of a service: the bridge is not told, and serves the map as it is.
      obtain ⟨hp, hbr⟩ := ((leavesBridge_emit _).bind fun _ => leavesBridge_pure _).of_exec hrest
      refine ⟨hp ▸ MemoryStore.keyed_putIn h.keyed, hbr ▸ h.bridged, fun b' hb' => ?_⟩
      have hf' : MemoryStore.findIn old.id reg.plugins = some old := by
        rw [hid]
        exact hf
      rw [hp]
      exact (h.serves b' (hbr ▸ hb')).putIn_unseen h.keyed hf' rfl

/-- Every change, succeeding or failing, keeps the bridge serving the map. -/
theorem keeps_bridged (ch : Change) : Keeps Bridged ch.run := by
  cases ch with
  | register r => exact (keeps_bridged_register r).map _
  | unregister id => exact keeps_bridged_unregister id
  | updateStatus id st => exact (keeps_bridged_updateStatus id st).map _
  | heartbeat id => exact keeps_bridged_heartbeat id
  | updateHealth id report => exact keeps_bridged_updateHealth id report
  | updateMetrics id mt => exact keeps_bridged_updateMetrics id mt

theorem exec_load_of_error {e : Error} {s1 : Store} {env1 : Env}
    (hl : (Store.list {}).exec reg.store env = (.error e, s1, env1)) :
    load.exec reg env =
      (.error (e.context "load registrations"), { reg with store := s1 }, env1) := by
  unfold load
  rw [exec_bind, exec_onStore, exec_attempt, hl]
  rfl

/-- Filling the map from what the store lists puts each record in, one by one. -/
theorem exec_load_of_ok {stored : List Registration} {s1 : Store} {env1 : Env}
    (hl : (Store.list {}).exec reg.store env = (.ok stored, s1, env1)) :
    ∃ env2, load.exec reg env = (.ok stored.length,
      { reg with store := s1,
                 plugins := stored.foldl (fun acc r => MemoryStore.putIn r acc) reg.plugins },
      env2) := by
  unfold load
  rw [exec_bind, exec_onStore, exec_attempt, hl]
  dsimp only
  obtain ⟨env2, hfor⟩ := @exec_forIn_yield Registry PUnit (fun _ => True) Registration
    (fun reg r => { reg with plugins := MemoryStore.putIn r reg.plugins }) PUnit.unit
    (fun r _ => insert r >>= fun _ => pure (ForInStep.yield PUnit.unit)) (fun _ _ _ => trivial)
    (fun _ _ env _ => ⟨env, rfl⟩) stored { reg with store := s1 } env1 trivial
  rw [exec_bind_of_ok hfor]
  refine ⟨env2, ?_⟩
  rw [foldl_insert]
  rfl

/-- Filling an empty registry from its store, and pushing every registration to a bridge over an
empty directory when it read any, leaves the bridge serving the map. -/
theorem bridged_restore (hp : reg.plugins = []) (hb : reg.bridge = some b)
    (hd : b.directory.services = []) (env : Env) : Bridged (restore.exec reg env).2.1 := by
  have h0 : Bridged reg := bridged_of_empty hp hb hd
  rcases hr : restore.exec reg env with ⟨o, reg', env'⟩
  unfold restore at hr
  rcases hl : (Store.list {}).exec reg.store env with ⟨_ | stored, s1, env1⟩
  · -- The store could not list its records: nothing was restored.
    rw [exec_bind_of_error (exec_load_of_error hl)] at hr
    cases hr
    exact h0.of_same rfl rfl
  · obtain ⟨env2, hload⟩ := exec_load_of_ok hl
    rw [exec_bind_of_ok hload] at hr
    have hk : MemoryStore.Keyed (stored.foldl (fun acc r => MemoryStore.putIn r acc) reg.plugins) :=
      MemoryStore.keyed_foldl_putIn h0.keyed
    have hs : b.Serves [] := hp ▸ h0.serves b hb
    split at hr
    · -- Every registration read is pushed, in id order, to the empty directory.
      rw [exec_self_bind] at hr
      exact Bridged.of_onBridge hr hk hb hs (Bridge.pushes_syncAll_of_keyed hk)
        (leavesBridge_pure _)
    · -- Nothing was read: the map is still empty.
      rename_i hzero
      have hnil : stored = [] := List.eq_nil_of_length_eq_zero (Nat.eq_zero_of_not_pos hzero)
      subst hnil
      cases hr
      exact h0.of_same rfl rfl

/-- What the bridge lists as plugins' services are the registry's registrations, one for one and in
id order, each service as the bridge builds it from its registration but for when it was updated
and last heard from. -/
def ListsRegistry (reg : Registry) : Prop :=
  ∃ b, reg.bridge = some b ∧ ∀ env, ∃ ss, Bridge.listPluginServices.exec b env = (.ok ss, b, env) ∧
    ss.map Service.unstamped = reg.plugins.map (Bridge.serviceOf b.config)

theorem Bridged.lists (h : Bridged reg) : ListsRegistry reg := by
  obtain ⟨b, hb⟩ := h.bridged
  refine ⟨b, hb, fun env => ⟨_, Bridge.exec_listPluginServices b env, ?_⟩⟩
  rw [(h.serves b hb).listed]
  exact h.serves b hb

theorem Bridged.along (h : Bridged reg) (chs : List Change) (env : Env) :
    Change.Along (fun reg _ => ListsRegistry reg) chs reg env := by
  induction chs generalizing reg env with
  | nil => trivial
  | cons ch chs ih =>
    have h' := keeps_bridged ch reg env h
    exact ⟨h'.lists, ih h' _⟩

/-- Along every run of changes, each succeeding or failing, from an empty registry whose bridge has
an empty directory, or from what filling it from its store and pushing its registrations to the
bridge leaves, the plugin services the bridge lists are the registry's registrations: after each
change, one service per registration in id order, each as the bridge builds it from the
registration, with the same health, status, address, port, tags and registration time, and apart
only from when it was updated and last heard from. -/
theorem plugin_services_follow_registry (hp : reg.plugins = []) (hb : reg.bridge = some b)
    (hd : b.directory.services = []) (env₀ : Env) (chs : List Change) (env : Env) :
    ∀ start ∈ [reg, (restore.exec reg env₀).2.1],
      ListsRegistry start ∧ Change.Along (fun reg' _ => ListsRegistry reg') chs start env := by
  intro start hstart
  have hs : Bridged start := by
    rcases List.mem_pair.1 hstart with rfl | rfl
    · exact bridged_of_empty hp hb hd
    · exact bridged_restore hp hb hd env₀
  exact ⟨hs.lists, hs.along chs env⟩

/-- A registry on a fresh memory store with a bridge over an empty directory, and what restoring it
leaves, keep the bridge's plugin services in step along a registration, a heartbeat and an
unregistration. -/
theorem fresh_registry_services_follow :
    ({ Registry.create (.single (.memory {})) {} with bridge := some {} } : Registry).plugins = [] ∧
      ({ Registry.create (.single (.memory {})) {} with bridge := some {} } : Registry).bridge =
        some {} ∧
      ({} : Bridge).directory.services = [] ∧
      ∀ start ∈ [({ Registry.create (.single (.memory {})) {} with bridge := some {} } : Registry),
          (restore.exec
            { Registry.create (.single (.memory {})) {} with bridge := some {} } {}).2.1],
        ListsRegistry start ∧ Change.Along (fun reg _ => ListsRegistry reg)
          [.register (Registration.create "p" "P" "1.0" ⟨0, 0⟩), .heartbeat "p", .unregister "p"]
          start {} :=
  ⟨rfl, rfl, rfl, plugin_services_follow_registry rfl rfl rfl {} _ {}⟩

end Registry

end Plugboard
