import Plugboard.Proofs.ManagerCalls
import Plugboard.Proofs.Announcements
import Plugboard.Hub.Basic
/-!
# The metadata a load records

A plugin's manifest reads as some metadata. A manifest directory is loaded as a plugin that keeps
exactly that metadata; a native module is loaded as the plugin its factory builds, which keeps the
metadata compiled into it and is accepted only when that has the manifest's id. The manager
records the loaded plugin's own metadata, has the sandbox check that same metadata against its
allowed permissions, and a hub registers it when it installs the plugin.
-/

namespace Plugboard

open Act

/-- A factory builds a native plugin. -/
@[simp] theorem Factory.native_build (f : Factory) : f.build.native = true := by
  cases f <;> rfl

namespace Loader

variable {l : Loader} {d : Disk} {path : String} {inst : Instance}

theorem instantiate_ok {stem : String} (h : l.instantiate stem = .ok inst) :
    ∃ f : Factory, inst = f.build := by
  unfold instantiate at h
  split at h
  · cases h
  · dsimp only at h
    split at h
    · rename_i f _
      cases h
      exact ⟨f, rfl⟩
    · cases h
    · cases h

/-- What a load finds. The manifest at the path reads as some metadata `md`. A manifest
directory becomes a plugin with exactly that metadata; a native module becomes the plugin its
factory builds, and is accepted only when that plugin has the manifest's id. -/
theorem load_metadata (h : l.load d path = .ok inst) :
    ∃ md, l.metadataAt d path = .ok md ∧ inst.metadata.id = md.id ∧
      (inst.native = false → inst.metadata = md) ∧
      (inst.native = true → ∃ f : Factory, inst = f.build) := by
  unfold load at h
  cases hv : l.validate d path with
  | error e =>
    rw [hv] at h
    cases h
  | ok source =>
    cases hm : readManifest d source with
    | error e =>
      rw [hv] at h
      simp only [bind, Except.bind, hm] at h
      cases h
    | ok md =>
      refine ⟨md, by simp only [metadataAt, hv, bind, Except.bind, hm], ?_⟩
      rw [hv] at h
      simp only [bind, Except.bind, hm] at h
      cases source with
      | directory manifest =>
        cases h
        exact ⟨rfl, fun _ => rfl, fun h => by cases h⟩
      | native stem manifest =>
        dsimp only at h
        cases hi : l.instantiate stem with
        | error e =>
          rw [hi] at h
          cases h
        | ok i =>
          rw [hi] at h
          dsimp only at h
          split at h
          · cases h
          · rename_i hid
            cases h
            obtain ⟨f, rfl⟩ := instantiate_ok hi
            refine ⟨by simpa using hid, fun h => ?_, fun _ => ⟨f, rfl⟩⟩
            rw [Factory.native_build] at h
            cases h

end Loader

namespace Sandbox

/-- A sandbox that lists the permissions it allows admits only a plugin that asks for none but
those. -/
theorem enter_allowed {s sb : Sandbox} {md : Metadata} (h : s.enter md = .ok sb)
    (hne : s.config.allowedPermissions ≠ []) :
    ∀ p ∈ md.permissions, p ∈ s.config.allowedPermissions := by
  intro p hp
  by_contra hnot
  have hl : (!s.config.allowedPermissions.isEmpty) = true := by
    simpa [List.isEmpty_iff] using hne
  have hd : (!(md.permissions.filter (!s.config.allowedPermissions.contains ·)).isEmpty) = true := by
    simp only [Bool.not_eq_true', List.isEmpty_eq_false_iff, ne_eq, List.filter_eq_nil_iff]
    simpa using ⟨p, hp, hnot⟩
  unfold enter at h
  dsimp only at h
  rw [if_pos hl, if_pos hd] at h
  cases h

end Sandbox

/-- Preparing a plugin keeps it native or not. -/
theorem Instance.native_prepare (c : List (String × Json)) (i : Instance) (env : Env) :
    ((Instance.prepare c).exec i env).2.1.native = i.native := by
  cases i with
  | echo p => rfl
  | faulty p => rfl
  | manifest p =>
    show ((onManifest ((p.prepare c).map ((), ·))).exec (.manifest p) env).2.1.native = false
    cases p.prepare c <;> rfl

namespace Manager

variable {m m' : Manager} {env env' : Env} {path : String} {info : PluginInfo}

/-- A load that answers found a plugin at the path, recorded that plugin's own metadata, and
leaves the sandbox that admitted that same metadata. -/
theorem load_records (h : (load path).exec m env = (.ok info, m', env')) :
    ∃ inst, m.loader.load env.disk path = .ok inst ∧ info.metadata = inst.metadata ∧
      info.native = inst.native ∧ m.sandbox.enter info.metadata = .ok m'.sandbox := by
  rcases hl : m.loader.load env.disk path with e | inst
  · rw [exec_load_of_unloadable hl] at h
    cases h
  cases ht : ((m.find? inst.metadata.id).isSome || m.loading.contains inst.metadata.id)
  case true =>
    rw [exec_load_of_taken hl ht] at h
    cases h
  case false =>
    rw [exec_load_of_free hl ht] at h
    cases hs : m.sandbox.enter inst.metadata with
    | error e =>
      rw [exec_enroll_of_refused (m := { m with loading := inst.metadata.id :: m.loading }) hs] at h
      cases h
    | ok sb =>
      rw [exec_enroll_of_admitted (m := { m with loading := inst.metadata.id :: m.loading }) hs] at h
      have hn := Instance.native_prepare inst.metadata.config inst env
      rcases hp : (Instance.prepare inst.metadata.config).exec inst env with ⟨_ | u, i, env1⟩ <;>
        rw [hp] at h hn <;> dsimp only at h
      · cases h
      · cases h
        exact ⟨inst, rfl, rfl, hn, hs⟩

end Manager

namespace Registry

variable {reg reg' : Registry} {env env' : Env}

/-- A registration that answered answers the record it put into the map, with the id and the
version it was given. -/
theorem register_answer {r x : Registration} (h : (register r).exec reg env = (.ok x, reg', env')) :
    x.id = r.id ∧ x.version = r.version ∧ reg'.plugins = MemoryStore.putIn x reg.plugins := by
  obtain ⟨ts, rfl, -, -, s', env1, o, reg1, -, hrun, hp, -⟩ := register_of_ok h
  exact ⟨rfl, rfl, hp.trans ((leavesRecords_onBridge _).of_exec hrun).1⟩

/-- A status change that answered answers a record with the id and the version of the one it
found. -/
theorem updateStatus_answer {id : String} {st : Status} {y : Registration}
    (h : (updateStatus id st).exec reg env = (.ok y, reg', env')) :
    ∃ old, reg.find? id = some old ∧ y.id = old.id ∧ y.version = old.version := by
  unfold updateStatus at h
  rw [exec_self_bind] at h
  split at h
  · rename_i old hf
    split at h
    · cases h
      exact ⟨_, hf, rfl, rfl⟩
    · rw [exec_bind_of_ok (exec_now reg env), exec_bind_of_ok (exec_insert _ _ _)] at h
      obtain ⟨s', env1, -, hrest⟩ := exec_persist_bind_of_ok h
      obtain ⟨x, reg1, env2, hx, -⟩ := exec_onBridge_bus (Bridge.update _) _ env1
      rw [exec_bind_of_ok hx, exec_bind_of_ok (exec_emit _ _ _), exec_pure] at hrest
      cases hrest
      exact ⟨old, hf, rfl, rfl⟩
  · rw [exec_fail] at h
    cases h

end Registry

/-- Whatever a step answers, a run that then fails fails. -/
theorem exec_bind_fail {σ α β : Type} (a : Act σ α) (e : Error) (s : σ) (env : Env) :
    ∃ e' s' env', ((a >>= fun _ => Act.fail e) : Act σ β).exec s env = (.error e', s', env') := by
  rw [exec_bind]
  rcases a.exec s env with ⟨_ | x, s', env'⟩
  · exact ⟨_, _, _, rfl⟩
  · exact ⟨_, _, _, exec_fail _ _ _⟩

namespace Hub

variable {α : Type} {h h' : Hub} {env env' : Env} {path : String} {r : Registration}

theorem exec_onManager (a : Act Manager α) (h : Hub) (env : Env) :
    (onManager a).exec h env =
      ((a.exec h.manager env).1, { h with manager := (a.exec h.manager env).2.1 },
        (a.exec h.manager env).2.2) :=
  rfl

theorem exec_onRegistry (a : Act Registry α) (h : Hub) (env : Env) :
    (onRegistry a).exec h env =
      ((a.exec h.registry env).1, { h with registry := (a.exec h.registry env).2.1 },
        (a.exec h.registry env).2.2) :=
  rfl

/-- An install that answered loaded the plugin, and answers a registration with the id and the
version of the metadata the manager recorded, over a registry whose map is keyed by id. -/
theorem install_registers (hk : MemoryStore.Keyed h.registry.plugins)
    (hi : (install path).exec h env = (.ok r, h', env')) :
    ∃ info m1 env1, (Manager.load path).exec h.manager env = (.ok info, m1, env1) ∧
      r.id = info.metadata.id ∧ r.version = info.metadata.version := by
  unfold install at hi
  rw [exec_bind, exec_onManager] at hi
  rcases hm : (Manager.load path).exec h.manager env with ⟨_ | info, m1, env1⟩ <;>
    rw [hm] at hi <;> dsimp only at hi
  · cases hi
  refine ⟨info, m1, env1, rfl, ?_⟩
  rw [exec_bind_of_ok (exec_now _ _), exec_bind, exec_attempt, exec_onRegistry] at hi
  dsimp only at hi
  rcases hr : (Registry.register (info.metadata.toRegistration env1.clock.now.1)).exec h.registry
    { env1 with clock := env1.clock.now.2 } with ⟨_ | x, reg1, env2⟩ <;> rw [hr] at hi <;>
    dsimp only at hi
  · -- A refused registration unloads the plugin again and fails.
    obtain ⟨_, _, _, hf⟩ := exec_bind_fail (β := Registration) _ _ _ _
    rw [hf] at hi
    cases hi
  obtain ⟨hxid, hxv, hp⟩ := Registry.register_answer hr
  rw [exec_bind, exec_attempt, exec_onManager] at hi
  dsimp only at hi
  rcases hs : (Manager.start info.id).exec m1 env2 with ⟨_ | u, m2, env3⟩ <;> rw [hs] at hi <;>
    dsimp only at hi
  · -- A failed start leaves the plugin inactive and fails.
    obtain ⟨_, _, _, hf⟩ := exec_bind_fail (β := Registration) _ _ _ _
    rw [hf] at hi
    cases hi
  rw [exec_onRegistry] at hi
  dsimp only at hi
  rcases hu : (Registry.updateStatus info.id .active).exec reg1 env3 with ⟨o, reg2, env4⟩
  rw [hu] at hi
  cases hi
  -- The status change finds the record the registration put into the map.
  obtain ⟨old, hf, hid, hver⟩ := Registry.updateStatus_answer hu
  have hx : reg1.find? info.id = some x := by
    rw [Registry.find?, hp, MemoryStore.findIn_putIn hk, if_pos (show x.id = info.id from hxid)]
  rw [hx] at hf
  cases hf
  exact ⟨hid.trans hxid, hver.trans hxv⟩

/-- **What a load records is what the sandbox checks and what an install registers.** A load
that answers records the metadata of the plugin it loaded: for a plugin recorded as not native,
exactly the metadata its manifest reads as; for a native one, the metadata its factory compiled
in, which has the manifest's id. The sandbox admitted that recorded metadata, so when it lists
the permissions it allows, the plugin asks for none but those. An install that answers, over a
registry whose map is keyed by id, registers the recorded id and version. -/
theorem recorded_metadata_checked_and_registered (path : String) (env : Env) :
    (∀ (m m' : Manager) (env' : Env) (info : PluginInfo),
      (Manager.load path).exec m env = (.ok info, m', env') →
      ∃ md, m.loader.metadataAt env.disk path = .ok md ∧ info.metadata.id = md.id ∧
        (info.native = false → info.metadata = md) ∧
        (info.native = true → ∃ f : Factory, info.metadata = f.build.metadata) ∧
        m.sandbox.enter info.metadata = .ok m'.sandbox ∧
        (m.sandbox.config.allowedPermissions ≠ [] →
          ∀ p ∈ info.metadata.permissions, p ∈ m.sandbox.config.allowedPermissions)) ∧
    (∀ (h h' : Hub) (env' : Env) (r : Registration),
      MemoryStore.Keyed h.registry.plugins →
      (install path).exec h env = (.ok r, h', env') →
      ∃ info m1 env1, (Manager.load path).exec h.manager env = (.ok info, m1, env1) ∧
        r.id = info.metadata.id ∧ r.version = info.metadata.version) := by
  refine ⟨fun m m' env' info h => ?_, fun h h' env' r hk hi => install_registers hk hi⟩
  obtain ⟨inst, hl, hmd, hn, hs⟩ := Manager.load_records h
  obtain ⟨md, hmeta, hid, hdir, hnat⟩ := Loader.load_metadata hl
  refine ⟨md, hmeta, hmd ▸ hid, fun h0 => hmd ▸ hdir (hn ▸ h0), fun h1 => ?_, hs,
    Sandbox.enter_allowed hs⟩
  -- A native plugin is one a factory built, so it keeps that factory's metadata.
  obtain ⟨f, rfl⟩ := hnat (hn ▸ h1)
  exact ⟨f, hmd⟩

/-- An outcome known to answer a value with some property. -/
theorem exists_ok_of_map {σ α β : Type} {r : Outcome α × σ × Env} {f : α → β} {b : β}
    (h : r.1.toOption.map f = some b) : ∃ a s env, r = (.ok a, s, env) ∧ f a = b := by
  rcases r with ⟨_ | a, s, env⟩
  · cases h
  · exact ⟨a, s, env, rfl, Option.some.inj h⟩

/-- A working directory holding the plugin directory `fmt`, whose manifest asks for `fs`. -/
def formatterDisk : Disk :=
  ⟨.dir [("work", .dir [("fmt", .dir [("manifest.json", .file
    "\x7b\"id\":\"fmt\",\"name\":\"Formatter\",\"version\":\"1.0\",\"permissions\":[\"fs\"]\x7d")])])]⟩

/-- A hub over an empty memory store whose sandbox allows `fs` only. -/
def formatterHub : Hub :=
  { registry := { store := .single (.memory {}), bus := EventBus.create 8 }
    manager := { sandbox := { config := { allowedPermissions := ["fs"] } } } }

/-- The plugin directory `fmt` loads with its manifest's metadata, and installs under the
recorded version. -/
theorem formatter_loads_and_installs :
    (∃ info m' env', (Manager.load "fmt").exec formatterHub.manager { disk := formatterDisk } =
        (.ok info, m', env') ∧
      formatterHub.manager.loader.metadataAt formatterDisk "fmt" = .ok info.metadata) ∧
    (∃ r h' env', (install "fmt").exec formatterHub { disk := formatterDisk } = (.ok r, h', env') ∧
      ∃ info m1 env1, (Manager.load "fmt").exec formatterHub.manager { disk := formatterDisk } =
        (.ok info, m1, env1) ∧ r.id = info.metadata.id ∧ r.version = info.metadata.version) := by
  obtain ⟨info, m', env', hl, hn⟩ := exists_ok_of_map (f := PluginInfo.native)
    (by decide +kernel : ((Manager.load "fmt").exec formatterHub.manager
      { disk := formatterDisk }).1.toOption.map PluginInfo.native = some false)
  obtain ⟨md, hmd, -, hdir, -⟩ :=
    (recorded_metadata_checked_and_registered "fmt" { disk := formatterDisk }).1 _ _ _ _ hl
  obtain ⟨r, h', env'', hi, -⟩ := exists_ok_of_map (f := Registration.version)
    (by decide +kernel : ((install "fmt").exec formatterHub
      { disk := formatterDisk }).1.toOption.map Registration.version = some "1.0")
  exact ⟨⟨info, m', env', hl, hdir hn ▸ hmd⟩, r, h', env'', hi,
    (recorded_metadata_checked_and_registered "fmt" { disk := formatterDisk }).2 _ _ _ _
      List.Pairwise.nil hi⟩

/-- A working directory holding the echo module and, beside it, a manifest that declares the
module's id under another name and version, and asks for `net`. -/
def echoBesideOtherManifest : Disk :=
  ⟨.dir [("work", .dir [("echo.json", .file
    "\x7b\"id\":\"echo\",\"name\":\"Other\",\"version\":\"2.0.0\",\"permissions\":[\"net\"]\x7d"),
    ("echo.so", .file "")])]⟩

/-- The echo module loads beside a manifest that gives it version `2.0.0` and asks for `net`,
into a sandbox that allows `fs` only: the record keeps the compiled version `1.0.0`, and the
plugin is admitted although its manifest asks for a permission the sandbox does not allow. -/
theorem native_record_differs_from_manifest :
    ∃ info m' env' md,
      (Manager.load "echo.so").exec { sandbox := { config := { allowedPermissions := ["fs"] } } }
        { disk := echoBesideOtherManifest } = (.ok info, m', env') ∧
      ({} : Loader).metadataAt echoBesideOtherManifest "echo.so" = .ok md ∧
      info.metadata.version = "1.0.0" ∧ md.version = "2.0.0" ∧ md.permissions = ["net"] := by
  obtain ⟨info, m', env', hl, hv⟩ := exists_ok_of_map (f := fun i : PluginInfo => i.metadata.version)
    (by decide +kernel : ((Manager.load "echo.so").exec
      { sandbox := { config := { allowedPermissions := ["fs"] } } }
      { disk := echoBesideOtherManifest }).1.toOption.map (fun i => i.metadata.version) =
        some "1.0.0")
  have hm : (({} : Loader).metadataAt echoBesideOtherManifest "echo.so").toOption.map
      (fun md => (md.version, md.permissions)) = some ("2.0.0", ["net"]) := by
    decide +kernel
  rcases hmd : ({} : Loader).metadataAt echoBesideOtherManifest "echo.so" with e | md
  · rw [hmd] at hm
    cases hm
  · rw [hmd] at hm
    obtain ⟨hver, hperm⟩ := Prod.mk.inj (Option.some.inj hm)
    exact ⟨info, m', env', md, hl, rfl, hv, hver, hperm⟩

end Hub

end Plugboard
