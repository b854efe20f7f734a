import Plugboard.Proofs.HubAlignment
import Plugboard.Proofs.Simulation
import Plugboard.Proofs.StoreMirror
/-!
# A hub keeps its store sound, whatever the store

That installs are all-or-nothing and keep a hub aligned is proved along runs whose store stays
sound after each call (`Hub.Sound`): the store keeps, on the disk, the records of a valid memory
store. A store on memory always does (`Hub.sound_along_of_onValidMemory`). A file store does as
long as every record it is asked to keep reads back as itself from the text it writes
(`Registration.ReadsBack`), and this module derives the soundness of any store from that.

A hub's store stays sound (`Hub.Stored`) while it mirrors the registry (`Registry.Mirrored`), and
once it is closed (`Store.Shut`), which every shutdown leaves it. Of a hub's calls only an install
asks its store to keep new records: the registration of the plugin it loads, and the status it
sets after the plugin's start (`Hub.InstallReads`). When the store's tier can keep each of them,
every call of a run from an aligned hub leaves the store sound (`Hub.sound_along_of_readable`).
A file store over an empty directory, while a manifest plugin is installed and uninstalled and the
hub shut down, is the example (`Hub.notes_run_keeps_file_store_sound`).
-/

namespace Plugboard

open Act

namespace MemoryStore

/-- Every call leaves the closed memory store as it is. -/
theorem call_closed (c : StoreCall) (env : Env) :
    ((ops.call c).exec { records := [], closed := true } env).2.1 =
      { records := [], closed := true } := by
  rcases call_state c { records := [], closed := true } env with h | ⟨hc, -⟩ | ⟨id, h⟩ | h
  · exact h
  · cases hc
  · rw [h]
    rfl
  · exact h

end MemoryStore

namespace FileStore

/-- A closed file store keeps the records of the closed memory store, on every disk. -/
theorem mirrors_shut {f : FileStore} (hc : f.closed = true) (d : Disk) :
    f.Mirrors d { records := [], closed := true } :=
  ⟨hc, fun hopen => nomatch hopen⟩

end FileStore

namespace Tier

/-- Every tier can keep the records of an empty store. -/
theorem keeps_empty (b : Tier) (closed : Bool) : b.Keeps { records := [], closed } := by
  cases b with
  | memory _ => trivial
  | file _ => exact fun _ hx => absurd hx List.not_mem_nil

end Tier

namespace Store

variable {s : Store} {d : Disk}

/-- A closed store: it keeps the records of the closed memory store, on every disk. -/
def Shut (s : Store) : Prop := ∀ d, s.Models d { records := [], closed := true }

/-- What a store keeping the closed memory store keeps does not depend on the disk. -/
theorem shut_of_models (h : s.Models d { records := [], closed := true }) : s.Shut := by
  intro d'
  cases s with
  | single b =>
    cases b with
    | memory n => exact h
    | file f => exact FileStore.mirrors_shut h.1 d'
  | cached c b =>
    obtain ⟨hb, hcv, hc⟩ := h
    cases b with
    | memory n => exact ⟨hb, hcv, hc⟩
    | file f => exact ⟨FileStore.mirrors_shut hb.1 d', hcv, hc⟩

/-- Every call leaves a closed store closed. -/
theorem keeps_shut (k : StoreCall) : Keeps Shut (ops.call k) := by
  intro s env hs
  have hm := models_next (hs env.disk) MemoryStore.valid_closed k fun _ => by
    rw [MemoryStore.call_closed]
    exact s.backend.keeps_empty true
  rw [Tier.next_of_keeps (MemoryStore.call_closed k env)] at hm
  exact shut_of_models hm

/-- Closing leaves every store closed. -/
theorem shut_close (s : Store) (env : Env) : (close.exec s env).2.1.Shut := by
  intro d
  cases s with
  | single b =>
    cases b with
    | memory n => rfl
    | file f => exact FileStore.mirrors_shut rfl d
  | cached c b =>
    cases b with
    | memory n => exact ⟨rfl, MemoryStore.valid_closed, MemoryStore.coherent_closed rfl⟩
    | file f =>
      exact ⟨FileStore.mirrors_shut rfl d, MemoryStore.valid_closed, MemoryStore.coherent_closed rfl⟩

end Store

namespace Registry

/-- Closing the registry closes its store. -/
theorem shut_close (reg : Registry) (env : Env) : (close.exec reg env).2.1.store.Shut := by
  unfold close
  rw [exec_bind_of_ok (exec_change _ _ _), exec_onStore]
  exact Store.shut_close _ _

/-- With no bridge, a call on it does nothing. -/
theorem exec_onBridge_of_none {reg : Registry} (hb : reg.bridge = none) (a : Act Bridge α)
    (env : Env) : (onBridge a).exec reg env = (.ok none, reg, env) := by
  unfold onBridge
  rw [exec_self_bind]
  split
  · rfl
  · rename_i b hsome
    rw [hb] at hsome
    cases hsome

end Registry

namespace Hub

variable {h h' : Hub} {env env' : Env} {d : Disk} {m : MemoryStore}

/-- A hub whose store stays sound: the store mirrors the registry on the disk, or it is closed. -/
def Stored (h : Hub) (d : Disk) : Prop :=
  (∃ m, Registry.Mirrored h.registry d m) ∨ h.registry.store.Shut

theorem Stored.sound (hs : h.Stored d) : h.Sound d := by
  rcases hs with ⟨m, hm⟩ | hshut
  · exact ⟨m, hm.models, hm.valid⟩
  · exact ⟨_, hshut d, MemoryStore.valid_closed⟩

/-- What an install asks of its store's tier, at the registry and the clock it asks it with: that
the tier keep what the registration of the plugin it loads leaves in the memory copy of the store,
and, once that registration answered, what the status change after the plugin's start leaves
there. -/
def InstallReads (path : String) (h : Hub) (env : Env) : Prop :=
  ∀ info m1 env1, (Manager.load path).exec h.manager env = (.ok info, m1, env1) →
    h.registry.store.backend.Keeps (Registry.kept
      (Registry.register (info.metadata.toRegistration env1.clock.now.1)) h.registry
      { env1 with clock := env1.clock.now.2 }) ∧
    ∀ x reg1 env2, (Registry.register (info.metadata.toRegistration env1.clock.now.1)).exec
        h.registry { env1 with clock := env1.clock.now.2 } = (.ok x, reg1, env2) →
      ∀ o m2 env3, (Manager.start info.id).exec m1 env2 = (o, m2, env3) →
        reg1.store.backend.Keeps (Registry.kept (Registry.updateStatus info.id
          (match o with
            | .ok () => .active
            | .error _ => .inactive)) reg1 env3)

end Hub

namespace HubCall

/-- What a call asks of its store's tier: an install what `Hub.InstallReads` says, the others
nothing. -/
def Reads : HubCall → Hub → Env → Prop
  | install path, h, env => Hub.InstallReads path h env
  | _, _, _ => True

/-- What each call of a run asks of its store's tier, from where the call before left off. -/
def ReadableAlong : List HubCall → Hub → Env → Prop
  | [], _, _ => True
  | c :: cs, h, env =>
    c.Reads h env ∧ ReadableAlong cs (c.run.exec h env).2.1 (c.run.exec h env).2.2

end HubCall

namespace Hub

variable {h h' : Hub} {env env' : Env} {m : MemoryStore}

/-- A shutdown leaves the hub's store closed: the registry closes it last. -/
theorem shut_shutdown (hm : h.manager.InStep) (env : Env) :
    (shutdown.exec h env).2.1.registry.store.Shut := by
  obtain ⟨envS, hsd⟩ := Manager.exec_shutdown hm env
  unfold shutdown
  rw [exec_bind, exec_onManager, hsd]
  dsimp only
  rw [exec_onRegistry]
  exact Registry.shut_close _ _

/-- An install from an aligned hub keeps a store that mirrors its registry sound, when the store's
tier can keep what the install asks of it. A load that fails changes nothing. A registration,
answered or refused, keeps the store mirroring the registry; so does the unload that undoes a
refused one, which keeps the disk, and the start and the status change that follow an answered
one. -/
theorem Stored.after_install (ha : h.Aligned) (hm : Registry.Mirrored h.registry env.disk m)
    {path : String} (hr : InstallReads path h env) {o : Outcome Registration}
    (hrun : (install path).exec h env = (o, h', env')) : h'.Stored env'.disk := by
  rcases Manager.load_cases ha.inStep.sorted.admitted path env with
    ⟨e, hl⟩ | ⟨inst, i, sb, -, hnone, -, hsb, hprep, hl⟩
  · rw [exec_install_of_load_error hl] at hrun
    cases hrun
    exact .inl ⟨m, hm⟩
  obtain ⟨hread1, hread2⟩ := hr _ _ _ hl
  have hid : (PluginInfo.loaded inst.metadata path i.native env.clock.now.1).id =
      inst.metadata.id := rfl
  unfold install at hrun
  rw [exec_bind, exec_onManager, hl] at hrun
  dsimp only at hrun
  rw [hid] at hrun
  rw [exec_bind_of_ok (exec_now _ _), exec_bind, exec_attempt, exec_onRegistry] at hrun
  dsimp only at hrun
  generalize hreg : (Registry.register _).exec h.registry _ = res at hrun
  -- the registration, at the clock's second reading, keeps the store mirroring the registry
  have hm2 : Registry.Mirrored h.registry
      ({ env with clock := env.clock.now.2.now.2 } : Env).disk m := hm
  have hm1 : ∃ m1, Registry.Mirrored res.2.1 res.2.2.disk m1 := by
    rw [← hreg]
    exact (hm2.stays_register _ hread1).imp fun _ hx => hx.1
  obtain ⟨m1, hm1⟩ := hm1
  rcases res with ⟨_ | x, reg1, env2⟩ <;> dsimp only at hrun hm1
  · -- a refused registration: the unload that undoes the load keeps the disk
    rw [exec_bind, exec_attempt, exec_onManager] at hrun
    dsimp only at hrun
    rw [exec_fail] at hrun
    cases hrun
    refine .inl ⟨m1, ?_⟩
    rw [Manager.keepsDisk_unload _ _ env2]
    exact hm1
  -- an answered one: the plugin starts, keeping the disk, and is made active
  obtain ⟨m2, env3, hstart, hd3, -⟩ :=
    Manager.start_after_enter ha.inStep hnone hsb hprep
      (PluginInfo.loaded inst.metadata path i.native env.clock.now.1) rfl rfl env2
  have hread3 := hread2 x reg1 env2 hreg (.ok ()) m2 env3 hstart
  rw [exec_bind, exec_attempt, exec_onManager, hstart] at hrun
  dsimp only at hrun
  rw [exec_onRegistry] at hrun
  dsimp only at hrun
  have hm3 : Registry.Mirrored reg1 env3.disk m1 := by
    rw [hd3]
    exact hm1
  obtain ⟨m4, hm4, -⟩ := hm3.stays_updateStatus inst.metadata.id .active hread3
  rcases hu : (Registry.updateStatus _ .active).exec reg1 env3 with ⟨o4, reg4, env4⟩
  rw [hu] at hrun hm4
  cases hrun
  exact .inl ⟨m4, hm4⟩

/-- An uninstall keeps a store that mirrors its registry sound: the unload keeps the disk, and the
unregistration, when the unload's outcome lets it run, keeps the store mirroring the registry. -/
theorem Stored.after_uninstall (hm : Registry.Mirrored h.registry env.disk m) {id : String}
    {o : Outcome Unit} (hrun : (uninstall id).exec h env = (o, h', env')) : h'.Stored env'.disk := by
  unfold uninstall at hrun
  rw [exec_bind, exec_attempt, exec_onManager] at hrun
  dsimp only at hrun
  generalize hu : (Manager.unload id).exec h.manager env = res at hrun
  obtain ⟨o1, m1, env1⟩ := res
  have hm1 : Registry.Mirrored h.registry env1.disk m := by
    have hd := Manager.keepsDisk_unload id h.manager env
    rw [hu] at hd
    rw [hd]
    exact hm
  obtain ⟨m2, hm2, -⟩ := hm1.stays_unregister id
  have hunreg : (onRegistry (Registry.unregister id)).exec { registry := h.registry, manager := m1 }
      env1 = (o, h', env') → h'.Stored env'.disk := by
    intro hx
    rw [exec_onRegistry] at hx
    cases hx
    exact .inl ⟨m2, hm2⟩
  -- the unregistration runs unless the unload failed for another reason than a missing plugin
  cases o1 with
  | ok u => exact hunreg hrun
  | error e =>
    dsimp only at hrun
    split at hrun
    · rw [exec_bind, exec_fail] at hrun
      cases hrun
      exact .inl ⟨m, hm1⟩
    · exact hunreg hrun

/-- Every call from an aligned hub whose store stays sound leaves it so, when the call asks of the
store's tier only what it keeps. A closed store stays closed under every call, and every shutdown
closes the store. -/
theorem Stored.after_call (ha : h.Aligned) (hs : h.Stored env.disk) (c : HubCall)
    (hr : c.Reads h env) : (c.run.exec h env).2.1.Stored (c.run.exec h env).2.2.disk := by
  rcases hs with ⟨m, hm⟩ | hshut
  · cases c with
    | install path =>
      rcases hrun : (install path).exec h env with ⟨o, h', env'⟩
      simp only [HubCall.run, exec_map, hrun]
      exact Stored.after_install ha hm hr hrun
    | uninstall id =>
      rcases hrun : (uninstall id).exec h env with ⟨o, h', env'⟩
      simp only [HubCall.run, hrun]
      exact Stored.after_uninstall hm hrun
    | shutdown => exact .inr (shut_shutdown ha.inStep env)
  · exact .inr (keeps_of_storeCalls Store.keeps_shut c h env hshut)

/-- **Every store stays sound along a run that asks of it only what its tier keeps.** Along every
run of installs, uninstalls and shutdowns from an aligned hub whose store mirrors its registry or
is closed, where each install asks of the store's tier only what it can keep, the store keeps, on
the disk, the records of a valid memory store after every call. -/
theorem sound_along_of_readable (ha : h.Aligned) (hs : h.Stored env.disk) (cs : List HubCall)
    (hr : HubCall.ReadableAlong cs h env) :
    HubCall.Along (fun _ _ h' env' => h'.Sound env'.disk) cs h env := by
  -- the induction carries the hub's alignment and its store's soundness from call to call
  induction cs generalizing h env with
  | nil => trivial
  | cons c cs ih =>
    obtain ⟨hr1, hrest⟩ := hr
    have hs' := hs.after_call ha c hr1
    exact ⟨hs'.sound, ih (ha.after_call hs.sound c hs'.sound).1 hs' hrest⟩

/-- A working directory holding the plugin directory `notes` and an empty directory `store`. -/
def filingDisk : Disk :=
  ⟨.dir [("work", .dir [("notes", .dir [("manifest.json", .file
    "\x7b\"id\":\"notes\",\"name\":\"Notes\",\"version\":\"1.0\"\x7d")]), ("store", .dir [])])]⟩

/-- A hub over a file store in `store`, with no plugin loaded and no bridge. -/
def filingHub : Hub :=
  { registry := { store := .single (.file { directory := "store" }), bus := EventBus.create 8 }
    manager := {} }

/-- The loader reads `notes` as an unloaded manifest plugin with only the required fields. -/
theorem filingDisk_loads_notes : filingHub.manager.loader.load filingDisk "notes" =
    .ok (.manifest (.create (.create "notes" "Notes" "1.0") "notes")) := by
  -- the kernel checks the manifest's fields on the loader's answer; of the plugins a loader makes,
  -- only a manifest plugin is not native
  have hview : (filingHub.manager.loader.load filingDisk "notes").toOption.map (fun i =>
      !i.native && i.metadata.id == "notes" && i.metadata.name == "Notes" &&
        i.metadata.version == "1.0" && i.metadata.description.isEmpty &&
        i.metadata.author.isEmpty && i.metadata.category.isEmpty && i.metadata.tags.isEmpty &&
        i.metadata.permissions.isEmpty && i.metadata.config.isEmpty &&
        i.metadata.extra.isEmpty) = some true := by
    decide +kernel
  rcases hl : filingHub.manager.loader.load filingDisk "notes" with e | inst
  · rw [hl] at hview
    cases hview
  rw [hl] at hview
  rcases Loader.load_fresh hl with ⟨md, rfl⟩ | rfl | rfl
  · obtain ⟨id, name, version, description, author, category, tags, permissions, config, extra⟩ :=
      md
    simp only [Except.toOption, Option.map_some, Option.some.injEq, Bool.and_eq_true, beq_iff_eq,
      List.isEmpty_iff, String.isEmpty_iff] at hview
    obtain ⟨⟨⟨⟨⟨⟨⟨⟨⟨⟨-, rfl⟩, rfl⟩, rfl⟩, rfl⟩, rfl⟩, rfl⟩, rfl⟩, rfl⟩, rfl⟩, rfl⟩ := hview
    rfl
  · cases hview
  · cases hview

/-- Installing `notes` on `filingHub` asks of its file store only records that read back: the
registration of the plugin, and the same record made active after the plugin starts. -/
theorem notes_install_reads_back : InstallReads "notes" filingHub { disk := filingDisk } := by
  intro info m1 env1 hl
  rcases Manager.load_cases (m := filingHub.manager) List.Pairwise.nil "notes"
      { disk := filingDisk } with ⟨e, he⟩ | ⟨inst, i, sb, hload, -, -, hsb, hprep, he⟩
  · rw [he] at hl
    cases hl
  cases hload.symm.trans filingDisk_loads_notes
  rw [Instance.exec_prepare_manifest rfl] at hprep
  cases hprep
  rw [he] at hl
  cases hl
  have hk0 : MemoryStore.Keyed filingHub.registry.plugins := List.Pairwise.nil
  refine ⟨?_, fun x reg1 env2 hreg o m2 env3 hstart => ?_⟩
  · -- the registration of the new plugin asks the store to keep its record, which reads back
    rw [Registry.kept_register_of_none hk0 ?valid rfl]
    case valid => decide +kernel
    intro y hy
    rcases (MemoryStore.mem_putIn hk0).mp hy with rfl | ⟨hy, -⟩
    · exact Registration.readsBack_of_checked rfl rfl rfl (by decide +kernel)
    · cases hy
  -- the registration answered: the file store saved the record, keeping the clock, and with no
  -- bridge nothing else ran
  obtain ⟨ts, hxeq, -, hts, s', envA, ob, regB, hsave, hbridge, hp, hs⟩ :=
    Registry.register_of_ok hreg
  obtain rfl := hts rfl
  rw [Registry.exec_onBridge_of_none rfl] at hbridge
  cases hbridge
  -- the save runs at the clock's third reading, on the disk the install started from
  have hholds : FileStore.Holds { directory := "store" }
      ({ disk := filingDisk, clock := ⟨3⟩ } : Env).disk [] :=
    (FileStore.mirrors_empty_of_listDir rfl (by decide +kernel)).1.2 rfl
  obtain ⟨d', hf, -⟩ := FileStore.exec_save (r := x) hholds rfl (by rw [hxeq]; decide +kernel)
  have hsv : (Store.save x).exec (.single (.file { directory := "store" }))
      { disk := filingDisk, clock := ⟨3⟩ } =
      (.ok (), .single (.file { directory := "store" }), { disk := d', clock := ⟨3⟩ }) := by
    rw [Store.save, Store.exec_run_single, Tier.save, Tier.exec_run_file, hf]
  cases hsv.symm.trans hsave
  -- the plugin starts, and the status change then asks the store to keep the record made active
  cases (Manager.exec_lifecycle_of_ok (Entries.keyed_put List.Pairwise.nil)
    (Manager.find?_put_self { filingHub.manager with sandbox := sb } "notes" ⟨_, _⟩) rfl
    (Instance.exec_start_manifest (.inl rfl))).symm.trans hstart
  have hk1 : MemoryStore.Keyed reg1.plugins := by
    rw [hp]
    exact MemoryStore.keyed_putIn hk0
  have hf1 : reg1.find? "notes" = some x := by
    show MemoryStore.findIn "notes" reg1.plugins = some x
    rw [hp]
    dsimp only
    rw [MemoryStore.findIn_putIn hk0, if_pos (by rw [hxeq]; rfl)]
  subst hxeq
  show reg1.store.backend.Keeps (Registry.kept (Registry.updateStatus "notes" .active) reg1 _)
  rw [Registry.kept_updateStatus hk1 hf1 (by decide), hs]
  intro y hy
  rcases (MemoryStore.mem_putIn hk1).mp hy with rfl | ⟨hy, hne⟩
  · refine Registration.readsBack_of_checked rfl rfl rfl ?_
    dsimp only
    decide +kernel
  · -- the registered record is the one the change replaces
    rw [hp] at hy
    rcases (MemoryStore.mem_putIn hk0).mp hy with rfl | ⟨hy, -⟩
    · exact absurd rfl hne
    · cases hy

/-- A file store stays sound while `notes` is installed, uninstalled and the hub shut down: the
hub starts aligned over an empty store directory, and the install asks of the store only what
reads back. -/
theorem notes_run_keeps_file_store_sound :
    filingHub.Aligned ∧ filingHub.Stored filingDisk ∧
      HubCall.ReadableAlong [.install "notes", .uninstall "notes", .shutdown] filingHub
        { disk := filingDisk } ∧
      HubCall.Along (fun _ _ h' env' => h'.Sound env'.disk)
        [.install "notes", .uninstall "notes", .shutdown] filingHub { disk := filingDisk } := by
  have ha : filingHub.Aligned := aligned_of_fresh List.Pairwise.nil ⟨rfl, rfl, rfl⟩
  obtain ⟨hmirrors, hlists⟩ := FileStore.mirrors_empty_of_listDir (f := { directory := "store" })
    (d := filingDisk) rfl (by decide +kernel)
  have hs : filingHub.Stored filingDisk :=
    .inl ⟨{}, { keyed := List.Pairwise.nil, models := hmirrors, valid := MemoryStore.valid_empty
                isOpen := rfl, lists := hlists, same := rfl }⟩
  have hr : HubCall.ReadableAlong [.install "notes", .uninstall "notes", .shutdown] filingHub
      { disk := filingDisk } := ⟨notes_install_reads_back, trivial, trivial, trivial⟩
  exact ⟨ha, hs, hr, sound_along_of_readable ha hs _ hr⟩

end Hub

end Plugboard
