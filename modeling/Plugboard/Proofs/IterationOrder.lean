import Plugboard.Discovery.Basic
import Plugboard.Proofs.ServiceDirectory
import Plugboard.Proofs.SavedRecords
import Plugboard.Proofs.SandboxMembership
/-!
# Answers depend on what is held, not on the order it is found in

Registrations and managed plugins live in hash maps, and every answer starts by walking one of
them in whatever order the map yields. Such an order is stood for here by an enumeration of the
contents: for registrations, any list of them with no id twice; for the manager, any reordering
of its entries.

* Every answer of the registry (`list`, `discover`, `health`) and of discovery (`find`,
  `similarTo`, `recommend`, `search`, `byCategory`) first narrows the registrations and sorts
  them by id, so two registries with the same registrations answer alike (`SameContents`).
* A memory store keeps its records in increasing order of id, so the first record serving an
  endpoint is the one with the smallest id.
* The manager's listings are what sorting its entries, collected in any order, gives; a sample
  counts its running plugins; a broadcast sorts the refusals it collects, in whatever order.
-/

namespace Plugboard

open Act

-- ---------------------------------------------------------------------------
-- Registrations in any order
-- ---------------------------------------------------------------------------

namespace MemoryStore

variable {rs rs' : List Registration} {r x : Registration} {id : String}

theorem mem_of_findIn (h : findIn id rs = some x) : x ∈ rs := by
  rw [findIn_eq_find?] at h
  exact List.mem_of_find?_eq_some h

/-- Looking an id up does not depend on the order records are given in, as long as no id is given
twice. -/
theorem findIn_perm (hp : rs.Perm rs') (hn : (rs.map (·.id)).Nodup) (id : String) :
    findIn id rs = findIn id rs' := by
  cases h : findIn id rs with
  | none =>
    exact (findIn_eq_none_iff.2 fun y hy => findIn_eq_none_iff.1 h y (hp.symm.subset hy)).symm
  | some x =>
    cases h' : findIn id rs' with
    | none =>
      exact absurd (id_of_findIn h) (findIn_eq_none_iff.1 h' x (hp.subset (mem_of_findIn h)))
    | some y =>
      -- both answers carry the id asked for, and no id is there twice
      have hy : y ∈ rs := hp.symm.subset (mem_of_findIn h')
      rw [List.inj_on_of_nodup_map hn (mem_of_findIn h) hy
        ((id_of_findIn h).trans (id_of_findIn h').symm)]

/-- In records kept in increasing order of id, the first one with a property has the smallest id
of those that have it. -/
theorem find?_least {p : Registration → Bool} (hk : Keyed rs) (h : rs.find? p = some r) :
    ∀ x ∈ rs, p x = true → r.id ≤ x.id := by
  induction rs with
  | nil => cases h
  | cons y ys ih =>
    obtain ⟨hlt, hk⟩ := List.pairwise_cons.1 hk
    intro x hx hpx
    rw [List.find?_cons] at h
    cases hpy : p y with
    | true =>
      rw [hpy] at h
      cases h
      rcases List.mem_cons.1 hx with rfl | hx
      · exact le_refl _
      · exact le_of_lt (hlt x hx)
    | false =>
      rw [hpy] at h
      rcases List.mem_cons.1 hx with rfl | hx
      · exact absurd hpx (by rw [hpy]; exact Bool.false_ne_true)
      · exact ih hk h x hx hpx

/-- A memory store as its operations leave it answers a request for an endpoint with the
registration of smallest id that serves it. -/
theorem getByEndpoint_least {m : MemoryStore} (hv : m.Valid) (e : String) (env : Env)
    (r : Registration) :
    ((getByEndpoint e).exec m env).1 = .ok r ↔
      m.closed = false ∧ r ∈ m.records ∧ r.hasEndpoint e = true ∧
        ∀ x ∈ m.records, x.hasEndpoint e = true → r.id ≤ x.id := by
  rw [exec_getByEndpoint]
  cases hc : m.closed with
  | true => simp
  | false =>
    simp only [if_false, Bool.false_eq_true, true_and]
    cases hf : m.records.find? (·.hasEndpoint e) with
    | none =>
      simp only [reduceCtorEq, false_iff, not_and]
      intro hr hre _
      exact absurd hre (by simpa using List.find?_eq_none.1 hf r hr)
    | some y =>
      have hy : y ∈ m.records ∧ y.hasEndpoint e = true ∧
          ∀ x ∈ m.records, x.hasEndpoint e = true → y.id ≤ x.id :=
        ⟨List.mem_of_find?_eq_some hf, @List.find?_some _ (·.hasEndpoint e) y _ hf,
          find?_least hv.keyed hf⟩
      simp only [Except.ok.injEq]
      constructor
      · rintro rfl
        exact hy
      · -- two registrations serving the endpoint, each of smallest id, carry the same id
        rintro ⟨hr, hre, hleast⟩
        exact hv.keyed.id_inj hy.1 hr (le_antisymm (hy.2.2 r hr hre) (hleast y hy.1 hy.2.1))

end MemoryStore

namespace Registry

/-- Two registries hold the same registrations, no id twice, in whatever order. -/
structure SameContents (r r' : Registry) : Prop where
  perm : r.plugins.Perm r'.plugins
  nodup : (r.plugins.map (·.id)).Nodup

namespace SameContents

variable {r r' : Registry}

theorem find? (h : SameContents r r') (id : String) : r.find? id = r'.find? id :=
  MemoryStore.findIn_perm h.perm h.nodup id

theorem list (h : SameContents r r') (f : Filter) : r.list f = r'.list f :=
  Filter.select_perm f h.perm h.nodup

theorem discover (h : SameContents r r') (c : Criteria) : r.discover c = r'.discover c := by
  unfold Registry.discover
  rw [Filter.byId_perm (h.perm.filter c.admits) (Filter.nodup_ids_filter c.admits h.nodup)]

theorem health (h : SameContents r r') : r.health = r'.health := by
  have hcount : ∀ s : Status, (r.plugins.filter (·.status == s)).length =
      (r'.plugins.filter (·.status == s)).length := fun s => (h.perm.filter _).length_eq
  simp only [Registry.health, countByStatus, hcount]

end SameContents

end Registry

namespace Discovery

variable {ps ps' : List Registration}

/-- Every discovery answer starts from the active registrations in id order, which are the same
for every enumeration. -/
theorem active_perm (hp : ps.Perm ps') (hn : (ps.map (·.id)).Nodup) : active ps = active ps' :=
  Filter.select_perm _ hp hn

theorem find_perm (hp : ps.Perm ps') (hn : (ps.map (·.id)).Nodup) (q : Query) :
    find ps q = find ps' q := by
  simp only [find, active_perm hp hn]

theorem similarTo_perm (hp : ps.Perm ps') (hn : (ps.map (·.id)).Nodup) (reference : Registration)
    (limit : Nat) : similarTo ps reference limit = similarTo ps' reference limit := by
  simp only [similarTo, active_perm hp hn]

theorem recommend_perm (hp : ps.Perm ps') (hn : (ps.map (·.id)).Nodup) (user : Profile)
    (ctx : Context) : recommend ps user ctx = recommend ps' user ctx := by
  simp only [recommend, active_perm hp hn]

theorem search_perm (hp : ps.Perm ps') (hn : (ps.map (·.id)).Nodup) (s : Search) :
    search ps s = search ps' s := by
  simp only [search, Filter.select_perm _ hp hn]

theorem byCategory_perm (hp : ps.Perm ps') (hn : (ps.map (·.id)).Nodup) (category : String)
    (order : SortOrder) (limit : Nat) :
    byCategory ps category order limit = byCategory ps' category order limit :=
  search_perm hp hn _

end Discovery

-- ---------------------------------------------------------------------------
-- The manager's plugins in any order
-- ---------------------------------------------------------------------------

/-- Sorting by a key into a linear order puts a list in order of that key. -/
theorem pairwise_mergeSort_on {α β : Type} [LinearOrder α] (k : β → α) (l : List β) :
    (l.mergeSort fun a b => decide (k a ≤ k b)).Pairwise (fun a b => k a ≤ k b) := by
  refine (List.pairwise_mergeSort (fun a b c hab hbc => ?_) (fun a b => ?_) l).imp
    fun h => of_decide_eq_true h
  · simp only [decide_eq_true_eq] at hab hbc ⊢
    exact le_trans hab hbc
  · simpa using le_total (k a) (k b)

/-- Sorting any reordering of a sorted list gives the list back. -/
theorem mergeSort_eq_of_perm {α : Type} [LinearOrder α] {l l' : List α} (hp : l.Perm l')
    (hs : l'.Pairwise (· ≤ ·)) : l.mergeSort (fun a b => decide (a ≤ b)) = l' :=
  List.Perm.eq_of_pairwise (fun _ _ _ _ hab hba => le_antisymm hab hba)
    (List.pairwise_mergeSort' (· ≤ ·) l) hs
    ((List.mergeSort_perm _ _).trans hp)

namespace Manager

variable {m : Manager} {ps : List (String × Managed)}

/-- Collecting the records in any order and sorting them by id gives the manager's listing. -/
theorem list_of_perm (h : InStep m) (hp : ps.Perm m.plugins) :
    (ps.map (·.2.info)).mergeSort (fun a b => decide (a.id ≤ b.id)) = m.list := by
  have hkeyed := h.sorted.plugins
  refine List.Perm.eq_of_pairwise ?_ (pairwise_mergeSort_on PluginInfo.id _) ?_ ?_
  · -- two records with the same id are the records of one entry
    intro a b ha hb hab hba
    obtain ⟨p, hp', rfl⟩ := List.mem_map.1 (List.mem_mergeSort.1 ha)
    obtain ⟨q, hq, rfl⟩ := List.mem_map.1 hb
    have hpm : p ∈ m.plugins := hp.subset hp'
    have hkey : p.1 = q.1 := by
      rw [← h.ids p hpm, ← h.ids q hq]
      exact le_antisymm hab hba
    rw [List.inj_on_of_nodup_map (Entries.Keyed.nodup_keys hkeyed) hpm hq hkey]
  · -- the entries are kept in increasing order of id, each under its record's id
    unfold list
    rw [List.pairwise_map]
    refine hkeyed.imp_of_mem fun hp' hq hpq => ?_
    rw [h.ids _ hp', h.ids _ hq]
    exact le_of_lt hpq
  · unfold list
    exact (List.mergeSort_perm _ _).trans (hp.map _)

/-- Collecting the ids of running plugins in any order and sorting them gives the manager's list
of running plugins. -/
theorem running_of_perm (h : Sorted m) (hp : ps.Perm m.plugins) :
    ((ps.filter (·.2.info.state == .running)).map (·.1)).mergeSort (fun a b => decide (a ≤ b)) =
      m.running := by
  refine mergeSort_eq_of_perm ((hp.filter _).map _) ?_
  unfold running
  rw [List.pairwise_map]
  exact (h.plugins.filter _).imp le_of_lt

/-- A sample goes through every running plugin and counts them. -/
theorem sample_answer (h : Sorted m) (env : Env) : (sample.exec m env).1 = .ok m.running.length := by
  -- every round samples a plugin still there, and keeps the entries' ids and their order
  have hround : ∀ id ∈ m.running, ∀ (s : Manager) (env : Env),
      Entries.Keyed s.plugins ∧ Entries.keys s.plugins = Entries.keys m.plugins →
      ∃ s' env', (sampleOne id >>= fun _ => pure (ForInStep.yield PUnit.unit) :
          Act Manager (ForInStep PUnit)).exec s env = (.ok (.yield PUnit.unit), s', env') ∧
        Entries.Keyed s'.plugins ∧ Entries.keys s'.plugins = Entries.keys m.plugins := by
    intro id hid s env ⟨hk, hkeys⟩
    have hmem : id ∈ Entries.keys s.plugins := by
      rw [hkeys]
      obtain ⟨p, hp, rfl⟩ := List.mem_map.1 hid
      exact List.mem_map.2 ⟨p, List.mem_of_mem_filter hp, rfl⟩
    obtain ⟨x, hx⟩ : ∃ x, s.find? id = some x := by
      obtain ⟨p, hp, rfl⟩ := List.mem_map.1 hmem
      exact ⟨p.2, (Entries.get?_eq_some_iff hk).2 hp⟩
    refine ⟨_, _, by rw [exec_bind, exec_sampleOne_of_find hx]; rfl, Entries.keyed_put hk, ?_⟩
    rw [Entries.keys_put_of_mem hk hmem, hkeys]
  obtain ⟨s', env', hloop⟩ := exec_forIn_ok (b := PUnit.unit)
    (f := fun id _ => sampleOne id >>= fun _ => pure (ForInStep.yield PUnit.unit))
    m.running hround m env ⟨h.plugins, rfl⟩
  rw [sample, exec_self_bind]
  dsimp only
  rw [exec_bind, hloop]
  rfl

/-- A broadcast answers, for plugins enumerated in any order, with the number of plugins when
none refuses the event, and otherwise with their refusals sorted. -/
theorem broadcast_of_perm (h : Sorted m) (hp : ps.Perm m.plugins) (e : Event) (env : Env) :
    ((broadcast e).exec m env).1 =
      let failures := (ps.map (·.1)).filterMap fun id =>
        refusal id ((sendEvent id e).exec m env).1
      if failures = [] then .ok ps.length
      else .error (.eventDelivery (failures.mergeSort fun a b => decide (a ≤ b))) := by
  rw [broadcast_answer h.plugins e]
  -- the refusals collected in the two orders are the same texts, sorted alike
  have hperm : ((ps.map (·.1)).filterMap fun id => refusal id ((sendEvent id e).exec m env).1).Perm
      ((Entries.keys m.plugins).filterMap fun id => refusal id ((sendEvent id e).exec m env).1) :=
    (hp.map _).filterMap _
  have hsort : ((ps.map (·.1)).filterMap fun id =>
      refusal id ((sendEvent id e).exec m env).1).mergeSort (fun a b => decide (a ≤ b)) =
      ((Entries.keys m.plugins).filterMap fun id =>
        refusal id ((sendEvent id e).exec m env).1).mergeSort (fun a b => decide (a ≤ b)) :=
    mergeSort_eq_of_perm (hperm.trans (List.mergeSort_perm _ _).symm)
      (List.pairwise_mergeSort' (· ≤ ·) _)
  have hnil : ((ps.map (·.1)).filterMap fun id => refusal id ((sendEvent id e).exec m env).1) = [] ↔
      ((Entries.keys m.plugins).filterMap fun id =>
        refusal id ((sendEvent id e).exec m env).1) = [] := by
    rw [← List.length_eq_zero_iff, hperm.length_eq, List.length_eq_zero_iff]
  simp only [hnil, hsort, hp.length_eq]

end Manager

/-- Answers depend only on what is held. Two registries holding the same registrations, in any
order, answer listing, discovery by criteria, health and every discovery request alike; a memory
store answers a request for an endpoint with the registration of smallest id serving it; and a
manager reached from a fresh one answers its listings, a sample and a broadcast as collecting its
plugins in any order and sorting what was collected does. -/
theorem answers_depend_only_on_contents :
    (∀ r r' : Registry, r.SameContents r' →
      (∀ f, r.list f = r'.list f) ∧ (∀ c, r.discover c = r'.discover c) ∧
      r.health = r'.health ∧ (∀ id, r.find? id = r'.find? id) ∧
      (∀ q, Discovery.find r.plugins q = Discovery.find r'.plugins q) ∧
      (∀ reference limit, Discovery.similarTo r.plugins reference limit =
        Discovery.similarTo r'.plugins reference limit) ∧
      (∀ user ctx, Discovery.recommend r.plugins user ctx = Discovery.recommend r'.plugins user ctx) ∧
      (∀ s, Discovery.search r.plugins s = Discovery.search r'.plugins s) ∧
      (∀ category order limit, Discovery.byCategory r.plugins category order limit =
        Discovery.byCategory r'.plugins category order limit)) ∧
    (∀ m : MemoryStore, m.Valid → ∀ e env r,
      ((MemoryStore.getByEndpoint e).exec m env).1 = .ok r ↔
        m.closed = false ∧ r ∈ m.records ∧ r.hasEndpoint e = true ∧
          ∀ x ∈ m.records, x.hasEndpoint e = true → r.id ≤ x.id) ∧
    (∀ m₀ m : Manager, m₀.Fresh → m₀.Reachable m → ∀ ps : List (String × Managed),
      ps.Perm m.plugins →
      (ps.map (·.2.info)).mergeSort (fun a b => decide (a.id ≤ b.id)) = m.list ∧
      ((ps.filter (·.2.info.state == .running)).map (·.1)).mergeSort
        (fun a b => decide (a ≤ b)) = m.running ∧
      (∀ env, (Manager.sample.exec m env).1 = .ok (ps.filter (·.2.info.state == .running)).length) ∧
      ∀ e env, ((Manager.broadcast e).exec m env).1 =
        let failures := (ps.map (·.1)).filterMap fun id =>
          Manager.refusal id ((Manager.sendEvent id e).exec m env).1
        if failures = [] then .ok ps.length
        else .error (.eventDelivery (failures.mergeSort fun a b => decide (a ≤ b)))) := by
  refine ⟨fun r r' h => ?_, fun m hv e env r => MemoryStore.getByEndpoint_least hv e env r,
    fun m₀ m h₀ hm ps hp => ?_⟩
  · exact ⟨h.list, h.discover, h.health, h.find?, Discovery.find_perm h.perm h.nodup,
      Discovery.similarTo_perm h.perm h.nodup, Discovery.recommend_perm h.perm h.nodup,
      Discovery.search_perm h.perm h.nodup, Discovery.byCategory_perm h.perm h.nodup⟩
  · have hs := hm.inStep h₀
    have hcount : (ps.filter (·.2.info.state == .running)).length = m.running.length := by
      rw [Manager.running, List.length_map]
      exact (hp.filter _).length_eq
    exact ⟨Manager.list_of_perm hs hp, Manager.running_of_perm hs.sorted hp,
      fun env => hcount ▸ Manager.sample_answer hs.sorted env,
      fun e env => Manager.broadcast_of_perm hs.sorted hp e env⟩

/-- Two registries holding the same two registrations in opposite orders list them alike. -/
theorem swapped_registries_list_alike :
    let a := Registration.create "a" "A" "1.0" ⟨0, 0⟩
    let b := Registration.create "b" "B" "1.0" ⟨0, 0⟩
    let r := Registry.create (.single (.memory {})) {}
    Registry.SameContents { r with plugins := [a, b] } { r with plugins := [b, a] } ∧
      Registry.list { r with plugins := [a, b] } {} = Registry.list { r with plugins := [b, a] } {} :=
  have h : Registry.SameContents
      { Registry.create (.single (.memory {})) {} with
        plugins := [Registration.create "a" "A" "1.0" ⟨0, 0⟩, Registration.create "b" "B" "1.0" ⟨0, 0⟩] }
      { Registry.create (.single (.memory {})) {} with
        plugins := [Registration.create "b" "B" "1.0" ⟨0, 0⟩, Registration.create "a" "A" "1.0" ⟨0, 0⟩] } :=
    ⟨List.Perm.swap _ _ [], by decide⟩
  ⟨h, (answers_depend_only_on_contents.1 _ _ h).1 {}⟩

end Plugboard
