import Plugboard.Proofs.Ranking
import Plugboard.Proofs.Pages
/-!
# Similar plugins

A similarity request names a registered plugin, whatever its status, and gets back the active
plugins at least 0.3 similar to it, most similar first and then by id, cut to a limit; an id that
no plugin has is refused with `notFound`. Since ids are distinct, the order is strict, so the
answer is the prefix of the one list in that order.

Similarity is symmetric, to the last bit, for registrations whose tags and permissions are sets,
as decoding makes them: the category term tests one equality, and the two overlaps count the same
common texts over the same larger size in either order. So among active plugins, one is in the
other's unbounded list exactly when the other is in its.
-/

namespace Plugboard

-- ---------------------------------------------------------------------------
-- Sorted sets of texts
-- ---------------------------------------------------------------------------

theorem mem_insertText {x z : String} {ys : List String} (h : z ∈ insertText x ys) :
    z = x ∨ z ∈ ys := by
  induction ys with
  | nil => simpa [insertText] using h
  | cons y ys ih =>
    unfold insertText at h
    split_ifs at h
    · exact Or.inr h
    · simpa using h
    · simp only [List.mem_cons] at h ⊢
      rcases h with rfl | h
      · exact Or.inr (Or.inl rfl)
      · rcases ih h with h | h
        · exact Or.inl h
        · exact Or.inr (Or.inr h)

theorem sorted_insertText (x : String) {ys : List String} (h : ys.Pairwise (· < ·)) :
    (insertText x ys).Pairwise (· < ·) := by
  induction ys with
  | nil => simp [insertText]
  | cons y ys ih =>
    rw [List.pairwise_cons] at h
    unfold insertText
    split_ifs with hxy hlt
    · exact List.pairwise_cons.2 h
    · -- in front of `y`, so in front of everything after it
      refine List.pairwise_cons.2 ⟨?_, List.pairwise_cons.2 h⟩
      simp only [List.mem_cons, forall_eq_or_imp]
      exact ⟨hlt, fun z hz => hlt.trans (h.1 z hz)⟩
    · -- behind `y`, which stays in front of `x` and of the rest
      have hyx : y < x := lt_of_le_of_ne (not_lt.1 hlt) (Ne.symm hxy)
      refine List.pairwise_cons.2 ⟨fun z hz => ?_, ih h.2⟩
      rcases mem_insertText hz with rfl | hz
      · exact hyx
      · exact h.1 z hz

/-- The sorted set of texts is sorted, each text once. -/
theorem sorted_textSet (xs : List String) : (textSet xs).Pairwise (· < ·) := by
  -- the fold starts from the empty list and each insertion keeps the order
  suffices h : ∀ acc : List String, acc.Pairwise (· < ·) →
      (xs.foldl (fun acc x => insertText x acc) acc).Pairwise (· < ·) from
    h [] List.Pairwise.nil
  induction xs with
  | nil => exact fun _ hacc => hacc
  | cons x xs ih => exact fun acc hacc => ih _ (sorted_insertText x hacc)

namespace Registration

/-- Tags and permissions hold each text once, as the sets they stand for. -/
def NoRepeats (r : Registration) : Prop := r.tags.Nodup ∧ r.permissions.Nodup

/-- A decoded registration's tags and permissions are sets. -/
theorem noRepeats_ofJson (j : Json) : (ofJson j).NoRepeats :=
  ⟨(sorted_textSet _).imp ne_of_lt, (sorted_textSet _).imp ne_of_lt⟩

end Registration

namespace Discovery

variable {plugins : List Registration} {reference : Registration}

-- ---------------------------------------------------------------------------
-- Symmetry
-- ---------------------------------------------------------------------------

/-- Two sets of texts have as many of the first's texts in the second as the other way round. -/
theorem length_filter_contains_comm {xs ys : List String} (hx : xs.Nodup) (hy : ys.Nodup) :
    (xs.filter ys.contains).length = (ys.filter xs.contains).length := by
  have hxy : (xs.filter ys.contains).toFinset = xs.toFinset ∩ ys.toFinset := by ext; simp
  have hyx : (ys.filter xs.contains).toFinset = ys.toFinset ∩ xs.toFinset := by ext; simp
  rw [← List.toFinset_card_of_nodup (hx.filter _), ← List.toFinset_card_of_nodup (hy.filter _),
    hxy, hyx, Finset.inter_comm]

theorem overlap_comm {xs ys : List String} (hx : xs.Nodup) (hy : ys.Nodup) :
    overlap xs ys = overlap ys xs := by
  simp only [overlap, Nat.max_comm xs.length ys.length, length_filter_contains_comm hx hy]

/-- Similarity does not depend on which registration is the reference: every term is computed
from the same numbers in either order, so the doubles agree bit for bit. -/
theorem similarity_comm {a b : Registration} (ha : a.NoRepeats) (hb : b.NoRepeats) :
    similarity a b = similarity b a := by
  have hcat : (!a.category.isEmpty && a.category == b.category) =
      (!b.category.isEmpty && b.category == a.category) := by
    by_cases h : a.category = b.category
    · simp [h]
    · simp [beq_eq_false_iff_ne.2 h, beq_eq_false_iff_ne.2 (Ne.symm h)]
  simp only [similarity, hcat, overlap_comm ha.1 hb.1, overlap_comm ha.2 hb.2]

-- ---------------------------------------------------------------------------
-- The ranking
-- ---------------------------------------------------------------------------

theorem mem_active {p : Registration} : p ∈ active plugins ↔ p ∈ plugins ∧ p.status = .active := by
  simp [active, Filter.select, Filter.page, Filter.byId, Filter.admits]

theorem nodup_ids_active (hn : (plugins.map (·.id)).Nodup) : ((active plugins).map (·.id)).Nodup :=
  (((Filter.byId_ranks _).1.map _).nodup_iff).2 (Filter.nodup_ids_filter _ hn)

theorem length_active_le : (active plugins).length ≤ plugins.length := by
  simpa [active, Filter.select, Filter.page, Filter.byId] using List.length_filter_le _ plugins

/-- The plugins similar enough to a reference to be ranked. -/
def similarCandidates (plugins : List Registration) (reference : Registration) :
    List Registration :=
  (active plugins).filter fun p =>
    p.id != reference.id && decide (similarity reference p ≥ similarityThreshold)

theorem mem_similarCandidates {p : Registration} :
    p ∈ similarCandidates plugins reference ↔
      p ∈ plugins ∧ p.status = .active ∧ p.id ≠ reference.id ∧
        similarityThreshold ≤ similarity reference p := by
  simp [similarCandidates, mem_active, and_assoc]

/-- One similar plugin ranks before another: it is more similar, or no less similar and of the
smaller id. -/
def Similar.Before (a b : Similar) : Prop :=
  b.similarity < a.similarity ∨ ¬ a.similarity < b.similarity ∧ a.plugin.id < b.plugin.id

/-- A list of the plugins similar to a reference, each with its similarity, in ranking order. -/
structure IsSimilarRanking (plugins : List Registration) (reference : Registration)
    (ranking : List Similar) : Prop where
  perm : (ranking.map (·.plugin)).Perm (similarCandidates plugins reference)
  similarity_eq : ∀ s ∈ ranking, s.similarity = similarity reference s.plugin
  sorted : ranking.Pairwise Similar.Before

/-- Where a similar plugin stands in the ranking: the larger similarity first, then the smaller
id. -/
def Similar.key (s : Similar) : (ℕ ×ₗ ℤ ×ₗ ℤ)ᵒᵈ ×ₗ String :=
  toLex (OrderDual.toDual s.similarity.rank, s.plugin.id)

/-- On similarities that are numbers, the ranking's order is the order of keys. -/
theorem similarOrder_eq_key {a b : Similar} (ha : a.similarity.isNaN = false)
    (hb : b.similarity.isNaN = false) :
    ((descending a.similarity b.similarity).then (compare a.plugin.id b.plugin.id) != .gt) =
      decide (a.key ≤ b.key) := by
  rw [Bool.eq_iff_iff, bne_iff_ne, decide_eq_true_eq, descending_then_ne_gt_iff ha hb, ne_eq,
    compare_gt_iff_gt, not_lt, Similar.key, Similar.key, Prod.Lex.toLex_le_toLex,
    OrderDual.toDual_lt_toDual, OrderDual.toDual_inj, eq_comm]

/-- Keys in order, of distinct ids, rank in order. -/
theorem Similar.before_of_key_le {a b : Similar} (ha : a.similarity.isNaN = false)
    (hb : b.similarity.isNaN = false) (h : a.key ≤ b.key) (hid : a.plugin.id ≠ b.plugin.id) :
    a.Before b := by
  rw [Similar.key, Similar.key, Prod.Lex.toLex_le_toLex, OrderDual.toDual_lt_toDual,
    OrderDual.toDual_inj] at h
  rcases h with hlt | ⟨heq, hle⟩
  · exact Or.inl ((Float.lt_iff_rank_lt hb ha).2 hlt)
  · exact Or.inr ⟨fun hab => ((Float.lt_iff_rank_lt ha hb).1 hab).ne heq,
      lt_of_le_of_ne hle hid⟩

/-- Two similar plugins never rank before each other. -/
theorem Similar.before_asymm {a b : Similar} (ha : a.similarity.isNaN = false)
    (hb : b.similarity.isNaN = false) (hab : a.Before b) (hba : b.Before a) : False := by
  rw [Similar.Before, Float.lt_iff_rank_lt ha hb, Float.lt_iff_rank_lt hb ha] at hab hba
  rcases hab with hab | ⟨hab, hid⟩ <;> rcases hba with hba | ⟨hba, hid'⟩
  · exact lt_asymm hab hba
  · exact hba hab
  · exact hab hba
  · exact lt_asymm hid hid'

/-- A ranked similarity reaches the threshold, so it is a number. -/
theorem isNaN_of_ranked {s : Similar} (hs : similarityThreshold ≤ s.similarity) :
    s.similarity.isNaN = false :=
  (Float.isNaN_eq_false_of_le hs).2

/-- The plugins of a list whose similarities are those to the reference, with those
similarities. -/
theorem eq_map_of_similarity_eq {ranking : List Similar}
    (h : ∀ s ∈ ranking, s.similarity = similarity reference s.plugin) :
    ranking = (ranking.map (·.plugin)).map fun p => ⟨p, similarity reference p⟩ := by
  rw [List.map_map]
  conv_lhs => rw [← List.map_id ranking]
  exact List.map_congr_left fun s hs => by rw [id, Function.comp_apply, ← h s hs]

namespace IsSimilarRanking

variable {ranking : List Similar}

theorem mem (h : IsSimilarRanking plugins reference ranking) {s : Similar} (hs : s ∈ ranking) :
    s.plugin ∈ similarCandidates plugins reference :=
  h.perm.subset (List.mem_map_of_mem hs)

theorem threshold_le (h : IsSimilarRanking plugins reference ranking) {s : Similar}
    (hs : s ∈ ranking) : similarityThreshold ≤ s.similarity := by
  rw [h.similarity_eq s hs]
  exact (mem_similarCandidates.1 (h.mem hs)).2.2.2

/-- The ranking order is strict, so a ranking of the similar plugins is the only one. -/
theorem unique {ranking' : List Similar} (h : IsSimilarRanking plugins reference ranking)
    (h' : IsSimilarRanking plugins reference ranking') : ranking = ranking' := by
  have hp : ranking.Perm ranking' := by
    rw [eq_map_of_similarity_eq h.similarity_eq, eq_map_of_similarity_eq h'.similarity_eq]
    exact (h.perm.trans h'.perm.symm).map _
  refine hp.eq_of_pairwise (fun a b ha hb hab hba => ?_) h.sorted h'.sorted
  exact (Similar.before_asymm (isNaN_of_ranked (h.threshold_le ha))
    (isNaN_of_ranked (h'.threshold_le hb)) hab hba).elim

end IsSimilarRanking

/-- The model's ranking is a ranking of the similar plugins, when ids are distinct. -/
theorem isSimilarRanking_similarRanking (hn : (plugins.map (·.id)).Nodup)
    (reference : Registration) :
    IsSimilarRanking plugins reference (similarRanking plugins reference) := by
  have hperm := similarRanking_perm plugins reference
  -- what the sort is given: the candidates with their similarities, all reaching the threshold
  have hfound : ∀ s ∈ ((active plugins).filter (·.id != reference.id)).filterMap (fun p =>
      let s := similarity reference p
      if s ≥ similarityThreshold then some ({ plugin := p, similarity := s } : Similar) else none),
      similarityThreshold ≤ s.similarity ∧ s.similarity = similarity reference s.plugin := by
    intro s hs
    simp only [List.mem_filterMap] at hs
    obtain ⟨p, -, hp⟩ := hs
    split_ifs at hp with hge
    cases hp
    exact ⟨hge, rfl⟩
  have hsim : ∀ s ∈ similarRanking plugins reference,
      similarityThreshold ≤ s.similarity ∧ s.similarity = similarity reference s.plugin :=
    fun s hs => hfound s (List.mem_mergeSort.1 hs)
  have hkeys : (similarRanking plugins reference).Pairwise fun a b => a.key ≤ b.key :=
    pairwise_sortBy_of_key Similar.key fun a ha b hb =>
      similarOrder_eq_key (isNaN_of_ranked (hfound a ha).1) (isNaN_of_ranked (hfound b hb).1)
  -- the candidates come from plugins of distinct ids
  have hids : ((similarRanking plugins reference).map (·.plugin.id)).Nodup := by
    have h := (hperm.map (·.id)).nodup_iff.2 (Filter.nodup_ids_filter _ (nodup_ids_active hn))
    rwa [List.map_map] at h
  refine ⟨hperm, fun s hs => (hsim s hs).2, ?_⟩
  refine (hkeys.and (List.pairwise_map.1 hids)).imp_of_mem fun ha hb hab => ?_
  exact Similar.before_of_key_le (isNaN_of_ranked (hsim _ ha).1) (isNaN_of_ranked (hsim _ hb).1)
    hab.1 hab.2

theorem length_similarRanking_le :
    (similarRanking plugins reference).length ≤ plugins.length := by
  calc (similarRanking plugins reference).length
      = (similarCandidates plugins reference).length := by
        rw [similarCandidates, ← (similarRanking_perm plugins reference).length_eq, List.length_map]
    _ ≤ (active plugins).length := List.length_filter_le _ _
    _ ≤ plugins.length := length_active_le

-- ---------------------------------------------------------------------------
-- Similarity requests
-- ---------------------------------------------------------------------------

variable {r : Registry} {id : String}

theorem similar_eq_error_iff (limit : Nat) :
    similar r id limit = .error (.notFound id) ↔ ∀ p ∈ r.plugins, p.id ≠ id := by
  rw [← MemoryStore.findIn_eq_none_iff]
  unfold similar Registry.find?
  cases MemoryStore.findIn id r.plugins <;> simp

theorem similar_of_find (h : r.find? id = some reference) (limit : Nat) :
    similar r id limit = .ok ((similarRanking r.plugins reference).take limit) := by
  simp only [similar, h, similarTo_eq]

/-- A request for a registered plugin answers a prefix of the ranking of the plugins similar to
it. -/
theorem similar_eq_take (hk : MemoryStore.Keyed r.plugins) (h : r.find? id = some reference)
    {ranking : List Similar} (hr : IsSimilarRanking r.plugins reference ranking) (limit : Nat) :
    similar r id limit = .ok (ranking.take limit) := by
  rw [similar_of_find h, (isSimilarRanking_similarRanking hk.nodup_ids reference).unique hr]

/-- With a limit no smaller than the registry, the request for a registered plugin answers all
the plugins similar to it. -/
theorem similar_unbounded (hk : MemoryStore.Keyed r.plugins) {a : Registration}
    (ha : a ∈ r.plugins) {limit : Nat} (hlimit : r.plugins.length ≤ limit) :
    ∃ found, similar r a.id limit = .ok found ∧
      ∀ b, b ∈ found.map (·.plugin) ↔ b ∈ similarCandidates r.plugins a := by
  have hfind : r.find? a.id = some a := (MemoryStore.findIn_eq_some_iff hk).2 ⟨ha, rfl⟩
  refine ⟨_, similar_of_find hfind limit, fun b => ?_⟩
  rw [List.take_of_length_le (length_similarRanking_le.trans hlimit)]
  exact (similarRanking_perm r.plugins a).mem_iff

/-- Among active plugins whose tags and permissions are sets, one is in the other's unbounded
similar list exactly when the other is in its. -/
theorem similar_mem_comm (hk : MemoryStore.Keyed r.plugins) {a b : Registration}
    (ha : a ∈ active r.plugins) (hb : b ∈ active r.plugins) (hsa : a.NoRepeats)
    (hsb : b.NoRepeats) {limit : Nat} (hlimit : r.plugins.length ≤ limit) :
    ∃ la lb, similar r a.id limit = .ok la ∧ similar r b.id limit = .ok lb ∧
      (b ∈ la.map (·.plugin) ↔ a ∈ lb.map (·.plugin)) := by
  rw [mem_active] at ha hb
  obtain ⟨la, hla, hma⟩ := similar_unbounded hk ha.1 hlimit
  obtain ⟨lb, hlb, hmb⟩ := similar_unbounded hk hb.1 hlimit
  refine ⟨la, lb, hla, hlb, ?_⟩
  rw [hma, hmb, mem_similarCandidates, mem_similarCandidates, similarity_comm hsa hsb]
  simp only [ha, hb, true_and, ne_comm]

/-- Similar plugins are the thresholded top of a symmetric similarity. A request fails, with
`notFound`, exactly when no plugin has the id, whatever the status of the one that has it.
Otherwise it answers the first `limit` plugins of the ranking of the active plugins other than
the reference at least 0.3 similar to it, each with that similarity, more similar first and then
by id; such a ranking exists and any such ranking gives the answer. Similarity is symmetric, so
one active plugin is in another's unbounded list exactly when the other is in its. -/
theorem similar_plugins_rank_a_symmetric_similarity (r : Registry)
    (hk : MemoryStore.Keyed r.plugins) (hsets : ∀ p ∈ r.plugins, p.NoRepeats) :
    (∀ id limit, similar r id limit = .error (.notFound id) ↔ ∀ p ∈ r.plugins, p.id ≠ id) ∧
    (∀ id reference, r.find? id = some reference →
      (∃ ranking, IsSimilarRanking r.plugins reference ranking) ∧
      ∀ ranking, IsSimilarRanking r.plugins reference ranking → ∀ limit,
        similar r id limit = .ok (ranking.take limit)) ∧
    (∀ a ∈ r.plugins, ∀ b ∈ r.plugins, similarity a b = similarity b a) ∧
    (∀ a ∈ active r.plugins, ∀ b ∈ active r.plugins, ∀ limit, r.plugins.length ≤ limit →
      ∃ la lb, similar r a.id limit = .ok la ∧ similar r b.id limit = .ok lb ∧
        (b ∈ la.map (·.plugin) ↔ a ∈ lb.map (·.plugin))) := by
  refine ⟨fun id limit => similar_eq_error_iff limit, fun id reference h => ⟨?_, ?_⟩,
    fun a ha b hb => similarity_comm (hsets a ha) (hsets b hb), ?_⟩
  · exact ⟨_, isSimilarRanking_similarRanking hk.nodup_ids reference⟩
  · exact fun ranking hr limit => similar_eq_take hk h hr limit
  · intro a ha b hb limit hlimit
    exact similar_mem_comm hk ha hb (hsets a (mem_active.1 ha).1) (hsets b (mem_active.1 hb).1)
      hlimit

theorem similar_plugins_of_two_tools :
    let r : Registry :=
      { plugins :=
          [{ Registration.create "alpha" "Alpha" "1.0" ⟨0, 0⟩ with
              category := "tools", tags := ["json", "yaml"], status := .active },
           { Registration.create "beta" "Beta" "1.0" ⟨0, 0⟩ with
              category := "tools", tags := ["json"], status := .active }]
        store := .single (.memory {}), bus := EventBus.create 100 }
    MemoryStore.Keyed r.plugins ∧ (∀ p ∈ r.plugins, p.NoRepeats) ∧
    (∀ id limit, similar r id limit = .error (.notFound id) ↔ ∀ p ∈ r.plugins, p.id ≠ id) ∧
    (∀ id reference, r.find? id = some reference →
      (∃ ranking, IsSimilarRanking r.plugins reference ranking) ∧
      ∀ ranking, IsSimilarRanking r.plugins reference ranking → ∀ limit,
        similar r id limit = .ok (ranking.take limit)) ∧
    (∀ a ∈ r.plugins, ∀ b ∈ r.plugins, similarity a b = similarity b a) ∧
    (∀ a ∈ active r.plugins, ∀ b ∈ active r.plugins, ∀ limit, r.plugins.length ≤ limit →
      ∃ la lb, similar r a.id limit = .ok la ∧ similar r b.id limit = .ok lb ∧
        (b ∈ la.map (·.plugin) ↔ a ∈ lb.map (·.plugin))) := by
  intro r
  have hk : MemoryStore.Keyed r.plugins := by
    simp only [MemoryStore.Keyed, r, Registration.create]
    decide
  have hsets : ∀ p ∈ r.plugins, p.NoRepeats := by
    simp [r, Registration.NoRepeats, Registration.create]
  exact ⟨hk, hsets, similar_plugins_rank_a_symmetric_similarity r hk hsets⟩

end Discovery

end Plugboard
