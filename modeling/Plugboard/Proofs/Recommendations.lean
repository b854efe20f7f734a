import Plugboard.Proofs.Similarity
/-!
# Recommendations

A recommendation request fuses three strategies over the candidates, the active plugins the user
has not installed: every candidate, with confidence 0.6, for a user with an install history; the
candidates whose content score passes 0.3, with that score capped at 1; and the five candidates
most used, with confidence 0.5. The first strategy to pick a plugin wins, the picks are ordered by
confidence, larger first and otherwise as they came, and the first ten are kept with their mean
confidence.

So the answer holds at most ten picks of distinct candidates in non-increasing confidence. A user
with an install history gets the first ten candidates in id order, all collaborative: those picks
cover every candidate and come first. A user without one gets content picks and popularity picks
only, and a plugin both strategies pick comes as a content pick.
-/

namespace Plugboard.Discovery

variable {plugins : List Registration} {user : Profile} {ctx : Context}
  {c : List Registration} {x : Recommendation}

-- ---------------------------------------------------------------------------
-- The parts of a recommendation
-- ---------------------------------------------------------------------------

/-- The plugins a user may be recommended: the active ones not installed, by id. -/
def recommendable (plugins : List Registration) (user : Profile) : List Registration :=
  (active plugins).filter (!user.hasInstalled ·.id)

/-- How well a plugin fits a user's project and tastes: 0.4 when the project type is the plugin's
category, and 0.2 for each preferred tag it has, a tag preferred twice counting twice. -/
def contentScore (user : Profile) (ctx : Context) (p : Registration) : Float :=
  (if ctx.projectType = some p.category then 0.4 else 0.0) +
    Float.ofNat (user.preferredTags.filter p.hasTag).length * 0.2

/-- One plugin ranks above another by use: more requests served, or as many and the smaller id. -/
def MorePopular (q p : Registration) : Prop :=
  p.requestCount < q.requestCount ∨ q.requestCount = p.requestCount ∧ q.id < p.id

instance : DecidableRel MorePopular := fun _ _ => inferInstanceAs (Decidable (_ ∨ _))

/-- The mean of doubles, summed left to right from negative zero as floating-point sums are;
zero for none. -/
def mean (xs : List Float) : Float :=
  if xs = [] then 0.0 else xs.foldl (· + ·) (-0.0) / Float.ofNat xs.length

/-- The candidates by use, most used first. -/
def popularRanking (c : List Registration) : List Registration :=
  sortBy (fun a b => (descendingNat a.requestCount b.requestCount).then (compare a.id b.id)) c

/-- The picks of the three strategies, each plugin once, as the first strategy picked it. -/
def fused (plugins : List Registration) (user : Profile) (ctx : Context) : List Recommendation :=
  let c := recommendable plugins user
  firstPerPlugin (collaborative c user ++ contentBased c user ctx ++ popular c) []

theorem recommend_items :
    (recommend plugins user ctx).items =
      (sortBy (fun a b => descending a.confidence b.confidence) (fused plugins user ctx)).take 10 :=
  rfl

theorem recommend_confidence :
    (recommend plugins user ctx).confidence =
      mean ((recommend plugins user ctx).items.map (·.confidence)) := by
  simp only [recommend, meanConfidence, mean, List.isEmpty_iff, List.map_eq_nil_iff,
    List.length_map, List.foldl_map]

theorem mem_recommendable {p : Registration} :
    p ∈ recommendable plugins user ↔
      p ∈ plugins ∧ p.status = .active ∧ p.id ∉ user.installed := by
  simp [recommendable, mem_active, Profile.hasInstalled, and_assoc]

/-- The candidates come in strictly increasing order of id. -/
theorem sorted_recommendable (hn : (plugins.map (·.id)).Nodup) :
    (recommendable plugins user).Pairwise fun a b => a.id < b.id := by
  have hle := (Filter.byId_ranks (plugins.filter (Filter.admits { status := some .active }))).2
  have hids : (active plugins).Pairwise fun a b => a.id ≠ b.id :=
    List.pairwise_map.1 (nodup_ids_active hn)
  exact ((hle.and hids).imp fun h => lt_of_le_of_ne h.1 h.2).filter _

theorem nodup_ids_recommendable (hn : (plugins.map (·.id)).Nodup) :
    ((recommendable plugins user).map (·.id)).Nodup :=
  Filter.nodup_ids_filter _ (nodup_ids_active hn)

-- ---------------------------------------------------------------------------
-- The first pick of each plugin
-- ---------------------------------------------------------------------------

section FirstPerPlugin

variable {rs xs ys : List Recommendation} {seen : List String}

theorem mem_firstPerPlugin (h : x ∈ firstPerPlugin rs seen) : x ∈ rs ∧ x.plugin.id ∉ seen := by
  induction rs generalizing seen with
  | nil => simp [firstPerPlugin] at h
  | cons r rs ih =>
    unfold firstPerPlugin at h
    split_ifs at h with hr
    · exact ⟨List.mem_cons_of_mem _ (ih h).1, (ih h).2⟩
    · rcases List.mem_cons.1 h with rfl | h
      · exact ⟨List.mem_cons_self, by simpa using hr⟩
      · obtain ⟨hx, hseen⟩ := ih h
        exact ⟨List.mem_cons_of_mem _ hx, fun hs => hseen (List.mem_cons_of_mem _ hs)⟩

theorem nodup_firstPerPlugin (rs : List Recommendation) (seen : List String) :
    ((firstPerPlugin rs seen).map (·.plugin.id)).Nodup := by
  induction rs generalizing seen with
  | nil => simp [firstPerPlugin]
  | cons r rs ih =>
    unfold firstPerPlugin
    split_ifs with hr
    · exact ih seen
    · rw [List.map_cons, List.nodup_cons]
      refine ⟨fun hm => ?_, ih _⟩
      obtain ⟨y, hy, hid⟩ := List.mem_map.1 hm
      exact (mem_firstPerPlugin hy).2 (hid ▸ List.mem_cons_self)

/-- Picks of plugins already seen are all dropped. -/
theorem firstPerPlugin_of_seen (h : ∀ y ∈ ys, y.plugin.id ∈ seen) : firstPerPlugin ys seen = [] := by
  induction ys with
  | nil => rfl
  | cons y ys ih =>
    simp only [List.mem_cons, forall_eq_or_imp] at h
    simp [firstPerPlugin, h.1, ih h.2]

/-- Picks of distinct plugins not seen yet are all kept, and the rest is read having seen them. -/
theorem firstPerPlugin_append_of_new (hn : (xs.map (·.plugin.id)).Nodup)
    (hd : ∀ y ∈ xs, y.plugin.id ∉ seen) :
    firstPerPlugin (xs ++ ys) seen =
      xs ++ firstPerPlugin ys ((xs.map (·.plugin.id)).reverse ++ seen) := by
  induction xs generalizing seen with
  | nil => rfl
  | cons y xs ih =>
    rw [List.map_cons, List.nodup_cons] at hn
    simp only [List.mem_cons, forall_eq_or_imp] at hd
    have hnew : ∀ z ∈ xs, z.plugin.id ∉ y.plugin.id :: seen := by
      intro z hz hmem
      rcases List.mem_cons.1 hmem with h | h
      · exact hn.1 (h ▸ List.mem_map_of_mem hz)
      · exact hd.2 z hz h
    rw [List.cons_append, firstPerPlugin, if_neg (by simpa using hd.1), ih hn.2 hnew]
    simp

end FirstPerPlugin

-- ---------------------------------------------------------------------------
-- The three strategies
-- ---------------------------------------------------------------------------

theorem mem_collaborative (h : x ∈ collaborative c user) :
    x.plugin ∈ c ∧ x.source = .collaborative ∧ x.confidence = 0.6 := by
  unfold collaborative at h
  split_ifs at h
  · simp at h
  · obtain ⟨p, hp, rfl⟩ := List.mem_map.1 h
    exact ⟨hp, rfl, rfl⟩

theorem collaborative_of_installed (h : user.installed ≠ []) :
    (collaborative c user).map (·.plugin) = c := by
  simp [collaborative, h, List.isEmpty_iff, Function.comp_def]

theorem collaborative_of_no_history (h : user.installed = []) : collaborative c user = [] := by
  simp [collaborative, h]

theorem contentBased_score (user : Profile) (ctx : Context) (p : Registration) :
    (if ctx.projectType == some p.category then (0.0 : Float) + 0.4 else 0.0) +
      Float.ofNat (user.preferredTags.filter p.hasTag).length * 0.2 = contentScore user ctx p := by
  have h : (0.0 : Float) + 0.4 = 0.4 := by decide
  by_cases hp : ctx.projectType = some p.category <;> simp [contentScore, hp, h]

theorem mem_contentBased (h : x ∈ contentBased c user ctx) :
    x.plugin ∈ c ∧ x.source = .contentBased ∧ 0.3 < contentScore user ctx x.plugin ∧
      x.confidence =
        if contentScore user ctx x.plugin < 1.0 then contentScore user ctx x.plugin else 1.0 := by
  simp only [contentBased, List.mem_filterMap, contentBased_score] at h
  obtain ⟨p, hp, hx⟩ := h
  by_cases hs : 0.3 < contentScore user ctx p
  · rw [if_pos hs] at hx
    cases hx
    exact ⟨hp, rfl, hs, rfl⟩
  · rw [if_neg hs] at hx
    cases hx

/-- The content picks are the candidates whose content score passes 0.3, in order. -/
theorem map_plugin_contentBased (c : List Registration) :
    (contentBased c user ctx).map (·.plugin) =
      c.filter fun p => decide (0.3 < contentScore user ctx p) := by
  unfold contentBased
  simp only [contentBased_score]
  induction c with
  | nil => rfl
  | cons p ps ih =>
    by_cases hs : 0.3 < contentScore user ctx p <;> simp_all

theorem mem_popularRanking {p : Registration} : p ∈ popularRanking c ↔ p ∈ c :=
  List.mem_mergeSort

theorem mem_popular (h : x ∈ popular c) :
    x.plugin ∈ (popularRanking c).take 5 ∧ x.source = .popularity ∧ x.confidence = 0.5 := by
  simp only [popular, List.mem_map] at h
  obtain ⟨p, hp, rfl⟩ := h
  exact ⟨hp, rfl, rfl⟩

/-- Where a plugin stands by use: more requests first, then the smaller id. -/
def popularKey (p : Registration) : ℕᵒᵈ ×ₗ String := toLex (OrderDual.toDual p.requestCount, p.id)

theorem morePopular_iff {q p : Registration} : MorePopular q p ↔ popularKey q < popularKey p := by
  simp [MorePopular, popularKey, Prod.Lex.toLex_lt_toLex]

theorem popularOrder_eq_key (a b : Registration) :
    ((descendingNat a.requestCount b.requestCount).then (compare a.id b.id) != .gt) =
      decide (popularKey a ≤ popularKey b) := by
  have hgt : descendingNat a.requestCount b.requestCount = .gt ↔
      a.requestCount < b.requestCount := compare_gt_iff_gt
  have heq : descendingNat a.requestCount b.requestCount = .eq ↔
      a.requestCount = b.requestCount := compare_eq_iff_eq.trans eq_comm
  rw [Bool.eq_iff_iff, bne_iff_ne, decide_eq_true_eq, then_ne_gt_iff hgt heq, ne_eq,
    compare_gt_iff_gt, not_lt, popularKey, popularKey, Prod.Lex.toLex_le_toLex,
    OrderDual.toDual_lt_toDual, OrderDual.toDual_inj]

/-- A popularity pick is among the five candidates most used: fewer than five candidates rank
above it by use. -/
theorem popular_top_five (hn : (c.map (·.id)).Nodup) {p : Registration}
    (hp : p ∈ (popularRanking c).take 5) : (c.filter fun q => decide (MorePopular q p)).length < 5 := by
  have hperm : (popularRanking c).Perm c := List.mergeSort_perm _ _
  have hkeys : (popularRanking c).Pairwise fun a b => popularKey a ≤ popularKey b :=
    pairwise_sortBy_of_key popularKey fun a _ b _ => popularOrder_eq_key a b
  -- keys hold the id, and ids are distinct, so the order is strict
  have hids := List.pairwise_map.1 ((hperm.map (·.id)).nodup_iff.2 hn)
  have hlt : (popularRanking c).Pairwise fun a b => popularKey a < popularKey b :=
    (hkeys.and hids).imp fun h => lt_of_le_of_ne h.1 fun he => h.2 (by
      simpa [popularKey] using congrArg (fun k => (ofLex k).2) he)
  rw [mem_take_iff_length_filter_lt popularKey hlt (List.mem_of_mem_take hp)] at hp
  rw [← (hperm.filter _).length_eq]
  simpa only [morePopular_iff] using hp

-- ---------------------------------------------------------------------------
-- The fused picks
-- ---------------------------------------------------------------------------

/-- Every fused pick is one strategy's pick of a candidate, and no plugin is picked twice. -/
theorem mem_fused (h : x ∈ fused plugins user ctx) :
    x.plugin ∈ recommendable plugins user ∧
      (x ∈ collaborative (recommendable plugins user) user ∨
        x ∈ contentBased (recommendable plugins user) user ctx ∨
        x ∈ popular (recommendable plugins user)) := by
  have hx := (mem_firstPerPlugin h).1
  simp only [List.mem_append] at hx
  rcases hx with (hx | hx) | hx
  · exact ⟨(mem_collaborative hx).1, .inl hx⟩
  · exact ⟨(mem_contentBased hx).1, .inr (.inl hx)⟩
  · exact ⟨mem_popularRanking.1 (List.mem_of_mem_take (mem_popular hx).1), .inr (.inr hx)⟩

theorem mem_recommend (h : x ∈ (recommend plugins user ctx).items) : x ∈ fused plugins user ctx :=
  List.mem_mergeSort.1 (List.mem_of_mem_take (recommend_items ▸ h))

/-- Every fused pick carries a confidence that is a number. -/
theorem isNaN_confidence_of_fused (h : x ∈ fused plugins user ctx) : x.confidence.isNaN = false := by
  rcases (mem_fused h).2 with hx | hx | hx
  · rw [(mem_collaborative hx).2.2]
    decide
  · obtain ⟨-, -, hs, hc⟩ := mem_contentBased hx
    rw [hc]
    split_ifs
    · exact (Float.isNaN_eq_false_of_lt hs).2
    · decide
  · rw [(mem_popular hx).2.2]
    decide

/-- Where a pick stands in the answer: the larger confidence first. -/
def confidenceKey (x : Recommendation) : (ℕ ×ₗ ℤ ×ₗ ℤ)ᵒᵈ := OrderDual.toDual x.confidence.rank

/-- The answer is in non-increasing order of confidence. -/
theorem pairwise_recommend_confidence :
    (recommend plugins user ctx).items.Pairwise fun a b => ¬ a.confidence < b.confidence := by
  have hkeys : (sortBy (fun a b => descending a.confidence b.confidence)
      (fused plugins user ctx)).Pairwise fun a b => confidenceKey a ≤ confidenceKey b := by
    refine pairwise_sortBy_of_key confidenceKey fun a ha b hb => ?_
    have hna := isNaN_confidence_of_fused ha
    have hnb := isNaN_confidence_of_fused hb
    rw [Bool.eq_iff_iff, bne_iff_ne, decide_eq_true_eq, descending_ne_gt_iff hna hnb, confidenceKey,
      confidenceKey, OrderDual.toDual_le_toDual]
  rw [recommend_items]
  refine (hkeys.sublist (List.take_sublist _ _)).imp_of_mem fun ha hb hab => ?_
  have hna := isNaN_confidence_of_fused (List.mem_mergeSort.1 (List.mem_of_mem_take ha))
  have hnb := isNaN_confidence_of_fused (List.mem_mergeSort.1 (List.mem_of_mem_take hb))
  rw [Float.lt_iff_rank_lt hna hnb, not_lt]
  exact OrderDual.toDual_le_toDual.1 hab

theorem nodup_recommend : ((recommend plugins user ctx).items.map (·.plugin.id)).Nodup := by
  rw [recommend_items]
  refine ((List.take_sublist _ _).map _).nodup ?_
  exact ((List.mergeSort_perm _ _).map _).nodup_iff.2 (nodup_firstPerPlugin _ _)

-- ---------------------------------------------------------------------------
-- Users with an install history
-- ---------------------------------------------------------------------------

/-- For a user with an install history the collaborative picks cover every candidate and come
first, so they are all that is left. -/
theorem fused_of_installed (hn : (plugins.map (·.id)).Nodup) (h : user.installed ≠ []) :
    fused plugins user ctx = collaborative (recommendable plugins user) user := by
  have hids : ((collaborative (recommendable plugins user) user).map (·.plugin.id)) =
      (recommendable plugins user).map (·.id) := by
    have h' := congrArg (List.map (·.id)) (collaborative_of_installed (c := recommendable plugins user) h)
    simpa [Function.comp_def] using h'
  simp only [fused]
  rw [List.append_assoc, firstPerPlugin_append_of_new (hids ▸ nodup_ids_recommendable hn)
    (fun _ _ => List.not_mem_nil), firstPerPlugin_of_seen, List.append_nil]
  -- every later pick is of a candidate, which the collaborative picks have already seen
  intro y hy
  have hc : y.plugin ∈ recommendable plugins user := by
    rcases List.mem_append.1 hy with hy | hy
    · exact (mem_contentBased hy).1
    · exact mem_popularRanking.1 (List.mem_of_mem_take (mem_popular hy).1)
  rw [List.append_nil, List.mem_reverse, hids]
  exact List.mem_map_of_mem hc

/-- Collaborative picks all have confidence 0.6, so ordering by confidence keeps them in place. -/
theorem sortBy_collaborative :
    sortBy (fun a b => descending a.confidence b.confidence) (collaborative c user) =
      collaborative c user := by
  apply List.mergeSort_of_pairwise
  apply List.pairwise_of_forall_mem_list
  intro a ha b hb
  show (descending a.confidence b.confidence != .gt) = true
  rw [(mem_collaborative ha).2.2, (mem_collaborative hb).2.2]
  decide

/-- The candidates, in strictly increasing order of id, are the only such list. -/
theorem eq_recommendable (hn : (plugins.map (·.id)).Nodup) {L : List Registration}
    (hmem : ∀ p, p ∈ L ↔ p ∈ plugins ∧ p.status = .active ∧ p.id ∉ user.installed)
    (hL : L.Pairwise fun a b => a.id < b.id) : L = recommendable plugins user := by
  have hsorted : (recommendable plugins user).Pairwise fun a b => a.id < b.id :=
    sorted_recommendable hn
  have hnodup : ∀ {l : List Registration}, (l.Pairwise fun a b => a.id < b.id) → l.Nodup :=
    fun h => h.imp fun hab he => (he ▸ hab).false
  have hp : L.Perm (recommendable plugins user) :=
    (List.perm_ext_iff_of_nodup (hnodup hL) (hnodup hsorted)).2 fun p => by
      rw [hmem, mem_recommendable]
  exact hp.eq_of_pairwise (fun a b _ _ hab hba => (lt_asymm hab hba).elim) hL hsorted

/-- A user with an install history gets the first ten candidates, as collaborative picks. -/
theorem recommend_items_of_installed (hn : (plugins.map (·.id)).Nodup) (h : user.installed ≠ []) :
    (recommend plugins user ctx).items = (collaborative (recommendable plugins user) user).take 10 := by
  rw [recommend_items, fused_of_installed hn h, sortBy_collaborative]

-- ---------------------------------------------------------------------------
-- Users without one
-- ---------------------------------------------------------------------------

/-- Without an install history the content picks come first, all kept, and a popularity pick is
kept when its plugin is no content pick. -/
theorem fused_of_no_history (hn : (plugins.map (·.id)).Nodup) (h : user.installed = []) :
    fused plugins user ctx =
      contentBased (recommendable plugins user) user ctx ++
        firstPerPlugin (popular (recommendable plugins user))
          ((contentBased (recommendable plugins user) user ctx).map (·.plugin.id)).reverse := by
  have hids : (contentBased (recommendable plugins user) user ctx).map (·.plugin.id) =
      ((recommendable plugins user).filter fun p => decide (0.3 < contentScore user ctx p)).map
        (·.id) := by
    rw [← map_plugin_contentBased, List.map_map]
    rfl
  have hnodup : ((contentBased (recommendable plugins user) user ctx).map (·.plugin.id)).Nodup :=
    hids ▸ Filter.nodup_ids_filter _ (nodup_ids_recommendable hn)
  simp only [fused]
  rw [collaborative_of_no_history h, List.nil_append,
    firstPerPlugin_append_of_new hnodup (fun _ _ => List.not_mem_nil), List.append_nil]

/-- A pick for a user without an install history: a content pick of a plugin whose content score
passes 0.3, with that score capped at 1, or a popularity pick of one of the five candidates most
used whose content score does not pass 0.3, with confidence 0.5. -/
theorem mem_fused_of_no_history (hn : (plugins.map (·.id)).Nodup) (h : user.installed = [])
    (hx : x ∈ fused plugins user ctx) :
    (x.source = .contentBased ∧ 0.3 < contentScore user ctx x.plugin ∧
      x.confidence =
        if contentScore user ctx x.plugin < 1.0 then contentScore user ctx x.plugin else 1.0) ∨
    (x.source = .popularity ∧ ¬ 0.3 < contentScore user ctx x.plugin ∧ x.confidence = 0.5 ∧
      ((recommendable plugins user).filter fun q => decide (MorePopular q x.plugin)).length < 5) := by
  rw [fused_of_no_history hn h, List.mem_append] at hx
  rcases hx with hx | hx
  · exact .inl (mem_contentBased hx).2
  · obtain ⟨hpop, hnew⟩ := mem_firstPerPlugin hx
    obtain ⟨htop, hsrc, hconf⟩ := mem_popular hpop
    have hc := mem_popularRanking.1 (List.mem_of_mem_take htop)
    refine .inr ⟨hsrc, fun hs => hnew ?_, hconf, popular_top_five (nodup_ids_recommendable hn) htop⟩
    -- a plugin whose content score passes is a content pick, already seen
    have hmem : x.plugin ∈ (contentBased (recommendable plugins user) user ctx).map (·.plugin) := by
      rw [map_plugin_contentBased]
      exact List.mem_filter.2 ⟨hc, decide_eq_true hs⟩
    obtain ⟨y, hy, hyx⟩ := List.mem_map.1 hmem
    rw [List.mem_reverse]
    exact List.mem_map.2 ⟨y, hy, by rw [hyx]⟩

-- ---------------------------------------------------------------------------
-- The answer
-- ---------------------------------------------------------------------------

/-- Recommendation fusion. The answer holds at most ten picks of distinct plugins, all active and
none installed, in non-increasing confidence, with their mean confidence. A user with an install
history gets the first ten candidates in id order, each a collaborative pick with confidence 0.6.
A user without one gets content picks of plugins whose content score passes 0.3, with that score
capped at 1, and popularity picks, with confidence 0.5, of plugins among the five candidates most
used whose content score does not pass. -/
theorem recommendations_fuse_three_strategies (hn : (plugins.map (·.id)).Nodup) (user : Profile)
    (ctx : Context) :
    (recommend plugins user ctx).items.length ≤ 10 ∧
    ((recommend plugins user ctx).items.map (·.plugin.id)).Nodup ∧
    (∀ x ∈ (recommend plugins user ctx).items,
      x.plugin ∈ plugins ∧ x.plugin.status = .active ∧ x.plugin.id ∉ user.installed) ∧
    (recommend plugins user ctx).items.Pairwise (fun a b => ¬ a.confidence < b.confidence) ∧
    (recommend plugins user ctx).confidence =
      mean ((recommend plugins user ctx).items.map (·.confidence)) ∧
    (user.installed ≠ [] →
      (∀ x ∈ (recommend plugins user ctx).items, x.source = .collaborative ∧ x.confidence = 0.6) ∧
      ∀ L : List Registration,
        (∀ p, p ∈ L ↔ p ∈ plugins ∧ p.status = .active ∧ p.id ∉ user.installed) →
        L.Pairwise (fun a b => a.id < b.id) →
        (recommend plugins user ctx).items.map (·.plugin) = L.take 10) ∧
    (user.installed = [] → ∀ x ∈ (recommend plugins user ctx).items,
      (x.source = .contentBased ∧ 0.3 < contentScore user ctx x.plugin ∧
        x.confidence =
          if contentScore user ctx x.plugin < 1.0 then contentScore user ctx x.plugin else 1.0) ∨
      (x.source = .popularity ∧ ¬ 0.3 < contentScore user ctx x.plugin ∧ x.confidence = 0.5 ∧
        ((recommendable plugins user).filter fun q => decide (MorePopular q x.plugin)).length < 5)) := by
  refine ⟨?_, nodup_recommend, fun x hx => ?_, pairwise_recommend_confidence, recommend_confidence,
    fun h => ⟨fun x hx => ?_, fun L hmem hL => ?_⟩,
    fun h x hx => mem_fused_of_no_history hn h (mem_recommend hx)⟩
  · rw [recommend_items]
    exact List.length_take_le _ _
  · exact mem_recommendable.1 (mem_fused (mem_recommend hx)).1
  · rw [recommend_items_of_installed hn h] at hx
    exact (mem_collaborative (List.mem_of_mem_take hx)).2
  · rw [recommend_items_of_installed hn h, List.map_take, collaborative_of_installed h,
      eq_recommendable hn hmem hL]

theorem recommendations_for_a_newcomer :
    let plugins : List Registration :=
      [{ Registration.create "json-fmt" "JSON" "1.0" ⟨0, 0⟩ with
          category := "tools", tags := ["format"], status := .active },
       { Registration.create "player" "Player" "1.0" ⟨0, 0⟩ with
          category := "media", status := .active, metrics := some (Metrics.ofRequests 7) }]
    let user : Profile := { userId := "newcomer", preferredTags := ["format"] }
    let ctx : Context := { projectType := some "tools" }
    (plugins.map (·.id)).Nodup ∧
    (recommend plugins user ctx).items.length ≤ 10 ∧
    ((recommend plugins user ctx).items.map (·.plugin.id)).Nodup ∧
    (∀ x ∈ (recommend plugins user ctx).items,
      x.plugin ∈ plugins ∧ x.plugin.status = .active ∧ x.plugin.id ∉ user.installed) ∧
    (recommend plugins user ctx).items.Pairwise (fun a b => ¬ a.confidence < b.confidence) ∧
    (recommend plugins user ctx).confidence =
      mean ((recommend plugins user ctx).items.map (·.confidence)) ∧
    (user.installed ≠ [] →
      (∀ x ∈ (recommend plugins user ctx).items, x.source = .collaborative ∧ x.confidence = 0.6) ∧
      ∀ L : List Registration,
        (∀ p, p ∈ L ↔ p ∈ plugins ∧ p.status = .active ∧ p.id ∉ user.installed) →
        L.Pairwise (fun a b => a.id < b.id) →
        (recommend plugins user ctx).items.map (·.plugin) = L.take 10) ∧
    (user.installed = [] → ∀ x ∈ (recommend plugins user ctx).items,
      (x.source = .contentBased ∧ 0.3 < contentScore user ctx x.plugin ∧
        x.confidence =
          if contentScore user ctx x.plugin < 1.0 then contentScore user ctx x.plugin else 1.0) ∨
      (x.source = .popularity ∧ ¬ 0.3 < contentScore user ctx x.plugin ∧ x.confidence = 0.5 ∧
        ((recommendable plugins user).filter fun q => decide (MorePopular q x.plugin)).length < 5)) := by
  intro plugins user ctx
  have hn : (plugins.map (·.id)).Nodup := by
    simp only [plugins, Registration.create]
    decide
  exact ⟨hn, recommendations_fuse_three_strategies hn user ctx⟩

end Plugboard.Discovery
