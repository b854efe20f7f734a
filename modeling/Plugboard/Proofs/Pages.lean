import Plugboard.Proofs.IterationOrder
/-!
# Paged and ranked answers are slices of one ranking

A paged answer is computed afresh at every call, from registrations walked in whatever order the
map yields. Each answer here is a slice of one ranking fixed by the contents and the request
alone: not by the page asked for, not by the page size, and not by the order the registrations
were found in.

* A filter selects a page of the registrations it admits sorted by id; so the registry's listing
  pages through one id-ordered list, and a store's listing reads one list of records, whatever
  the filter, and changes nothing.
* Discovery by criteria is a prefix of the matching registrations sorted by id.
* A keyword query, a similarity request and a search rank their candidates first and cut a prefix
  or a slice out of the ranking afterwards; the totals, suggested categories and facets are
  counted before the cut.

Consecutive pages of one size then put the ranking back together (`take_eq_flatMap_pages`).
-/

namespace Plugboard

open Act

/-- Consecutive pages of `n` items, from the start, give back the start of the list. -/
theorem take_eq_flatMap_pages {α : Type} (xs : List α) (n : Nat) :
    ∀ K, (List.range K).flatMap (fun k => (xs.drop (k * n)).take n) = xs.take (K * n)
  | 0 => by simp
  | K + 1 => by
    rw [List.range_succ, List.flatMap_append, take_eq_flatMap_pages xs n K, Nat.succ_mul,
      List.take_add]
    simp

namespace Filter

/-- Page `k` of `n` registrations of what a filter selects. -/
def pageAt (f : Filter) (n k : Nat) : Filter := { f with offset := some (k * n), limit := some n }

/-- Ordering by id keeps the registrations and puts them in order of id. -/
theorem byId_ranks (rs : List Registration) :
    (byId rs).Perm rs ∧ (byId rs).Pairwise fun a b => a.id ≤ b.id :=
  ⟨List.mergeSort_perm _ _, (pairwise_byId rs).imp fun h => of_decide_eq_true h⟩

theorem select_pageAt (f : Filter) (rs : List Registration) (n k : Nat) :
    (f.pageAt n k).select rs = ((byId (rs.filter f.admits)).drop (k * n)).take n := rfl

/-- A filter selects the registrations it admits sorted by id, less the offset, cut to the
limit. -/
theorem select_ranks (f : Filter) (rs : List Registration) :
    ∃ ranked : List Registration,
      ranked.Perm (rs.filter f.admits) ∧ ranked.Pairwise (fun a b => a.id ≤ b.id) ∧
      f.select rs = match f.limit with
        | some n => (ranked.drop (f.offset.getD 0)).take n
        | none => ranked.drop (f.offset.getD 0) :=
  ⟨byId (rs.filter f.admits), (byId_ranks _).1, (byId_ranks _).2, rfl⟩

end Filter

namespace Registry

/-- Pages of the registry's listing are slices of one id-ordered list, whatever order the
registrations are kept in. -/
theorem list_pageAt {content : List Registration} (hn : (content.map (·.id)).Nodup) {r : Registry}
    (hp : r.plugins.Perm content) (f : Filter) (n k : Nat) :
    r.list (f.pageAt n k) = ((Filter.byId (content.filter f.admits)).drop (k * n)).take n := by
  have hn' : (r.plugins.map (·.id)).Nodup := (hp.map _).nodup_iff.2 hn
  rw [list, Filter.select_pageAt,
    Filter.byId_perm (hp.filter f.admits) (Filter.nodup_ids_filter f.admits hn')]

variable {content : List Registration}

/-- The registry's listing pages through one id-ordered list of the registrations a filter
admits, whatever order they are kept in: each page is the next slice of it, and consecutive pages
put it together. -/
theorem list_pages (hn : (content.map (·.id)).Nodup) (f : Filter) :
    ∃ ranked : List Registration,
      ranked.Perm (content.filter f.admits) ∧ ranked.Pairwise (fun a b => a.id ≤ b.id) ∧
      ∀ r : Registry, r.plugins.Perm content → ∀ n,
        (∀ k, r.list (f.pageAt n k) = (ranked.drop (k * n)).take n) ∧
        ∀ K, (List.range K).flatMap (fun k => r.list (f.pageAt n k)) = ranked.take (K * n) := by
  refine ⟨Filter.byId (content.filter f.admits), (Filter.byId_ranks _).1, (Filter.byId_ranks _).2,
    fun r hp n => ⟨fun k => list_pageAt hn hp f n k, fun K => ?_⟩⟩
  simp only [list_pageAt hn hp f n]
  exact take_eq_flatMap_pages _ n K

/-- Discovery by criteria answers a prefix, of at most the limit, of the matching registrations
sorted by id, whatever order they are kept in. -/
theorem discover_prefix (hn : (content.map (·.id)).Nodup) (c : Criteria) :
    ∃ ranked : List Registration,
      ranked.Perm (content.filter c.admits) ∧ ranked.Pairwise (fun a b => a.id ≤ b.id) ∧
      ∀ r : Registry, r.plugins.Perm content →
        r.discover c = match c.limit with
          | some n => ranked.take n
          | none => ranked := by
  refine ⟨Filter.byId (content.filter c.admits), (Filter.byId_ranks _).1, (Filter.byId_ranks _).2,
    fun r hp => ?_⟩
  have hn' : (r.plugins.map (·.id)).Nodup := (hp.map _).nodup_iff.2 hn
  cases hl : c.limit <;>
    simp only [discover, hl, Filter.byId_perm (hp.filter c.admits) (Filter.nodup_ids_filter c.admits hn')]

end Registry

-- ---------------------------------------------------------------------------
-- Listing a store
-- ---------------------------------------------------------------------------

namespace MemoryStore

/-- Listing a memory store selects from its records, or fails alike for every filter. -/
theorem list_reads (m : MemoryStore) (env : Env) :
    ∃ o : Outcome (List Registration), ∀ f, (list f).exec m env = (o.map f.select, m, env) := by
  cases hc : m.closed with
  | true => exact ⟨.error closedError, fun f => by rw [exec_list, hc]; rfl⟩
  | false => exact ⟨.ok m.records, fun f => by rw [exec_list, hc]; rfl⟩

end MemoryStore

namespace FileStore

/-- Listing a file store selects from the records it reads, the same for every filter. -/
theorem list_reads (fs : FileStore) (env : Env) :
    ∃ o : Outcome (List Registration), ∀ f, (list f).exec fs env = (o.map f.select, fs, env) := by
  obtain ⟨o, ho⟩ := exec_readAll_frame fs env
  cases hc : fs.closed with
  | true => exact ⟨.error closedError, fun f => by rw [list, exec_ensureOpen_bind, hc]; rfl⟩
  | false =>
    refine ⟨o, fun f => ?_⟩
    rw [list, exec_ensureOpen_bind, hc, if_neg Bool.false_ne_true, exec_bind, ho]
    cases o <;> rfl

end FileStore

namespace Store

/-- Listing any store reads one list of records from the tier that keeps them, whatever the
filter, selects from it, and changes nothing. -/
theorem list_reads (s : Store) (env : Env) :
    ∃ o : Outcome (List Registration), ∀ f, (list f).exec s env = (o.map f.select, s, env) := by
  have htier : ∀ t : Tier, ∃ o : Outcome (List Registration),
      ∀ f, (Tier.list f).exec t env = (o.map f.select, t, env) := by
    intro t
    cases t with
    | memory m =>
      obtain ⟨o, ho⟩ := MemoryStore.list_reads m env
      exact ⟨o, fun f => by rw [Tier.list, Tier.exec_run_memory, ho]⟩
    | file fs =>
      obtain ⟨o, ho⟩ := FileStore.list_reads fs env
      exact ⟨o, fun f => by rw [Tier.list, Tier.exec_run_file, ho]⟩
  cases s with
  | single t =>
    obtain ⟨o, ho⟩ := htier t
    exact ⟨o, fun f => by rw [list, exec_onBackend_single, ho]⟩
  | cached c t =>
    obtain ⟨o, ho⟩ := htier t
    exact ⟨o, fun f => by rw [list, exec_onBackend_cached, ho]⟩

/-- Every store's listing pages through one id-ordered list, and changes nothing, so that
consecutive calls see the same list. -/
theorem list_pages (s : Store) (env : Env) (f : Filter) :
    ∃ o : Outcome (List Registration),
      (∀ ranked, o = .ok ranked → ranked.Pairwise (fun a b => a.id ≤ b.id)) ∧
      ∀ n k, (list (f.pageAt n k)).exec s env =
        (o.map fun ranked => (ranked.drop (k * n)).take n, s, env) := by
  obtain ⟨o, ho⟩ := list_reads s env
  refine ⟨o.map fun rs => Filter.byId (rs.filter f.admits), fun ranked h => ?_, fun n k => ?_⟩
  · cases o with
    | error e => cases h
    | ok rs =>
      cases h
      exact (Filter.byId_ranks _).2
  · rw [ho]
    cases o <;> rfl

end Store

-- ---------------------------------------------------------------------------
-- Ranked discovery answers
-- ---------------------------------------------------------------------------

namespace Discovery

-- Each ranked answer is a cut of a ranking that reads neither the cut nor the page.

/-- The candidates of a keyword query, scored and ranked. -/
def findRanking (plugins : List Registration) (q : Query) : List Scored :=
  sortBy (rankOrder q.sortBy)
    (((active plugins).filter fun p => !q.excludeIds.contains p.id && q.category.all (p.category == ·)).map
      fun p => { plugin := p, score := relevance p q.keywords q.requiredPermissions })

/-- The active plugins other than the reference and similar enough to it, most similar first. -/
def similarRanking (plugins : List Registration) (reference : Registration) : List Similar :=
  sortBy (fun a b => (descending a.similarity b.similarity).then (compare a.plugin.id b.plugin.id))
    (((active plugins).filter (·.id != reference.id)).filterMap fun p =>
      let s := similarity reference p
      if s ≥ similarityThreshold then some { plugin := p, similarity := s } else none)

/-- The active plugins a search matches, in id order. -/
def searchMatches (plugins : List Registration) (s : Search) : List Registration :=
  (({ s.filter with status := some .active } : Filter).select plugins).filter (matchesText · s.query)

/-- The matches of a search, ranked. -/
def searchRanking (plugins : List Registration) (s : Search) : List Registration :=
  (sortBy (rankOrder s.sortBy) ((searchMatches plugins s).map fun p =>
    { plugin := p, score := relevance p (Text.words s.query) [] })).map (·.plugin)

theorem find_eq (plugins : List Registration) (q : Query) :
    find plugins q =
      { plugins := (findRanking plugins q).take q.maxResults, total := (findRanking plugins q).length
        suggested := suggestedCategories (active plugins) } := rfl

theorem similarTo_eq (plugins : List Registration) (reference : Registration) (limit : Nat) :
    similarTo plugins reference limit = (similarRanking plugins reference).take limit := rfl

theorem search_eq (plugins : List Registration) (s : Search) :
    search plugins s =
      { plugins := ((searchRanking plugins s).drop s.offset).take s.limit
        total := (searchRanking plugins s).length
        categories := facet ((searchMatches plugins s).map (·.category))
        authors := facet ((searchMatches plugins s).map (·.author)) } := by
  simp only [search, searchRanking, searchMatches, List.map_take, List.map_drop, List.length_map]

/-- The ranking of a query holds its candidates. -/
theorem findRanking_perm (plugins : List Registration) (q : Query) :
    ((findRanking plugins q).map (·.plugin)).Perm ((active plugins).filter fun p =>
      !q.excludeIds.contains p.id && q.category.all (p.category == ·)) := by
  refine ((List.mergeSort_perm _ _).map _).trans (List.Perm.of_eq ?_)
  rw [List.map_map]
  exact List.map_id' _

/-- The similarity ranking holds the active plugins similar enough to the reference. -/
theorem similarRanking_perm (plugins : List Registration) (reference : Registration) :
    ((similarRanking plugins reference).map (·.plugin)).Perm ((active plugins).filter fun p =>
      p.id != reference.id && decide (similarity reference p ≥ similarityThreshold)) := by
  -- keeping the similar candidates with their similarity, then forgetting it, filters them
  have hsim : ∀ l : List Registration, (l.filterMap fun p =>
      let s := similarity reference p
      if s ≥ similarityThreshold then some ({ plugin := p, similarity := s } : Similar) else none).map
        (·.plugin) = l.filter fun p => decide (similarity reference p ≥ similarityThreshold) := by
    intro l
    induction l with
    | nil => rfl
    | cons p ps ih =>
      by_cases hs : similarity reference p ≥ similarityThreshold
      · simp [hs, ih]
      · simp [hs, ih]
  refine ((List.mergeSort_perm _ _).map _).trans (List.Perm.of_eq ?_)
  rw [hsim, List.filter_filter]
  exact List.filter_congr fun p _ => Bool.and_comm _ _

/-- The ranking of a search holds the registrations it matches. -/
theorem searchRanking_perm (plugins : List Registration) (s : Search) :
    (searchRanking plugins s).Perm
      ((plugins.filter ({ s.filter with status := some .active } : Filter).admits).filter
        (matchesText · s.query)) := by
  refine ((List.mergeSort_perm _ _).map _).trans ?_
  rw [List.map_map]
  exact (List.Perm.of_eq (List.map_id' _)).trans ((Filter.byId_ranks _).1.filter _)

variable {content : List Registration}

/-- A keyword query's answer is a prefix of one ranking of its candidates, counted in full, with
categories suggested from all active plugins: none of it depends on `maxResults` or on the order
the registrations are found in. -/
theorem find_prefix (hn : (content.map (·.id)).Nodup) (q : Query) :
    ∃ (ranking : List Scored) (suggested : List String),
      (ranking.map (·.plugin)).Perm ((active content).filter fun p =>
        !q.excludeIds.contains p.id && q.category.all (p.category == ·)) ∧
      ∀ ps : List Registration, ps.Perm content → ∀ n,
        find ps { q with maxResults := n } =
          { plugins := ranking.take n, total := ranking.length, suggested } := by
  refine ⟨findRanking content q, suggestedCategories (active content), findRanking_perm content q,
    fun ps hp n => ?_⟩
  rw [find_perm hp ((hp.map _).nodup_iff.2 hn), find_eq]
  rfl

/-- A similarity request's answer is a prefix of one ranking of the similar active plugins. -/
theorem similarTo_prefix (hn : (content.map (·.id)).Nodup) (reference : Registration) :
    ∃ ranking : List Similar,
      (ranking.map (·.plugin)).Perm ((active content).filter fun p =>
        p.id != reference.id && decide (similarity reference p ≥ similarityThreshold)) ∧
      ∀ ps : List Registration, ps.Perm content → ∀ limit,
        similarTo ps reference limit = ranking.take limit := by
  refine ⟨similarRanking content reference, similarRanking_perm content reference,
    fun ps hp limit => ?_⟩
  rw [similarTo_perm hp ((hp.map _).nodup_iff.2 hn), similarTo_eq]

/-- A search's answer is the slice of one ranking of its matches between the offset and the offset
plus the limit, with the total and the facets counted over all matches; so consecutive pages of
one size put the ranking back together. -/
theorem search_slice (hn : (content.map (·.id)).Nodup) (s : Search) :
    ∃ (ranking : List Registration) (categories authors : List FacetCount),
      ranking.Perm ((content.filter ({ s.filter with status := some .active } : Filter).admits).filter
        (matchesText · s.query)) ∧
      ∀ ps : List Registration, ps.Perm content →
        (∀ offset limit, search ps { s with offset, limit } =
          { plugins := (ranking.drop offset).take limit, total := ranking.length, categories,
            authors }) ∧
        ∀ n K, (List.range K).flatMap
          (fun k => (search ps { s with offset := k * n, limit := n }).plugins) = ranking.take (K * n) := by
  have hslice : ∀ ps : List Registration, ps.Perm content → ∀ offset limit,
      search ps { s with offset, limit } =
        { plugins := ((searchRanking content s).drop offset).take limit
          total := (searchRanking content s).length
          categories := facet ((searchMatches content s).map (·.category))
          authors := facet ((searchMatches content s).map (·.author)) } := by
    intro ps hp offset limit
    rw [search_perm hp ((hp.map _).nodup_iff.2 hn), search_eq]
    rfl
  refine ⟨searchRanking content s, _, _, searchRanking_perm content s, fun ps hp =>
    ⟨hslice ps hp, fun n K => ?_⟩⟩
  simp only [hslice ps hp]
  exact take_eq_flatMap_pages _ n K

end Discovery

/-- Paged and ranked answers are slices of one ranking, fixed by the contents and the request
alone. A filter selects, from the registrations it admits sorted by id, the page it asks for.
For every content with no id twice and every order it is kept or found in: the registry's listing
pages through one id-ordered list of what a filter admits, and consecutive pages put it together;
discovery by criteria answers a prefix of the matching registrations sorted by id; a keyword
query and a similarity request answer a prefix of one ranking of their candidates, and a search
the slice of one ranking between its offset and its offset plus its limit, with the total, the
suggested categories and the facets counted before the cut, and consecutive pages of a search
put its ranking together. Every store's listing pages through one id-ordered list and changes
nothing. -/
theorem answers_are_slices_of_one_ranking :
    (∀ (f : Filter) (rs : List Registration), ∃ ranked : List Registration,
      ranked.Perm (rs.filter f.admits) ∧ ranked.Pairwise (fun a b => a.id ≤ b.id) ∧
      f.select rs = match f.limit with
        | some n => (ranked.drop (f.offset.getD 0)).take n
        | none => ranked.drop (f.offset.getD 0)) ∧
    (∀ content : List Registration, (content.map (·.id)).Nodup →
      (∀ f : Filter, ∃ ranked : List Registration,
        ranked.Perm (content.filter f.admits) ∧ ranked.Pairwise (fun a b => a.id ≤ b.id) ∧
        ∀ r : Registry, r.plugins.Perm content → ∀ n,
          (∀ k, r.list (f.pageAt n k) = (ranked.drop (k * n)).take n) ∧
          ∀ K, (List.range K).flatMap (fun k => r.list (f.pageAt n k)) = ranked.take (K * n)) ∧
      (∀ c : Criteria, ∃ ranked : List Registration,
        ranked.Perm (content.filter c.admits) ∧ ranked.Pairwise (fun a b => a.id ≤ b.id) ∧
        ∀ r : Registry, r.plugins.Perm content →
          r.discover c = match c.limit with
            | some n => ranked.take n
            | none => ranked) ∧
      (∀ q : Discovery.Query, ∃ (ranking : List Discovery.Scored) (suggested : List String),
        (ranking.map (·.plugin)).Perm ((Discovery.active content).filter fun p =>
          !q.excludeIds.contains p.id && q.category.all (p.category == ·)) ∧
        ∀ ps : List Registration, ps.Perm content → ∀ n,
          Discovery.find ps { q with maxResults := n } =
            { plugins := ranking.take n, total := ranking.length, suggested }) ∧
      (∀ reference : Registration, ∃ ranking : List Discovery.Similar,
        (ranking.map (·.plugin)).Perm ((Discovery.active content).filter fun p =>
          p.id != reference.id &&
            decide (Discovery.similarity reference p ≥ Discovery.similarityThreshold)) ∧
        ∀ ps : List Registration, ps.Perm content → ∀ limit,
          Discovery.similarTo ps reference limit = ranking.take limit) ∧
      (∀ s : Discovery.Search,
        ∃ (ranking : List Registration) (categories authors : List Discovery.FacetCount),
        ranking.Perm ((content.filter ({ s.filter with status := some .active } : Filter).admits).filter
          (matchesText · s.query)) ∧
        ∀ ps : List Registration, ps.Perm content →
          (∀ offset limit, Discovery.search ps { s with offset, limit } =
            { plugins := (ranking.drop offset).take limit, total := ranking.length, categories,
              authors }) ∧
          ∀ n K, (List.range K).flatMap
            (fun k => (Discovery.search ps { s with offset := k * n, limit := n }).plugins) =
              ranking.take (K * n))) ∧
    (∀ (s : Store) (env : Env) (f : Filter), ∃ o : Outcome (List Registration),
      (∀ ranked, o = .ok ranked → ranked.Pairwise (fun a b => a.id ≤ b.id)) ∧
      ∀ n k, (Store.list (f.pageAt n k)).exec s env =
        (o.map fun ranked => (ranked.drop (k * n)).take n, s, env)) :=
  ⟨Filter.select_ranks,
    fun _ hn => ⟨Registry.list_pages hn, Registry.discover_prefix hn, Discovery.find_prefix hn,
      Discovery.similarTo_prefix hn, Discovery.search_slice hn⟩,
    Store.list_pages⟩

/-- For two registrations, discovery cut to one answers the first of the matching registrations
in id order, however the registry keeps them. -/
theorem discovery_of_one_is_first_match :
    let a := Registration.create "a" "A" "1.0" ⟨0, 0⟩
    let b := Registration.create "b" "B" "1.0" ⟨0, 0⟩
    ([a, b].map (·.id)).Nodup ∧ ∃ ranked : List Registration,
      ranked.Perm ([a, b].filter ({ limit := some 1 } : Criteria).admits) ∧
      ranked.Pairwise (fun x y => x.id ≤ y.id) ∧
      ∀ r : Registry, r.plugins.Perm [a, b] → r.discover { limit := some 1 } = ranked.take 1 :=
  have hn : ([Registration.create "a" "A" "1.0" ⟨0, 0⟩, Registration.create "b" "B" "1.0" ⟨0, 0⟩].map
      (·.id)).Nodup := by decide
  ⟨hn, (answers_are_slices_of_one_ranking.2.1 _ hn).2.1 { limit := some 1 }⟩

end Plugboard
