import Plugboard.Discovery.Query
import Plugboard.Registry.Basic
/-!
# Discovery

Answers to discovery requests over the registrations of a registry. Only active plugins are ever
returned, taken in id order.

* `find` ranks plugins against keywords and permissions, leaving out excluded ids and, when a
  category is asked for, plugins of other categories. It also suggests the categories with more
  than five active plugins.
* `similar` lists the active plugins at least 0.3 similar to a registered plugin.
* `recommend` fuses three strategies: plugins the user has not installed (for users with an
  install history), plugins matching the project type or preferred tags, and the five most
  used. The first strategy to pick a plugin wins; the best ten are kept.
* `search` is a free-text search with category and author facets and paging.

Rankings put the higher score, request count or registration time first, and then the smaller
id.
-/

namespace Plugboard.Discovery

/-- The active registrations, by id. -/
def active (plugins : List Registration) : List Registration :=
  Filter.select { status := some .active } plugins

/-- A registration with its score. -/
structure Scored where
  plugin : Registration
  score : Float

/-- Compares two doubles so that the larger comes first. -/
def descending (a b : Float) : Ordering :=
  if b < a then .lt else if a < b then .gt else .eq

/-- Compares two naturals so that the larger comes first. -/
def descendingNat (a b : Nat) : Ordering := compare b a

/-- The order of a ranking: the strategy's primary order, then ids. -/
def rankOrder (order : SortOrder) (a b : Scored) : Ordering :=
  let primary := match order with
    | .relevance => descending a.score b.score
    | .popularity => descendingNat a.plugin.requestCount b.plugin.requestCount
    | .date => Instant.compareTime b.plugin.registeredAt a.plugin.registeredAt
  primary.then (compare a.plugin.id b.plugin.id)

/-- Sorts by an order, keeping equal elements in place. -/
def sortBy {α : Type} (cmp : α → α → Ordering) (xs : List α) : List α :=
  xs.mergeSort fun a b => cmp a b != .gt

/-- The non-empty categories with more than five plugins, sorted. -/
def suggestedCategories (plugins : List Registration) : List String :=
  let categories := textSet (plugins.map (·.category) |>.filter (!·.isEmpty))
  categories.filter fun c => (plugins.filter (·.category == c)).length > 5

/-- The answer to a query: the ranked page, how many matched, and suggested categories. -/
structure FindResult where
  plugins : List Scored
  total : Nat
  suggested : List String

/-- Ranks the active plugins against a query. -/
def find (plugins : List Registration) (q : Query) : FindResult :=
  let act := active plugins
  let kept := act.filter fun p =>
    !q.excludeIds.contains p.id && (q.category.all (p.category == ·))
  let scored := sortBy (rankOrder q.sortBy)
    (kept.map fun p => { plugin := p, score := relevance p q.keywords q.requiredPermissions })
  { plugins := scored.take q.maxResults, total := scored.length,
    suggested := suggestedCategories act }

/-- A plugin with its similarity to a reference plugin. -/
structure Similar where
  plugin : Registration
  similarity : Float

/-- The active plugins other than the reference at least 0.3 similar to it, most similar first,
at most `limit` of them. -/
def similarTo (plugins : List Registration) (reference : Registration) (limit : Nat) :
    List Similar :=
  let candidates := (active plugins).filter (·.id != reference.id)
  let found := candidates.filterMap fun p =>
    let s := similarity reference p
    if s ≥ similarityThreshold then some { plugin := p, similarity := s } else none
  (sortBy (fun a b => (descending a.similarity b.similarity).then (compare a.plugin.id b.plugin.id))
    found).take limit

/-- The plugins most similar to the registered plugin with an id, whatever that plugin's status;
`notFound` when no plugin has the id. -/
def similar (r : Registry) (id : String) (limit : Nat) : Outcome (List Similar) :=
  match r.find? id with
  | some reference => .ok (similarTo r.plugins reference limit)
  | none => .error (.notFound id)

/-- The strategy behind a recommendation. -/
inductive Source where
  | collaborative
  | contentBased
  | popularity

/-- The name of a strategy. -/
def Source.name : Source → String
  | .collaborative => "collaborative"
  | .contentBased => "content_based"
  | .popularity => "popularity"

/-- A recommended plugin, how confident the recommendation is, its strategy and reason. -/
structure Recommendation where
  plugin : Registration
  confidence : Float
  source : Source
  reason : String

/-- Every candidate, for users with an install history. -/
def collaborative (candidates : List Registration) (user : Profile) : List Recommendation :=
  if user.installed.isEmpty then []
  else candidates.map fun p =>
    { plugin := p, confidence := 0.6, source := .collaborative, reason := "Not installed yet" }

/-- Candidates matching the project type or preferred tags well enough. -/
def contentBased (candidates : List Registration) (user : Profile) (ctx : Context) :
    List Recommendation :=
  candidates.filterMap fun p =>
    let base : Float := if ctx.projectType == some p.category then 0.0 + 0.4 else 0.0
    let tagMatches := (user.preferredTags.filter p.hasTag).length
    let score := base + Float.ofNat tagMatches * 0.2
    if score > 0.3 then
      some { plugin := p, confidence := if score < 1.0 then score else 1.0, source := .contentBased,
             reason := "Matches project type or " ++ toString tagMatches ++ " preferred tag(s)" }
    else none

/-- The five most used candidates. -/
def popular (candidates : List Registration) : List Recommendation :=
  let ranked := sortBy (fun a b => (descendingNat a.requestCount b.requestCount).then
    (compare a.id b.id)) candidates
  (ranked.take 5).map fun p =>
    { plugin := p, confidence := 0.5, source := .popularity,
      reason := toString p.requestCount ++ " requests served" }

/-- The recommendations whose plugin no earlier one has, in order. -/
def firstPerPlugin : List Recommendation → List String → List Recommendation
  | [], _ => []
  | r :: rs, seen =>
    if seen.contains r.plugin.id then firstPerPlugin rs seen
    else r :: firstPerPlugin rs (r.plugin.id :: seen)

/-- Recommendations and their mean confidence. -/
structure Recommendations where
  items : List Recommendation
  confidence : Float

/-- The mean of the confidences, or zero for none. -/
def meanConfidence (rs : List Recommendation) : Float :=
  if rs.isEmpty then 0.0
  else rs.foldl (fun acc r => acc + r.confidence) (-0.0) / Float.ofNat rs.length

/-- Recommends plugins to a user. -/
def recommend (plugins : List Registration) (user : Profile) (ctx : Context) : Recommendations :=
  let candidates := (active plugins).filter (!user.hasInstalled ·.id)
  let all := collaborative candidates user ++ contentBased candidates user ctx ++ popular candidates
  let items := (sortBy (fun a b => descending a.confidence b.confidence)
    (firstPerPlugin all [])).take 10
  { items, confidence := meanConfidence items }

/-- A value and how many results carry it. -/
structure FacetCount where
  value : String
  count : Nat

/-- The non-empty values with their counts, most frequent first, then by value. -/
def facet (values : List String) : List FacetCount :=
  let distinct := textSet (values.filter (!·.isEmpty))
  sortBy (fun a b => (descendingNat a.count b.count).then (compare a.value b.value))
    (distinct.map fun v => { value := v, count := (values.filter (· == v)).length })

/-- The answer to a search: the page, how many matched, and the facets of all matches. -/
structure SearchResult where
  plugins : List Registration
  total : Nat
  categories : List FacetCount
  authors : List FacetCount

/-- Searches the active plugins. -/
def search (plugins : List Registration) (s : Search) : SearchResult :=
  let f : Filter := { s.filter with status := some .active }
  let matched := (f.select plugins).filter (matchesText · s.query)
  let keywords := Text.words s.query
  let scored := sortBy (rankOrder s.sortBy)
    (matched.map fun p => { plugin := p, score := relevance p keywords [] })
  { plugins := ((scored.drop s.offset).take s.limit).map (·.plugin), total := scored.length
    categories := facet (matched.map (·.category)), authors := facet (matched.map (·.author)) }

/-- The active plugins of a category. -/
def byCategory (plugins : List Registration) (category : String) (order : SortOrder)
    (limit : Nat) : SearchResult :=
  search plugins { category := some category, sortBy := order, limit, offset := 0 }

end Plugboard.Discovery
