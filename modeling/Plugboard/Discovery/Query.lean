import Plugboard.Discovery.Score
/-!
# Discovery requests

What one can ask discovery: a keyword query, a profile and context for recommendations, and a
free-text search with paging. Each has the defaults a partial request is completed with, a
shape that decides what a request may look like, and its JSON form.
-/

namespace Plugboard.Discovery

open Json

/-- How results are ordered. -/
inductive SortOrder where
  /-- Highest score first. -/
  | relevance
  /-- Most requests served first. -/
  | popularity
  /-- Latest registered first. -/
  | date
  deriving DecidableEq

namespace SortOrder

/-- Every order, in declaration order. -/
def all : List SortOrder := [.relevance, .popularity, .date]

/-- The name of an order. -/
def name : SortOrder → String
  | .relevance => "relevance"
  | .popularity => "popularity"
  | .date => "date"

/-- The order with a name. -/
def ofName? (s : String) : Option SortOrder := all.find? (·.name == s)

/-- The shape of an order's name. -/
def shape : Shape := .oneOf (all.map name)

/-- The order a checked member gives; relevance when absent. -/
def at_ (j : Json) (k : String) : SortOrder := ((j.field? k).bind Json.str? |>.bind ofName?).getD .relevance

end SortOrder

/-- A natural member, or a default. -/
def natOr (j : Json) (k : String) (d : Nat) : Nat :=
  match j.field? k with
  | some (.num (.nat n)) => n
  | _ => d

/-- A keyword query over active plugins. -/
structure Query where
  keywords : List String := []
  category : Option String := none
  requiredPermissions : List String := []
  excludeIds : List String := []
  sortBy : SortOrder := .relevance
  maxResults : Nat := 20

namespace Query

/-- A query for the words of a text. -/
def ofText (text : String) : Query := { keywords := Text.words text }

/-- The shape of a query: every field may be absent. -/
def shape : Shape :=
  .record "DiscoveryQuery"
    [("keywords", .list .text, some (.arr [])), ("category", .optional .text, some .null),
     ("required_permissions", .list .text, some (.arr [])),
     ("exclude_ids", .list .text, some (.arr [])),
     ("sort_by", SortOrder.shape, some (.str "relevance")),
     ("max_results", Shape.usize, some (Json.ofNat 20))] false

/-- A query as JSON. -/
def toJson (q : Query) : Json :=
  .obj [("keywords", Json.ofStrings q.keywords), ("category", Json.ofOption .str q.category),
    ("required_permissions", Json.ofStrings q.requiredPermissions),
    ("exclude_ids", Json.ofStrings q.excludeIds), ("sort_by", .str q.sortBy.name),
    ("max_results", Json.ofNat q.maxResults)]

/-- The query a checked value gives. -/
def ofJson (j : Json) : Query :=
  { keywords := j.textsAt "keywords", category := (j.optionalAt "category").bind Json.str?
    requiredPermissions := j.textsAt "required_permissions", excludeIds := j.textsAt "exclude_ids"
    sortBy := SortOrder.at_ j "sort_by", maxResults := natOr j "max_results" 20 }

end Query

/-- What is known of a user asking for recommendations. -/
structure Profile where
  userId : String := ""
  installed : List String := []
  preferredTags : List String := []

namespace Profile

/-- Whether the user installed a plugin. -/
def hasInstalled (p : Profile) (id : String) : Bool := p.installed.contains id

/-- The shape of a profile: every field may be absent. -/
def shape : Shape :=
  .record "UserProfile"
    [("user_id", .text, some (.str "")), ("installed_plugins", .list .text, some (.arr [])),
     ("preferred_tags", .list .text, some (.arr []))] false

/-- A profile as JSON. -/
def toJson (p : Profile) : Json :=
  .obj [("user_id", .str p.userId), ("installed_plugins", Json.ofStrings p.installed),
    ("preferred_tags", Json.ofStrings p.preferredTags)]

/-- The profile a checked value gives. -/
def ofJson (j : Json) : Profile :=
  { userId := j.textAt "user_id", installed := j.textsAt "installed_plugins"
    preferredTags := j.textsAt "preferred_tags" }

end Profile

/-- Where a recommendation is made: the kind of project, compared with categories. -/
structure Context where
  projectType : Option String := none

namespace Context

/-- The shape of a context. -/
def shape : Shape :=
  .record "RecommendationContext" [("project_type", .optional .text, some .null)] false

/-- A context as JSON. -/
def toJson (c : Context) : Json := .obj [("project_type", Json.ofOption .str c.projectType)]

/-- The context a checked value gives. -/
def ofJson (j : Json) : Context := { projectType := (j.optionalAt "project_type").bind Json.str? }

end Context

/-- A free-text search with paging. -/
structure Search where
  query : String := ""
  category : Option String := none
  author : Option String := none
  tags : List String := []
  sortBy : SortOrder := .relevance
  limit : Nat := 20
  offset : Nat := 0

namespace Search

/-- The shape of a search: every field may be absent. -/
def shape : Shape :=
  .record "SearchRequest"
    [("query", .text, some (.str "")), ("category", .optional .text, some .null),
     ("author", .optional .text, some .null), ("tags", .list .text, some (.arr [])),
     ("sort_by", SortOrder.shape, some (.str "relevance")),
     ("limit", Shape.usize, some (Json.ofNat 20)), ("offset", Shape.usize, some (Json.ofNat 0))]
    false

/-- A search as JSON. -/
def toJson (s : Search) : Json :=
  .obj [("query", .str s.query), ("category", Json.ofOption .str s.category),
    ("author", Json.ofOption .str s.author), ("tags", Json.ofStrings s.tags),
    ("sort_by", .str s.sortBy.name), ("limit", Json.ofNat s.limit),
    ("offset", Json.ofNat s.offset)]

/-- The search a checked value gives. -/
def ofJson (j : Json) : Search :=
  { query := j.textAt "query", category := (j.optionalAt "category").bind Json.str?
    author := (j.optionalAt "author").bind Json.str?, tags := j.textsAt "tags"
    sortBy := SortOrder.at_ j "sort_by", limit := natOr j "limit" 20
    offset := natOr j "offset" 0 }

/-- The filter a search narrows by. -/
def filter (s : Search) : Filter :=
  { category := s.category, author := s.author, tags := s.tags }

end Search

end Plugboard.Discovery
