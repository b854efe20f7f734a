import Plugboard.Registration.Codec
import Plugboard.Text.Case
/-!
# Selecting registrations

Three ways to pick registrations out of a collection:

* a `Filter` narrows by status, category, author and tags, then orders the survivors by id and
  cuts a page out of them;
* `matchesText` is a case-insensitive free-text test over id, name, description and tags;
* `Criteria` are what capability-based discovery asks for: a filter without author or paging,
  ids to leave out, and permissions that must all be held.

Every store selects through `Filter.admits`, so which records a filter picks never depends on
where they are kept.
-/

namespace Plugboard

open Json

/-- A filter over registrations. Category and author compare exactly; the tags match when any of
them is among the registration's. -/
structure Filter where
  status : Option Status := none
  category : Option String := none
  author : Option String := none
  tags : List String := []
  limit : Option Nat := none
  offset : Option Nat := none

namespace Filter

/-- Whether a filter admits a registration. Paging plays no part. -/
def admits (f : Filter) (r : Registration) : Bool :=
  (match f.status with | some s => r.status == s | none => true) &&
  (match f.category with | some c => r.category == c | none => true) &&
  (match f.author with | some a => r.author == a | none => true) &&
  (f.tags.isEmpty || f.tags.any r.hasTag)

/-- Cuts a page out of a list: the items after the offset, at most the limit of them. -/
def page {α : Type} (offset limit : Option Nat) (xs : List α) : List α :=
  let rest := xs.drop (offset.getD 0)
  match limit with
  | some n => rest.take n
  | none => rest

/-- Orders registrations by id, keeping the order of equal ids. -/
def byId (rs : List Registration) : List Registration :=
  rs.mergeSort fun a b => decide (a.id ≤ b.id)

/-- The registrations that pass, ordered by id, paged. -/
def select (f : Filter) (rs : List Registration) : List Registration :=
  page f.offset f.limit (byId (rs.filter f.admits))

/-- The shape of a filter: every field may be absent. -/
def shape : Shape :=
  .record "PluginFilter"
    [("status", .optional Status.shape, some .null), ("category", .optional .text, some .null),
     ("author", .optional .text, some .null), ("tags", .list .text, some (.arr [])),
     ("limit", .optional Shape.usize, some .null), ("offset", .optional Shape.usize, some .null)]
    false

/-- A filter as JSON. -/
def toJson (f : Filter) : Json :=
  .obj [("status", Json.ofOption (fun s => .str s.name) f.status),
    ("category", Json.ofOption .str f.category), ("author", Json.ofOption .str f.author),
    ("tags", Json.ofStrings f.tags), ("limit", Json.ofOption Json.ofNat f.limit),
    ("offset", Json.ofOption Json.ofNat f.offset)]

/-- A natural member that may be absent. -/
def natAt? (j : Json) (k : String) : Option Nat :=
  match j.optionalAt k with
  | some (.num (.nat n)) => some n
  | _ => none

/-- The filter a checked value gives. -/
def ofJson (j : Json) : Filter :=
  { status := (j.optionalAt "status").bind fun v => v.str?.bind Status.ofName?
    category := (j.optionalAt "category").bind Json.str?
    author := (j.optionalAt "author").bind Json.str?
    tags := j.textsAt "tags", limit := natAt? j "limit", offset := natAt? j "offset" }

/-- Reads a filter from a JSON value. -/
def decode (j : Json) : Except String Filter := (check shape j).map ofJson

end Filter

/-- Case-insensitive free-text match over id, name, description and tags. The query is trimmed
first; an empty query admits everything. -/
def matchesText (r : Registration) (query : String) : Bool :=
  let q := Text.lower (Text.trim query)
  q.isEmpty ||
    Text.contains (Text.lower r.id) q || Text.contains (Text.lower r.name) q ||
    Text.contains (Text.lower r.description) q ||
    r.tags.any fun t => Text.contains (Text.lower t) q

/-- What capability-based discovery asks for. -/
structure Criteria where
  category : Option String := none
  status : Option Status := none
  tags : List String := []
  requiredCapabilities : List String := []
  excludeIds : List String := []
  limit : Option Nat := none

namespace Criteria

/-- The filter the criteria narrow by: no author and no paging. -/
def filter (c : Criteria) : Filter :=
  { status := c.status, category := c.category, tags := c.tags }

/-- Whether a registration satisfies the criteria: it is not left out, it passes the filter,
and it holds every required permission. -/
def admits (c : Criteria) (r : Registration) : Bool :=
  !(c.excludeIds.contains r.id) && c.filter.admits r && c.requiredCapabilities.all r.holds

/-- The shape of criteria: every field may be absent. -/
def shape : Shape :=
  .record "DiscoveryCriteria"
    [("category", .optional .text, some .null), ("status", .optional Status.shape, some .null),
     ("tags", .list .text, some (.arr [])), ("required_capabilities", .list .text, some (.arr [])),
     ("exclude_ids", .list .text, some (.arr [])), ("limit", .optional Shape.usize, some .null)]
    false

/-- Criteria as JSON. -/
def toJson (c : Criteria) : Json :=
  .obj [("category", Json.ofOption .str c.category),
    ("status", Json.ofOption (fun s => .str s.name) c.status), ("tags", Json.ofStrings c.tags),
    ("required_capabilities", Json.ofStrings c.requiredCapabilities),
    ("exclude_ids", Json.ofStrings c.excludeIds), ("limit", Json.ofOption Json.ofNat c.limit)]

/-- The criteria a checked value gives. -/
def ofJson (j : Json) : Criteria :=
  { category := (j.optionalAt "category").bind Json.str?
    status := (j.optionalAt "status").bind fun v => v.str?.bind Status.ofName?
    tags := j.textsAt "tags", requiredCapabilities := j.textsAt "required_capabilities"
    excludeIds := j.textsAt "exclude_ids", limit := Filter.natAt? j "limit" }

/-- Reads criteria from a JSON value. -/
def decode (j : Json) : Except String Criteria := (check shape j).map ofJson

end Criteria

theorem Filter.select_sublist (f : Filter) (rs : List Registration) (r : Registration)
    (h : r ∈ f.select rs) : r ∈ rs ∧ f.admits r = true := by
  unfold select page byId at h
  have hmem : r ∈ (rs.filter f.admits).mergeSort (fun a b => decide (a.id ≤ b.id)) := by
    split at h
    · exact List.mem_of_mem_drop (List.mem_of_mem_take h)
    · exact List.mem_of_mem_drop h
  rw [List.mem_mergeSort] at hmem
  simpa using hmem

end Plugboard
