import Plugboard.Registration.Filter
/-!
# Scores

How well a registration answers a keyword query, and how alike two registrations are.

Relevance adds fixed weights for each keyword found, case-insensitively, in the name (10), the
description (5) and any tag (3), and 8 for each asked-for permission held; it is never below 1.
Similarity weighs a shared non-empty category (0.3), the overlap of tags (0.4) and the overlap of
permissions (0.3), where the overlap of two sets is their common part over the larger one.
-/

namespace Plugboard.Discovery

/-- Weight of a keyword found in the name. -/
def nameWeight : Float := 10.0
/-- Weight of a keyword found in the description. -/
def descriptionWeight : Float := 5.0
/-- Weight of a keyword found in a tag. -/
def tagWeight : Float := 3.0
/-- Weight of an asked-for permission that is held. -/
def permissionWeight : Float := 8.0
/-- The lowest relevance. -/
def leastRelevance : Float := 1.0

/-- Weight of a shared category in similarity. -/
def categoryShare : Float := 0.3
/-- Weight of tag overlap in similarity. -/
def tagShare : Float := 0.4
/-- Weight of permission overlap in similarity. -/
def permissionShare : Float := 0.3
/-- Similar plugins below this similarity are left out. -/
def similarityThreshold : Float := 0.3

/-- The weight one keyword earns against lowercased name, description and tags. -/
def keywordScore (name description : String) (tags : List String) (keyword : String) : Float :=
  let k := Text.lower keyword
  if k.isEmpty then 0.0 else
    (if Text.contains name k then nameWeight else 0.0) +
    (if Text.contains description k then descriptionWeight else 0.0) +
    (if tags.any (Text.contains · k) then tagWeight else 0.0)

/-- Relevance of a registration to keywords and asked-for permissions; at least 1. The sum runs
keyword by keyword, then adds the permission weight once for all held permissions, each listed
permission counting as often as it is listed. -/
def relevance (r : Registration) (keywords permissions : List String) : Float :=
  let name := Text.lower r.name
  let description := Text.lower r.description
  let tags := r.tags.map Text.lower
  let byKeywords := keywords.foldl (fun acc k => acc + keywordScore name description tags k) 0.0
  let held := (permissions.filter r.holds).length
  let score := byKeywords + Float.ofNat held * permissionWeight
  if score < leastRelevance then leastRelevance else score

/-- Common elements over the size of the larger set; zero when both are empty. -/
def overlap (a b : List String) : Float :=
  let larger := max a.length b.length
  if larger = 0 then 0.0 else
    Float.ofNat (a.filter b.contains).length / Float.ofNat larger

/-- Weighted similarity of two registrations, summed left to right. -/
def similarity (a b : Registration) : Float :=
  let category := if !a.category.isEmpty && a.category == b.category then categoryShare else 0.0
  category + tagShare * overlap a.tags b.tags + permissionShare * overlap a.permissions b.permissions

end Plugboard.Discovery
