import Plugboard.Console.Pure
/-!
# Builders

Requests that build a value step by step, as a caller chaining builder methods would: each call
is a method name with its argument, applied in order. A method the builder does not have, or an
argument of the wrong type, refuses the request.
-/

namespace Plugboard.Console

open Json

/-- A builder call: the method and its argument. -/
structure Call where
  method : String
  argument : Json

/-- The calls of a request. -/
def callsArg (j : Json) : Decode (List Call) :=
  match (arg? j "calls").getD (.arr []) with
  | .arr items => items.mapM fun
    | .arr [.str m, a] => .ok { method := m, argument := a }
    | .arr [other, _] => .error ("calls: " ++ invalidType (unexpected other) "a string")
    | .arr xs => .error ("calls: " ++ invalidLength xs.length "a tuple of size 2")
    | other => .error ("calls: " ++ invalidType (unexpected other) "a tuple of size 2")
  | other => .error ("calls: " ++ invalidType (unexpected other) "a sequence")

/-- A call's argument as a text. -/
def textArg (c : Call) : Decode String := do
  match ← checkAs "argument" .text c.argument with
  | .str s => pure s
  | _ => pure ""

/-- A call's argument as a natural of a given shape. -/
def natArg (s : Shape) (v : Json) : Decode Nat := do
  match ← checkAs "argument" s v with
  | .num (.nat n) => pure n
  | _ => pure 0

/-- A call's argument as a pair. -/
def pairArg (c : Call) : Decode (Json × Json) :=
  match c.argument with
  | .arr [a, b] => .ok (a, b)
  | _ => .error "argument must be a pair"

/-- A call's argument as a name of one of a closed set. -/
def nameArg (names : List String) (c : Call) : Decode String := do
  match ← checkAs "argument" (.oneOf names) c.argument with
  | .str s => pure s
  | _ => pure ""

/-- The refusal of a method the builder does not have. -/
def unknownCall {α : Type} (c : Call) : Decode α := .error ("unknown builder call " ++ c.method)

/-- Applies the calls in order. -/
def applyCalls {α : Type} (step : α → Call → Decode α) (start : α) (calls : List Call) : Decode α :=
  calls.foldlM step start

/-- One registration builder call. -/
def registrationCall (r : Registration) (c : Call) : Decode Registration :=
  match c.method with
  | "description" => return { r with description := ← textArg c }
  | "author" => return { r with author := ← textArg c }
  | "category" => return { r with category := ← textArg c }
  | "tag" => return { r with tags := insertText (← textArg c) r.tags }
  | "permission" => return { r with permissions := insertText (← textArg c) r.permissions }
  | "dependency" => return { r with dependencies := r.dependencies ++ [← textArg c] }
  | "endpoint" => do
    let (m, p) ← pairArg c
    let m ← textArg { c with argument := m }
    let p ← textArg { c with argument := p }
    return { r with endpoints := r.endpoints ++ [{ path := p, method := m }] }
  | "config" => do
    let (k, v) ← pairArg c
    let k ← textArg { c with argument := k }
    return { r with config := insertSorted k v r.config }
  | "status" => return { r with status := (Status.ofName? (← nameArg Status.names c)).getD .registered }
  | "metrics" => return { r with metrics := some (Metrics.ofRequests (← natArg Shape.u64 c.argument)) }
  | _ => unknownCall c

/-- One filter builder call. -/
def filterCall (f : Filter) (c : Call) : Decode Filter :=
  match c.method with
  | "status" => return { f with status := Status.ofName? (← nameArg Status.names c) }
  | "category" => return { f with category := some (← textArg c) }
  | "author" => return { f with author := some (← textArg c) }
  | "tag" => return { f with tags := f.tags ++ [← textArg c] }
  | "limit" => return { f with limit := some (← natArg Shape.usize c.argument) }
  | "offset" => return { f with offset := some (← natArg Shape.usize c.argument) }
  | _ => unknownCall c

/-- One criteria builder call. -/
def criteriaCall (k : Criteria) (c : Call) : Decode Criteria :=
  match c.method with
  | "requiring" => return { k with requiredCapabilities := k.requiredCapabilities ++ [← textArg c] }
  | "excluding" => return { k with excludeIds := k.excludeIds ++ [← textArg c] }
  | "category" => return { k with category := some (← textArg c) }
  | _ => unknownCall c

/-- The order a call names. -/
def orderArg (c : Call) : Decode Discovery.SortOrder := do
  let n ← nameArg (Discovery.SortOrder.all.map Discovery.SortOrder.name) c
  pure ((Discovery.SortOrder.ofName? n).getD .relevance)

/-- One query builder call. -/
def queryCall (q : Discovery.Query) (c : Call) : Decode Discovery.Query :=
  match c.method with
  | "category" => return { q with category := some (← textArg c) }
  | "requiring" => return { q with requiredPermissions := q.requiredPermissions ++ [← textArg c] }
  | "excluding" => return { q with excludeIds := q.excludeIds ++ [← textArg c] }
  | "sorted_by" => return { q with sortBy := ← orderArg c }
  | "max_results" => return { q with maxResults := ← natArg Shape.usize c.argument }
  | _ => unknownCall c

/-- One profile builder call. -/
def profileCall (p : Discovery.Profile) (c : Call) : Decode Discovery.Profile :=
  match c.method with
  | "installed" => return { p with installed := p.installed ++ [← textArg c] }
  | "preferred_tag" => return { p with preferredTags := p.preferredTags ++ [← textArg c] }
  | _ => unknownCall c

/-- One search builder call. -/
def searchCall (s : Discovery.Search) (c : Call) : Decode Discovery.Search :=
  match c.method with
  | "category" => return { s with category := some (← textArg c) }
  | "author" => return { s with author := some (← textArg c) }
  | "sorted_by" => return { s with sortBy := ← orderArg c }
  | "page" => do
    let (o, l) ← pairArg c
    let o ← natArg Shape.usize o
    let l ← natArg Shape.usize l
    return { s with offset := o, limit := l }
  | _ => unknownCall c

/-- One metadata builder call. -/
def metadataCall (m : Metadata) (c : Call) : Decode Metadata :=
  match c.method with
  | "description" => return { m with description := ← textArg c }
  | "category" => return { m with category := ← textArg c }
  | "permission" => return { m with permissions := m.permissions ++ [← textArg c] }
  | _ => unknownCall c

/-- The store configuration a kind and directory name. -/
def storeConfigOf (kind dir : String) : Decode StoreConfig :=
  match kind with
  | "memory" => .ok StoreConfig.memory
  | "file" => .ok (StoreConfig.file dir)
  | "cached_file" => .ok (StoreConfig.cachedFile dir)
  | other => .error ("unknown storage kind " ++ other)

/-- The answer to a builder request, or none when the operation is not one. -/
def buildReply (op : String) (j : Json) : Option (Reply Json) :=
  match op with
  | "build_registration" => some do
    let id ← Reply.ofDecode (text j "id")
    let name ← Reply.ofDecode (text j "name")
    let version ← Reply.ofDecode (text j "version")
    let calls ← Reply.ofDecode (callsArg j)
    let probe := textOr j "probe" ""
    let t ← Reply.now
    let r ← Reply.ofDecode (applyCalls registrationCall (Registration.create id name version t) calls)
    return .obj [("registration", r.toJson), ("request_count", Json.ofNat r.requestCount),
      ("has_endpoint", .bool (r.hasEndpoint probe)), ("valid", .bool (r.validate matches .ok _))]
  | "build_filter" => some do
    let calls ← Reply.ofDecode (callsArg j)
    let f ← Reply.ofDecode (applyCalls filterCall {} calls)
    let matched ← match arg? j "reg" with
      | some _ => do
        let r ← Reply.ofDecode (registration j "reg")
        pure [("matches", Json.bool (f.admits r))]
      | none => pure []
    let selected ← match arg? j "regs" with
      | some _ => do
        let rs ← Reply.ofDecode (registrations j "regs")
        pure [("select", Json.ofStrings ((f.select rs).map (·.id)))]
      | none => pure []
    return .obj ([("filter", f.toJson)] ++ matched ++ selected)
  | "build_criteria" => some do
    let calls ← Reply.ofDecode (callsArg j)
    let k ← Reply.ofDecode (applyCalls criteriaCall {} calls)
    let matched ← match arg? j "reg" with
      | some _ => do
        let r ← Reply.ofDecode (registration j "reg")
        pure [("matches", Json.bool (k.admits r))]
      | none => pure []
    return .obj ([("criteria", k.toJson)] ++ matched)
  | "build_query" => some do
    let t := textOr j "text" ""
    let calls ← Reply.ofDecode (callsArg j)
    let q ← Reply.ofDecode (applyCalls queryCall (Discovery.Query.ofText t) calls)
    return q.toJson
  | "build_user" => some do
    let u := textOr j "user_id" ""
    let calls ← Reply.ofDecode (callsArg j)
    let probe := textOr j "probe" ""
    let p ← Reply.ofDecode (applyCalls profileCall { userId := u } calls)
    return .obj [("user", p.toJson), ("has_installed", .bool (p.hasInstalled probe))]
  | "build_context" => some do
    let t := textOr j "project_type" ""
    return ({ projectType := some t } : Discovery.Context).toJson
  | "build_search" => some do
    let q := textOr j "query" ""
    let calls ← Reply.ofDecode (callsArg j)
    let s ← Reply.ofDecode (applyCalls searchCall { query := q } calls)
    return s.toJson
  | "build_metadata" => some do
    let id ← Reply.ofDecode (text j "id")
    let name ← Reply.ofDecode (text j "name")
    let version ← Reply.ofDecode (text j "version")
    let calls ← Reply.ofDecode (callsArg j)
    let m ← Reply.ofDecode (applyCalls metadataCall (Metadata.create id name version) calls)
    let t ← Reply.now
    return .obj [("metadata", m.toJson), ("registration", (m.toRegistration t).toJson)]
  | "build_health" => some do
    let v ← Reply.ofDecode (typed j "status" (.oneOf Verdict.names))
    let m := match arg? j "message" with
      | some (.str s) => some s
      | _ => none
    let t ← Reply.now
    let h : HealthReport :=
      { verdict := ((v.str?).bind Verdict.ofName?).getD .unknown, message := m, checkedAt := t }
    return h.toJson
  | "build_metrics" => some do
    let v ← Reply.ofDecode (typed j "requests" Shape.u64)
    let n := match v with
      | .num (.nat n) => n
      | _ => 0
    return (Metrics.ofRequests n).toJson
  | "build_endpoint" => some do
    let m ← Reply.ofDecode (text j "method")
    let p ← Reply.ofDecode (text j "path")
    return ({ path := p, method := m } : Endpoint).toJson
  | "build_storage_config" => some do
    let kind ← Reply.ofDecode (text j "kind")
    let dir := textOr j "directory" ""
    let c ← Reply.ofDecode (storeConfigOf kind dir)
    let r ← Reply.act (do
      let s ← Store.create c
      Act.focus (fun _ => s) (fun u _ => u) (do
        let h ← Store.healthCheck
        let n ← Store.count
        return (s.kind, h, n)))
    return outcomeAnswer (fun (k, h, n) => .obj [("config", c.toJson), ("backend_type", .str k.name),
      ("healthy", .bool h), ("count", Json.ofNat n)]) r
  | _ => none

end Plugboard.Console
