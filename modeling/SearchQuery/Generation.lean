import SearchQuery.Clause
import SearchQuery.Json.Printer
import SearchQuery.Settings
import SearchQuery.Store

/-!
# Generating JSON

The clause of a query is its layout, with the clauses of the queries in it; those are generated in
the same way. Queries may refer to one another in a circle, so the walk carries the queries that are
being expanded, and refuses one that is among them. It refuses a query also if it would stand deeper
than the settings allow; a circle is reported first.

* `Store.expand` is the walk, by recursion on the number of levels that are left;
* `Store.clause` is the clause as it stands in another query, `Store.generate` the request with this
  query at its root, wrapped if its shape allows it;
* `Store.trace` is the request with a record of how it came about.
-/

namespace SearchQuery

/-! ## 1. The walk -/

namespace Store

variable (s : Store)

/-- Expands a query with so much room below, while the queries of the chain are being expanded. -/
def expand (limit : Nat) : (room : Nat) → (chain : List NodeId) → NodeId → Expansion Json
  | room, chain, id =>
    if id ∈ chain then .fail (.cyclic (s.node id).kind)
    else
      match room with
      | 0 => .fail (.depthLimitExceeded limit)
      | room + 1 =>
        .enter ⟨id, (s.node id).kind, chain⟩
          ((s.node id).clause (expand limit room (id :: chain)))

/-- Expands a query that stands in no other. -/
def expandRoot (settings : Settings) (id : NodeId) : Expansion Json :=
  s.expand settings.maxDepth settings.maxDepth [] id

/-! ## 2. Clauses and requests -/

/-- The clause of a query, as it stands in another query. -/
def clause (settings : Settings) (id : NodeId) : Except QueryError Json :=
  (s.expandRoot settings id).outcome

/-- A clause at the root of a request. -/
def wrap (settings : Settings) (kind : Kind) (clause : Json) : Json :=
  if settings.wrapRoot && kind.shape.wrapsAtRoot then .single "query" clause else clause

/-- The request with a query at its root. -/
def generate (settings : Settings) (id : NodeId) : Except QueryError Json := do
  let clause ← s.clause settings id
  return wrap settings (s.node id).kind clause

/-- The request on one line, with the default settings. -/
def generateText (id : NodeId) : Except QueryError String :=
  (s.generate {} id).map Json.compact

/-- The request on many lines, with the default settings. -/
def generatePretty (id : NodeId) : Except QueryError String :=
  (s.generate {} id).map Json.pretty

/-! ## 3. Traces -/

end Store

/-- What is recorded of a request. -/
inductive Event where
  | generating (kind : Kind)
  | expanding (visit : Visit)
  | failed (error : QueryError)
deriving DecidableEq, Repr

/-- A line of a log, with the values that stand in it, by name. -/
structure LogLine where
  level : String
  message : String
  values : List (String × String)
deriving DecidableEq, Repr

/-- The line that an event is written on. -/
def Event.line : Event → LogLine
  | .generating kind => ⟨"DEBUG", "generating query", [("kind", kind.name)]⟩
  | .expanding visit =>
    ⟨"TRACE", "expanding node", [("kind", visit.kind.name), ("depth", toString visit.depth)]⟩
  | .failed error => ⟨"DEBUG", "query generation failed", [("error", error.message)]⟩

namespace Store

def events (s : Store) (settings : Settings) (id : NodeId) : List Event :=
  let x := s.expandRoot settings id
  let ending := match x.outcome with
    | .ok _ => []
    | .error e => [.failed e]
  .generating (s.node id).kind :: x.entered.map .expanding ++ ending

/-- The request with a query at its root, and its events. -/
def trace (s : Store) (settings : Settings) (id : NodeId) :
    List Event × Except QueryError Json :=
  (s.events settings id, s.generate settings id)

end Store

end SearchQuery
