import SearchQuery.Expansion
import SearchQuery.Node

/-!
# The layout of clauses

The clause of a node is an object with one key, the tag of its kind; under it stands the body, or
another object with one key, the primary field, and the body under that. The body has an entry for
every value that its shape lays out.

Here a node is laid out, given what comes of expanding the queries in it (`child`). The order in
which values are rendered is the order in which queries are expanded and errors arise; in the body
the entries stand in ascending order of their names.
-/

namespace SearchQuery

/-! ## 1. Values -/

section Values

variable (child : NodeId → Expansion Json) (field : String)

/-- A scalar or query, rendered. A list does not stand directly in a list. -/
def renderItem : Value → Expansion Json
  | .bool b => pure (.bool b)
  | .int n => pure (.int n.toInt)
  | .float x =>
    if x.isFinite then pure (.float x) else .fail (.unsupportedValue field (.nonFinite x))
  | .text s => pure (.string s)
  | .json j => pure j
  | .node id => child id
  | .list _ => .fail (.unsupportedValue field .nestedList)

/-- The items of a list, rendered from left to right. -/
def renderItems : List Value → Expansion (List Json)
  | [] => pure []
  | v :: vs => do
    let j ← renderItem child field v
    let js ← renderItems vs
    return j :: js

def renderValue : Value → Expansion Json
  | .list items => do
    let js ← renderItems child field items
    return .array js
  | v => renderItem child field v

end Values

/-! ## 2. Entries -/

section Entries

variable (child : NodeId → Expansion Json) (n : Node)

/-- The entries of the names that hold a value, in the order of the names given. -/
def renderFields : List String → Expansion (List (String × Json))
  | [] => pure []
  | name :: names =>
    match n.values.get? name with
    | none => renderFields names
    | some v => do
      let j ← renderValue child name v
      let rest ← renderFields names
      return (name, j) :: rest

/-- The entry of a name that has to hold a value. -/
def renderNeeded (name : String) : Expansion (String × Json) :=
  match n.values.get? name with
  | none => .fail (.missingField n.kind name)
  | some v => do
    let j ← renderValue child name v
    return (name, j)

/-- The entries that a kind pins, whatever the node holds. -/
def pinned (kind : Kind) : List (String × Json) := kind.forced.map fun e => (e.1, .string e.2)

/-- The entries of a body, in the order in which they are rendered. A pinned entry comes after the
    one that is rendered, and stands in its place. -/
def bodyEntries : Shape → Expansion (List (String × Json))
  | .generic | .primaryField => renderFields child n n.kind.fields
  | .matchAll => do
    let entries ← renderFields child n n.kind.fields
    return entries ++ pinned n.kind
  | .termLike => do
    let value ← renderNeeded child n "value"
    let boost ← renderFields child n ["boost"]
    return value :: boost
  | .fuzzy => do
    let options ← renderFields child n Kind.fuzzyOptions
    let value ← renderNeeded child n "value"
    return options ++ [value]
  | .moreLikeThisField => renderFields child n (n.kind.fields.drop 2)

/-! ## 3. Clauses -/

/-- A body under its tag, and under the primary field if the shape has one. -/
def keyed (shape : Shape) (body : Json) : Expansion Json :=
  if shape.hasPrimaryField then
    match n.field with
    | none => .fail (.missingField n.kind "field")
    | some field => pure (.single n.kind.tag (.single field body))
  else pure (.single n.kind.tag body)

/-- The clause of a node in a shape. -/
def layOut (shape : Shape) : Expansion Json := do
  let entries ← bodyEntries child n shape
  keyed n shape (.ofDict (.ofList entries))

/-- The clause of a node, in the shape of its kind. -/
def Node.clause : Expansion Json := layOut child n n.kind.shape

end Entries

end SearchQuery
