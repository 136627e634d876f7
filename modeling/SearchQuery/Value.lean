import SearchQuery.Json.Basic

/-!
# Values

What a query holds under a name: a scalar, raw JSON, another query, or a list. A query is held by
its handle (`NodeId`), so that one query can stand in many places without being copied, and a change
to it is seen in all of them.

Raw JSON is never looked into. A list is: its items are scalars and queries, and a list that holds a
list is a value that can be stored but not generated.
-/

namespace SearchQuery

/-- The handle of a query in a store. Two handles are equal exactly if they lead to one query. -/
structure NodeId where
  /-- The number of queries that were there before it. -/
  index : Nat
deriving DecidableEq, Repr, Inhabited

/-- A value held under a name. -/
inductive Value where
  | bool (b : Bool)
  | int (n : Int64)
  /-- A number that has to be finite to be generated. -/
  | float (x : Float)
  | text (s : String)
  /-- Raw JSON, passed through untouched. -/
  | json (j : Json)
  | node (id : NodeId)
  /-- A list of scalars and queries. -/
  | list (items : List Value)
deriving Inhabited

namespace Value

/-! ## 1. Making values -/

/-- An integer without a sign. It may exceed the range of the integers with a sign, and is held as
    raw JSON. -/
def unsigned (n : UInt64) : Value := .json (.int n.toNat)

def texts (ss : List String) : Value := .list (ss.map .text)

def ints (ns : List Int64) : Value := .list (ns.map .int)

def nodes (ids : List NodeId) : Value := .list (ids.map .node)

/-! ## 2. Looking at values -/

def text? : Value → Option String
  | .text s => some s
  | _ => none

def node? : Value → Option NodeId
  | .node id => some id
  | _ => none

mutual

/-- Whether the value carries a query, by itself or at any depth of a list. -/
def hasNodes : Value → Bool
  | .node _ => true
  | .list items => anyHasNodes items
  | _ => false

/-- Whether one of the values carries a query. -/
def anyHasNodes : List Value → Bool
  | [] => false
  | v :: vs => v.hasNodes || anyHasNodes vs

end

theorem anyHasNodes_eq_any : ∀ vs : List Value, anyHasNodes vs = vs.any hasNodes
  | [] => rfl
  | v :: vs => by simp [anyHasNodes, anyHasNodes_eq_any vs]

theorem hasNodes_list (items : List Value) : (Value.list items).hasNodes = items.any hasNodes := by
  rw [hasNodes, anyHasNodes_eq_any]

end Value

end SearchQuery
