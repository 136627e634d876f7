import SearchQuery.Builder

/-!
# The store of queries

Queries refer to one another by handle, and one query may stand in many others, itself included
once it is changed. A store holds the nodes that the handles lead to.

* a query is never removed, so that a handle stays good; a handle that leads nowhere reads as an
  empty node, and no operation gives one out;
* `build` adds a node, `set` and `unset` change one; each fails without a new store, so that a
  failure leaves the store as it was;
* the three operations as data are the `Action`s, and `Store.perform` runs one.
-/

namespace SearchQuery

/-- The nodes of all queries, in the order in which they were built. -/
structure Store where
  nodes : Array Node

namespace Store

def empty : Store := ⟨#[]⟩

instance : EmptyCollection Store := ⟨empty⟩

instance : Inhabited Store := ⟨empty⟩

def size (s : Store) : Nat := s.nodes.size

/-- Whether a handle leads to a query. -/
def Has (s : Store) (id : NodeId) : Prop := id.index < s.size

instance (s : Store) (id : NodeId) : Decidable (s.Has id) := inferInstanceAs (Decidable (_ < _))

def node (s : Store) (id : NodeId) : Node := s.nodes[id.index]?.getD default

/-! ## 1. Adding and replacing -/

def add (s : Store) (n : Node) : Store := ⟨s.nodes.push n⟩

/-- The handle that the next node added is given. -/
def next (s : Store) : NodeId := ⟨s.size⟩

/-- Puts a node in the place of another. -/
def replace (s : Store) (id : NodeId) (n : Node) : Store := ⟨s.nodes.setIfInBounds id.index n⟩

@[simp] theorem size_add (s : Store) (n : Node) : (s.add n).size = s.size + 1 := by
  simp [size, add]

@[simp] theorem size_replace (s : Store) (id : NodeId) (n : Node) :
    (s.replace id n).size = s.size := by
  simp [size, replace]

@[simp] theorem node_add_next (s : Store) (n : Node) : (s.add n).node s.next = n := by
  simp [node, add, next, size]

/-- **Adding a node leaves the others as they are.** -/
theorem node_add {s : Store} (n : Node) {id : NodeId} (h : s.Has id) :
    (s.add n).node id = s.node id := by
  have h' : id.index < s.nodes.size := h
  simp [node, add, Array.getElem?_push, Nat.ne_of_lt h']

@[simp] theorem node_replace_self {s : Store} {id : NodeId} (n : Node) (h : s.Has id) :
    (s.replace id n).node id = n := by
  have h' : id.index < s.nodes.size := h
  simp [node, replace, h']

/-- **Replacing a node leaves the others as they are.** -/
theorem node_replace_ne (s : Store) {id j : NodeId} (n : Node) (h : j ≠ id) :
    (s.replace id n).node j = s.node j := by
  have h' : id.index ≠ j.index := fun e => h (by cases id; cases j; simp_all)
  simp [node, replace, h']

/-! ## 2. Building and changing -/

/-- Builds a node and adds it. -/
def build (s : Store) (b : Builder) : Except QueryError (Store × NodeId) := do
  let n ← b.build
  return (s.add n, s.next)

/-- Binds a declared name of a query. -/
def set (s : Store) (id : NodeId) (name : String) (v : Value) : Except QueryError Store := do
  let n := s.node id
  requireDeclared n.kind [name]
  return s.replace id { n with values := n.values.insert name v }

/-- A field that is not required. -/
def requireOptional (kind : Kind) (name : String) : Except QueryError Unit :=
  if kind.required.contains name then .error (.invalidQuery (.unsetRequired kind name))
  else .ok ()

/-- Unbinds a declared name of a query, with the value it held. The name may not be required, nor
    the last of two alternatives. -/
def unset (s : Store) (id : NodeId) (name : String) :
    Except QueryError (Store × Option Value) := do
  let n := s.node id
  requireDeclared n.kind [name]
  requireOptional n.kind name
  let values := n.values.erase name
  requireAlternative n.kind values
  return (s.replace id { n with values }, n.values.get? name)

/-! ## 3. Actions -/

/-- What can be done to a store. -/
inductive Action where
  | build (b : Builder)
  | set (id : NodeId) (name : String) (v : Value)
  | unset (id : NodeId) (name : String)

/-- What an action answers. -/
inductive Reply where
  | built (id : NodeId)
  | changed
  | previous (v : Option Value)

/-- The store after an action, and its answer. An action that fails changes nothing. -/
def perform (s : Store) (a : Action) : Store × Except QueryError Reply :=
  match a with
  | .build b =>
    match s.build b with
    | .ok (s', id) => (s', .ok (.built id))
    | .error e => (s, .error e)
  | .set id name v =>
    match s.set id name v with
    | .ok s' => (s', .ok .changed)
    | .error e => (s, .error e)
  | .unset id name =>
    match s.unset id name with
    | .ok (s', v) => (s', .ok (.previous v))
    | .error e => (s, .error e)

end Store

end SearchQuery
