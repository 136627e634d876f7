import SearchQuery.MatchOption
import SearchQuery.Node

/-!
# Builders

A builder collects what a node is to hold, in any order and under any names; what is wrong with it
is found when it is built.

* `set` binds a name, over what was bound before; `push` appends to a list, and makes a list of a
  single value (`appended`);
* the other calls are these two under a fixed name, and a `Call` is a call as data, so that what a
  sequence of calls does can be said of any sequence (`Builder.run`);
* `build` tests the primary field, then the names in ascending order, then what is required, then
  the alternatives, and reports the first fault. The forced values come in before the required
  fields are looked for, over whatever was bound.
-/

namespace SearchQuery

/-- What is collected of a node. -/
structure Builder where
  kind : Kind
  /-- The document field that the clause is keyed by. -/
  field : Option String
  /-- The values collected, under any names. -/
  values : Dict Value

/-- What a name holds once a value is appended to what it held. -/
def appended (v : Value) : Option Value → Value
  | none => .list [v]
  | some (.list items) => .list (items ++ [v])
  | some single => .list [single, v]

namespace Builder

/-! ## 1. Starting -/

def new (kind : Kind) : Builder := ⟨kind, none, ∅⟩

/-- A builder of a node that is keyed by a document field. -/
def forField (kind : Kind) (field : String) : Builder := ⟨kind, some field, ∅⟩

/-! ## 2. Collecting -/

def set (b : Builder) (name : String) (v : Value) : Builder :=
  { b with values := b.values.insert name v }

def setOpt (b : Builder) (name : String) : Option Value → Builder
  | some v => b.set name v
  | none => b

/-- Appends to what a name holds. -/
def push (b : Builder) (name : String) (v : Value) : Builder :=
  b.set name (appended v (b.values.get? name))

inductive Call where
  | set (name : String) (v : Value)
  | setOpt (name : String) (v : Option Value)
  | push (name : String) (v : Value)
  | boost (x : Float)
  | query (v : Value)
  | filter (v : Value)
  | must (q : NodeId)
  | should (q : NodeId)
  | mustNot (q : NodeId)
  /-- The clause that documents should match. -/
  | positive (q : NodeId)
  /-- The clause that documents are demoted for. -/
  | negative (q : NodeId)
  | function (q : NodeId)
  | fuzziness (v : Value)
  | operator (o : MatchOperator)
  | minimumShouldMatch (m : MinimumShouldMatch)
  | analyzer (name : String)

def call (b : Builder) : Call → Builder
  | .set name v => b.set name v
  | .setOpt name v => b.setOpt name v
  | .push name v => b.push name v
  | .boost x => b.set "boost" (.float x)
  | .query v => b.set "query" v
  | .filter v => b.set "filter" v
  | .must q => b.push "must" (.node q)
  | .should q => b.push "should" (.node q)
  | .mustNot q => b.push "must_not" (.node q)
  | .positive q => b.set "positive" (.node q)
  | .negative q => b.set "negative" (.node q)
  | .function q => b.push "functions" (.node q)
  | .fuzziness v => b.set "fuzziness" v
  | .operator o => b.set "operator" o.toValue
  | .minimumShouldMatch m => b.set "minimum_should_match" m.toValue
  | .analyzer name => b.set "analyzer" (.text name)

def run (b : Builder) (calls : List Call) : Builder := calls.foldl call b

/-! ## 3. Building -/

/-- The values a kind forces. -/
def forcedValues (kind : Kind) : List (String × Value) :=
  kind.forced.map fun e => (e.1, .text e.2)

/-- The node, if what was collected makes one. -/
def build (b : Builder) : Except QueryError Node := do
  requirePrimaryField b.kind b.field
  requireDeclared b.kind b.values.keys
  let values := b.values.insertAll (forcedValues b.kind)
  requireHeld b.kind values
  requireAlternative b.kind values
  return ⟨b.kind, b.field, values⟩

end Builder

end SearchQuery
