import SearchQuery.Error
import SearchQuery.Value

/-!
# Expansions

To generate a clause is to expand a query and whatever stands in it. An `Expansion` is what came of
it: the queries that were entered, in order, and the result or the first error. What was entered
before an error stays on record.
-/

namespace SearchQuery

/-- The entry into a query. -/
structure Visit where
  id : NodeId
  kind : Kind
  /-- The queries that were being expanded at the time, the innermost first. -/
  above : List NodeId
deriving DecidableEq, Repr

/-- How deep the query stands, the root at depth one. -/
def Visit.depth (v : Visit) : Nat := v.above.length + 1

/-- What came of expanding a query. -/
structure Expansion (α : Type) where
  /-- The queries entered, in order. -/
  entered : List Visit
  /-- The result, or the first error. -/
  outcome : Except QueryError α

namespace Expansion

variable {α β : Type}

def done (a : α) : Expansion α := ⟨[], .ok a⟩

def fail (e : QueryError) : Expansion α := ⟨[], .error e⟩

/-- The entry into a query, and what comes of expanding it. -/
def enter (v : Visit) (x : Expansion α) : Expansion α := ⟨v :: x.entered, x.outcome⟩

/-- One expansion, and a second one that goes on with its result. The second does not begin if the
    first fails. -/
def andThen (x : Expansion α) (f : α → Expansion β) : Expansion β :=
  match x.outcome with
  | .ok a =>
    let y := f a
    ⟨x.entered ++ y.entered, y.outcome⟩
  | .error e => ⟨x.entered, .error e⟩

instance : Monad Expansion where
  pure := done
  bind := andThen

@[simp] theorem outcome_pure (a : α) : (pure a : Expansion α).outcome = .ok a := rfl

@[simp] theorem outcome_fail (e : QueryError) : (fail e : Expansion α).outcome = .error e := rfl

@[simp] theorem outcome_enter (v : Visit) (x : Expansion α) :
    (enter v x).outcome = x.outcome := rfl

@[simp] theorem entered_pure (a : α) : (pure a : Expansion α).entered = [] := rfl

@[simp] theorem entered_fail (e : QueryError) : (fail e : Expansion α).entered = [] := rfl

@[simp] theorem entered_enter (v : Visit) (x : Expansion α) :
    (enter v x).entered = v :: x.entered := rfl

/-- **The outcome does not depend on the record**: outcomes go on from one another as they would
    without it. -/
@[simp] theorem outcome_bind (x : Expansion α) (f : α → Expansion β) :
    (x >>= f).outcome = x.outcome >>= fun a => (f a).outcome := by
  show (andThen x f).outcome = _
  unfold andThen
  cases x.outcome <;> rfl

theorem entered_bind_of_ok {x : Expansion α} {a : α} (h : x.outcome = .ok a)
    (f : α → Expansion β) : (x >>= f).entered = x.entered ++ (f a).entered := by
  show (andThen x f).entered = _
  simp [andThen, h]

theorem entered_bind_of_error {x : Expansion α} {e : QueryError} (h : x.outcome = .error e)
    (f : α → Expansion β) : (x >>= f).entered = x.entered := by
  show (andThen x f).entered = _
  simp [andThen, h]

end Expansion

end SearchQuery
