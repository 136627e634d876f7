import SearchQuery.Json.Reading
import SearchQuery.Value

/-!
# Options of match queries

Two options have a type of their own: the operator that combines terms, and how many of the terms
have to match. Each is read from JSON and becomes a value; the second is also written back.
-/

namespace SearchQuery

/-! ## 1. The operator -/

/-- How the terms of a match query are combined. -/
inductive MatchOperator where
  /-- All terms have to match. -/
  | and
  /-- One term has to match. -/
  | or
deriving DecidableEq, Repr

namespace MatchOperator

instance : Inhabited MatchOperator := ⟨.or⟩

/-- The name of the operator, in queries and in JSON. -/
def name : MatchOperator → String
  | .and => "and"
  | .or => "or"

/-- The operators, in the order in which errors list them. -/
def all : List MatchOperator := [.and, .or]

def toValue (o : MatchOperator) : Value := .text o.name

def ofJson : Json → Except ReadError MatchOperator := readName (all.map fun o => (o.name, o))

def toJson (o : MatchOperator) : Json := .string o.name

/-- **An operator that is written is read back.** -/
theorem ofJson_toJson (o : MatchOperator) : ofJson o.toJson = .ok o :=
  readName_name (fun a b => by cases a <;> cases b <;> decide) (by cases o <;> decide)

end MatchOperator

/-! ## 2. The number of matches -/

/-- How many terms have to match. -/
inductive MinimumShouldMatch where
  | count (n : Int64)
  /-- An expression such as `75%` or `3<90%`. -/
  | percentage (expression : String)
deriving DecidableEq

namespace MinimumShouldMatch

def toValue : MinimumShouldMatch → Value
  | .count n => .int n
  | .percentage expression => .text expression

/-- The specification of a JSON value. A count is tried first, and then an expression. -/
def ofJson : Json → Except ReadError MinimumShouldMatch :=
  readForms "MinimumShouldMatch"
    [fun j => j.int64?.map .count, fun j => j.text?.map .percentage]

def toJson : MinimumShouldMatch → Json
  | .count n => .int n.toInt
  | .percentage expression => .string expression

variable {j : Json} {m : MinimumShouldMatch}

/-- **What is read is what writing produces**, and nothing else: a text of digits is no count. -/
theorem ofJson_eq_ok_iff : ofJson j = .ok m ↔ j = m.toJson := by
  unfold ofJson
  cases hcount : j.int64? with
  | some n =>
      rw [readForms_of_some (by rw [hcount, Option.map_some]), Json.int64?_eq_some_iff.1 hcount]
      cases m <;> simp [toJson, Int64.toInt_inj]
  | none =>
      rw [readForms_of_none (by rw [hcount, Option.map_none])]
      cases htext : j.text? with
      | some s =>
          rw [readForms_of_some (by rw [htext, Option.map_some]), Json.text?_eq_some_iff.1 htext]
          cases m <;> simp [toJson]
      | none =>
          rw [readForms_of_none (by rw [htext, Option.map_none])]
          cases m with
          | count n => simp [readForms, toJson, ← Json.int64?_eq_some_iff, hcount]
          | percentage s => simp [readForms, toJson, ← Json.text?_eq_some_iff, htext]

/-- **What can be read**: the integers of 64 bits with a sign, and the texts. -/
theorem exists_ofJson_iff :
    (∃ m, ofJson j = .ok m) ↔
      (∃ i : Int, j = .int i ∧ -9223372036854775808 ≤ i ∧ i ≤ 9223372036854775807) ∨
        ∃ s, j = .string s := by
  rw [← Json.exists_int64?_iff]
  simp only [ofJson_eq_ok_iff, Json.int64?_eq_some_iff]
  constructor
  · intro h
    obtain ⟨m, rfl⟩ := h
    cases m with
    | count n => exact .inl ⟨n, rfl⟩
    | percentage s => exact .inr ⟨s, rfl⟩
  · intro h
    rcases h with ⟨n, rfl⟩ | ⟨s, rfl⟩
    · exact ⟨.count n, rfl⟩
    · exact ⟨.percentage s, rfl⟩

end MinimumShouldMatch

end SearchQuery
