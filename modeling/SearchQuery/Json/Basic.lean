import SearchQuery.Dict

/-!
# JSON values

The values that clauses are made of. An integer and a floating-point number are different values
even where they are equal as numbers: `1` and `1.0` are written differently and stay different.

The members of an object are listed in ascending order of their names. An object is therefore made
from a dictionary (`Json.ofDict`), and two objects with the same members are the same value.
-/

namespace SearchQuery

/-- A JSON value. -/
inductive Json where
  | null
  | bool (b : Bool)
  | int (n : Int)
  | float (x : Float)
  | string (s : String)
  | array (items : List Json)
  /-- The members in ascending order of their names. -/
  | object (members : List (String × Json))
deriving Inhabited

namespace Json

/-- The object with the members of a dictionary. -/
def ofDict (d : Dict Json) : Json := .object d.entries

/-- The object with one member. -/
def single (name : String) (j : Json) : Json := .object [(name, j)]

/-- The member of that name, if the value is an object that has one. -/
def member? : Json → String → Option Json
  | .object members, name => members.lookup name
  | _, _ => none

/-- The integers that an integer of JSON can be: those of 64 bits, with a sign or without, from
    `-2^63` to below `2^64`. Beyond them a number is kept as a floating-point number. -/
def IntegerRange (n : Int) : Prop := -9223372036854775808 ≤ n ∧ n < 18446744073709551616

instance (n : Int) : Decidable (IntegerRange n) := inferInstanceAs (Decidable (_ ∧ _))

end Json

end SearchQuery
