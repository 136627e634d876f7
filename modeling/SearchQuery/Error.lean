import SearchQuery.Kind

/-!
# Errors

What can go wrong with a query, by cause. An error arises either while a query is built or changed
(`QueryError.isConstruction`) or while JSON is generated from it, or when a typed option is read.
The wording is in `QueryError.message` alone.
-/

namespace SearchQuery

/-- Why a value cannot be generated. -/
inductive ValueFault where
  /-- JSON has no number for it. -/
  | nonFinite (x : Float)
  | nestedList
  /-- A reason that the host gives. -/
  | other (reason : String)
deriving DecidableEq, Repr

/-- Why the names that a query holds values under do not make a query of its kind. -/
inductive QueryFault where
  /-- A required field would lose its value. -/
  | unsetRequired (kind : Kind) (name : String)
  /-- Neither of two fields of which one is needed holds a value. -/
  | noAlternative (kind : Kind) (first second : String)
  /-- A reason that the host gives. -/
  | other (reason : String)
deriving DecidableEq, Repr

/-- What can go wrong with a query. -/
inductive QueryError where
  | unsupportedValue (field : String) (fault : ValueFault)
  /-- A query of this kind is below itself. -/
  | cyclic (kind : Kind)
  | depthLimitExceeded (limit : Nat)
  | unknownField (kind : Kind) (name : String)
  /-- A field that the kind requires holds no value. -/
  | missingField (kind : Kind) (name : String)
  /-- The fields together do not make a query. -/
  | invalidQuery (fault : QueryFault)
  | unreadable (cause : ReadError)
deriving DecidableEq, Repr

def ValueFault.message : ValueFault → String
  | .nonFinite x => "non-finite number " ++ Decimal.Layout.debug.text x
  | .nestedList => "list nested directly inside a list"
  | .other reason => reason

def QueryFault.message : QueryFault → String
  | .unsetRequired kind name =>
    "cannot unset required field '" ++ name ++ "' of " ++ kind.name ++ " query"
  | .noAlternative kind first second =>
    kind.name ++ " query requires either '" ++ first ++ "' or '" ++ second ++ "'"
  | .other reason => reason

namespace QueryError

def message : QueryError → String
  | .unsupportedValue field fault =>
    "Unsupported value for field '" ++ field ++ "': " ++ fault.message
  | .cyclic kind => "Cyclic query tree: " ++ kind.name ++ " query is reachable from itself"
  | .depthLimitExceeded limit => "Query tree exceeds maximum depth of " ++ toString limit
  | .unknownField kind name => "Unknown field '" ++ name ++ "' for " ++ kind.name ++ " query"
  | .missingField kind name =>
    "Missing required field '" ++ name ++ "' for " ++ kind.name ++ " query"
  | .invalidQuery fault => "Invalid query: " ++ fault.message
  | .unreadable cause => "Serialization error: " ++ cause.message

/-- Whether the error is one of building or changing a query, and not of generating from it. -/
def isConstruction : QueryError → Bool
  | .unknownField .. | .missingField .. | .invalidQuery _ => true
  | .unsupportedValue .. | .cyclic _ | .depthLimitExceeded _ | .unreadable _ => false

end QueryError

end SearchQuery
