import SearchQuery.Json.Reading

/-!
# Settings of generation

How deep queries may be nested, and whether a clause at the root is wrapped. Hosts keep settings in
files of their own, so they are read from JSON -- an object, or an array of the two in order --
with a default for what is not given, and are written back.
-/

namespace SearchQuery

/-- The nesting that is allowed if nothing else is said. -/
def defaultMaxDepth : Nat := 64

/-- The settings of generation. -/
structure Settings where
  /-- How many queries may stand in one another, the root included. Nothing at all can be generated
      with none. -/
  maxDepth : Nat := defaultMaxDepth
  /-- Whether a clause at the root is wrapped, if its shape allows it. -/
  wrapRoot : Bool := true
deriving DecidableEq, Repr, Inhabited

namespace Settings

def readDepth : Json → Except ReadError Nat
  | .int n => if n < 0 then .error (.wrongValue (.int n) .size) else .ok n.toNat
  | other => .error (.wrongType other.found .size)

def readWrap : Json → Except ReadError Bool
  | .bool b => .ok b
  | other => .error (.wrongType other.found .boolean)

/-- What is read if there is something to read, and the default otherwise. -/
def readOr {α : Type} (read : Json → Except ReadError α) (otherwise : α) :
    Option Json → Except ReadError α
  | some j => read j
  | none => .ok otherwise

/-- Settings from the JSON of each, if it is given. -/
def ofParts (depth wrap : Option Json) : Except ReadError Settings := do
  let maxDepth ← readOr readDepth defaultMaxDepth depth
  let wrapRoot ← readOr readWrap true wrap
  return { maxDepth, wrapRoot }

/-- Settings from JSON. Members of other names are left alone; an array may be shorter, and if it
    is longer its first two items are read all the same before that is said. -/
def ofJson : Json → Except ReadError Settings
  | .object members => ofParts (members.lookup "max_depth") (members.lookup "wrap_root")
  | .array items => do
    let settings ← ofParts items[0]? items[1]?
    if items.length ≤ 2 then return settings
    else .error (.wrongLength items.length .fewerItems)
  | other => .error (.wrongType other.found .settings)

/-- The settings as JSON text, in the order in which they are declared. -/
def text (s : Settings) : String :=
  "\x7b\"max_depth\":" ++ toString s.maxDepth ++ ",\"wrap_root\":" ++
    (if s.wrapRoot then "true" else "false") ++ "\x7d"

end Settings

end SearchQuery
