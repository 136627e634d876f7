import SearchQuery.Json.Token

/-!
# Reading JSON

The value of a JSON text, by a machine with one step a token. It holds the arrays and objects that
are still open, innermost first (`Frame`), and what the text has to go on with (`Due`).

Of two members with one name the later stays, and the members of an object are kept in ascending
order of their names whatever order they are written in.
-/

namespace SearchQuery.Json

/-- An array or object that is still open, at one of its values. -/
inductive Frame where
  /-- An array, with the items read so far, last first. -/
  | array (done : List Json)
  /-- An object, with the members read so far and the name of the one that is due. -/
  | object (done : Dict Json) (name : String)

/-- What has to come next. -/
inductive Due where
  | value
  /-- After the opening of an array: a value, or its end. -/
  | valueOrEnd
  /-- After the opening of an object: a name, or its end. -/
  | nameOrEnd
  /-- After a comma in an object with these members: a name. -/
  | name (done : Dict Json)
  /-- After a name in an object with these members: its colon. -/
  | colon (done : Dict Json) (name : String)
  /-- After a value: whatever ends it or goes on. -/
  | after (j : Json)

/-- The machine between two tokens. -/
structure Reader where
  stack : List Frame
  due : Due

/-- A token that begins a value. -/
def Reader.beginValue (stack : List Frame) : Token → Option Reader
  | .scalar j => some ⟨stack, .after j⟩
  | .string s => some ⟨stack, .after (.string s)⟩
  | .openArray => some ⟨.array [] :: stack, .valueOrEnd⟩
  | .openObject => some ⟨stack, .nameOrEnd⟩
  | _ => none

/-- A token after a value: the comma or the end of what the value stands in. -/
def Reader.afterValue (j : Json) : List Frame → Token → Option Reader
  | .array done :: stack, .comma => some ⟨.array (j :: done) :: stack, .value⟩
  | .array done :: stack, .closeArray => some ⟨stack, .after (.array (j :: done).reverse)⟩
  | .object done name :: stack, .comma => some ⟨stack, .name (done.insert name j)⟩
  | .object done name :: stack, .closeObject =>
    some ⟨stack, .after (.ofDict (done.insert name j))⟩
  | _, _ => none

def Reader.step (reader : Reader) (t : Token) : Option Reader :=
  match reader.due, t with
  | .value, t => beginValue reader.stack t
  | .valueOrEnd, .closeArray => some ⟨reader.stack.tail, .after (.array [])⟩
  | .valueOrEnd, t => beginValue reader.stack t
  | .nameOrEnd, .closeObject => some ⟨reader.stack, .after (.object [])⟩
  | .nameOrEnd, .string name => some ⟨reader.stack, .colon ∅ name⟩
  | .name done, .string name => some ⟨reader.stack, .colon done name⟩
  | .colon done name, .colon => some ⟨.object done name :: reader.stack, .value⟩
  | .after j, t => afterValue j reader.stack t
  | _, _ => none

/-- The value of a JSON text; `none` if it is not one. -/
def parse? (s : String) : Option Json := do
  let ts ← tokens? s
  let reader ← ts.foldlM Reader.step ⟨[], .value⟩
  match reader.stack, reader.due with
  | [], .after j => some j
  | _, _ => none

end SearchQuery.Json
