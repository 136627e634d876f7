import SearchQuery.Json.Basic
import SearchQuery.Decimal.Layout
import SearchQuery.Text.Quoted

/-!
# Writing JSON

A value is written on one line without blanks (`Json.compact`), or with a line for every member and
item and two blanks for every level (`Json.pretty`). Both write the same scalars:

* floating-point numbers in the JSON layout, and `null` for those that JSON cannot write;
* strings with the quote, the backslash and the controls below the space escaped, and every other
  character as it is.
-/

namespace SearchQuery.Json

/-! ## 1. Scalars -/

/-- One character as it stands inside a JSON string. -/
def escapeChar (c : Char) : String :=
  match c with
  | '"' => "\\\""
  | '\\' => "\\\\"
  | '\x08' => "\\b"
  | '\x0c' => "\\f"
  | '\n' => "\\n"
  | '\r' => "\\r"
  | '\t' => "\\t"
  | c =>
    if c.toNat < 0x10 then "\\u000" ++ Text.hex c.toNat
    else if c.toNat < 0x20 then "\\u00" ++ Text.hex c.toNat
    else c.toString

def stringText (s : String) : String :=
  "\"" ++ String.join (s.toList.map escapeChar) ++ "\""

/-- A floating-point number as JSON writes it. -/
def floatText (x : Float) : String :=
  if x.isFinite then Decimal.Layout.json.text x else "null"

/-! ## 2. On one line -/

mutual

/-- A value on one line, without blanks. -/
def compact : Json → String
  | .null => "null"
  | .bool b => if b then "true" else "false"
  | .int n => toString n
  | .float x => floatText x
  | .string s => stringText s
  | .array items => "[" ++ ",".intercalate (compactItems items) ++ "]"
  | .object members => "\x7b" ++ ",".intercalate (compactMembers members) ++ "\x7d"

def compactItems : List Json → List String
  | [] => []
  | j :: js => j.compact :: compactItems js

def compactMembers : List (String × Json) → List String
  | [] => []
  | (name, j) :: ms => (stringText name ++ ":" ++ j.compact) :: compactMembers ms

end

/-! ## 3. On many lines -/

def indent (level : Nat) : String := String.ofList (List.replicate (2 * level) ' ')

/-- Parts between brackets, a line for each; brackets that hold nothing stay together. -/
def block (opening closing : String) (level : Nat) (parts : List String) : String :=
  if parts.isEmpty then opening ++ closing
  else
    let lines := parts.map (indent (level + 1) ++ ·)
    opening ++ "\n" ++ ",\n".intercalate lines ++ "\n" ++ indent level ++ closing

mutual

/-- A value whose first line is already indented for its level. -/
def prettyAt (level : Nat) : Json → String
  | .null => "null"
  | .bool b => if b then "true" else "false"
  | .int n => toString n
  | .float x => floatText x
  | .string s => stringText s
  | .array items => block "[" "]" level (prettyItems (level + 1) items)
  | .object members => block "\x7b" "\x7d" level (prettyMembers (level + 1) members)

def prettyItems (level : Nat) : List Json → List String
  | [] => []
  | j :: js => j.prettyAt level :: prettyItems level js

def prettyMembers (level : Nat) : List (String × Json) → List String
  | [] => []
  | (name, j) :: ms => (stringText name ++ ": " ++ j.prettyAt level) :: prettyMembers level ms

end

/-- A value with a line for every item and member. -/
def pretty (j : Json) : String := j.prettyAt 0

end SearchQuery.Json
