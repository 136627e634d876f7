import SearchQuery.Generation
import SearchQuery.Text.Quoted

/-!
# Debug forms

How queries, values and builders are shown to a person. A debug form names the constructor of
everything it shows; a query in it is shown with its kind, its primary field and the names it holds
values under, and is not followed, so that queries that refer to one another in a circle show fine.

A `Form` is what is shown, apart from how: on one line (`Form.inline`) or with a line for every
part and four blanks for every level (`Form.indented`).

Of itself the library shows its `version`.
-/

namespace SearchQuery

/-! ## 1. Forms -/

/-- What is shown. -/
inductive Form where
  /-- A text that stands for itself. -/
  | atom (text : String)
  | tuple (name : String) (parts : List Form)
  | record (name : String) (parts : List (String × Form))
  | list (items : List Form)
  /-- A map, its keys shown as text. -/
  | map (entries : List (String × Form))
  /-- A form with a word in front. -/
  | labelled (label : String) (f : Form)
deriving Inhabited

namespace Form

mutual

/-- A form on one line. -/
def inline : Form → String
  | .atom text => text
  | .tuple name parts => name ++ "(" ++ ", ".intercalate (inlineAll parts) ++ ")"
  | .record name parts => name ++ " \x7b " ++ ", ".intercalate (inlineNamed parts) ++ " \x7d"
  | .list items => "[" ++ ", ".intercalate (inlineAll items) ++ "]"
  | .map entries => "\x7b" ++ ", ".intercalate (inlineNamed entries) ++ "\x7d"
  | .labelled label f => label ++ " " ++ f.inline

def inlineAll : List Form → List String
  | [] => []
  | f :: fs => f.inline :: inlineAll fs

def inlineNamed : List (String × Form) → List String
  | [] => []
  | (name, f) :: fs => (name ++ ": " ++ f.inline) :: inlineNamed fs

end

def margin (level : Nat) : String := String.ofList (List.replicate (4 * level) ' ')

/-- Parts between brackets, a line with a comma for each; brackets that hold nothing stay
    together. -/
def lines (opening closing : String) (level : Nat) (parts : List String) : String :=
  if parts.isEmpty then opening ++ closing
  else
    let rows := parts.map fun part => margin (level + 1) ++ part ++ ",\n"
    opening ++ "\n" ++ String.join rows ++ margin level ++ closing

mutual

/-- A form whose first line is already indented for its level. -/
def indentedAt (level : Nat) : Form → String
  | .atom text => text
  | .tuple name parts => lines (name ++ "(") ")" level (indentedAll (level + 1) parts)
  | .record name parts => lines (name ++ " \x7b") "\x7d" level (indentedNamed (level + 1) parts)
  | .list items => lines "[" "]" level (indentedAll (level + 1) items)
  | .map entries => lines "\x7b" "\x7d" level (indentedNamed (level + 1) entries)
  | .labelled label f => label ++ " " ++ f.indentedAt level

def indentedAll (level : Nat) : List Form → List String
  | [] => []
  | f :: fs => f.indentedAt level :: indentedAll level fs

def indentedNamed (level : Nat) : List (String × Form) → List String
  | [] => []
  | (name, f) :: fs => (name ++ ": " ++ f.indentedAt level) :: indentedNamed level fs

end

/-- A form with a line for every part. -/
def indented (f : Form) : String := f.indentedAt 0

def text (s : String) : Form := .atom (Text.quoted s)

def bool (b : Bool) : Form := .atom (if b then "true" else "false")

def optional : Option Form → Form
  | none => .atom "None"
  | some f => .tuple "Some" [f]

end Form

/-! ## 2. The forms of JSON -/

namespace Json

mutual

/-- The form of a JSON value. A scalar stays on its line; numbers are laid out as JSON lays them
    out. -/
def form : Json → Form
  | .null => .atom "Null"
  | .bool b => .atom ("Bool(" ++ (if b then "true" else "false") ++ ")")
  | .int n => .atom ("Number(" ++ toString n ++ ")")
  | .float x => .atom ("Number(" ++ Decimal.Layout.json.text x ++ ")")
  | .string s => .atom ("String(" ++ Text.quoted s ++ ")")
  | .array items => .labelled "Array" (.list (formAll items))
  | .object members => .labelled "Object" (.map (formMembers members))

def formAll : List Json → List Form
  | [] => []
  | j :: js => j.form :: formAll js

def formMembers : List (String × Json) → List (String × Form)
  | [] => []
  | (name, j) :: ms => (Text.quoted name, j.form) :: formMembers ms

end

end Json

/-! ## 3. The forms of queries -/

/-- The label of a catalog name: its words, each with a capital, without what joins them. -/
def camelCase (name : String) : String :=
  String.join ((name.splitOn "_").map String.capitalize)

def Kind.form (k : Kind) : Form := .atom (camelCase k.name)

def fieldForm (field : Option String) : Form := .optional (field.map .text)

def Node.form (n : Node) : Form :=
  .record "Query"
    [("kind", n.kind.form), ("field", fieldForm n.field), ("set", .list (n.setFields.map .text))]

namespace Value

mutual

/-- The form of a value, its queries read in a store. -/
def form (s : Store) : Value → Form
  | .bool b => .tuple "Bool" [.bool b]
  | .int n => .tuple "Int" [.atom (toString n.toInt)]
  | .float x => .tuple "Float" [.atom (Decimal.Layout.debug.text x)]
  | .text t => .tuple "Text" [.text t]
  | .json j => .tuple "Json" [j.form]
  | .node id => .tuple "Node" [(s.node id).form]
  | .list items => .tuple "List" [.list (formAll s items)]

def formAll (s : Store) : List Value → List Form
  | [] => []
  | v :: vs => v.form s :: formAll s vs

end

end Value

def Builder.form (s : Store) (b : Builder) : Form :=
  .record "QueryBuilder"
    [("kind", b.kind.form), ("field", fieldForm b.field),
      ("values", .map (b.values.entries.map fun e => (Text.quoted e.1, e.2.form s)))]

/-! ## 4. The version -/

/-- The version that the library reports. -/
def version : String := "0.1.0"

end SearchQuery
