import SearchQuery.Json.Printer

/-!
# Reading typed values from JSON

Settings and options arrive as JSON. This file fixes what is said when a JSON value is not of the
form that was asked for (`ReadError`), and reads two that are asked for often:

* a name out of a fixed list (`readName`), which may be written as a text or as an object with the
  name as its one key and no content;
* a value of a type that shows no tag (`readForms`): **the forms of the type are tried in order, and
  the first that can be read is taken**.
-/

namespace SearchQuery

/-! ## 1. What was found, what was expected -/

namespace Json

/-- What an error says of a value that was found: scalars are shown, containers only named. -/
inductive Found where
  | int (n : Int)
  | float (x : Float)
  | bool (b : Bool)
  | string (s : String)
  | null
  | sequence
  | map
deriving DecidableEq, Repr

def found : Json → Found
  | .null => .null
  | .bool b => .bool b
  | .int n => .int n
  | .float x => .float x
  | .string s => .string s
  | .array _ => .sequence
  | .object _ => .map

def Found.text : Found → String
  | .int n => "integer `" ++ toString n ++ "`"
  | .float x => "floating point `" ++ Decimal.Layout.json.text x ++ "`"
  | .bool b => "boolean `" ++ (if b then "true" else "false") ++ "`"
  | .string s => "string " ++ Text.quoted s
  | .null => "null"
  | .sequence => "sequence"
  | .map => "map"

/-- What a reader asks for. -/
inductive Expected where
  /-- A name, in either of its forms. -/
  | name
  /-- An object with one key. -/
  | singleKey
  | unit
  | settings
  /-- A size, an integer of 64 bits without a sign. -/
  | size
  | boolean
  /-- An array with fewer items. -/
  | fewerItems
deriving DecidableEq, Repr

def Expected.text : Expected → String
  | .name => "string or map"
  | .singleKey => "map with a single key"
  | .unit => "unit"
  | .settings => "struct GeneratorConfig"
  | .size => "usize"
  | .boolean => "a boolean"
  | .fewerItems => "fewer elements in array"

end Json

/-! ## 2. Errors -/

/-- Why a JSON value could not be read as what was asked for. -/
inductive ReadError where
  /-- The name is none of the list. -/
  | unknownName (name : String) (names : List String)
  /-- The value is of another form. -/
  | wrongType (found : Json.Found) (expected : Json.Expected)
  /-- The form is right and the value is not. -/
  | wrongValue (found : Json.Found) (expected : Json.Expected)
  | wrongLength (length : Nat) (expected : Json.Expected)
  /-- The value has none of the forms that the named type allows. -/
  | noForm (type : String)
deriving DecidableEq, Repr

def oneOf (names : List String) : String :=
  match names.map (fun n => "`" ++ n ++ "`") with
  | [] => "there are no variants"
  | [a] => "expected " ++ a
  | [a, b] => "expected " ++ a ++ " or " ++ b
  | all => "expected one of " ++ ", ".intercalate all

def ReadError.message : ReadError → String
  | .unknownName name names => "unknown variant `" ++ name ++ "`, " ++ oneOf names
  | .wrongType found expected =>
    "invalid type: " ++ found.text ++ ", expected " ++ expected.text
  | .wrongValue found expected =>
    "invalid value: " ++ found.text ++ ", expected " ++ expected.text
  | .wrongLength length expected =>
    "invalid length " ++ toString length ++ ", expected " ++ expected.text
  | .noForm type => "data did not match any variant of untagged enum " ++ type

/-! ## 3. Names -/

/-- What a name stands for in the list; a name that is not in it is refused. -/
def lookupName {α : Type} (named : List (String × α)) (name : String) : Except ReadError α :=
  match named.lookup name with
  | some a => .ok a
  | none => .error (.unknownName name (named.map (·.1)))

/-- What a name of the list stands for, the name being a text or the one key of an object without
    content. The key is looked at before the content. -/
def readName {α : Type} (named : List (String × α)) : Json → Except ReadError α
  | .string s => lookupName named s
  | .object [(key, content)] => do
    let a ← lookupName named key
    match content with
    | .null => .ok a
    | other => .error (.wrongType other.found .unit)
  | .object _ => .error (.wrongValue .map .singleKey)
  | other => .error (.wrongType other.found .name)

theorem lookup_named {α : Type} {name : α → String} (inj : ∀ a b, name a = name b → a = b) {a : α} :
    ∀ {all : List α}, a ∈ all → (all.map fun b => (name b, b)).lookup (name a) = some a
  | b :: rest, h => by
      by_cases hb : name a = name b
      · have := inj _ _ hb
        subst this
        simp
      · have hb' : (name a == name b) = false := by simpa using hb
        have hr : a ∈ rest := (List.mem_cons.1 h).resolve_left fun e => hb (e ▸ rfl)
        simpa only [List.map_cons, List.lookup_cons, hb'] using lookup_named inj hr

/-- **A name is read as what it stands for**, if different things have different names. -/
theorem readName_name {α : Type} {name : α → String} (inj : ∀ a b, name a = name b → a = b)
    {all : List α} {a : α} (h : a ∈ all) :
    readName (all.map fun b => (name b, b)) (.string (name a)) = .ok a := by
  simp only [readName, lookupName, lookup_named inj h]

/-! ## 4. Forms in order -/

/-- The integer that a JSON value is, if it is one of 64 bits with a sign. -/
def Json.int64? : Json → Option Int64
  | .int n =>
    if Int64.minValue.toInt ≤ n ∧ n ≤ Int64.maxValue.toInt then some (.ofInt n) else none
  | _ => none

def Json.text? : Json → Option String
  | .string s => some s
  | _ => none

theorem Json.int64?_eq_some_iff {j : Json} {n : Int64} : j.int64? = some n ↔ j = .int n.toInt := by
  constructor
  · intro h
    cases j with
    | int i =>
        by_cases hi : Int64.minValue.toInt ≤ i ∧ i ≤ Int64.maxValue.toInt
        · obtain ⟨hmin, hmax⟩ := hi
          rw [int64?, if_pos ⟨hmin, hmax⟩] at h
          rw [Int64.toInt_minValue] at hmin
          rw [Int64.toInt_maxValue] at hmax
          cases h
          rw [Int64.toInt_ofInt_of_le hmin (by omega)]
        · rw [int64?, if_neg hi] at h
          cases h
    | _ => cases h
  · rintro rfl
    rw [int64?, if_pos ⟨n.minValue_le_toInt, n.toInt_le⟩, Int64.ofInt_toInt]

/-- The integers of 64 bits with a sign go from `-2^63` to below `2^63`. -/
theorem Json.exists_int64?_iff {j : Json} :
    (∃ n, j.int64? = some n) ↔
      ∃ i : Int, j = .int i ∧ -9223372036854775808 ≤ i ∧ i ≤ 9223372036854775807 := by
  cases j with
  | int i =>
      have hmin : Int64.minValue.toInt = -9223372036854775808 := by decide
      have hmax : Int64.maxValue.toInt = 9223372036854775807 := by decide
      rw [int64?, hmin, hmax]
      by_cases hi : -9223372036854775808 ≤ i ∧ i ≤ 9223372036854775807 <;> simp [hi]
  | _ => simp [int64?]

theorem Json.text?_eq_some_iff {j : Json} {s : String} : j.text? = some s ↔ j = .string s := by
  cases j <;> simp [text?]

/-- A value of a type that shows no tag, read in the first of the forms of the type that it has. -/
def readForms {α : Type} (type : String) (forms : List (Json → Option α)) (j : Json) :
    Except ReadError α :=
  match forms.findSome? (· j) with
  | some a => .ok a
  | none => .error (.noForm type)

section Forms

variable {α : Type} {type : String} {form : Json → Option α} {forms : List (Json → Option α)}
  {j : Json}

/-- A form that can be read is taken, whatever comes after it. -/
theorem readForms_of_some {a : α} (h : form j = some a) :
    readForms type (form :: forms) j = .ok a := by
  simp [readForms, h]

/-- A form that cannot be read leaves the rest to be tried. -/
theorem readForms_of_none (h : form j = none) :
    readForms type (form :: forms) j = readForms type forms j := by
  simp [readForms, h]

end Forms

end SearchQuery
