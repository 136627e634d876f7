import SearchQuery.Json.Basic
import SearchQuery.Decimal.Literal
import SearchQuery.Text.Quoted

/-!
# The tokens of a JSON text

A JSON text is a sequence of brackets, commas, colons, strings and words, a word being a run of
other characters: `null`, a truth value or a number. The scanner is a machine with one step a
character; what it holds between two characters is its `Scan`.
-/

namespace SearchQuery.Json

inductive Token where
  | openArray
  | closeArray
  | openObject
  | closeObject
  | comma
  | colon
  | string (s : String)
  /-- A word, read: `null`, a truth value or a number. -/
  | scalar (j : Json)

/-! ## 1. Words -/

/-- The number of a literal: an integer if it is written as one and lies in the range of the
    integers, a floating-point number otherwise. A zero with a minus is no integer, since an
    integer would lose the sign. A floating-point number is the nearest there is to the literal,
    whatever its length; a number that overflows is none. -/
def number? (l : Decimal.Literal) : Option Json :=
  if l.isInteger && decide (IntegerRange l.integer) && !(l.isNegative && l.integer == 0) then
    some (.int l.integer)
  else if l.toFloat.isFinite then some (.float l.toFloat)
  else none

def word? (cs : List Char) : Option Json :=
  match String.ofList cs with
  | "null" => some .null
  | "true" => some (.bool true)
  | "false" => some (.bool false)
  | _ => do
    let l ← Decimal.Literal.read? cs
    if l.isJsonNumber then number? l else none

/-! ## 2. The machine -/

/-- What the scanner is in the middle of. Characters read so far are held last first. -/
inductive Mode where
  | between
  | word (cs : List Char)
  | string (cs : List Char)
  /-- After the backslash in a string. -/
  | escape (cs : List Char)
  /-- In the digits of a numbered character: the digits still to come, the number so far, and the
      first half of a pair if this is the second. -/
  | numbered (cs : List Char) (first : Option Nat) (due : Nat) (n : Nat)
  /-- After the first half of a pair: the backslash of the second, then its `u`. -/
  | pairBackslash (cs : List Char) (first : Nat)
  | pairMark (cs : List Char) (first : Nat)

/-- The scanner between two characters: the tokens read, last first, and its mode. -/
structure Scan where
  tokens : List Token
  mode : Mode

def shortEscape? : Char → Option Char
  | '"' => some '"'
  | '\\' => some '\\'
  | '/' => some '/'
  | 'b' => some '\x08'
  | 'f' => some '\x0c'
  | 'n' => some '\n'
  | 'r' => some '\r'
  | 't' => some '\t'
  | _ => none

/-- The mode after all digits of a numbered character: a character of its own, the first half of a
    pair, or the second. A half without the other is refused. -/
def endNumbered (cs : List Char) (first : Option Nat) (n : Nat) : Option Mode :=
  match first with
  | none =>
    if 0xD800 ≤ n && n ≤ 0xDBFF then some (.pairBackslash cs n)
    else if 0xDC00 ≤ n && n ≤ 0xDFFF then none
    else some (.string (Char.ofNat n :: cs))
  | some h =>
    if 0xDC00 ≤ n && n ≤ 0xDFFF then
      some (.string (Char.ofNat (0x10000 + (h - 0xD800) * 0x400 + (n - 0xDC00)) :: cs))
    else none

/-- The token of a character that is one by itself. -/
def mark? : Char → Option Token
  | '[' => some .openArray
  | ']' => some .closeArray
  | '\x7b' => some .openObject
  | '\x7d' => some .closeObject
  | ',' => some .comma
  | ':' => some .colon
  | _ => none

def isBlank (c : Char) : Bool := c = ' ' || c = '\n' || c = '\r' || c = '\t'

/-- One character between two tokens. -/
def stepBetween (tokens : List Token) (c : Char) : Scan :=
  match mark? c with
  | some t => ⟨t :: tokens, .between⟩
  | none =>
    if c = '"' then ⟨tokens, .string []⟩
    else if isBlank c then ⟨tokens, .between⟩
    else ⟨tokens, .word [c]⟩

/-- One character. A word ends at a mark, a quote or a blank, which is then read on its own. -/
def Scan.step (scan : Scan) (c : Char) : Option Scan :=
  let ⟨tokens, mode⟩ := scan
  match mode with
  | .between => some (stepBetween tokens c)
  | .word cs =>
    if (mark? c).isSome || c = '"' || isBlank c then do
      let j ← word? cs.reverse
      some (stepBetween (.scalar j :: tokens) c)
    else some ⟨tokens, .word (c :: cs)⟩
  | .string cs =>
    if c = '"' then some ⟨.string (String.ofList cs.reverse) :: tokens, .between⟩
    else if c = '\\' then some ⟨tokens, .escape cs⟩
    else if c.toNat < 0x20 then none
    else some ⟨tokens, .string (c :: cs)⟩
  | .escape cs =>
    if c = 'u' then some ⟨tokens, .numbered cs none 4 0⟩
    else do
      let e ← shortEscape? c
      some ⟨tokens, .string (e :: cs)⟩
  | .numbered cs first due n => do
    let d ← Text.hexDigit? c
    if due ≤ 1 then
      let mode ← endNumbered cs first (16 * n + d)
      some ⟨tokens, mode⟩
    else some ⟨tokens, .numbered cs first (due - 1) (16 * n + d)⟩
  | .pairBackslash cs first => if c = '\\' then some ⟨tokens, .pairMark cs first⟩ else none
  | .pairMark cs first => if c = 'u' then some ⟨tokens, .numbered cs (some first) 4 0⟩ else none

/-- The tokens once the text has ended; `none` inside a string. -/
def Scan.finish (scan : Scan) : Option (List Token) :=
  match scan.mode with
  | .between => some scan.tokens.reverse
  | .word cs => do
    let j ← word? cs.reverse
    some (.scalar j :: scan.tokens).reverse
  | _ => none

def tokens? (s : String) : Option (List Token) := do
  let scan ← s.toList.foldlM Scan.step ⟨[], .between⟩
  scan.finish

end SearchQuery.Json
