import SearchQuery.Text.CharClass

/-!
# Quoted text

How a text is shown to a person: between double quotes, with everything that would not show, or
would end the text early, written as an escape. Debug forms use it for names and texts, and the
errors of reading JSON for the text that was found.

* the quote, the backslash and the four common controls have a short escape;
* any other combining or unprintable character is written by its number, `\u` and the
  hexadecimal digits in braces, lower case and without leading zeros;
* every other character stands for itself, the single quote included.

JSON escapes characters by number too, so that its digits are here (`Text.hex`, `Text.hexDigit?`).
-/

namespace SearchQuery.Text

/-! ## 1. Hexadecimal digits -/

/-- The hexadecimal digits of a number, lower case, without leading zeros. -/
def hex (n : Nat) : String := String.ofList (Nat.toDigits 16 n)

/-- The value of a hexadecimal digit, of either case. -/
def hexDigit? (c : Char) : Option Nat :=
  if '0' ≤ c && c ≤ '9' then some (c.toNat - '0'.toNat)
  else if 'a' ≤ c && c ≤ 'f' then some (c.toNat - 'a'.toNat + 10)
  else if 'A' ≤ c && c ≤ 'F' then some (c.toNat - 'A'.toNat + 10)
  else none

/-! ## 2. Quoting -/

/-- The short escape of a character, if it has one. -/
def shortEscape : Char → Option String
  | '"' => some "\\\""
  | '\\' => some "\\\\"
  | '\n' => some "\\n"
  | '\r' => some "\\r"
  | '\t' => some "\\t"
  | '\x00' => some "\\0"
  | _ => none

/-- One character as it stands inside quoted text. -/
def quoteChar (c : Char) : String :=
  match shortEscape c with
  | some e => e
  | none =>
    if isCombining c || isUnprintable c then "\\u\x7b" ++ hex c.toNat ++ "\x7d"
    else c.toString

/-- A text between double quotes, with its escapes. -/
def quoted (s : String) : String :=
  "\"" ++ String.join (s.toList.map quoteChar) ++ "\""

-- The quote, a control and a combining accent are escaped; a letter with an accent is not.
example : quoted "é\"\t\x01\u0301" = "\"é\\\"\\t\\u\x7b1\x7d\\u\x7b301\x7d\"" := by
  decide +kernel

end SearchQuery.Text
