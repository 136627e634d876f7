/-!
# Decimal literals

Reading a number: an optional sign, digits with an optional point, an optional exponent. The same
three parts serve two grammars, a strict one for the numbers of JSON (`Literal.isJsonNumber`) and a
lenient one for numbers given as text (`float?`), which also knows `NaN`, `inf` and `infinity` in
any case.

In both, a literal is read correctly rounded, ties to even: too large a number gives infinity, too
small a one zero.
-/

namespace SearchQuery.Decimal

/-! ## 1. The parts of a literal -/

/-- The parts of a literal, as they are written. -/
structure Literal where
  sign : Option Char
  whole : List Char
  /-- The digits after the point, if there is a point. -/
  fraction : Option (List Char)
  /-- The sign and the digits of the exponent, if there is an exponent. -/
  exponent : Option (Option Char × List Char)
deriving DecidableEq, Repr

def splitSign : List Char → Option Char × List Char
  | '+' :: cs => (some '+', cs)
  | '-' :: cs => (some '-', cs)
  | cs => (none, cs)

def splitDigits (cs : List Char) : List Char × List Char :=
  (cs.takeWhile Char.isDigit, cs.dropWhile Char.isDigit)

/-- The point, the digits after it, and what follows them. -/
def splitFraction : List Char → Option (List Char) × List Char
  | '.' :: cs => let (ds, rest) := splitDigits cs; (some ds, rest)
  | cs => (none, cs)

/-- The exponent, which has a digit and ends the literal; `none` if something else is there. -/
def exponent? : List Char → Option (Option (Option Char × List Char))
  | [] => some none
  | c :: cs =>
    let (sign, rest) := splitSign cs
    let (ds, rest) := splitDigits rest
    if (c = 'e' || c = 'E') && !ds.isEmpty && rest.isEmpty then some (some (sign, ds)) else none

/-- The parts of a literal; `none` if the text is not one. There is a digit before or after the
    point. -/
def Literal.read? (cs : List Char) : Option Literal := do
  let (sign, rest) := splitSign cs
  let (whole, rest) := splitDigits rest
  let (fraction, rest) := splitFraction rest
  let exponent ← exponent? rest
  if whole.isEmpty && (fraction.getD []).isEmpty then none
  else some ⟨sign, whole, fraction, exponent⟩

namespace Literal

/-- The number of JSON: no plus, digits on both sides of a point, no needless zero in front. -/
def isJsonNumber (l : Literal) : Bool :=
  l.sign != some '+' && !l.whole.isEmpty && (l.whole.head? != some '0' || l.whole.length == 1)
    && l.fraction != some []

/-- Whether neither a point nor an exponent is written. -/
def isInteger (l : Literal) : Bool := l.fraction.isNone && l.exponent.isNone

def isNegative (l : Literal) : Bool := l.sign == some '-'

/-! ## 2. The number of a literal -/

/-- The number that digits write. -/
def digitsValue (ds : List Char) : Nat :=
  ds.foldl (fun n c => 10 * n + (c.toNat - '0'.toNat)) 0

/-- The integer before the point, with its sign. -/
def integer (l : Literal) : Int :=
  if l.isNegative then -(digitsValue l.whole : Int) else digitsValue l.whole

/-- The digits of the literal as one number, the point left out. -/
def significand (l : Literal) : Nat := digitsValue (l.whole ++ l.fraction.getD [])

/-- The exponent that is written, zero if there is none. -/
def exponentValue (l : Literal) : Int :=
  match l.exponent with
  | none => 0
  | some (sign, ds) => if sign = some '-' then -(digitsValue ds : Int) else digitsValue ds

/-- The power of ten that the significand is multiplied with. -/
def scale (l : Literal) : Int := l.exponentValue - (l.fraction.getD []).length

/-- An exponent beyond which a significand of the given number of digits has overflowed or
    vanished in every format, taken in place of a greater one: the powers stay small, and the
    number read is the same. -/
def clampScale (digits : Nat) (e : Int) : Int :=
  let bound : Int := 400 + digits
  if e < -bound then -bound else if bound < e then bound else e

/-- The number of a literal in a format: `ofDecimal m small e` is `m · 10^(±e)`, rounded, with a
    minus for `small`. -/
def round {α : Type} (l : Literal) (ofDecimal : Nat → Bool → Nat → α) (negate : α → α) : α :=
  let e := clampScale (l.whole.length + (l.fraction.getD []).length) l.scale
  let x := ofDecimal l.significand (e < 0) e.natAbs
  if l.isNegative then negate x else x

def toFloat (l : Literal) : Float := l.round Float.ofScientific (- ·)

/-- The number of a literal in single precision, widened: what was lost in the narrower format
    stays lost. -/
def toFloatSingle (l : Literal) : Float := (l.round Float32.ofScientific (- ·)).toFloat

end Literal

/-! ## 3. Numbers given as text -/

/-- The numbers that have a name, in any case. -/
def named? (cs : List Char) : Option Float :=
  let (sign, rest) := splitSign cs
  let x : Option Float :=
    match String.ofList (rest.map Char.toLower) with
    | "nan" => some (0.0 / 0.0)
    | "inf" | "infinity" => some (1.0 / 0.0)
    | _ => none
  if sign = some '-' then x.map (- ·) else x

/-- The number that a text gives, in double precision. -/
def float? (s : String) : Option Float :=
  (named? s.toList).or ((Literal.read? s.toList).map Literal.toFloat)

/-- The number that a text gives, in single precision. -/
def floatSingle? (s : String) : Option Float :=
  (named? s.toList).or ((Literal.read? s.toList).map Literal.toFloatSingle)

end SearchQuery.Decimal
