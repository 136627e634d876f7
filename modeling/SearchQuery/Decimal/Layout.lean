import SearchQuery.Decimal.Shortest

/-!
# How a decimal is laid out

The digits of a number are fixed by `SearchQuery.Decimal.Shortest`; where the point stands and when
an exponent is written is a matter of the output. A `Layout` holds those decisions:

* JSON output writes exponents from -5 to 15 positionally and a plus before a positive exponent;
* debug forms write exponents from -4 to 15 positionally and no plus.

A number written positionally always has a point, with a digit on each side.
-/

namespace SearchQuery.Decimal

/-- The decisions an output makes about its numbers. -/
structure Layout where
  /-- The least exponent that is written positionally. -/
  plainFrom : Int
  /-- The greatest exponent that is written positionally. -/
  plainTo : Int
  plus : Bool
  /-- Which of two equally near decimals is written. -/
  tie : Tie
deriving DecidableEq, Repr

/-- The numbers of JSON output: `0.00001`, `1000000000000000.0`, `1e+16`, `1e-6`. -/
def Layout.json : Layout := ⟨-5, 15, true, .even⟩

/-- The numbers of debug forms: `0.0001`, `1000000000000000.0`, `1e16`, `1e-5`. -/
def Layout.debug : Layout := ⟨-4, 15, false, .up⟩

def zeros (n : Nat) : List Char := List.replicate n '0'

/-- Positional notation of the digits `ds`, the first of which stands for `10^e`. -/
def plain (ds : List Char) (e : Int) : List Char :=
  if e < 0 then '0' :: '.' :: zeros (-e - 1).toNat ++ ds
  else
    let whole := (e + 1).toNat
    if ds.length ≤ whole then ds ++ zeros (whole - ds.length) ++ ['.', '0']
    else ds.take whole ++ '.' :: ds.drop whole

/-- Notation of the digits `ds` with an exponent; a single digit has no point. -/
def Layout.scientific (layout : Layout) (ds : List Char) (e : Int) : List Char :=
  let mark := if layout.plus && 0 < e then ['e', '+'] else ['e']
  let point := if ds.length ≤ 1 then [] else ['.']
  ds.take 1 ++ point ++ ds.drop 1 ++ mark ++ (toString e).toList

def Layout.magnitude (layout : Layout) (m : Magnitude) : List Char :=
  let d := shortest layout.tie m
  let ds := Nat.toDigits 10 d.digits
  let e := d.exponent + ds.length - 1
  if layout.plainFrom ≤ e && e ≤ layout.plainTo then plain ds e else layout.scientific ds e

/-- The text of a number, also of those that are no decimals. -/
def Layout.text (layout : Layout) (x : Float) : String :=
  let signed (negative : Bool) (cs : List Char) :=
    String.ofList (if negative then '-' :: cs else cs)
  match Reading.ofFloat x with
  | .nan => "NaN"
  | .infinite negative => signed negative ['i', 'n', 'f']
  | .zero negative => signed negative ['0', '.', '0']
  | .finite negative m => signed negative (layout.magnitude m)

-- The two layouts differ in where positional notation begins, and in the plus.
example : Layout.json.text 0.00001 = "0.00001" ∧ Layout.debug.text 0.00001 = "1e-5" := by
  decide +kernel

example : Layout.json.text 1e16 = "1e+16" ∧ Layout.debug.text 1e16 = "1e16" := by decide +kernel

end SearchQuery.Decimal
