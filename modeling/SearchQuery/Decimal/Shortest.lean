/-!
# The shortest decimal that reads back

A floating-point number is written with the fewest digits that read back as the same number. This
file finds them, in exact arithmetic on natural numbers:

* `Magnitude` is a positive binary number `m · 2^q`; the reals that round to it form an interval,
  half a step wide on each side (`Magnitude.readsBack`);
* the fewest digits are a multiple of the greatest power of ten that has a multiple in that
  interval, since a decimal loses a digit exactly when it moves to a coarser power of ten
  (`shortest`);
* where several multiples of that power lie in the interval, the nearest of them is one of the two
  neighbours of the number (`onGrid`), and of two equally near ones a `Tie` rule picks.
-/

namespace SearchQuery.Decimal

/-! ## 1. Binary numbers -/

/-- The positive number `significand · 2^exponent`. -/
structure Magnitude where
  significand : Nat
  exponent : Int
  /-- The next number below is only half as far away as the next one above: the number is a power
      of two, and not among the least ones. -/
  narrowBelow : Bool
deriving DecidableEq, Repr

/-- What the bits of a binary64 number say. -/
inductive Reading where
  | nan
  | infinite (negative : Bool)
  | zero (negative : Bool)
  | finite (negative : Bool) (magnitude : Magnitude)
deriving DecidableEq, Repr

/-- The three parts of the bits, read: 1 bit of sign, 11 of exponent, 52 of fraction. -/
def Reading.ofBits (bits : Nat) : Reading :=
  let fraction := bits % Nat.pow 2 52
  let exponent := bits / Nat.pow 2 52 % Nat.pow 2 11
  let negative := bits / Nat.pow 2 63 == 1
  if exponent = 2047 then
    if fraction = 0 then .infinite negative else .nan
  else if exponent = 0 then
    if fraction = 0 then .zero negative else .finite negative ⟨fraction, -1074, false⟩
  else
    .finite negative ⟨Nat.pow 2 52 + fraction, exponent - 1075, fraction = 0 && exponent > 1⟩

def Reading.ofFloat (x : Float) : Reading := .ofBits x.toBits.toNat

/-! ## 2. Decimals near a binary number -/

/-- The decimal `digits · 10^exponent`. -/
structure Digits where
  digits : Nat
  exponent : Int
deriving DecidableEq, Repr

/-- `b ^ e` for an exponent that is not negative, and 1 for the others. -/
def powOrOne (b : Nat) (e : Int) : Nat := b.pow e.toNat

/-- The weight of a quarter of the last binary place, on a scale on which a step of the grid
    `10^t` weighs `Magnitude.step`. Both are whole: each takes the other's denominator. -/
def Magnitude.quarter (m : Magnitude) (t : Int) : Nat :=
  powOrOne 2 (m.exponent - 2) * powOrOne 10 (-t)

/-- The weight of a step of the grid `10^t`, on the scale of `Magnitude.quarter`. -/
def Magnitude.step (m : Magnitude) (t : Int) : Nat :=
  powOrOne 10 t * powOrOne 2 (2 - m.exponent)

/-- Whether a weight rounds to the number: it lies less than half a binary step away, or exactly
    half a step if the significand is even. -/
def Magnitude.readsBack (m : Magnitude) (t : Int) (w : Nat) : Bool :=
  let low := (4 * m.significand - (if m.narrowBelow then 1 else 2)) * m.quarter t
  let high := (4 * m.significand + 2) * m.quarter t
  if m.significand % 2 = 0 then low ≤ w && w ≤ high else low < w && w < high

/-- What is done with two decimals that are equally near. -/
inductive Tie where
  | even
  | up
deriving DecidableEq, Repr

/-- Of the neighbours `d` and `d + 1` of a number on a grid, whether the upper one is taken: it is
    the nearer, or it is as near and the rule says so. -/
def Tie.takesUpper (tie : Tie) (d below above : Nat) : Bool :=
  above < below || (above = below && (tie = .up || d % 2 = 1))

/-- The decimal on the grid `10^t` that reads back, the nearest if there are several. -/
def onGrid (tie : Tie) (m : Magnitude) (t : Int) : Option Digits :=
  let value := 4 * m.significand * m.quarter t
  let d := value / m.step t
  let lower := d * m.step t
  let upper := (d + 1) * m.step t
  match m.readsBack t lower, m.readsBack t upper with
  | false, false => none
  | true, false => some ⟨d, t⟩
  | false, true => some ⟨d + 1, t⟩
  | true, true =>
    if tie.takesUpper d (value - lower) (upper - value) then some ⟨d + 1, t⟩ else some ⟨d, t⟩

/-- An exponent whose power of ten exceeds the number: two more than the exponent that the number
    of binary places gives, since `0.30103` is a little more than the logarithm of two. -/
def Magnitude.above (m : Magnitude) : Int :=
  (m.significand.log2 + 1 + m.exponent) * 30103 / 100000 + 2

/-- Every digit of the number: a binary number is a decimal too. -/
def Magnitude.exact (m : Magnitude) : Digits :=
  if 0 ≤ m.exponent then ⟨m.significand * powOrOne 2 m.exponent, 0⟩
  else ⟨m.significand * powOrOne 5 (-m.exponent), m.exponent⟩

/-- **The shortest decimal that reads back.** Seventeen digits always do, so that twenty-four
    powers of ten, from one above the number downwards, hold one that serves. -/
def shortest (tie : Tie) (m : Magnitude) : Digits :=
  ((List.range 24).findSome? fun (i : Nat) => onGrid tie m (m.above - i)).getD m.exact

-- One tenth has one digit.
example : shortest .even ⟨2 ^ 52 + 2702159776422298, -56, false⟩ = ⟨1, -1⟩ := by decide +kernel

-- The least number has one digit, the nearest of the five that read back.
example : shortest .even ⟨1, -1074, false⟩ = ⟨5, -324⟩ := by decide +kernel

-- A tie of two sixteen-digit decimals, either way.
example : shortest .even ⟨2 ^ 52 + 2 ^ 49 + 1, -2, false⟩ = ⟨12666373951979522, -1⟩ ∧
    shortest .up ⟨2 ^ 52 + 2 ^ 49 + 1, -2, false⟩ = ⟨12666373951979523, -1⟩ := by decide +kernel

end SearchQuery.Decimal
