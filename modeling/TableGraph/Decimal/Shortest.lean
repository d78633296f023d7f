/-
The shortest decimal that reads back as a given binary floating-point number.

Such a number is the product of a natural number and a power of two, and the reals that
are read as this number form an interval around it.  For 1, 2, 3, … digits the two
neighbours of the number on the grid of decimals with so many digits are looked at; the
first grid with a neighbour inside the interval wins, and of two such neighbours the
nearer.  Everything is exact arithmetic on natural numbers.
-/

namespace TableGraph

/-- A positive decimal: `digits` times ten to the power `exponent`. -/
structure Decimal where
  digits : Nat
  exponent : Int
deriving Repr, DecidableEq, Inhabited

namespace Decimal

/-- A positive binary number, in quarters of its last place so that the ends of its
interval are whole: it is `4 * mantissa` of them, and the interval reaches down by `below`
and up by 2. -/
structure Binary where
  mantissa : Nat
  /-- The power of two that one quarter of the last place is worth. -/
  exponent : Int
  /-- Half the distance to the next smaller number, in quarters. -/
  below : Nat
deriving Repr, DecidableEq, Inhabited

/-- Takes a finite positive double apart, given its bits. -/
def Binary.ofBits (bits : Nat) : Binary :=
  let fraction : Nat := bits % Nat.pow 2 52
  let biased : Nat := bits / Nat.pow 2 52 % Nat.pow 2 11
  if biased = 0 then ⟨fraction, -1076, 2⟩
  else ⟨Nat.pow 2 52 + fraction, (biased : Int) - 1077, if fraction = 0 ∧ 1 < biased then 1 else 2⟩

/-- `a` times two to the power `e`, as a fraction. -/
def scale (a : Nat) (e : Int) : Nat × Nat :=
  if 0 ≤ e then (a * Nat.pow 2 e.toNat, 1) else (a, Nat.pow 2 (-e).toNat)

/-- How many decimal places a number has before its point, or minus how many zeros it has
after the point: the `p` with `10 ^ (p - 1) ≤ num / den < 10 ^ p`. -/
def magnitude (num den : Nat) : Int :=
  if den ≤ num then ((Nat.toDigits 10 (num / den)).length : Int)
  else 1 - (((List.range 400).find? fun j => den ≤ num * Nat.pow 10 j).getD 400 : Int)

/-- The decimal `d` times ten to the power `e`, as a fraction. -/
def fraction (x : Decimal) : Nat × Nat :=
  if 0 ≤ x.exponent then (x.digits * Nat.pow 10 x.exponent.toNat, 1)
  else (x.digits, Nat.pow 10 (-x.exponent).toNat)

/-- The decimal is read as this number: it lies between the ends of the interval, which
belong to it when the mantissa is even. -/
def readsAs (x : Decimal) (b : Binary) : Bool :=
  let (num, den) := x.fraction
  let (low, unit) := scale (4 * b.mantissa - b.below) b.exponent
  let (high, _) := scale (4 * b.mantissa + 2) b.exponent
  if b.mantissa % 2 = 0 then low * den ≤ num * unit && num * unit ≤ high * den
  else low * den < num * unit && num * unit < high * den

/-- The decimal with `count` digits that is read as this number, if there is one. -/
def withDigits? (b : Binary) (count : Nat) : Option Decimal :=
  let (num, den) := scale (4 * b.mantissa) b.exponent
  let exponent := magnitude num den - count
  let (gridNum, gridDen) := if 0 ≤ exponent then (num, den * Nat.pow 10 exponent.toNat)
    else (num * Nat.pow 10 (-exponent).toNat, den)
  let lower : Decimal := ⟨gridNum / gridDen, exponent⟩
  let upper : Decimal := ⟨gridNum / gridDen + 1, exponent⟩
  let rest := gridNum % gridDen
  match lower.readsAs b, upper.readsAs b with
  | true, true =>
    if 2 * rest < gridDen || (2 * rest == gridDen && lower.digits % 2 == 0) then some lower
    else some upper
  | true, false => some lower
  | false, true => some upper
  | false, false => none

/-- Moves the zeros at the end of the digits into the exponent, at most `count` of them. -/
def dropZeros : Nat → Decimal → Decimal
  | 0, x => x
  | count + 1, x =>
    if x.digits ≠ 0 ∧ x.digits % 10 = 0 then dropZeros count ⟨x.digits / 10, x.exponent + 1⟩ else x

/-- The shortest decimal that is read as this number; 17 digits always are enough. -/
def shortest (b : Binary) : Decimal :=
  (((List.range' 1 17).findSome? (withDigits? b)).getD ⟨b.mantissa, 0⟩).dropZeros 20

end Decimal

end TableGraph
