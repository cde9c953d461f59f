/-!
# The shortest decimal of a float

A finite double stands for every real that rounds to it. `shortest` picks, among the decimals in
that interval, one with the fewest digits, and among those the one nearest to the value; of two
equally near ones the greater. Everything is computed on natural numbers, from the bits.
-/

namespace PanelDock

/-- The decimal number digits · 10 ^ exponent. -/
structure Decimal where
  digits : Nat
  exponent : Int
deriving DecidableEq, Repr

namespace Decimal

/-- A finite positive double, mantissa · 2 ^ exponent. -/
structure Binary where
  mantissa : Nat
  exponent : Int
  /-- The double below is only half as far away as the double above. -/
  narrowBelow : Bool

/-- The value behind the bits of a finite double, its sign aside. -/
def Binary.ofBits (bits : UInt64) : Binary :=
  let e := ((bits >>> 52) &&& 0x7FF).toNat
  let f := (bits &&& 0xFFFFFFFFFFFFF).toNat
  if e = 0 then { mantissa := f, exponent := -1074, narrowBelow := false }
  else { mantissa := Nat.pow 2 52 + f, exponent := e - 1075, narrowBelow := f == 0 && e > 1 }

/-- Compares a · 10 ^ i with n · 2 ^ j. -/
def compareScaled (a : Nat) (i : Int) (n : Nat) (j : Int) : Ordering :=
  compare (a * Nat.pow 10 i.toNat * Nat.pow 2 (-j).toNat)
    (n * Nat.pow 2 j.toNat * Nat.pow 10 (-i).toNat)

/-- Whether the decimal lies among the reals that round to `x`: between the midpoints to the two
neighbours, and on a midpoint only if the mantissa is even. -/
def Binary.readsBack (x : Binary) (d : Decimal) : Bool :=
  let low := if x.narrowBelow then 4 * x.mantissa - 1 else 4 * x.mantissa - 2
  let high := 4 * x.mantissa + 2
  let closed := x.mantissa % 2 == 0
  let atLow := compareScaled d.digits d.exponent low (x.exponent - 2)
  let atHigh := compareScaled d.digits d.exponent high (x.exponent - 2)
  (atLow == .gt || (closed && atLow == .eq)) && (atHigh == .lt || (closed && atHigh == .eq))

/-- The number of decimal digits before the point, so that 10 ^ (k - 1) ≤ x < 10 ^ k. The binary
logarithm gives it up to two. -/
def Binary.magnitude (x : Binary) : Int :=
  let k := ((x.mantissa.log2 + x.exponent) * 30103).fdiv 100000
  let below (k : Int) : Bool := compareScaled 1 k x.mantissa x.exponent == .gt
  if below k then k else if below (k + 1) then k + 1 else k + 2

/-- The decimal on the grid of multiples of 10 ^ g that reads back to `x` and is nearest to it. The
only candidates are the two grid points around the value. -/
def Binary.onGrid? (x : Binary) (g : Int) : Option Decimal :=
  let num := x.mantissa * Nat.pow 2 x.exponent.toNat * Nat.pow 10 (-g).toNat
  let den := Nat.pow 2 (-x.exponent).toNat * Nat.pow 10 g.toNat
  let low : Decimal := { digits := num / den, exponent := g }
  let high : Decimal := { digits := num / den + 1, exponent := g }
  match x.readsBack low, x.readsBack high with
  | true, true => if 2 * num < (2 * low.digits + 1) * den then some low else some high
  | true, false => some low
  | false, true => some high
  | false, false => none

/-- Moves up to `fuel` trailing zeros of the digits into the exponent. -/
def stripZeros (d : Decimal) : (fuel : Nat) → Decimal
  | 0 => d
  | fuel + 1 =>
    if d.digits % 10 = 0 ∧ d.digits ≠ 0 then
      stripZeros { digits := d.digits / 10, exponent := d.exponent + 1 } fuel
    else d

/-- The shortest decimal of a positive double. Seventeen digits always suffice; the exact value
stands at the end to make the search total. -/
def Binary.shortest (x : Binary) : Decimal :=
  let k := x.magnitude
  match (List.range 17).findSome? (fun (n : Nat) => x.onGrid? (k - n - 1)) with
  | some d => d.stripZeros 20
  | none =>
    { digits := x.mantissa * Nat.pow 2 x.exponent.toNat * Nat.pow 5 (-x.exponent).toNat
      exponent := min x.exponent 0 }

end Decimal

end PanelDock
