import PanelDock.Decimal.Shortest
/-!
# Decimal numerals

A `Numeral` is a number as it is written in a document: sign, digits, exponent. It is kept as
written, because a place for a whole number refuses `1.0` where a place for a float takes it.

`ofFloat` writes a float with the fewest digits that read back. Two readings give a float. `nearest`
is the float closest to the written number. `scaled?` is cheaper and may be off in the last place:
as many leading digits as fit 64 bits are scaled by one power of ten.
-/

namespace PanelDock.Decimal

/-- A number as written. -/
structure Numeral where
  negative : Bool := false
  /-- The digits before the point. -/
  whole : List Nat
  /-- The digits after the point, if there is one. -/
  fraction : Option (List Nat) := none
  /-- The exponent, if there is one. -/
  exponent : Option Int := none
deriving DecidableEq, Repr

/-- The number that a row of digits stands for. -/
def ofDigits (digits : List Nat) : Nat := digits.foldl (fun n d => 10 * n + d) 0

namespace Numeral

/-- The whole number that the numeral stands for, if it is written as one. A zero with a minus sign
is no whole number: only a float can keep that sign. -/
def toInt? (n : Numeral) : Option Int :=
  match n.fraction, n.exponent with
  | none, none =>
    let value := ofDigits n.whole
    if n.negative then if value = 0 then none else some (-value) else some value
  | _, _ => none

/-- The digits of a number, the most significant first. -/
def digitsOf (n : Nat) : List Nat := (Nat.toDigits 10 n).map (fun c => c.toNat - '0'.toNat)

/-- A whole number. -/
def ofInt (n : Int) : Numeral := { negative := n < 0, whole := digitsOf n.natAbs }

/-- A positive decimal. The point is set where it falls while the leading digit stands between 10 ^
-5 and 10 ^ 15, and behind that digit, with an exponent, otherwise. -/
def ofDecimal (negative : Bool) (d : Decimal) : Numeral :=
  let digits := digitsOf d.digits
  let lead := d.exponent + digits.length - 1
  if lead < -5 ∨ 16 ≤ lead then
    { negative, whole := digits.take 1, exponent := some lead,
      fraction := if digits.length = 1 then none else some (digits.drop 1) }
  else if lead < 0 then
    { negative, whole := [0], fraction := some (List.replicate ((-lead).toNat - 1) 0 ++ digits) }
  else if lead + 1 < digits.length then
    { negative, whole := digits.take (lead + 1).toNat,
      fraction := some (digits.drop (lead + 1).toNat) }
  else
    { negative, whole := digits ++ List.replicate ((lead + 1).toNat - digits.length) 0,
      fraction := some [0] }

/-- A finite float. It is always written with a point or an exponent, so that it shows as a float.
-/
def ofFloat (x : Float) : Numeral :=
  let negative := x.toBits >>> 63 == 1
  if x.toBits <<< 1 = 0 then { negative, whole := [0], fraction := some [0] }
  else ofDecimal negative (Binary.ofBits x.toBits).shortest

/-- A finite float without an exponent, always with a point. -/
def ofFloatPlain (x : Float) : Numeral :=
  let negative := x.toBits >>> 63 == 1
  if x.toBits <<< 1 = 0 then { negative, whole := [0], fraction := some [0] }
  else
    let d := (Binary.ofBits x.toBits).shortest
    let digits := digitsOf d.digits
    let places := (-d.exponent).toNat
    if places = 0 then
      { negative, whole := digits ++ List.replicate d.exponent.toNat 0, fraction := some [0] }
    else if digits.length ≤ places then
      { negative, whole := [0],
        fraction := some (List.replicate (places - digits.length) 0 ++ digits) }
    else
      { negative, whole := digits.take (digits.length - places),
        fraction := some (digits.drop (digits.length - places)) }

/-- The float nearest to `digits` · 10 ^ `exponent`. Beyond the range of floats it is infinite or
zero. -/
def nearestMagnitude (digits : Nat) (exponent : Int) : Float :=
  let length : Int := (Nat.toDigits 10 digits).length
  if digits = 0 ∨ length + exponent < -330 then 0
  else if 310 < length + exponent then 1.0 / 0.0
  else Float.ofScientific digits (exponent < 0) exponent.natAbs

/-- The float nearest to the written number. -/
def nearest (n : Numeral) : Float :=
  let fraction := n.fraction.getD []
  let magnitude :=
    nearestMagnitude (ofDigits (n.whole ++ fraction)) (n.exponent.getD 0 - fraction.length)
  if n.negative then -magnitude else magnitude

/-- Takes digits into a significand of 64 bits, up to the first that does not fit. Gives the
significand and the digits left out. -/
def takeSignificand (significand : Nat) : List Nat → Nat × List Nat
  | [] => (significand, [])
  | d :: rest =>
    if 10 * significand + d < Nat.pow 2 64 then takeSignificand (10 * significand + d) rest
    else (significand, d :: rest)

/-- Scales a float by a power of ten, down in steps that stay in range. Nothing when it leaves the
range of floats at the top. -/
def scale? (x : Float) (exponent : Int) : Option Float :=
  if 308 < exponent then if x == 0 then some x else none
  else if 0 ≤ exponent then
    let y := x * Float.ofScientific 1 false exponent.toNat
    if y.isFinite then some y else none
  else if -308 ≤ exponent then some (x / Float.ofScientific 1 false (-exponent).toNat)
  else if x == 0 then some x
  else scale? (x / 1e308) (exponent + 308)
termination_by (-exponent).toNat

/-- The float of the leading digits scaled by one power of ten, or nothing if it is out of range. -/
def scaled? (n : Numeral) : Option Float := do
  let (wholePart, dropped) := takeSignificand 0 n.whole
  let fraction := n.fraction.getD []
  let (significand, rest) := takeSignificand wholePart fraction
  let exponent := n.exponent.getD 0 + dropped.length - (fraction.length - rest.length : Nat)
  let magnitude ← scale? (Float.ofScientific significand false 0) exponent
  return if n.negative then -magnitude else magnitude

end Numeral

end PanelDock.Decimal
