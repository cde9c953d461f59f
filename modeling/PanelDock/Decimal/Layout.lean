import PanelDock.Decimal.Shortest
/-!
# Decimal layouts

Where the point goes in the shortest decimal of a float. A `Layout` says which numbers are written
positionally, whether a whole number keeps a zero behind its point, and how an exponent and the
special values look; `Layout.render` writes a float by it.
-/

namespace PanelDock.Decimal

/-- The decisions of a number format. -/
structure Layout where
  /-- The least decimal exponent of the leading digit that is still written positionally. -/
  plainFrom : Int
  /-- From this exponent of the leading digit on, an exponent is written. -/
  plainBelow : Int
  /-- A whole number ends in a point and a zero. -/
  pointZero : Bool
  /-- A positive exponent carries its sign. -/
  exponentPlus : Bool
  /-- The text of a value that is not a number. -/
  nan : String
  /-- The text of infinity, its sign aside. -/
  infinity : String

namespace Layout

/-- The digits of a decimal with the point set positionally; `lead` is the exponent of the first
digit. -/
def positional (layout : Layout) (digits : List Char) (lead : Int) : List Char :=
  let whole := (lead + 1).toNat
  if lead < 0 then '0' :: '.' :: List.replicate ((-lead).toNat - 1) '0' ++ digits
  else if whole < digits.length then digits.take whole ++ '.' :: digits.drop whole
  else digits ++ List.replicate (whole - digits.length) '0' ++
    (if layout.pointZero then ['.', '0'] else [])

/-- The digits of a decimal with one digit before the point and an exponent. -/
def scientific (layout : Layout) (digits : List Char) (lead : Int) : List Char :=
  let mantissa := match digits with
    | [] => []
    | [d] => [d]
    | d :: rest => d :: '.' :: rest
  let sign := if lead < 0 then ['-'] else if layout.exponentPlus then ['+'] else []
  mantissa ++ 'e' :: sign ++ Nat.toDigits 10 lead.natAbs

/-- A positive decimal. -/
def renderDecimal (layout : Layout) (d : Decimal) : List Char :=
  let digits := Nat.toDigits 10 d.digits
  let lead := d.exponent + digits.length - 1
  if layout.plainFrom ≤ lead ∧ lead < layout.plainBelow then layout.positional digits lead
  else layout.scientific digits lead

/-- A finite float without its sign. -/
def renderMagnitude (layout : Layout) (bits : UInt64) : List Char :=
  if bits <<< 1 = 0 then if layout.pointZero then ['0', '.', '0'] else ['0']
  else layout.renderDecimal (Binary.ofBits bits).shortest

/-- The text of a float. -/
def render (layout : Layout) (x : Float) : String :=
  if x.isNaN then layout.nan
  else
    let sign := if x.toBits >>> 63 = 1 then ['-'] else []
    if x.isFinite then String.ofList (sign ++ layout.renderMagnitude x.toBits)
    else String.ofList (sign ++ layout.infinity.toList)

end Layout

/-- Numbers in messages are written in full, and a whole number has no point. -/
def plain : Layout where
  plainFrom := -400
  plainBelow := 400
  pointZero := false
  exponentPlus := false
  nan := "NaN"
  infinity := "inf"

/-- Numbers in log lines and inspected values always show that they are floats; an exponent stands
from 10 ^ 16 on and below 10 ^ -4. -/
def inspected : Layout where
  plainFrom := -4
  plainBelow := 16
  pointZero := true
  exponentPlus := false
  nan := "NaN"
  infinity := "inf"

example : inspected.render 300 = "300.0" := by decide +kernel
example : plain.render 0.1 = "0.1" := by decide +kernel
example : inspected.render (-1.5e20) = "-1.5e20" := by decide +kernel

end PanelDock.Decimal
