/-!
# Geometry

Points, sizes and rectangles in viewport coordinates. They are stated over any type of coordinates
that has the few operations needed: the program runs on floats, and what holds only of exact numbers
can be said of a type of exact numbers.
-/

namespace PanelDock

/-- The arithmetic that positions and sizes need. Nothing is assumed of it: on floats, a value need
not even equal itself. -/
class Coordinate (α : Type) extends Add α, Sub α, Mul α, LT α, LE α, BEq α where
  /-- The whole number `n`. -/
  ofNat : Nat → α
  /-- Whether the value is an ordinary number. -/
  isFinite : α → Bool
  decidableLT : DecidableLT α
  decidableLE : DecidableLE α

instance instDecidableLTOfCoordinate {α : Type} [Coordinate α] : DecidableLT α :=
  Coordinate.decidableLT
instance instDecidableLEOfCoordinate {α : Type} [Coordinate α] : DecidableLE α :=
  Coordinate.decidableLE

instance : Coordinate Float where
  ofNat := Float.ofNat
  isFinite := Float.isFinite
  decidableLT := inferInstance
  decidableLE := inferInstance

namespace Coordinate

variable {α : Type} [Coordinate α]

/-- The larger of two values. A value that does not equal itself gives way to the other. -/
def larger (a b : α) : α := if a < b then b else if a == a then a else b

end Coordinate

/-- A point of the viewport. -/
structure Point (α : Type) where
  x : α
  y : α
deriving BEq, DecidableEq, Repr, Inhabited

/-- A width and a height. -/
structure Size (α : Type) where
  width : α
  height : α
deriving BEq, DecidableEq, Repr, Inhabited

/-- A rectangle by its top left corner and its size. -/
structure Rect (α : Type) where
  x : α
  y : α
  width : α
  height : α
deriving BEq, DecidableEq, Repr, Inhabited

variable {α : Type} [Coordinate α]

namespace Point

/-- The point moved by `dx` and `dy`. -/
def offset (p : Point α) (dx dy : α) : Point α := { x := p.x + dx, y := p.y + dy }

/-- Both coordinates are ordinary numbers. -/
def isFinite (p : Point α) : Bool := Coordinate.isFinite p.x && Coordinate.isFinite p.y

/-- How far the point lies from `origin`, along each axis. -/
def deltaFrom (p origin : Point α) : α × α := (p.x - origin.x, p.y - origin.y)

end Point

namespace Size

/-- The size with each side at least as long as that of `floor`. -/
def atLeast (s floor : Size α) : Size α where
  width := Coordinate.larger s.width floor.width
  height := Coordinate.larger s.height floor.height

/-- Both sides are ordinary numbers. -/
def isFinite (s : Size α) : Bool := Coordinate.isFinite s.width && Coordinate.isFinite s.height

end Size

namespace Rect

/-- The rectangle of this size with its top left corner at `origin`. -/
def ofParts (origin : Point α) (size : Size α) : Rect α where
  x := origin.x
  y := origin.y
  width := size.width
  height := size.height

/-- Whether the point lies in the rectangle. The left and top edges belong to it, the others do not.
-/
def contains (r : Rect α) (p : Point α) : Bool :=
  decide (r.x ≤ p.x) && decide (p.x < r.x + r.width) &&
    decide (r.y ≤ p.y) && decide (p.y < r.y + r.height)

end Rect

end PanelDock
