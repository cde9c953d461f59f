import PanelDock.Layer
import PanelDock.Content
/-!
# The window around a floating panel

Its title bar with two buttons, its resize handle, and the slot that holds the content.
`Chrome.hitAt?` tells which of them lies under a point.
-/

namespace PanelDock

/-- The parts of a window that can be used. -/
structure Controls where
  dockButton : Bool := true
  closeButton : Bool := true
  resizeHandle : Bool
deriving DecidableEq, Repr

/-- What stands in a window. -/
inductive Slot where
  | empty
  | mounted (element : Element)
  /-- The content could not be mounted; the message stands in its place. -/
  | failed (message : String)
deriving DecidableEq, Repr

namespace Slot

/-- Whether content stands in the slot. -/
def isMounted : Slot → Bool
  | mounted _ => true
  | _ => false

end Slot

/-- A region of a window. -/
inductive Hit where
  | titleBar
  | dockButton
  | closeButton
  | resizeHandle
  | content
deriving DecidableEq, Repr

/-- The window around a floating panel. -/
structure Chrome (α : Type) extends Overlay where
  panel : PanelId
  title : String
  position : Point α
  size : Size α
  /-- Not while the window is closed; it and its content are kept to be shown again. -/
  displayed : Bool
  controls : Controls
  slot : Slot
  /-- Where the panel was before it floated, and where docking puts it back. -/
  returnPlacement : Placement
deriving DecidableEq, Repr

namespace Chrome

variable {α : Type} [Coordinate α]

/-- The height of the title bar. -/
def titleBarHeight : α := Coordinate.ofNat 28

/-- The width of a button in the title bar. -/
def buttonWidth : α := Coordinate.ofNat 24

/-- The side of the square that resizes. -/
def handleSide : α := Coordinate.ofNat 16

/-- The rectangle that the window covers. -/
def bounds (c : Chrome α) : Rect α := Rect.ofParts c.position c.size

/-- The region at a place inside the window, given from its top left corner. The handle lies in the
bottom right corner, above the rest; in the title bar the button to close stands outermost and the
button to dock beside it. -/
def region (c : Chrome α) (x y : α) : Hit :=
  if c.controls.resizeHandle ∧ c.size.width - handleSide ≤ x ∧ c.size.height - handleSide ≤ y then
    .resizeHandle
  else if y < titleBarHeight then
    let fromRight := c.size.width - x
    if c.controls.closeButton ∧ fromRight ≤ buttonWidth then .closeButton
    else if c.controls.dockButton ∧ buttonWidth < fromRight ∧
        fromRight ≤ buttonWidth * Coordinate.ofNat 2 then .dockButton
    else .titleBar
  else .content

/-- The region under a point, if the window is shown there. -/
def hitAt? (c : Chrome α) (point : Point α) : Option Hit :=
  if c.displayed && c.bounds.contains point then
    let (x, y) := point.deltaFrom c.position
    some (c.region x y)
  else none

end Chrome

end PanelDock
