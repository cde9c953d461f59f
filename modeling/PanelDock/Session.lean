import PanelDock.Panel.Basic
/-!
# Pointer gestures

A session is one gesture of a pointer on a floating panel: it drags the panel or resizes it. It
remembers where the pointer and the panel were when it began, so that the geometry of every later
sample is measured from there.
-/

namespace PanelDock

/-- A sample of a pointer in viewport coordinates. -/
structure Pointer (α : Type) where
  position : Point α
  /-- Which pointer it is. -/
  number : Nat
deriving Repr

/-- What a gesture does to its panel. -/
inductive Grip where
  | drag
  | resize
deriving DecidableEq, Repr

namespace Grip

/-- The name of a grip. -/
def name : Grip → String
  | drag => "drag"
  | resize => "resize"

instance : ToString Grip := ⟨name⟩

end Grip

/-- The geometry of a gesture: where it started and where it is now. -/
inductive Gesture (α : Type) where
  | drag (start last : Point α)
  | resize (start last : Size α)
deriving DecidableEq, Repr

/-- A gesture in progress. -/
structure Session (α : Type) where
  name : String
  panel : PanelId
  /-- The pointer that makes the gesture. -/
  pointer : Nat
  /-- Where the pointer was when the gesture began. -/
  origin : Point α
  gesture : Gesture α
deriving DecidableEq, Repr

/-- The geometry that a sample of the pointer gives a panel. -/
inductive GeometryUpdate (α : Type) where
  | moved (panel : PanelId) (position : Point α)
  | resized (panel : PanelId) (size : Size α)
deriving DecidableEq, Repr

namespace Gesture

variable {α : Type}

/-- What the gesture does. -/
def grip : Gesture α → Grip
  | drag _ _ => .drag
  | resize _ _ => .resize

/-- The gesture after the pointer has moved by `dx` and `dy` since it began. -/
def moved [Coordinate α] (minSize : Size α) (dx dy : α) : Gesture α → Gesture α
  | drag start _ => drag start (start.offset dx dy)
  | resize start _ =>
    resize start (Size.atLeast { width := start.width + dx, height := start.height + dy } minSize)

/-- The geometry that the gesture has reached. -/
def update (panel : PanelId) : Gesture α → GeometryUpdate α
  | drag _ last => .moved panel last
  | resize _ last => .resized panel last

end Gesture

namespace GeometryUpdate

variable {α : Type}

/-- The panel that is moved or resized. -/
def panel : GeometryUpdate α → PanelId
  | moved id _ => id
  | resized id _ => id

/-- The change to the record of the panel. -/
def patch : GeometryUpdate α → Panel.Patch α
  | moved _ position => { position := some (some position) }
  | resized _ size => { size := some (some size) }

end GeometryUpdate

namespace Session

/-- Eight digits in base sixteen. -/
def tokenText (token : UInt32) : List Char :=
  let digits := Nat.toDigits 16 token.toNat
  List.replicate (8 - digits.length) '0' ++ digits

/-- The name of a session: its grip and eight digits that tell it from others. -/
def nameOf (grip : Grip) (token : UInt32) : String :=
  String.ofList (grip.name.toList ++ '-' :: tokenText token)

/-- What the session does to its panel. -/
def grip {α : Type} (s : Session α) : Grip := s.gesture.grip

end Session

/-- Whether the listeners for moves and releases are installed, and how often they were attached and
detached. That is counted without end, where the program has words of 32 bits; what becomes of a
count that leaves its word is left out. -/
structure Listeners where
  installed : Bool := false
  attachCount : Nat := 0
  detachCount : Nat := 0
deriving DecidableEq, Repr

namespace Listeners

/-- Installs the listeners if they are not. -/
def attach (l : Listeners) : Listeners :=
  if l.installed then l else { l with installed := true, attachCount := l.attachCount + 1 }

/-- Takes the listeners off if they are installed. -/
def detach (l : Listeners) : Listeners :=
  if l.installed then { l with installed := false, detachCount := l.detachCount + 1 } else l

end Listeners

end PanelDock
