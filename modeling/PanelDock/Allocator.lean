import PanelDock.Catalog
import PanelDock.Notice.Basic
/-!
# Stacking values

The allocator hands out the values by which overlays are stacked. It keeps, for each layer, the
greatest value handed out so far, so that whatever is raised comes to lie above everything before
it, until the layer is full. A registered overlay gets its own value back when it is released.

Handles and raises are counted without end. The program has a word of 64 bits for the handles and
one of 32 bits for the raises of an overlay; what becomes of a count that leaves its word is left
out.
-/

namespace PanelDock

/-- What is known of a registered overlay. -/
structure Registration where
  handle : Handle
  layer : Layer
  /-- How far its value lies above the bottom of the layer. -/
  priority : Nat
  zIndex : Int
  registeredAt : Instant
  /-- How often it was raised. -/
  promotions : Nat
  /-- The value it had before it was registered. -/
  nativeZIndex : Option Int
  /-- It stacks its own parts by itself. -/
  isolated : Bool
  label : Option String
deriving DecidableEq, Repr

/-- What the creator of an overlay says about it. -/
structure RegisterOptions where
  isolated : Bool := false
  label : Option String := none
deriving DecidableEq, Repr

/-- The smallest step by which overlays are raised. -/
def leastFrontGap : Nat := 10

/-- The allocator of stacking values. -/
structure Allocator where
  registrations : Catalog Handle Registration := .empty
  /-- The greatest value handed out in each layer; the bottom of the layer at first. -/
  counter : Layer → Int := Layer.least
  frontGap : Nat := leastFrontGap
  warnOnClamp : Bool := true
  /-- The number of the next handle. -/
  nextHandle : Nat := 1

namespace Allocator

variable {α : Type}

/-- The allocator before anything is registered. -/
def fresh : Allocator := {}

instance : Inhabited Allocator := ⟨fresh⟩

/-- Sets the step by which overlays are raised. A step that is too small is enlarged. -/
def setFrontGap (a : Allocator) (gap : Nat) : Outcome α Allocator Unit :=
  ⟨(), { a with frontGap := max gap leastFrontGap },
    if gap < leastFrontGap then [.notice (.gapRaised gap leastFrontGap)] else []⟩

/-- A handle that was not given before. -/
def newHandle (a : Allocator) : Handle × Allocator :=
  (⟨a.nextHandle⟩, { a with nextHandle := a.nextHandle + 1 })

/-- The registration of an overlay. -/
def registration? (a : Allocator) (handle : Handle) : Option Registration :=
  a.registrations.get? handle

/-- Whether the overlay is registered. -/
def isRegistered (a : Allocator) (handle : Handle) : Bool := a.registrations.contains handle

/-- The value of a registered overlay. -/
def zIndex? (a : Allocator) (handle : Handle) : Option Int :=
  (a.registration? handle).map (·.zIndex)

/-- The number of registered overlays. -/
def size (a : Allocator) : Nat := a.registrations.size

/-- Whether an overlay of the layer is registered. -/
def occupied (a : Allocator) (layer : Layer) : Bool := a.registrations.values.any (·.layer == layer)

/-- The priority that puts a new overlay above all others of the layer. -/
def nextPriority (a : Allocator) (layer : Layer) : Nat :=
  (a.counter layer - layer.least).toNat + (if a.occupied layer then 1 else 0)

/-- The registered overlays of a layer, topmost first. -/
def elements (a : Allocator) (layer : Layer) : List Registration :=
  (a.registrations.values.filter (·.layer == layer)).mergeSort
    (fun r s => ((compare s.zIndex r.zIndex).then (compare r.handle s.handle)).isLE)

/-- The value asked for, or the top of the layer if it lies above. -/
def clamp (layer : Layer) (requested : Int) : Int :=
  if layer.greatest < requested then layer.greatest else requested

/-- The warning that a value was clamped, if it was and warnings are wanted. -/
def clampNotices (a : Allocator) (layer : Layer) (requested : Int) : List (Effect α) :=
  if layer.greatest < requested ∧ a.warnOnClamp then
    [.notice (.clamped (.beyondLayer layer requested))]
  else []

/-- Raises the counter of a layer to a value handed out. -/
def raiseCounter (a : Allocator) (layer : Layer) (z : Int) : Allocator :=
  { a with counter := fun l => if l = layer then max (a.counter l) z else a.counter l }

/-- Registers an overlay in a layer, `priority` above its bottom, and gives it that value. An
overlay that is registered already keeps the value of its own that was noted first. -/
def register (a : Allocator) (now : Instant) (overlay : Overlay) (layer : Layer) (priority : Nat)
    (options : RegisterOptions) : Outcome α (Allocator × Overlay) Int :=
  let requested := layer.least + priority
  let z := clamp layer requested
  let native := match a.registration? overlay.handle with
    | some r => r.nativeZIndex
    | none => overlay.zIndex
  let registration : Registration := {
    handle := overlay.handle
    layer
    priority := (z - layer.least).toNat
    zIndex := z
    registeredAt := now
    promotions := 0
    nativeZIndex := native
    isolated := options.isolated
    label := options.label }
  let raised := a.raiseCounter layer z
  ⟨z, ({ raised with registrations := a.registrations.insert overlay.handle registration },
      { overlay with zIndex := some z }),
    a.clampNotices layer requested ++ [.notice (.overlayRegistered overlay.handle layer z)]⟩

/-- Registers an overlay in the layer of this name, if there is one. -/
def registerNamed (a : Allocator) (now : Instant) (overlay : Overlay) (layer : String)
    (priority : Nat) (options : RegisterOptions) : Outcome α (Allocator × Overlay) (Option Int) :=
  match Layer.ofName? layer with
  | none => ⟨none, (a, overlay), [.notice (.unknownLayer layer overlay.handle)]⟩
  | some l =>
    let o : Outcome α (Allocator × Overlay) Int := a.register now overlay l priority options
    ⟨some o.result, o.state, o.effects⟩

/-- Raises an overlay above everything that was ever assigned in its layer. -/
def bringToFront (a : Allocator) (overlay : Overlay) :
    Outcome α (Allocator × Overlay) (Option Int) :=
  match a.registration? overlay.handle with
  | none => ⟨none, (a, overlay), [.notice (.raiseUnregistered overlay.handle)]⟩
  | some r =>
    let requested := max (a.counter r.layer) r.zIndex + a.frontGap
    let z := clamp r.layer requested
    let registration :=
      { r with zIndex := z, priority := (z - r.layer.least).toNat, promotions := r.promotions + 1 }
    let raised := a.raiseCounter r.layer z
    ⟨some z, ({ raised with registrations := a.registrations.insert overlay.handle registration },
        { overlay with zIndex := some z }),
      a.clampNotices r.layer requested ++
        (if z ≤ r.zIndex then [.notice (.atCeiling overlay.handle r.layer z)] else []) ++
        [.notice (.overlayRaised overlay.handle r.layer r.zIndex z)]⟩

/-- Releases an overlay and gives it back the value of its own. Tells whether it was registered. -/
def unregister (a : Allocator) (overlay : Overlay) : Outcome α (Allocator × Overlay) Bool :=
  match a.registration? overlay.handle with
  | none => ⟨false, (a, overlay), [.notice (.releaseUnregistered overlay.handle)]⟩
  | some r =>
    ⟨true, ({ a with registrations := a.registrations.erase overlay.handle },
        { overlay with zIndex := r.nativeZIndex }),
      [.notice (.overlayReleased overlay.handle r.layer)]⟩

end Allocator

end PanelDock
