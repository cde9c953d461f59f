import PanelDock.Allocator
import PanelDock.Chrome
import PanelDock.Panel.Codec
/-!
# The live state in JSON

What a host watches while panels float: which overlays are stacked where, the gesture in progress
with the listeners it holds, and the geometry that a pointer has given a panel. None of this is kept
in the state file, so it is only written, never read.
-/

namespace PanelDock

variable {α : Type}

/-- An overlay as the allocator knows it. -/
def Registration.encode (r : Registration) : Json :=
  .object [
    ("handle", .ofNat r.handle.number),
    ("layer", .string r.layer.name),
    ("priority", .ofNat r.priority),
    ("z_index", .ofInt r.zIndex),
    ("registered_at", Instant.codec.encode r.registeredAt),
    ("promotion_count", .ofNat r.promotions),
    ("prior_z_index", .ofOption .ofInt r.nativeZIndex),
    ("isolated", .bool r.isolated),
    ("label", .ofOption .string r.label)]

/-- The greatest value handed out in each layer, by the name of the layer. -/
def Allocator.encodeCounters (a : Allocator) : Json :=
  .object (Layer.all.map (fun layer => (layer.name, .ofInt (a.counter layer))))

/-- The members of a gesture: where its panel or its size started, and where it is now. -/
def Gesture.members (number : Json.Codec α) : Gesture α → List (String × Json)
  | .drag start last =>
    [("start_position", (Point.codec number).encode start),
     ("last_position", (Point.codec number).encode last)]
  | .resize start last =>
    [("start_size", (Size.codec number).encode start),
      ("last_size", (Size.codec number).encode last)]

/-- A gesture in progress. -/
def Session.encode (number : Json.Codec α) (s : Session α) : Json :=
  .object ([
    ("kind", .string s.grip.name),
    ("id", .string s.name),
    ("panel", PanelId.codec.encode s.panel),
    ("pointer_id", .ofNat s.pointer),
    ("origin", (Point.codec number).encode s.origin)] ++ s.gesture.members number)

/-- The listeners for moves and releases. -/
def Listeners.encode (l : Listeners) : Json :=
  .object [
    ("installed", .bool l.installed),
    ("attach_count", .ofNat l.attachCount),
    ("detach_count", .ofNat l.detachCount)]

/-- What a sample of the pointer has done to a panel. -/
def GeometryUpdate.encode (number : Json.Codec α) : GeometryUpdate α → Json
  | .moved panel position =>
    .object [("kind", .string "moved"), ("panel", PanelId.codec.encode panel),
      ("position", (Point.codec number).encode position)]
  | .resized panel size =>
    .object [("kind", .string "resized"), ("panel", PanelId.codec.encode panel),
      ("size", (Size.codec number).encode size)]

/-- The region of a window under a point. -/
def Hit.encode : Hit → Json
  | .titleBar => .string "title_bar"
  | .dockButton => .string "dock_button"
  | .closeButton => .string "close_button"
  | .resizeHandle => .string "resize_handle"
  | .content => .string "content"

end PanelDock
