import PanelDock.Coordinator.Basic
import PanelDock.Panel.Codec
/-!
# The report of a run

What a run leaves behind, as a JSON document: how much was restored, carried out and refused, all
panels, and the windows of those that float.
-/

namespace PanelDock

variable {α : Type}

/-- The content of a window: what state it is in, with the content or the message. -/
def Slot.encode : Slot → Json
  | .empty => .object [("state", .string "empty")]
  | .mounted element =>
    .object [("state", .string "mounted"), ("value", .object [
      ("panel", PanelId.codec.encode element.panel), ("body", .string element.body)])]
  | .failed message => .object [("state", .string "error"), ("value", .string message)]

/-- A window with all its parts. -/
def Chrome.encode (number : Json.Codec α) (c : Chrome α) : Json :=
  .object [
    ("handle", .ofNat c.handle.number),
    ("panel", PanelId.codec.encode c.panel),
    ("title", .string c.title),
    ("position", (Point.codec number).encode c.position),
    ("size", (Size.codec number).encode c.size),
    ("z_index", .ofOption .ofInt c.zIndex),
    ("displayed", .bool c.displayed),
    ("controls", .object [("dock_button", .bool c.controls.dockButton),
      ("close_button", .bool c.controls.closeButton),
      ("resize_handle", .bool c.controls.resizeHandle)]),
    ("content", c.slot.encode),
    ("return_placement", Placement.codec.encode c.returnPlacement)]

/-- What a run leaves behind. -/
structure Report (α : Type) where
  /-- The number of panels taken from the saved ones. -/
  restored : Nat
  /-- The number of actions that took effect. -/
  executed : Nat
  /-- The number of actions that did not. -/
  rejected : Nat
  panels : List (Panel α)
  flyouts : List (Chrome α)

namespace Report

/-- The report on a coordinator. -/
def of {β : Type} (c : Coordinator α β) (restored executed rejected : Nat) : Report α where
  restored
  executed
  rejected
  panels := c.store.list {}
  flyouts := c.flyoutPanels.filterMap c.flyouts.get?

/-- The document of a report. -/
def encode (number : Json.Codec α) (r : Report α) : Json :=
  .object [
    ("restored", .ofNat r.restored),
    ("executed", .ofNat r.executed),
    ("rejected", .ofNat r.rejected),
    ("panels", .array (r.panels.map (Panel.codec number).encode)),
    ("flyouts", .array (r.flyouts.map (Chrome.encode number)))]

end Report

end PanelDock
