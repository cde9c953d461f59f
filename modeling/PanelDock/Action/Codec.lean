import PanelDock.Action.Basic
import PanelDock.Panel.Codec
/-!
# Actions in JSON

An action is an object with its name as the only member, or the bare name if it carries nothing.
-/

namespace PanelDock.Action

open Json (Codec fields? optional? variant? bare?)

variable {α : Type}

/-- The members of a field that is left out when there is nothing to write. -/
def present {τ : Type} (name : String) (encode : τ → Json) : Option τ → List (String × Json)
  | .none => []
  | .some value => [(name, encode value)]

/-- An action with what it carries. -/
def carrying (name : String) (payload : Json) : Json := .object [(name, payload)]

/-- An action on a panel. -/
def encodePanel (name : String) (panel : PanelId) : Json :=
  carrying name (PanelId.codec.encode panel)

/-- The start of a gesture. -/
def encodeGesture (number : Codec α) (name : String) (panel : PanelId) (origin : Point α) : Json :=
  carrying name
    (.object [("panel", PanelId.codec.encode panel), ("at", (Point.codec number).encode origin)])

/-- How an action is written. -/
def encode (number : Codec α) : Action α → Json
  | registerPanel id title owner content =>
    carrying "RegisterPanel" (.object ([("id", PanelId.codec.encode id), ("title", .string title),
      ("dock", .string owner)] ++ present "content" Json.string content))
  | destroyPanel panel => encodePanel "DestroyPanel" panel
  | flyOut panel position size =>
    carrying "FlyOut" (.object ([("panel", PanelId.codec.encode panel)] ++
      present "position" (Point.codec number).encode position ++
      present "size" (Size.codec number).encode size))
  | dock panel => encodePanel "Dock" panel
  | toggleFlyout panel => encodePanel "ToggleFlyout" panel
  | closeFlyout panel => encodePanel "CloseFlyout" panel
  | showFlyout panel => encodePanel "ShowFlyout" panel
  | focusFlyout panel => encodePanel "FocusFlyout" panel
  | hidePanel panel => encodePanel "HidePanel" panel
  | showPanel panel => encodePanel "ShowPanel" panel
  | beginDrag panel origin => encodeGesture number "BeginDrag" panel origin
  | beginResize panel origin => encodeGesture number "BeginResize" panel origin
  | pointerMove position => carrying "PointerMove" ((Point.codec number).encode position)
  | pointerUp position => carrying "PointerUp" ((Point.codec number).encode position)
  | saveAll => .string "SaveAll"
  | none => .string "None"

/-- Reads the introduction of a panel. -/
def decodeRegistration? (j : Json) : Option (Action α) := do
  match ← fields? ["id", "title", "dock", "content"] j with
  | [some id, some title, some owner, content] =>
    return registerPanel (← PanelId.codec.decode? id) (← Json.textCodec.decode? title)
      (← Json.textCodec.decode? owner) (← optional? Json.textCodec.decode? content)
  | _ => .none

/-- Reads the geometry with which a panel is to float. -/
def decodeFlyOut? (number : Codec α) (j : Json) : Option (Action α) := do
  match ← fields? ["panel", "position", "size"] j with
  | [some panel, position, size] =>
    return flyOut (← PanelId.codec.decode? panel)
      (← optional? (Point.codec number).decode? position)
        (← optional? (Size.codec number).decode? size)
  | _ => .none

/-- Reads the panel and the origin of a gesture. -/
def decodeGesture? (number : Codec α) (action : PanelId → Point α → Action α) (j : Json) :
    Option (Action α) := do
  match ← fields? ["panel", "at"] j with
  | [some panel, some origin] =>
    return action (← PanelId.codec.decode? panel) (← (Point.codec number).decode? origin)
  | _ => .none

/-- Reads what an action carries. -/
def decodePayload? (number : Codec α) (name : String) (payload : Json) : Option (Action α) :=
  let panel := PanelId.codec.decode? payload
  let point := (Point.codec number).decode? payload
  match name with
  | "RegisterPanel" => decodeRegistration? payload
  | "DestroyPanel" => panel.map destroyPanel
  | "FlyOut" => decodeFlyOut? number payload
  | "Dock" => panel.map dock
  | "ToggleFlyout" => panel.map toggleFlyout
  | "CloseFlyout" => panel.map closeFlyout
  | "ShowFlyout" => panel.map showFlyout
  | "FocusFlyout" => panel.map focusFlyout
  | "HidePanel" => panel.map hidePanel
  | "ShowPanel" => panel.map showPanel
  | "BeginDrag" => decodeGesture? number beginDrag payload
  | "BeginResize" => decodeGesture? number beginResize payload
  | "PointerMove" => point.map pointerMove
  | "PointerUp" => point.map pointerUp
  | _ => .none

/-- Reads an action. -/
def decode? (number : Codec α) (j : Json) : Option (Action α) := do
  match ← variant? j with
  | ("SaveAll", payload) => bare? saveAll payload
  | ("None", payload) => bare? none payload
  | (name, some payload) => decodePayload? number name payload
  | (_, .none) => .none

/-- How actions are written and read. -/
def codec (number : Codec α) : Codec (Action α) where
  encode := encode number
  decode? := decode? number

end PanelDock.Action
