import PanelDock.Json.Codec
import PanelDock.Panel.Basic
import PanelDock.Instant.Text
/-!
# Panels in JSON

How panels and snapshots stand in a state file. The codecs take the codec of a coordinate, so that
they can be stated of exact numbers as well as of floats.
-/

namespace PanelDock

open Json (Codec fields? optional? orElse? variant? bare? ofOption)

variable {α : Type}

/-- A point has two coordinates. -/
def Point.codec (number : Codec α) : Codec (Point α) where
  encode p := .object [("x", number.encode p.x), ("y", number.encode p.y)]
  decode? j := do
    match ← fields? ["x", "y"] j with
    | [some x, some y] => return { x := ← number.decode? x, y := ← number.decode? y }
    | _ => none

/-- A size has a width and a height. -/
def Size.codec (number : Codec α) : Codec (Size α) where
  encode s := .object [("width", number.encode s.width), ("height", number.encode s.height)]
  decode? j := do
    match ← fields? ["width", "height"] j with
    | [some w, some h] => return { width := ← number.decode? w, height := ← number.decode? h }
    | _ => none

/-- A panel is known by its name. -/
def PanelId.codec : Codec PanelId where
  encode id := .string id.text
  decode? j := (Json.textCodec.decode? j).map (⟨·⟩)

/-- A placement is one of three names. -/
def Placement.codec : Codec Placement where
  encode p := .string p.name
  decode? j := do
    match ← variant? j with
    | ("DOCKED", payload) => bare? .docked payload
    | ("FLOATING", payload) => bare? .floating payload
    | ("HIDDEN", payload) => bare? .hidden payload
    | _ => none

/-- An instant is written by its text. -/
def Instant.codec : Codec Instant where
  encode t := .string t.text
  decode? j := Json.textCodec.decode? j >>= Instant.ofText?

/-- What a new panel starts with; every field may be absent. -/
def Panel.Defaults.ofJson? (j : Json) : Option Panel.Defaults := do
  match ← fields? ["title", "placement", "visible", "order"] j with
  | [title, placement, visible, order] =>
    return {
      title := ← optional? Json.textCodec.decode? title
      placement := ← orElse? .docked Placement.codec.decode? placement
      visible := ← orElse? true Json.boolCodec.decode? visible
      order := ← optional? Json.word32Codec.decode? order }
  | _ => none

/-- The names of the fields of a panel, in order. -/
def Panel.fieldNames : List String :=
  ["id", "title", "placement", "dock_id", "position", "size", "z_index", "visible",
    "mounted", "order",
   "created_at", "last_updated"]

/-- A panel is written field by field; its geometry may be null. -/
def Panel.codec (number : Codec α) : Codec (Panel α) where
  encode p := .object [
    ("id", PanelId.codec.encode p.id),
    ("title", .string p.title),
    ("placement", Placement.codec.encode p.placement),
    ("dock_id", .string p.dock),
    ("position", ofOption (Point.codec number).encode p.position),
    ("size", ofOption (Size.codec number).encode p.size),
    ("z_index", ofOption Json.int32Codec.encode p.zIndex),
    ("visible", .bool p.visible),
    ("mounted", .bool p.mounted),
    ("order", Json.word32Codec.encode p.order),
    ("created_at", Instant.codec.encode p.createdAt),
    ("last_updated", Instant.codec.encode p.lastUpdated)]
  decode? j := do
    match ← fields? Panel.fieldNames j with
    | [some id, some title, some placement, some dock, position, size, zIndex, some visible,
        some mounted, some order, some createdAt, some lastUpdated] =>
      return {
        id := ← PanelId.codec.decode? id
        title := ← Json.textCodec.decode? title
        placement := ← Placement.codec.decode? placement
        dock := ← Json.textCodec.decode? dock
        position := ← optional? (Point.codec number).decode? position
        size := ← optional? (Size.codec number).decode? size
        zIndex := ← optional? Json.int32Codec.decode? zIndex
        visible := ← Json.boolCodec.decode? visible
        mounted := ← Json.boolCodec.decode? mounted
        order := ← Json.word32Codec.decode? order
        createdAt := ← Instant.codec.decode? createdAt
        lastUpdated := ← Instant.codec.decode? lastUpdated }
    | _ => none

/-- Reads the elements of a list, all or none. -/
def Json.list? {τ : Type} (decode? : Json → Option τ) : Json → Option (List τ)
  | .array elements => elements.mapM decode?
  | _ => none

/-- A snapshot has its version, its time and its panels. -/
def Snapshot.codec (number : Codec α) : Codec (Snapshot α) where
  encode s := .object [
    ("version", Json.word32Codec.encode s.version),
    ("saved_at", Instant.codec.encode s.savedAt),
    ("panels", .array (s.panels.map (Panel.codec number).encode))]
  decode? j := do
    match ← fields? ["version", "saved_at", "panels"] j with
    | [some version, some savedAt, some panels] =>
      return {
        version := ← Json.word32Codec.decode? version
        savedAt := ← Instant.codec.decode? savedAt
        panels := ← Json.list? (Panel.codec number).decode? panels }
    | _ => none

end PanelDock
