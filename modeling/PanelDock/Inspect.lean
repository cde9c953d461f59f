import PanelDock.Coordinator.Basic
import PanelDock.Instant.Text
import PanelDock.Text.Quoted
/-!
# Inspecting values

The state of the program as a text for the eye: records with their fields by name, lists in
brackets, maps in braces, texts in quotes. The form takes the text of a coordinate as a parameter.
-/

namespace PanelDock.Inspect

/-- Texts with commas between them. -/
def commas (parts : List String) : String := ", ".intercalate parts

/-- A record with its fields by name. -/
def record (name : String) (fields : List (String × String)) : String :=
  name ++ " \x7b " ++ commas (fields.map (fun f => f.1 ++ ": " ++ f.2)) ++ " \x7d"

/-- A name around one value. -/
def wrapped (name value : String) : String := name ++ "(" ++ value ++ ")"

/-- A list. -/
def list (parts : List String) : String := "[" ++ commas parts ++ "]"

/-- A map. -/
def map (entries : List (String × String)) : String :=
  "\x7b" ++ commas (entries.map (fun e => e.1 ++ ": " ++ e.2)) ++ "\x7d"

/-- A value that may be missing. -/
def option {τ : Type} (f : τ → String) : Option τ → String
  | none => "None"
  | some value => wrapped "Some" (f value)

/-- A truth value. -/
def flag (b : Bool) : String := if b then "true" else "false"

/-- The name of a panel. -/
def panelId (id : PanelId) : String := wrapped "PanelId" (Text.quoted id.text)

/-- The number of an overlay. -/
def handle (h : Handle) : String := wrapped "HandleId" (toString h.number)

/-- A placement. -/
def placement : Placement → String
  | .docked => "Docked"
  | .floating => "Floating"
  | .hidden => "Hidden"

/-- A layer. -/
def layer : Layer → String
  | .base => "Base"
  | .ui => "Ui"
  | .popup => "Popup"
  | .system => "System"

section
variable {α : Type} (number : α → String)

/-- A point. -/
def point (p : Point α) : String := record "Point" [("x", number p.x), ("y", number p.y)]

/-- A size. -/
def size (s : Size α) : String :=
  record "Size" [("width", number s.width), ("height", number s.height)]

/-- The record of a panel. -/
def panel (p : Panel α) : String :=
  record "PanelDescriptor" [
    ("id", panelId p.id),
    ("title", Text.quoted p.title),
    ("placement", placement p.placement),
    ("dock_id", Text.quoted p.dock),
    ("position", option (point number) p.position),
    ("size", option (size number) p.size),
    ("z_index", option toString p.zIndex),
    ("visible", flag p.visible),
    ("mounted", flag p.mounted),
    ("order", toString p.order),
    ("created_at", p.createdAt.text),
    ("last_updated", p.lastUpdated.text)]

/-- A store: its panels, and the number of its subscribers. -/
def store (s : Store α) : String :=
  record "DescriptorStore" [
    ("descriptors", map (s.panels.entries.map (fun e => (panelId e.1, panel number e.2)))),
    ("subscribers", toString s.subscribers.length)]

/-- A gesture in progress, by what it does. -/
def session (s : Session α) : String :=
  let common := [
    ("id", wrapped "SessionId" (Text.quoted s.name)),
    ("panel", panelId s.panel),
    ("pointer_id", toString s.pointer),
    ("origin", point number s.origin)]
  match s.gesture with
  | .drag start last =>
    wrapped "Drag" (record "DragSession"
      (common ++ [("start_position", point number start), ("last_position", point number last)]))
  | .resize start last =>
    wrapped "Resize" (record "ResizeSession"
      (common ++ [("start_size", size number start), ("last_size", size number last)]))

/-- The listeners for moves and releases. -/
def listeners (l : Listeners) : String :=
  record "PointerListeners" [
    ("installed", flag l.installed),
    ("attach_count", toString l.attachCount),
    ("detach_count", toString l.detachCount)]

/-- The gesture in progress, if there is one, and what sizes it may reach. -/
def tracker (t : Tracker α) : String :=
  record "InteractionController" [
    ("slot", option (session number) t.session),
    ("listeners", listeners t.listeners),
    ("min_size", size number t.minSize)]

end

/-- An overlay as the allocator knows it. -/
def registration (r : Registration) : String :=
  record "Registration" [
    ("handle", handle r.handle),
    ("layer", layer r.layer),
    ("priority", toString r.priority),
    ("z_index", toString r.zIndex),
    ("registered_at", r.registeredAt.text),
    ("promotion_count", toString r.promotions),
    ("prior_z_index", option toString r.nativeZIndex),
    ("isolated", flag r.isolated),
    ("label", option Text.quoted r.label)]

/-- The allocator with all registrations and the counters of the layers. -/
def allocator (a : Allocator) : String :=
  record "ZIndexAllocator" [
    ("registrations", map (a.registrations.entries.map (fun e => (handle e.1, registration e.2)))),
    ("counters", list (Layer.all.map (fun l => toString (a.counter l)))),
    ("front_gap", toString a.frontGap),
    ("warn_on_clamp", flag a.warnOnClamp),
    ("next_handle", toString a.nextHandle)]

/-- What provides the content of a panel; only its kind can be seen. -/
def source (s : Source) : String := "ContentSource::" ++ s.kind

/-- A coordinator: its parts, the panels that float, and where panels are saved. -/
def coordinator {α β : Type} [Backend β α] (number : α → String) (c : Coordinator α β) : String :=
  record "FlyoutCoordinator" [
    ("store", store number c.store),
    ("zindex", allocator c.stack),
    ("interaction", tracker number c.tracker),
    ("flyouts", list (c.flyouts.keys.map panelId)),
    ("persistence", option (fun b => Text.quoted (Backend.location b)) c.backend)]

end PanelDock.Inspect
