import PanelDock.Catalog
import PanelDock.Notice.Basic
import PanelDock.Text.Blank
/-!
# The store of panels

The one place that knows every panel. Panels are created, changed and removed only here, and each
change is told to the subscribers as one event. A panel always belongs to a dock whose name is not
blank.
-/

namespace PanelDock

/-- The panels, and who is told when they change. -/
structure Store (α : Type) where
  panels : Catalog PanelId (Panel α) := .empty
  /-- The numbers of the subscribers, in the order they came. -/
  subscribers : List Nat := []
  /-- The number of the next subscriber. They are counted without end, where the program has a word
  of 64 bits. -/
  nextSubscriber : Nat := 1

namespace Store

variable {α : Type}

/-- The store without panels and subscribers. -/
def empty : Store α := {}

instance : Inhabited (Store α) := ⟨empty⟩

/-- The record of a panel. -/
def get? (s : Store α) (id : PanelId) : Option (Panel α) := s.panels.get? id

/-- Whether the store knows the panel. -/
def contains (s : Store α) (id : PanelId) : Bool := s.panels.contains id

/-- The number of panels. -/
def size (s : Store α) : Nat := s.panels.size

/-- Adds a subscriber and gives its number. -/
def subscribe (s : Store α) : Nat × Store α :=
  (s.nextSubscriber,
    { s with
      subscribers := s.subscribers ++ [s.nextSubscriber], nextSubscriber := s.nextSubscriber + 1 })

/-- Takes a subscriber out. Tells whether there was one. -/
def unsubscribe (s : Store α) (subscriber : Nat) : Bool × Store α :=
  let others := s.subscribers.filter (· != subscriber)
  (others.length != s.subscribers.length, { s with subscribers := others })

/-- The event, addressed to everyone who subscribes. -/
def tell (s : Store α) (e : Event α) : Effect α := .event s.subscribers e

/-- Whether there is an order behind that of the panel: orders are words. -/
def hasNext (p : Panel α) : Bool := p.order.toNat + 1 < UInt32.size

/-- One more than the greatest order in the dock, or zero for an empty dock. Every order in the dock
is counted up, so there is none if one of them is the greatest word. -/
def nextOrder? (s : Store α) (dock : String) : Option UInt32 :=
  let others := s.panels.values.filter (·.dock == dock)
  if others.all hasNext then some ((others.map (fun p => p.order + 1)).foldl max 0) else none

/-- The record of a new panel. Panels do not float from the start. -/
def newPanel (now : Instant) (id : PanelId) (dock : String) (order : UInt32)
    (defaults : Panel.Defaults) : Panel α where
  id
  title := defaults.title.getD id.text
  placement := if defaults.placement == .floating then .docked else defaults.placement
  dock
  position := none
  size := none
  zIndex := none
  visible := defaults.visible
  mounted := false
  order
  createdAt := now
  lastUpdated := now

/-- Creates a panel in a dock. A dock without a name and a panel that is known already are refused.
A panel without an order of its own goes behind the others of the dock; if there is no order behind
theirs, the program breaks off. -/
def create (s : Store α) (now : Instant) (id : PanelId) (dock : String)
    (defaults : Panel.Defaults) : Outcome α (Store α) Attempt :=
  if Text.isBlankText dock then ⟨.refused, s, [.notice (.dockMissing id)]⟩
  else if s.contains id then ⟨.refused, s, [.notice (.panelExists id)]⟩
  else
    let notices :=
      if defaults.placement == .floating then [.notice (.createdDocked id)] else []
    match defaults.order.or (s.nextOrder? dock) with
    | none => ⟨.brokenOff, s, notices⟩
    | some order =>
      let panel := newPanel now id dock order defaults
      ⟨.done, { s with panels := s.panels.insert id panel },
        notices ++ [.notice (.panelCreated id dock order), s.tell (.created panel)]⟩

/-- Whether a patch would leave a panel without a dock. -/
def clearsDock (patch : Panel.Patch α) : Bool := patch.dock.any Text.isBlankText

/-- Changes the record of a panel. A change for a panel that is not known is passed over. A change
that makes no difference is neither recorded nor told; nor can the dock be cleared. -/
def update [Coordinate α] (s : Store α) (now : Instant) (id : PanelId) (patch : Panel.Patch α) :
    Outcome α (Store α) Bool :=
  match s.get? id with
  | none => ⟨false, s, [.notice (.updateIgnored id)]⟩
  | some panel =>
    let clears := clearsDock patch
    let patch := if clears then { patch with dock := none } else patch
    let kept := if clears then [.notice (.dockKept panel.id)] else []
    if panel.changedBy patch then
      let panel := { panel.patched patch with lastUpdated := now }
      ⟨true, { s with panels := s.panels.insert id panel }, kept ++ [s.tell (.updated panel)]⟩
    else ⟨true, s, kept⟩

/-- Removes a panel, and gives what was known of it. -/
def remove (s : Store α) (id : PanelId) : Outcome α (Store α) (Option (Panel α)) :=
  match s.get? id with
  | none => ⟨none, s, []⟩
  | some panel =>
    ⟨some panel, { s with panels := s.panels.erase id },
      [.notice (.panelRemoved id), s.tell (.removed id)]⟩

/-- Whether a panel is listed before another: by dock, then by order, then by name. -/
def listedBefore (p q : Panel α) : Bool :=
  ((compare p.dock q.dock).then ((compare p.order q.order).then (compare p.id q.id))).isLE

/-- The panels that the filter admits, dock by dock in the order of their stacks. -/
def list (s : Store α) (filter : Panel.Filter) : List (Panel α) :=
  (s.panels.values.filter filter.admits).mergeSort listedBefore

/-- All panels at this moment. -/
def snapshot (s : Store α) (now : Instant) : Snapshot α where
  version := Snapshot.currentVersion
  savedAt := now
  panels := s.panels.values

/-- Whether a saved panel can be taken back: its dock must have a name. -/
def Restorable (p : Panel α) : Bool := !Text.isBlankText p.dock

/-- Puts the panels of a snapshot over those of the store, the later of two with one name. Panels
without a dock are left out. Subscribers are told once that the store has changed. Gives the number
of panels taken. -/
def import? (s : Store α) (snapshot : Snapshot α) :
    Outcome α (Store α) (Except BackendFault Nat) :=
  if snapshot.version ≠ Snapshot.currentVersion then
    ⟨.error (.unsupportedVersion snapshot.version), s, []⟩
  else
    let taken := snapshot.panels.filter Restorable
    let skipped := snapshot.panels.filter (fun p => !Restorable p)
    let panels := taken.foldl (fun panels p => panels.insert p.id p) s.panels
    ⟨.ok taken.length, { s with panels },
      skipped.map (fun p => .notice (.savedPanelSkipped p.id)) ++
        [.notice (.imported taken.length panels.size), s.tell .reset]⟩

/-- A change of the store as a value. -/
inductive Change (α : Type) where
  | create (id : PanelId) (dock : String) (defaults : Panel.Defaults)
  | update (id : PanelId) (patch : Panel.Patch α)
  | remove (id : PanelId)

/-- Makes a change. Tells whether it took effect. -/
def dispatch [Coordinate α] (s : Store α) (now : Instant) : Change α → Outcome α (Store α) Attempt
  | .create id dock defaults => s.create now id dock defaults
  | .update id patch =>
    let o := s.update now id patch
    ⟨.of o.result, o.state, o.effects⟩
  | .remove id =>
    let o := s.remove id
    ⟨.of o.result.isSome, o.state, o.effects⟩

end Store

end PanelDock
