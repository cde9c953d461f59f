import PanelDock.Geometry
import PanelDock.Instant.Basic
/-!
# Panels

The record kept of a panel: where it lives, whose dock it belongs to, its geometry while it floats,
its place in the stack of its dock, and when it was last changed.
-/

namespace PanelDock

/-- The name of a panel, chosen by the host. -/
structure PanelId where
  text : String
deriving DecidableEq, Repr, Inhabited

namespace PanelId

/-- Panels are listed by the code points of their names. -/
instance : Ord PanelId := ⟨fun a b => compare a.text b.text⟩

instance : ToString PanelId := ⟨text⟩

instance : Std.TransOrd PanelId where
  eq_swap {a b} := Std.OrientedOrd.eq_swap (a := a.text) (b := b.text)
  isLE_trans {a b c} := Std.TransOrd.isLE_trans (a := a.text) (b := b.text) (c := c.text)

instance : Std.LawfulEqOrd PanelId where
  compare_self {a} := Std.ReflOrd.compare_self (a := a.text)
  eq_of_compare {a b} h := by
    have : a.text = b.text := Std.LawfulEqOrd.eq_of_compare (a := a.text) (b := b.text) h
    cases a; cases b; simp_all

end PanelId

/-- Where a panel lives. -/
inductive Placement where
  | docked
  | floating
  | hidden
deriving DecidableEq, Repr, Inhabited

namespace Placement

/-- The name of a placement. -/
def name : Placement → String
  | docked => "DOCKED"
  | floating => "FLOATING"
  | hidden => "HIDDEN"

instance : ToString Placement := ⟨name⟩

end Placement

/-- The record of a panel. -/
structure Panel (α : Type) where
  id : PanelId
  title : String
  placement : Placement
  /-- The dock that owns the panel. It stays while the panel floats, so that it knows where to
  return. -/
  dock : String
  /-- The top left corner; only a floating panel has one. -/
  position : Option (Point α)
  /-- The size; only a floating panel has one. -/
  size : Option (Size α)
  zIndex : Option Int
  visible : Bool
  /-- Whether its content is mounted. -/
  mounted : Bool
  /-- Its place in the stack of its dock. -/
  order : UInt32
  createdAt : Instant
  lastUpdated : Instant
deriving DecidableEq, BEq, Repr

namespace Panel

variable {α : Type}

/-- Whether the panel floats. -/
def isFloating (p : Panel α) : Bool := p.placement == .floating

/-- The rectangle that a floating panel covers, if both its corner and its size are known. -/
def bounds [Coordinate α] (p : Panel α) : Option (Rect α) :=
  match p.position, p.size with
  | some origin, some size => some (Rect.ofParts origin size)
  | _, _ => none

end Panel

/-- What a new panel starts with. -/
structure Panel.Defaults where
  /-- The id stands for a title that is not given. -/
  title : Option String := none
  placement : Placement := .docked
  visible : Bool := true
  /-- A panel without an order goes to the end of its dock. -/
  order : Option UInt32 := none
deriving DecidableEq, Repr

namespace Panel.Defaults

/-- A panel with this title. -/
def titled (title : String) : Panel.Defaults := { title := some title }

/-- The same panel, hidden at first. -/
def hidden (d : Panel.Defaults) : Panel.Defaults :=
  { d with placement := .hidden, visible := false }

end Panel.Defaults

/-- Which panels to list. A field that is not set admits every panel. -/
structure Panel.Filter where
  placement : Option Placement := none
  dock : Option String := none
  visible : Option Bool := none
deriving DecidableEq, Repr

namespace Panel.Filter

/-- Whether the filter admits the panel. -/
def admits {α : Type} (f : Panel.Filter) (p : Panel α) : Bool :=
  f.placement.all (p.placement == ·) && f.dock.all (p.dock == ·) && f.visible.all (p.visible == ·)

end Panel.Filter

/-- A change to some fields of a panel. A field that is not set stays as it is; geometry may also be
set to nothing. -/
structure Panel.Patch (α : Type) where
  title : Option String := none
  placement : Option Placement := none
  dock : Option String := none
  position : Option (Option (Point α)) := none
  size : Option (Option (Size α)) := none
  zIndex : Option (Option Int) := none
  visible : Option Bool := none
  mounted : Option Bool := none
  order : Option UInt32 := none

namespace Panel.Patch

variable {α : Type}

/-- Whether no field is set. -/
def isEmpty (p : Panel.Patch α) : Bool :=
  p.title.isNone && p.placement.isNone && p.dock.isNone && p.position.isNone && p.size.isNone &&
    p.zIndex.isNone && p.visible.isNone && p.mounted.isNone && p.order.isNone

end Panel.Patch

/-- The value that a change leaves: a new value that equals the old one leaves the old one. -/
def settled {τ : Type} [BEq τ] (old : τ) : Option τ → τ
  | none => old
  | some new => if old == new then old else new

/-- Whether a change brings a different value. -/
def differs {τ : Type} [BEq τ] (old : τ) : Option τ → Bool
  | none => false
  | some new => old != new

namespace Panel

variable {α : Type} [Coordinate α]

/-- The panel with the changes of the patch made. -/
def patched (p : Panel α) (patch : Panel.Patch α) : Panel α :=
  { p with
    title := settled p.title patch.title
    placement := settled p.placement patch.placement
    dock := settled p.dock patch.dock
    position := settled p.position patch.position
    size := settled p.size patch.size
    zIndex := settled p.zIndex patch.zIndex
    visible := settled p.visible patch.visible
    mounted := settled p.mounted patch.mounted
    order := settled p.order patch.order }

/-- Whether the patch changes any field. -/
def changedBy (p : Panel α) (patch : Panel.Patch α) : Bool :=
  differs p.title patch.title || differs p.placement patch.placement || differs p.dock patch.dock ||
    differs p.position patch.position || differs p.size patch.size ||
      differs p.zIndex patch.zIndex ||
    differs p.visible patch.visible || differs p.mounted patch.mounted ||
      differs p.order patch.order

end Panel

/-- All panels of a store at one moment, as they are saved. -/
structure Snapshot (α : Type) where
  version : UInt32
  savedAt : Instant
  panels : List (Panel α)
deriving DecidableEq, BEq, Repr

namespace Snapshot

/-- The version that this library writes and reads. -/
def currentVersion : UInt32 := 1

end Snapshot

/-- What subscribers of a store are told. -/
inductive Event (α : Type) where
  | created (panel : Panel α)
  | updated (panel : Panel α)
  | removed (id : PanelId)
  /-- The panels of a snapshot were put over the panels of the store. -/
  | reset
deriving DecidableEq, Repr

namespace Event

/-- The panel that an event is about. -/
def panelId? {α : Type} : Event α → Option PanelId
  | created p => some p.id
  | updated p => some p.id
  | removed id => some id
  | reset => none

end Event

end PanelDock
