import PanelDock.Panel.Basic
/-!
# Actions

What a user can do with panels, by a key, a menu or a script, as data.
-/

namespace PanelDock

/-- Something that a user does. -/
inductive Action (α : Type) where
  /-- The content, if any, is a text that is shown whenever the panel floats. -/
  | registerPanel (id : PanelId) (title dock : String) (content : Option String)
  | destroyPanel (panel : PanelId)
  | flyOut (panel : PanelId) (position : Option (Point α)) (size : Option (Size α))
  | dock (panel : PanelId)
  | toggleFlyout (panel : PanelId)
  | closeFlyout (panel : PanelId)
  | showFlyout (panel : PanelId)
  | focusFlyout (panel : PanelId)
  | hidePanel (panel : PanelId)
  | showPanel (panel : PanelId)
  | beginDrag (panel : PanelId) (origin : Point α)
  | beginResize (panel : PanelId) (origin : Point α)
  | pointerMove (position : Point α)
  | pointerUp (position : Point α)
  | saveAll
  | none
deriving DecidableEq, Repr

namespace Action

variable {α : Type}

/-- The name of an action in menus. -/
def label : Action α → String
  | registerPanel _ _ _ _ => "Register Panel"
  | destroyPanel _ => "Destroy Panel"
  | flyOut _ _ _ => "Fly Out Panel"
  | dock _ => "Dock Panel"
  | toggleFlyout _ => "Toggle Flyout"
  | closeFlyout _ => "Close Flyout"
  | showFlyout _ => "Show Flyout"
  | focusFlyout _ => "Bring Flyout to Front"
  | hidePanel _ => "Hide Panel"
  | showPanel _ => "Show Panel"
  | beginDrag _ _ => "Begin Drag"
  | beginResize _ _ => "Begin Resize"
  | pointerMove _ => "Pointer Move"
  | pointerUp _ => "Pointer Up"
  | saveAll => "Save Panel Layout"
  | none => "None"

/-- Whether an action only carries a sample of the pointer; such actions are not offered in menus.
-/
def isPointer : Action α → Bool
  | beginDrag _ _ | beginResize _ _ | pointerMove _ | pointerUp _ => true
  | _ => false

/-- Whether an action introduces a panel. -/
def isRegistration : Action α → Bool
  | registerPanel _ _ _ _ => true
  | _ => false

end Action

end PanelDock
