import PanelDock.Layer
import PanelDock.Session
/-!
# Why operations are refused

A `Refusal` is the cause for which an operation on panels is turned down; nothing has changed then.
`Refusal.message` is what the user is told.
-/

namespace PanelDock

/-- Why an operation on panels is turned down. -/
inductive Refusal where
  | unknownPanel (panel : PanelId)
  | alreadyFloating (panel : PanelId)
  /-- The panel is to be docked, but lives here. -/
  | notFloating (panel : PanelId) (placement : Placement)
  /-- The panel has no window. -/
  | noWindow (panel : PanelId)
  | alreadyClosed (panel : PanelId)
  | alreadyShown (panel : PanelId)
  /-- The window is closed. -/
  | closed (panel : PanelId)
  /-- The window is not registered in any layer. -/
  | unstacked (panel : PanelId)
  | misplaced (panel : PanelId) (placement expected : Placement)
  | noResizeHandle (panel : PanelId)
  /-- The pointer that would begin a gesture is nowhere. -/
  | pointerNowhere (panel : PanelId) (grip : Grip)
  /-- Another gesture is in progress. -/
  | busy (panel : PanelId) (grip : Grip) (active : Grip) (session : String) (target : PanelId)
  /-- Only a floating panel can be moved or resized. -/
  | immovable (panel : PanelId) (grip : Grip) (placement : Placement)
  | noPosition (panel : PanelId)
  | noSize (panel : PanelId)
  /-- The value asked for lies above its layer. -/
  | beyondLayer (layer : Layer) (requested : Int)
  | mountFailed (panel : PanelId) (reason : String)
deriving DecidableEq, Repr

namespace Refusal

/-- The kinds of refusal. -/
inductive Kind where
  | invalidTarget
  | invalidState
  | boundsOverflow
  | contentMountFailure
deriving DecidableEq, Repr

/-- The kind of a refusal. -/
def kind : Refusal → Kind
  | unknownPanel _ | unstacked _ | immovable _ _ _ | noPosition _ | noSize _ => .invalidTarget
  | beyondLayer _ _ => .boundsOverflow
  | mountFailed _ _ => .contentMountFailure
  | _ => .invalidState

/-- A target that cannot be used. -/
def invalidTargetText (detail : String) : String := s!"invalid target: {detail}"

/-- An operation that does not fit the state. -/
def invalidStateText (detail : String) : String := s!"invalid state: {detail}"

/-- A stacking value beyond its layer. -/
def boundsOverflowText (layer : String) (requested greatest : Int) : String :=
  s!"z-index {requested} exceeds layer {layer} max {greatest}"

/-- Content that could not be mounted. -/
def mountFailureText (panel reason : String) : String :=
  s!"content for panel {panel} failed to mount: {reason}"

/-- What the user is told. -/
def message : Refusal → String
  | unknownPanel p => invalidTargetText s!"unknown panel {p}"
  | alreadyFloating p => invalidStateText s!"panel {p} is already floating"
  | notFloating p placement => invalidStateText s!"panel {p} is {placement}, not floating"
  | noWindow p => invalidStateText s!"panel {p} is not floating"
  | alreadyClosed p => invalidStateText s!"flyout {p} is already closed"
  | alreadyShown p => invalidStateText s!"flyout {p} is already shown"
  | closed p => invalidStateText s!"flyout {p} is closed"
  | unstacked p => invalidTargetText s!"flyout {p} has no z-index"
  | misplaced p placement expected =>
      invalidStateText s!"panel {p} is {placement}, expected {expected}"
  | noResizeHandle p => invalidStateText s!"flyout {p} has no resize handle"
  | pointerNowhere p grip =>
      invalidStateText s!"cannot start {grip} on {p}: pointer at non-finite position"
  | busy p grip active session target =>
    invalidStateText s!"cannot start {grip} on {p}: {active} session {session} active on {target}"
  | immovable p grip placement => invalidTargetText s!"panel {p} is {placement} and cannot {grip}"
  | noPosition p => invalidTargetText s!"panel {p} has no floating position"
  | noSize p => invalidTargetText s!"panel {p} has no floating size"
  | beyondLayer layer requested => boundsOverflowText layer.name requested layer.greatest
  | mountFailed p reason => mountFailureText p.text reason

instance : ToString Refusal := ⟨message⟩

end Refusal

/-- Why saving or restoring failed. What the operating system or a reader says about it is not kept.
-/
inductive BackendFault where
  /-- The file cannot be read or written. -/
  | io (path : String)
  /-- The file does not hold a snapshot. -/
  | malformed (path : String)
  /-- The backend would not take the snapshot. -/
  | rejected (reason : String)
  | unsupportedVersion (version : UInt32)
  /-- There is no folder for the state file. -/
  | noFolder
deriving DecidableEq, Repr

namespace BackendFault

/-- A file that cannot be used. -/
def ioText (path : String) : String := s!"persistence io error at {path}"

/-- A snapshot that cannot be written or read. -/
def serializeText (detail : String) : String := s!"snapshot serialization error: {detail}"

/-- A snapshot of a version that is not known. -/
def versionText (version : Nat) : String := s!"unsupported snapshot version: {version}"

/-- What the user is told. -/
def message : BackendFault → String
  | io path => ioText path
  | malformed path => serializeText path
  | rejected reason => serializeText reason
  | unsupportedVersion v => versionText v.toNat
  | noFolder => "no state directory available"

instance : ToString BackendFault := ⟨message⟩

end BackendFault

end PanelDock
