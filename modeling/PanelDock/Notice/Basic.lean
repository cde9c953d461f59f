import PanelDock.Chrome
import PanelDock.Refusal
/-!
# What is worth a line in the log

Operations report what they did as notices, one constructor for each thing that can be reported. How
a notice is worded is decided elsewhere.
-/

namespace PanelDock

/-- An operation that reports its refusal instead of handing it to its caller. -/
inductive Operation where
  | flyOut
  | dock
  | closeFlyout
  | showFlyout
  | focusFlyout
  | hidePanel
  | showPanel
  | beginDrag
  | beginResize
deriving DecidableEq, Repr

/-- Why the panels are saved. -/
inductive Occasion where
  | flyOut
  | dock
  | closeFlyout
  | showFlyout
  | placement
  | destroyPanel
  | pointerUp
  | restore
  | saveAll
deriving DecidableEq, Repr

/-- What operations on panels report. -/
inductive Notice (α : Type) where
  -- the store
  | dockMissing (panel : PanelId)
  | panelExists (panel : PanelId)
  | createdDocked (panel : PanelId)
  | panelCreated (panel : PanelId) (dock : String) (order : UInt32)
  | updateIgnored (panel : PanelId)
  | dockKept (panel : PanelId)
  | panelRemoved (panel : PanelId)
  | savedPanelSkipped (panel : PanelId)
  | imported (count total : Nat)
  -- stacking
  | gapRaised (gap least : Nat)
  | unknownLayer (layer : String) (handle : Handle)
  | clamped (cause : Refusal)
  | overlayRegistered (handle : Handle) (layer : Layer) (zIndex : Int)
  | raiseUnregistered (handle : Handle)
  | atCeiling (handle : Handle) (layer : Layer) (zIndex : Int)
  | overlayRaised (handle : Handle) (layer : Layer) (old new : Int)
  | overlayReleased (handle : Handle) (layer : Layer)
  | releaseUnregistered (handle : Handle)
  -- gestures
  | gestureStarted (session : String) (grip : Grip) (panel : PanelId)
  | gestureFinished (session : String) (grip : Grip) (panel : PanelId)
  | gestureDropped (session : String) (panel : PanelId)
  | sampleNowhere (session : String) (position : Point α)
  | targetVanished (panel : PanelId)
  -- windows
  | contentRegistered (panel : PanelId) (kind : String)
  | contentForUnknown (panel : PanelId)
  | flownOut (panel : PanelId) (position : Point α) (size : Size α) (zIndex : Int)
      (origin : Placement)
  | panelDocked (panel : PanelId) (dock : String) (placement : Placement)
  | flyoutClosed (panel : PanelId)
  | flyoutShown (panel : PanelId)
  | flyoutFocused (panel : PanelId) (zIndex : Int)
  | destroyUnknown (panel : PanelId)
  | panelDestroyed (panel : PanelId)
  | placementChanged (panel : PanelId) (old new : Placement)
  | mountFailed (panel : PanelId) (cause : Refusal)
  | pressed (panel : PanelId) (hit : Hit)
  | refused (operation : Operation) (cause : Refusal)
  | executing (label : String)
  -- saving and restoring
  | nothingToRestoreFrom
  | nothingSaved (location : String)
  | restoreFailed (location : String) (cause : BackendFault)
  | snapshotRejected (location : String) (cause : BackendFault)
  | flyoutRecreated (panel : PanelId) (zIndex : Int) (visible : Bool)
  | restored (location : String) (count reopened : Nat)
  | nowhereToSave
  | saved (occasion : Occasion) (panels : Nat)
  | saveFailed (occasion : Occasion) (cause : BackendFault)
  -- the state file
  | fileWritten (path : String) (panels : Nat)
  | fileMissing (path : String)
  | writtenInPlace (path : String)
deriving DecidableEq, Repr

/-- What happens outside the state while an operation runs, in order: lines for the log, events for
the subscribers, calls to the providers of content, and writes to the backend. -/
inductive Effect (α : Type) where
  | notice (n : Notice α)
  | event (subscribers : List Nat) (e : Event α)
  | call (provider : String) (c : Call)
  | write (snapshot : Snapshot α) (accepted : Bool)
deriving DecidableEq, Repr

/-- Whether it is only a line for the log. -/
def Effect.isNotice {α : Type} : Effect α → Bool
  | .notice _ => true
  | _ => false

/-- What an operation hands back: its answer, the state after it, and what happened meanwhile. -/
structure Outcome (α σ ρ : Type) where
  result : ρ
  state : σ
  effects : List (Effect α) := []

/-- How an attempt went that the program itself may not survive. When it breaks off, there is no
state after it: what comes with that answer is the state from before. -/
inductive Attempt where
  | done
  | refused
  | brokenOff
deriving DecidableEq, Repr

namespace Attempt

/-- An attempt that the program survives. -/
def of (done : Bool) : Attempt := if done then .done else .refused

/-- Whether it took effect. -/
def succeeded (a : Attempt) : Bool := a == .done

theorem succeeded_of (done : Bool) : (of done).succeeded = done := by
  cases done <;> rfl

theorem of_ne_brokenOff (done : Bool) : of done ≠ .brokenOff := by
  cases done <;> simp [of]

end Attempt

/-- The lines for the log among what happened. -/
def Outcome.notices {α σ ρ : Type} (o : Outcome α σ ρ) : List (Effect α) :=
  o.effects.filter Effect.isNotice

end PanelDock
