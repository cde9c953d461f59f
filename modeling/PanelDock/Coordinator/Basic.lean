import PanelDock.Action.Basic
import PanelDock.Allocator
import PanelDock.Backend.Basic
import PanelDock.Settings.Basic
import PanelDock.Tracker
/-!
# The coordinator

The coordinator moves panels between their docks and windows of their own. It owns the store, the
allocator of stacking values and the tracker of gestures, keeps the window of every floating panel,
and saves the panels after every change of place. This module holds its state and the small steps of
which all its operations are made.
-/

namespace PanelDock

/-- What the host reads off the world before an operation. -/
structure Moment where
  now : Instant
  /-- A number that tells the next gesture from the others. -/
  token : UInt32

/-- The panels, their windows, and where they are saved. -/
structure Coordinator (α β : Type) where
  store : Store α
  stack : Allocator
  tracker : Tracker α
  /-- The window of every floating panel, shown or closed. -/
  flyouts : Catalog PanelId (Chrome α)
  /-- Where the content of each panel comes from. -/
  content : Catalog PanelId Source
  backend : Option β
  settings : FlyoutSettings α
  saveOnTransition : Bool
  moment : Moment
  /-- What has happened since the host looked last, in order. -/
  journal : List (Effect α)

/-- What a new window may be given; the rest comes from the settings. -/
structure FlyoutOptions (α : Type) where
  position : Option (Point α) := none
  size : Option (Size α) := none
  resizeHandle : Option Bool := none
  title : Option String := none
deriving DecidableEq, Repr

namespace Coordinator

variable {α β : Type} [Coordinate α]

/-- A coordinator without panels. -/
def ofSettings (settings : Settings α) (backend : Option β) (moment : Moment) : Coordinator α β :=
  let stack : Outcome α Allocator Unit := Allocator.fresh.setFrontGap settings.stack.frontGap.toNat
  { store := .empty
    stack := { stack.state with warnOnClamp := settings.stack.warnOnClamp }
    tracker := .idle settings.flyout.minSize
    flyouts := .empty
    content := .empty
    backend
    settings := settings.flyout
    saveOnTransition := settings.saving.saveOnTransition
    moment
    journal := stack.effects }

/-- Adds to the journal. -/
def record (c : Coordinator α β) (effects : List (Effect α)) : Coordinator α β :=
  { c with journal := c.journal ++ effects }

/-- Adds a notice to the journal. -/
def note (c : Coordinator α β) (n : Notice α) : Coordinator α β := c.record [.notice n]

/-- Hands out the journal and starts a new one. -/
def drain (c : Coordinator α β) : List (Effect α) × Coordinator α β :=
  (c.journal, { c with journal := [] })

/-- Collapses an operation to whether it succeeded; a refusal is noted. -/
def settle {ρ : Type} (operation : Operation) :
    Except Refusal ρ × Coordinator α β → Bool × Coordinator α β
  | (.ok _, c) => (true, c)
  | (.error cause, c) => (false, c.note (.refused operation cause))

/-! ## Queries -/

/-- Whether the panel floats in a window, shown or closed. -/
def isFlyingOut (c : Coordinator α β) (id : PanelId) : Bool :=
  c.flyouts.contains id && (c.store.get? id).any Panel.isFloating

/-- The floating panels, by name. -/
def flyoutPanels (c : Coordinator α β) : List PanelId := c.flyouts.keys.filter c.isFlyingOut

/-- The number of windows that are shown. -/
def displayedCount (c : Coordinator α β) : Nat := c.flyouts.values.countP (·.displayed)

/-- Where the next window opens: each window that is shown pushes it further down and right. -/
def defaultPosition (c : Coordinator α β) : Point α :=
  let step := c.settings.cascadeOffset * Coordinate.ofNat c.displayedCount
  { x := c.settings.defaultX + step, y := c.settings.defaultY + step }

/-- The window of a panel, to be worked on. -/
def window (c : Coordinator α β) (id : PanelId) : Except Refusal (Chrome α) :=
  if !c.store.contains id then .error (.unknownPanel id)
  else match c.flyouts.get? id with
    | none => .error (.noWindow id)
    | some chrome => .ok chrome

/-! ## Small steps -/

/-- Changes the record of a panel. -/
def amend (c : Coordinator α β) (id : PanelId) (patch : Panel.Patch α) : Coordinator α β :=
  let o := c.store.update c.moment.now id patch
  { c with store := o.state }.record o.effects

/-- Puts a window in its place. -/
def place (c : Coordinator α β) (chrome : Chrome α) : Coordinator α β :=
  { c with flyouts := c.flyouts.insert chrome.panel chrome }

/-- Ends the gesture on a panel, if there is one. -/
def dropGesture (c : Coordinator α β) (id : PanelId) : Coordinator α β :=
  let o := c.tracker.dropTarget id
  { c with tracker := o.state }.record o.effects

/-- Notes that a provider was called. -/
def recordCall (c : Coordinator α β) (source : Source) : Option Call → Coordinator α β
  | none => c
  | some call => c.record ((source.provider?.map (fun p => Effect.call p.name call)).toList)

/-- Mounts the content of a panel into its window. Without content, or when it is refused, the
window shows why. -/
def mountInto (c : Coordinator α β) (chrome : Chrome α) : Chrome α × Coordinator α β :=
  match c.content.get? chrome.panel with
  | none =>
    let cause := Refusal.mountFailed chrome.panel "no content provider registered"
    ({ chrome with slot := .failed cause.message }, c.note (.mountFailed chrome.panel cause))
  | some source =>
    let (answer, after, call) := source.mount chrome.panel
    let c := { c with content := c.content.insert chrome.panel after }.recordCall after call
    match answer with
    | .ok element => ({ chrome with slot := .mounted element }, c)
    | .error reason =>
      let cause := Refusal.mountFailed chrome.panel reason
      ({ chrome with slot := .failed cause.message }, c.note (.mountFailed chrome.panel cause))

/-- Takes the content out of a window. -/
def unmountFrom (c : Coordinator α β) (chrome : Chrome α) : Chrome α × Coordinator α β :=
  let emptied := { chrome with slot := .empty }
  if chrome.slot.isMounted then
    match c.content.get? chrome.panel with
    | none => (emptied, c)
    | some source =>
      let (after, call) := source.unmount chrome.panel
      (emptied, { c with content := c.content.insert chrome.panel after }.recordCall after call)
  else (emptied, c)

/-- Takes down the window of a panel, if it has one. -/
def tearDown (c : Coordinator α β) (id : PanelId) : Coordinator α β :=
  match c.flyouts.get? id with
  | none => c
  | some chrome =>
    let (chrome, c) := { c with flyouts := c.flyouts.erase id }.unmountFrom chrome
    let o : Outcome α (Allocator × Overlay) Bool := c.stack.unregister chrome.toOverlay
    { c with stack := o.state.1 }.record o.effects

/-- Raises a window above all others. Gives its new value, if it is registered. -/
def raise (c : Coordinator α β) (chrome : Chrome α) : Option Int × Coordinator α β :=
  let o : Outcome α (Allocator × Overlay) (Option Int) := c.stack.bringToFront chrome.toOverlay
  (o.result,
    ({ c with stack := o.state.1 }.place { chrome with toOverlay := o.state.2 }).record o.effects)

/-- Opens a window: gives it a value above all others, mounts the content, and writes the geometry
into the store in one change. Gives the value. -/
def float (c : Coordinator α β) (chrome : Chrome α) : Int × Coordinator α β :=
  let id := chrome.panel
  let o : Outcome α (Allocator × Overlay) Int :=
    c.stack.register c.moment.now chrome.toOverlay .popup (c.stack.nextPriority .popup)
      { isolated := true, label := some id.text }
  let c := { c with stack := o.state.1 }.record o.effects
  let (chrome, c) := c.mountInto { chrome with toOverlay := o.state.2 }
  (o.result, (c.place chrome).amend id {
    placement := some .floating
    position := some (some chrome.position)
    size := some (some chrome.size)
    zIndex := some (some o.result)
    visible := some chrome.displayed
    mounted := some chrome.slot.isMounted })

/-- A new window with a handle of its own. -/
def newWindow (c : Coordinator α β) (id : PanelId) (title : String) (position : Point α)
    (size : Size α) (resizeHandle : Bool) : Chrome α × Coordinator α β :=
  let (handle, stack) := c.stack.newHandle
  ({ handle
     zIndex := none
     panel := id
     title
     position
     size
     displayed := true
     controls := { resizeHandle }
     slot := .empty
     returnPlacement := .docked }, { c with stack })

variable [Backend β α]

/-- Saves the panels now. Tells whether it worked. Of what the backend does, only its lines for the
log are kept. -/
def save (c : Coordinator α β) (occasion : Occasion) : Bool × Coordinator α β :=
  match c.backend with
  | none => (false, c)
  | some backend =>
    let snapshot := c.store.snapshot c.moment.now
    let o := Backend.save backend snapshot
    let accepted := o.result.isOk
    let c :=
      { c with backend := some o.state }.record (o.notices ++ [Effect.write snapshot accepted])
    match o.result with
    | .ok () => (true, c.note (.saved occasion snapshot.panels.length))
    | .error cause => (false, c.note (.saveFailed occasion cause))

/-- Saves the panels after a change of place, if that is wanted. -/
def persist (c : Coordinator α β) (occasion : Occasion) : Coordinator α β :=
  if c.saveOnTransition then (c.save occasion).2 else c

end Coordinator

end PanelDock
