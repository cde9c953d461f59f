import PanelDock.Coordinator.Basic
/-!
# Moving panels

A panel is docked, hidden, or floats in a window that is shown or closed. The operations here move
it from one to the other. Each checks first whether it applies and changes nothing if it does not.
-/

namespace PanelDock.Coordinator

variable {α β : Type} [Coordinate α] [Backend β α]

/-- Introduces a docked panel, with where its content comes from. The program breaks off if the
panel cannot be put behind the others of its dock. -/
def registerPanel (c : Coordinator α β) (id : PanelId) (title dock : String)
    (source : Option Source) : Attempt × Coordinator α β :=
  let o := c.store.create c.moment.now id dock (.titled title)
  let c := { c with store := o.state }.record o.effects
  if o.result = .done then
    match source with
    | none => (.done, c)
    | some source =>
      (.done,
        { c.note (.contentRegistered id source.kind) with content := c.content.insert id source })
  else (o.result, c)

/-- Gives a panel other content. In an open window, it takes the place of the old. -/
def setContent (c : Coordinator α β) (id : PanelId) (source : Source) : Bool × Coordinator α β :=
  if !c.store.contains id then (false, c.note (.contentForUnknown id))
  else match c.flyouts.get? id with
    | none => (true, { c with content := c.content.insert id source })
    | some chrome =>
      let (chrome, c) := c.unmountFrom chrome
      let (chrome, c) := { c with content := c.content.insert id source }.mountInto chrome
      (true, (c.place chrome).amend id { mounted := some chrome.slot.isMounted })

/-- Moves a panel out of its dock into a window. Gives the stacking value of the window. -/
def tryFlyOut (c : Coordinator α β) (id : PanelId) (options : FlyoutOptions α) :
    Except Refusal Int × Coordinator α β :=
  match c.store.get? id with
  | none => (.error (.unknownPanel id), c)
  | some panel =>
    if panel.isFloating then (.error (.alreadyFloating id), c)
    else
      let position := options.position.getD c.defaultPosition
      let size := options.size.getD c.settings.defaultSize
      let (chrome, c) := c.newWindow id (options.title.getD panel.title) position size
        (options.resizeHandle.getD c.settings.resizeHandle)
      let (z, c) := c.float { chrome with returnPlacement := panel.placement }
      (.ok z, (c.note (.flownOut id position size z panel.placement)).persist .flyOut)

/-- Moves a panel out of its dock into a window. -/
def flyOut (c : Coordinator α β) (id : PanelId)
    (options : FlyoutOptions α) : Bool × Coordinator α β :=
  settle .flyOut (c.tryFlyOut id options)

/-- Puts a floating panel back where it came from. -/
def tryDock (c : Coordinator α β) (id : PanelId) : Except Refusal Unit × Coordinator α β :=
  match c.store.get? id with
  | none => (.error (.unknownPanel id), c)
  | some panel =>
    if !panel.isFloating then (.error (.notFloating id panel.placement), c)
    else
      let placement := match c.flyouts.get? id with
        | some chrome => chrome.returnPlacement
        | none => .docked
      let c := ((c.dropGesture id).tearDown id).amend id {
        placement := some placement
        position := some none
        size := some none
        zIndex := some none
        visible := some (placement == .docked)
        mounted := some false }
      (.ok (), (c.note (.panelDocked id panel.dock placement)).persist .dock)

/-- Puts a floating panel back where it came from. -/
def dock (c : Coordinator α β) (id : PanelId) : Bool × Coordinator α β :=
  settle .dock (c.tryDock id)

/-- Closes a window. It and its content are kept, so that it can be shown again. -/
def tryCloseFlyout (c : Coordinator α β) (id : PanelId) : Except Refusal Unit × Coordinator α β :=
  match c.window id with
  | .error cause => (.error cause, c)
  | .ok chrome =>
    if !chrome.displayed then (.error (.alreadyClosed id), c)
    else
      let c := ((c.place { chrome with displayed := false }).dropGesture id).amend id
        { visible := some false }
      (.ok (), (c.note (.flyoutClosed id)).persist .closeFlyout)

/-- Closes a window. -/
def closeFlyout (c : Coordinator α β) (id : PanelId) : Bool × Coordinator α β :=
  settle .closeFlyout (c.tryCloseFlyout id)

/-- Shows a closed window again, and raises it if the settings say so. -/
def tryShowFlyout (c : Coordinator α β) (id : PanelId) : Except Refusal Unit × Coordinator α β :=
  match c.window id with
  | .error cause => (.error cause, c)
  | .ok chrome =>
    if chrome.displayed then (.error (.alreadyShown id), c)
    else
      let shown := { chrome with displayed := true }
      let (z, c) := if c.settings.focusOnShow then c.raise shown else (none, c.place shown)
      let c := c.amend id { visible := some true, zIndex := z.map some }
      (.ok (), (c.note (.flyoutShown id)).persist .showFlyout)

/-- Shows a closed window again. -/
def showFlyout (c : Coordinator α β) (id : PanelId) : Bool × Coordinator α β :=
  settle .showFlyout (c.tryShowFlyout id)

/-- Raises a window above all others. Gives its stacking value. -/
def tryFocusFlyout (c : Coordinator α β) (id : PanelId) : Except Refusal Int × Coordinator α β :=
  match c.window id with
  | .error cause => (.error cause, c)
  | .ok chrome =>
    if !chrome.displayed then (.error (.closed id), c)
    else match c.raise chrome with
      | (none, c) => (.error (.unstacked id), c)
      | (some z, c) => (.ok z, (c.amend id { zIndex := some (some z) }).note (.flyoutFocused id z))

/-- Raises a window above all others. -/
def focusFlyout (c : Coordinator α β) (id : PanelId) : Bool × Coordinator α β :=
  settle .focusFlyout (c.tryFocusFlyout id)

/-- Docks a floating panel, and lets any other float as the settings say. -/
def toggleFlyout (c : Coordinator α β) (id : PanelId) : Bool × Coordinator α β :=
  if c.isFlyingOut id then c.dock id else c.flyOut id {}

/-- Moves a panel between its dock and hiding. -/
def swapDocked (c : Coordinator α β) (id : PanelId) (old new : Placement) :
    Except Refusal Unit × Coordinator α β :=
  match c.store.get? id with
  | none => (.error (.unknownPanel id), c)
  | some panel =>
    if panel.placement ≠ old then (.error (.misplaced id panel.placement old), c)
    else
      let c := c.amend id { placement := some new, visible := some (new == .docked) }
      (.ok (), (c.note (.placementChanged id old new)).persist .placement)

/-- Hides a docked panel. -/
def hidePanel (c : Coordinator α β) (id : PanelId) : Bool × Coordinator α β :=
  settle .hidePanel (c.swapDocked id .docked .hidden)

/-- Puts a hidden panel back into its dock. -/
def showPanel (c : Coordinator α β) (id : PanelId) : Bool × Coordinator α β :=
  settle .showPanel (c.swapDocked id .hidden .docked)

/-- Removes a panel with all that belongs to it. -/
def destroyPanel (c : Coordinator α β) (id : PanelId) : Bool × Coordinator α β :=
  if !c.store.contains id then (false, c.note (.destroyUnknown id))
  else
    let c := (c.dropGesture id).tearDown id
    let o := c.store.remove id
    let c := { c with content := c.content.erase id, store := o.state }.record o.effects
    (true, (c.note (.panelDestroyed id)).persist .destroyPanel)

end PanelDock.Coordinator
