import PanelDock.Coordinator.Transitions
/-!
# The pointer

Gestures on windows. The geometry that a gesture reaches is written into the store and onto the
window.
-/

namespace PanelDock.Coordinator

variable {α β : Type} [Coordinate α] [Backend β α]

/-- Begins a gesture on a window that is shown, and raises the window. -/
def tryBegin (c : Coordinator α β) (id : PanelId) (pointer : Pointer α) (grip : Grip) :
    Except Refusal Unit × Coordinator α β :=
  match c.window id with
  | .error cause => (.error cause, c)
  | .ok chrome =>
    if !chrome.displayed then (.error (.closed id), c)
    else if grip = .resize ∧ !chrome.controls.resizeHandle then (.error (.noResizeHandle id), c)
    else
      let o := c.tracker.start c.store c.moment.token id pointer grip
      match o.result with
      | .error cause => (.error cause, c)
      | .ok _ =>
        let (z, c) := ({ c with tracker := o.state }.record o.effects).raise chrome
        match z with
        | none => (.ok (), c)
        | some z => (.ok (), c.amend id { zIndex := some (some z) })

/-- Begins to drag a window by its title bar. -/
def beginDrag (c : Coordinator α β) (id : PanelId) (pointer : Pointer α) : Bool × Coordinator α β :=
  settle .beginDrag (c.tryBegin id pointer .drag)

/-- Begins to resize a window by its handle. -/
def beginResize (c : Coordinator α β) (id : PanelId)
    (pointer : Pointer α) : Bool × Coordinator α β :=
  settle .beginResize (c.tryBegin id pointer .resize)

/-- Gives the window of a panel the geometry that its gesture has reached. -/
def follow (c : Coordinator α β) (update : GeometryUpdate α) : Coordinator α β :=
  match c.flyouts.get? update.panel with
  | none => c
  | some chrome => match update with
    | .moved _ position => c.place { chrome with position }
    | .resized _ size => c.place { chrome with size }

/-- Feeds a sample of the pointer to the gesture in progress; with `release` the gesture ends there.
-/
def feed (c : Coordinator α β) (pointer : Pointer α) (release : Bool) :
    Option (GeometryUpdate α) × Coordinator α β :=
  let o := c.tracker.feed c.store c.moment.now pointer release
  let c := { c with tracker := o.state.1, store := o.state.2 }.record o.effects
  match o.result with
  | none => (none, c)
  | some update => (some update, c.follow update)

/-- The pointer has moved. -/
def pointerMove (c : Coordinator α β) (pointer : Pointer α) :
    Option (GeometryUpdate α) × Coordinator α β :=
  c.feed pointer false

/-- The pointer is released; the geometry that it has reached is saved. -/
def pointerUp (c : Coordinator α β) (pointer : Pointer α) :
    Option (GeometryUpdate α) × Coordinator α β :=
  match c.feed pointer true with
  | (none, c) => (none, c)
  | (some update, c) => (some update, c.persist .pointerUp)

/-- A window under the pointer, with its stacking value and the region that was hit. -/
structure Candidate where
  zIndex : Int
  panel : PanelId
  hit : Hit
deriving DecidableEq, Repr

/-- The windows under a point, by the names of their panels. -/
def candidates (c : Coordinator α β) (point : Point α) : List Candidate :=
  c.flyouts.values.filterMap (fun chrome => (chrome.hitAt? point).map (fun hit =>
    { zIndex := chrome.zIndex.getD (-2147483648), panel := chrome.panel, hit }))

/-- The candidate that lies on top; of two with one value, the later. -/
def topmost? (candidates : List Candidate) : Option Candidate :=
  candidates.foldl (fun best? candidate => match best? with
    | none => some candidate
    | some best => if best.zIndex ≤ candidate.zIndex then some candidate else some best) none

/-- The pointer is pressed. The topmost window under it is dragged, resized, docked, closed or
raised, by the region that was hit. -/
def pointerDown (c : Coordinator α β) (pointer : Pointer α) :
    Option (PanelId × Hit) × Coordinator α β :=
  match topmost? (c.candidates pointer.position) with
  | none => (none, c)
  | some { panel, hit, .. } =>
    let c := c.note (.pressed panel hit)
    let (_, c) := match hit with
      | .titleBar => c.beginDrag panel pointer
      | .resizeHandle => c.beginResize panel pointer
      | .dockButton => c.dock panel
      | .closeButton => c.closeFlyout panel
      | .content => c.focusFlyout panel
    (some (panel, hit), c)

end PanelDock.Coordinator
