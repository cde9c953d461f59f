import PanelDock.Coordinator.Basic
/-!
# Restoring panels

A saved snapshot is put over the panels that are known, and every panel that floats then gets a
window at its saved geometry. A window that was closed comes back closed, and all of them return to
their docks.
-/

namespace PanelDock.Coordinator

variable {α β : Type} [Coordinate α]

/-- Takes down the window of a panel and ends the gesture on it. -/
def discard (c : Coordinator α β) (id : PanelId) : Coordinator α β := (c.dropGesture id).tearDown id

/-- Opens the window of a panel that floats according to its record. -/
def reopen (c : Coordinator α β) (panel : Panel α) : Coordinator α β :=
  let c := c.discard panel.id
  let position := panel.position.getD c.defaultPosition
  let size := panel.size.getD c.settings.defaultSize
  let (chrome, c) := c.newWindow panel.id panel.title position size c.settings.resizeHandle
  let (z, c) := c.float { chrome with displayed := panel.visible }
  c.note (.flyoutRecreated panel.id z panel.visible)

/-- Brings the windows in line with the store: those of panels that float no more are taken down,
and those of all floating panels are opened anew. Gives their number. -/
def rebuild (c : Coordinator α β) : Nat × Coordinator α β :=
  let stale := c.flyouts.keys.filter (fun id => !(c.store.get? id).any Panel.isFloating)
  let c := stale.foldl discard c
  let floating := c.store.list { placement := some .floating }
  (floating.length, floating.foldl reopen c)

variable [Backend β α]

/-- Restores the saved panels. Gives the number of panels that were taken from the snapshot. -/
def restore (c : Coordinator α β) : Nat × Coordinator α β :=
  match c.backend with
  | none => (0, c.note .nothingToRestoreFrom)
  | some backend =>
    let location := Backend.location backend
    let o := Backend.restore backend
    let c := { c with backend := some o.state }.record o.notices
    match o.result with
    | .error cause => (0, c.note (.restoreFailed location cause))
    | .ok none => (0, c.note (.nothingSaved location))
    | .ok (some snapshot) =>
      let imported := c.store.import? snapshot
      match imported.result with
      | .error cause => (0, c.note (.snapshotRejected location cause))
      | .ok count =>
        let (reopened, c) := ({ c with store := imported.state }.record imported.effects).rebuild
        (count, ((c.note (.restored location count reopened)).save .restore).2)

/-- Saves the panels now, whatever the settings say. -/
def saveAll (c : Coordinator α β) : Bool × Coordinator α β :=
  match c.backend with
  | none => (false, c.note .nowhereToSave)
  | some _ => c.save .saveAll

end PanelDock.Coordinator
