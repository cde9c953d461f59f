import PanelDock.Coordinator.Pointer
import PanelDock.Coordinator.Restore
/-!
# Carrying out actions

Every action has an operation of the coordinator that carries it out. Samples of the pointer in
actions belong to the first pointer.
-/

namespace PanelDock.Coordinator

variable {α β : Type} [Coordinate α] [Backend β α]

/-- A sample of the first pointer. -/
def firstPointer (position : Point α) : Pointer α := { position, number := 0 }

/-- The answer of an operation that the program survives. -/
def survived (r : Bool × Coordinator α β) : Attempt × Coordinator α β := (.of r.1, r.2)

/-- Carries out an action. Tells whether it took effect. -/
def execute (c : Coordinator α β) (action : Action α) : Attempt × Coordinator α β :=
  let c := c.note (.executing action.label)
  match action with
  | .registerPanel id title dock content => c.registerPanel id title dock (content.map .static)
  | .destroyPanel id => survived (c.destroyPanel id)
  | .flyOut id position size => survived (c.flyOut id { position, size })
  | .dock id => survived (c.dock id)
  | .toggleFlyout id => survived (c.toggleFlyout id)
  | .closeFlyout id => survived (c.closeFlyout id)
  | .showFlyout id => survived (c.showFlyout id)
  | .focusFlyout id => survived (c.focusFlyout id)
  | .hidePanel id => survived (c.hidePanel id)
  | .showPanel id => survived (c.showPanel id)
  | .beginDrag id origin => survived (c.beginDrag id (firstPointer origin))
  | .beginResize id origin => survived (c.beginResize id (firstPointer origin))
  | .pointerMove position =>
    let (update, c) := c.pointerMove (firstPointer position)
    (.of update.isSome, c)
  | .pointerUp position =>
    let (update, c) := c.pointerUp (firstPointer position)
    (.of update.isSome, c)
  | .saveAll => survived c.saveAll
  | .none => (.refused, c)

end PanelDock.Coordinator
