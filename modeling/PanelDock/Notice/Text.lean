import PanelDock.Notice.Basic
import PanelDock.Log
/-!
# The wording of notices

`Notice.line` gives a notice its level, its channel, its message and its fields. Texts that the user
chose stand bare; names that the program gives stand in quotes.
-/

namespace PanelDock

open Log (Level Line)

namespace Operation

/-- The name of an operation. -/
def name : Operation → String
  | flyOut => "fly_out"
  | dock => "dock"
  | closeFlyout => "close_flyout"
  | showFlyout => "show_flyout"
  | focusFlyout => "focus_flyout"
  | hidePanel => "hide_panel"
  | showPanel => "show_panel"
  | beginDrag => "begin_drag"
  | beginResize => "begin_resize"

end Operation

namespace Occasion

/-- The name of an occasion. -/
def name : Occasion → String
  | flyOut => "fly_out"
  | dock => "dock"
  | closeFlyout => "close_flyout"
  | showFlyout => "show_flyout"
  | placement => "placement"
  | destroyPanel => "destroy_panel"
  | pointerUp => "pointer_up"
  | restore => "restore"
  | saveAll => "save_all"

end Occasion

/-- How a region of a window is shown when it is inspected. -/
def Hit.inspected : Hit → String
  | .titleBar => "TitleBar"
  | .dockButton => "DockButton"
  | .closeButton => "CloseButton"
  | .resizeHandle => "ResizeHandle"
  | .content => "Content"

namespace Notice

open Log.Channel

variable {α : Type}

/-- The line of a notice; `number` shows a coordinate. -/
def line (number : α → String) : Notice α → Line
  | dockMissing p =>
    ⟨.warn, storeOperations, "refusing to create descriptor without a dock", [("panel", p.text)]⟩
  | panelExists p => ⟨.warn, storeOperations, "descriptor already exists", [("panel", p.text)]⟩
  | createdDocked p =>
    ⟨.warn, storeOperations, "panels are created docked; use the coordinator to float",
      [("panel", p.text)]⟩
  | panelCreated p dock order =>
    ⟨.debug, storeOperations, "descriptor created",
      [("panel", p.text), ("dock", dock), ("order", toString order)]⟩
  | updateIgnored p =>
    ⟨.debug, storeOperations, "update for unknown descriptor ignored", [("panel", p.text)]⟩
  | dockKept p => ⟨.warn, storeOperations, "ignoring attempt to clear dock id", [("panel", p.text)]⟩
  | panelRemoved p => ⟨.debug, storeOperations, "descriptor removed", [("panel", p.text)]⟩
  | savedPanelSkipped p =>
    ⟨.warn, storeSnapshots, "skipping persisted panel without a dock", [("panel", p.text)]⟩
  | imported count total =>
    ⟨.info, storeSnapshots, "store imported from snapshot",
      [("imported", toString count), ("total", toString total)]⟩
  | gapRaised gap least =>
    ⟨.warn, stackSettings, "front gap too small, raising to minimum",
      [("gap", toString gap), ("min", toString least)]⟩
  | unknownLayer layer handle =>
    ⟨.error, stackOperations, "unknown z-index layer",
      [("layer", Text.quoted layer), ("handle", toString handle)]⟩
  | clamped cause =>
    ⟨.warn, stackOperations, "clamping z-index to layer max", [("error", cause.message)]⟩
  | overlayRegistered handle layer z =>
    ⟨.debug, stackOperations, "overlay registered",
      [("handle", toString handle), ("layer", layer.name), ("z_index", toString z)]⟩
  | raiseUnregistered handle =>
    ⟨.warn, stackOperations, "bring_to_front on unregistered overlay",
      [("handle", toString handle)]⟩
  | atCeiling handle layer z =>
    ⟨.warn, stackOperations, "overlay already at layer ceiling",
      [("handle", toString handle), ("layer", layer.name), ("z_index", toString z)]⟩
  | overlayRaised handle layer old new =>
    ⟨.debug, stackOperations, "overlay brought to front",
      [("handle", toString handle), ("layer", layer.name), ("from", toString old),
        ("to", toString new)]⟩
  | overlayReleased handle layer =>
    ⟨.debug, stackOperations, "overlay unregistered",
      [("handle", toString handle), ("layer", layer.name)]⟩
  | releaseUnregistered handle =>
    ⟨.warn, stackOperations, "unregister on unknown overlay", [("handle", toString handle)]⟩
  | gestureStarted session grip p =>
    ⟨.debug, gestures, "interaction started",
      [("session", session), ("kind", grip.name), ("panel", p.text)]⟩
  | gestureFinished session grip p =>
    ⟨.info, gestures, "interaction finished",
      [("session", session), ("kind", grip.name), ("panel", p.text)]⟩
  | gestureDropped session p =>
    ⟨.debug, gestures, "session target removed", [("session", session), ("panel", p.text)]⟩
  | sampleNowhere session position =>
    ⟨.warn, gestures, "ignoring non-finite pointer position",
      [("session", session), ("x", number position.x), ("y", number position.y)]⟩
  | targetVanished p =>
    ⟨.warn, gestures, "interaction target vanished, ending session", [("panel", p.text)]⟩
  | contentRegistered p kind =>
    ⟨.debug, transitions, "content source registered",
      [("panel", p.text), ("kind", Text.quoted kind)]⟩
  | contentForUnknown p => ⟨.warn, transitions, "set_content on unknown panel", [("panel", p.text)]⟩
  | flownOut p position size z origin =>
    ⟨.info, transitions, "panel flown out",
      [("panel", p.text), ("x", number position.x), ("y", number position.y),
       ("width", number size.width), ("height", number size.height), ("z_index", toString z),
       ("from", origin.name)]⟩
  | panelDocked p dock placement =>
    ⟨.info, transitions, "panel docked",
      [("panel", p.text), ("dock", dock), ("placement", placement.name)]⟩
  | flyoutClosed p => ⟨.info, transitions, "flyout closed", [("panel", p.text)]⟩
  | flyoutShown p => ⟨.info, transitions, "flyout shown", [("panel", p.text)]⟩
  | flyoutFocused p z =>
    ⟨.debug, transitions, "flyout focused", [("panel", p.text), ("z_index", toString z)]⟩
  | destroyUnknown p => ⟨.warn, transitions, "destroy_panel on unknown panel", [("panel", p.text)]⟩
  | panelDestroyed p => ⟨.info, transitions, "panel destroyed", [("panel", p.text)]⟩
  | placementChanged p old new =>
    ⟨.info, transitions, "panel placement changed",
      [("panel", p.text), ("from", old.name), ("to", new.name)]⟩
  | mountFailed p cause =>
    ⟨.warn, transitions, "content mount failed", [("panel", p.text), ("error", cause.message)]⟩
  | pressed p hit =>
    ⟨.debug, presses, "pointer down on chrome", [("panel", p.text), ("hit", hit.inspected)]⟩
  | refused operation cause =>
    ⟨.warn, refusals, "flyout operation rejected",
      [("operation", Text.quoted operation.name), ("error", cause.message)]⟩
  | executing label => ⟨.debug, actions, "executing action", [("action", Text.quoted label)]⟩
  | nothingToRestoreFrom => ⟨.debug, restoring, "no persistence backend, nothing to restore", []⟩
  | nothingSaved location => ⟨.debug, restoring, "no saved panel state", [("location", location)]⟩
  | restoreFailed location cause =>
    ⟨.error, restoring, "failed to read saved panel state",
      [("location", location), ("error", cause.message)]⟩
  | snapshotRejected location cause =>
    ⟨.error, restoring, "saved panel state rejected",
      [("location", location), ("error", cause.message)]⟩
  | flyoutRecreated p z visible =>
    ⟨.debug, restoring, "saved flyout recreated",
      [("panel", p.text), ("z_index", toString z), ("visible", toString visible)]⟩
  | restored location count reopened =>
    ⟨.info, restoring, "panel state restored",
      [("location", location), ("imported", toString count), ("reopened", toString reopened)]⟩
  | nowhereToSave => ⟨.warn, restoring, "save_all requested without a persistence backend", []⟩
  | saved occasion panels =>
    ⟨.debug, restoring, "panel state saved",
      [("reason", Text.quoted occasion.name), ("panels", toString panels)]⟩
  | saveFailed occasion cause =>
    ⟨.error, restoring, "failed to save panel state",
      [("reason", Text.quoted occasion.name), ("error", cause.message)]⟩
  | fileWritten path panels =>
    ⟨.debug, stateFile, "panel state saved", [("path", path), ("panels", toString panels)]⟩
  | fileMissing path => ⟨.debug, stateFile, "no saved panel state", [("path", path)]⟩
  | writtenInPlace path =>
    ⟨.warn, settingsWriter, "atomic rename failed, writing in place", [("path", path)]⟩

end Notice

end PanelDock
