import PanelDock.Store
/-!
# Following a gesture

The tracker follows at most one gesture and streams its geometry into the store. Every sample is
measured from where the gesture began, so that a sample that is missed or comes twice adds no error.
Samples of other pointers are passed over, and positions that are no numbers never reach the store.
-/

namespace PanelDock

/-- The gesture in progress, if there is one. -/
structure Tracker (α : Type) where
  session : Option (Session α) := none
  listeners : Listeners := {}
  /-- No panel is made smaller than this. -/
  minSize : Size α

namespace Tracker

variable {α : Type} [Coordinate α]

/-- A tracker without a gesture. -/
def idle (minSize : Size α) : Tracker α := { minSize }

/-- Whether no gesture is in progress. -/
def isIdle (t : Tracker α) : Bool := t.session.isNone

/-- The panel that a gesture may begin on. -/
def startTarget (t : Tracker α) (store : Store α) (id : PanelId) (pointer : Pointer α)
    (grip : Grip) : Except Refusal (Panel α) :=
  if !pointer.position.isFinite then .error (.pointerNowhere id grip)
  else match t.session with
    | some active => .error (.busy id grip active.grip active.name active.panel)
    | none => match store.get? id with
      | none => .error (.unknownPanel id)
      | some panel =>
        if panel.isFloating then .ok panel else .error (.immovable id grip panel.placement)

/-- The gesture as it begins on a panel. -/
def openingGesture (panel : Panel α) (id : PanelId) : Grip → Except Refusal (Gesture α)
  | .drag => match panel.position with
    | some start => .ok (.drag start start)
    | none => .error (.noPosition id)
  | .resize => match panel.size with
    | some start => .ok (.resize start start)
    | none => .error (.noSize id)

/-- Begins a gesture of the pointer on a floating panel and gives the name of its session. -/
def start (t : Tracker α) (store : Store α) (token : UInt32) (id : PanelId) (pointer : Pointer α)
    (grip : Grip) : Outcome α (Tracker α) (Except Refusal String) :=
  match t.startTarget store id pointer grip with
  | .error cause => ⟨.error cause, t, []⟩
  | .ok panel => match openingGesture panel id grip with
    | .error cause => ⟨.error cause, t, []⟩
    | .ok gesture =>
      let name := Session.nameOf grip token
      let session : Session α :=
        { name, panel := id, pointer := pointer.number, origin := pointer.position, gesture }
      ⟨.ok name, { t with session := some session, listeners := t.listeners.attach },
        [.notice (.gestureStarted name grip id)]⟩

/-- The tracker when its gesture is over. -/
def ended (t : Tracker α) : Tracker α := { t with session := none, listeners := t.listeners.detach }

/-- What a sample of a pointer is worth. -/
inductive Reading (α : Type) where
  /-- It belongs to no gesture. -/
  | ignored
  /-- It belongs to the gesture, but lies nowhere. -/
  | nowhere (session : Session α)
  /-- The panel of the gesture is gone, or floats no more. -/
  | lost (session : Session α)
  /-- The gesture moves on to this. -/
  | accepted (session : Session α)

/-- Reads a sample: whether it belongs to the gesture, and where the gesture stands then. -/
def read (t : Tracker α) (store : Store α) (pointer : Pointer α) : Reading α :=
  match t.session with
  | none => .ignored
  | some session =>
    if session.pointer ≠ pointer.number then .ignored
    else if !pointer.position.isFinite then .nowhere session
    else if (store.get? session.panel).any Panel.isFloating then
      let (dx, dy) := pointer.position.deltaFrom session.origin
      .accepted { session with gesture := session.gesture.moved t.minSize dx dy }
    else .lost session

/-- Feeds a sample to the gesture and writes the geometry into the store. With `release` the gesture
ends there. Nothing comes of a sample that is not accepted; a gesture whose panel is gone ends. -/
def feed (t : Tracker α) (store : Store α) (now : Instant) (pointer : Pointer α) (release : Bool) :
    Outcome α (Tracker α × Store α) (Option (GeometryUpdate α)) :=
  match t.read store pointer with
  | .ignored => ⟨none, (t, store), []⟩
  | .nowhere session => ⟨none, (t, store), [.notice (.sampleNowhere session.name pointer.position)]⟩
  | .lost session => ⟨none, (t.ended, store), [.notice (.targetVanished session.panel)]⟩
  | .accepted session =>
    let update := session.gesture.update session.panel
    let written := store.update now session.panel update.patch
    let tracker := { t with session := some session }
    if release then
      ⟨some update, (tracker.ended, written.state),
        written.effects ++ [.notice (.gestureFinished session.name session.grip session.panel)]⟩
    else ⟨some update, (tracker, written.state), written.effects⟩

/-- Ends the gesture on a panel without writing anything. Tells whether there was one. -/
def dropTarget (t : Tracker α) (id : PanelId) : Outcome α (Tracker α) Bool :=
  match t.session with
  | none => ⟨false, t, []⟩
  | some session =>
    if session.panel = id then ⟨true, t.ended, [.notice (.gestureDropped session.name id)]⟩
    else ⟨false, t, []⟩

end Tracker

end PanelDock
