import PanelDock.Proofs.Coherence
import PanelDock.Proofs.Steps
/-!
# What an operation does

`Change` lists once and for all what an operation that succeeds leaves behind, move by move, as a
whole state; what an operation only does aside (the content, the backend, the journal) is left open
there. `Verdict` is the outcome of an operation: either the layout refuses the move, and then the
operation answers `false` and only adds lines to the journal, or it answers `true` and has made the
change of that move, and the panels are saved if the move is one that commits.
-/

namespace PanelDock

/-- Lies in its dock as it was put there: it can be seen, and has no geometry. -/
structure Panel.Untouched {α : Type} (p : Panel α) : Prop where
  docked : p.placement = .docked
  visible : p.visible = true
  unplaced : p.position = none
  unsized : p.size = none

/-- Whether the panels are to be saved after a move. -/
def Move.commits : Move → Bool
  | .flyOut _ _ | .dock _ | .close _ | .reveal _ | .hide _ | .unhide _ | .destroy _ => true
  | .sample _ _ release => release
  | .register _ _ | .refill _ | .focus _ | .grab _ _ _ _ => false

namespace Coordinator

variable {α β : Type} [Coordinate α]

/-- The change to the record of a panel that is docked, to where its window leads back. -/
def dockPatch (placement : Placement) : Panel.Patch α where
  placement := some placement
  position := some none
  size := some none
  zIndex := some none
  visible := some (placement == .docked)
  mounted := some false

/-- The state with the record of a panel changed. -/
def amended (c : Coordinator α β) (id : PanelId) (patch : Panel.Patch α) : Coordinator α β :=
  { c with store := (c.store.update c.moment.now id patch).state }

/-- The state with a window put in its place. -/
def placed (c : Coordinator α β) (w : Chrome α) : Coordinator α β :=
  { c with flyouts := c.flyouts.insert w.panel w }

/-- The state with the gesture on a panel ended. -/
def dropped (c : Coordinator α β) (id : PanelId) : Coordinator α β :=
  { c with tracker := (c.tracker.dropTarget id).state }

/-- The state with a handle given to a new window. -/
def handled (c : Coordinator α β) : Coordinator α β := { c with stack := c.stack.newHandle.2 }

/-- A new window of a panel, with the next handle. -/
def freshWindow (c : Coordinator α β) (id : PanelId) (title : String) (position : Point α)
    (size : Size α) (handle displayed : Bool) (returns : Placement) : Chrome α :=
  { (c.newWindow id title position size handle).1 with displayed, returnPlacement := returns }

/-- The session after a sample that it accepts. -/
def advanced (c : Coordinator α β) (s : Session α) (pointer : Pointer α) : Session α :=
  let (dx, dy) := pointer.position.deltaFrom s.origin
  { s with gesture := s.gesture.moved c.tracker.minSize dx dy }

/-- The state with a window raised for a gesture that has begun on it. -/
def held (c : Coordinator α β) (w : Chrome α) (s : Session α) (z : Int) : Coordinator α β :=
  let tracker := { c.tracker with session := some s, listeners := c.tracker.listeners.attach }
  { (c.raised w).amended s.panel { zIndex := some (some z) } with tracker }

/-- The session of a gesture that begins under a pointer. -/
def opened (name : String) (id : PanelId) (pointer : Pointer α) (gesture : Gesture α) : Session α :=
  { name, panel := id, pointer := pointer.number, origin := pointer.position, gesture }

/-- A session keeps its grip. -/
theorem advanced_grip (c : Coordinator α β) (s : Session α) (pointer : Pointer α) :
    (c.advanced s pointer).grip = s.grip := by
  rw [Session.grip, advanced, Session.grip]
  cases s.gesture <;> rfl

/-- The tracker after a sample that its session accepts. -/
def followed (c : Coordinator α β) (s : Session α) (pointer : Pointer α)
    (release : Bool) : Tracker α :=
  let tracker := { c.tracker with session := some (c.advanced s pointer) }
  if release then tracker.ended else tracker

/-- The geometry that a sample gives the panel of the session. -/
def geometryAt (c : Coordinator α β) (s : Session α) (pointer : Pointer α) : GeometryUpdate α :=
  (c.advanced s pointer).gesture.update s.panel

/-- What a move leaves behind when it succeeds. -/
inductive Change (c : Coordinator α β) : Move → Coordinator α β → Prop where
  | registered {id : PanelId} {p : Panel α} (new : c.store.get? id = none) (name : p.id = id)
      (fresh : p.Untouched) (content journal) :
      Change c (.register id false)
        { c with store := { c.store with panels := c.store.panels.insert id p }, content, journal }
  | refilledAside {id : PanelId} {p : Panel α} (known : c.store.get? id = some p)
      (bare : c.flyouts.get? id = none) (content) : Change c (.refill id) { c with content }
  | refilled {id : PanelId} {w : Chrome α}
      (hw : c.flyouts.get? id = some w) (slot content journal) :
      Change c (.refill id)
        { (c.placed { w with slot }).amended id { mounted := some slot.isMounted } with
          content, journal }
  | flownOut {id : PanelId} {p : Panel α} (hp : c.store.get? id = some p)
      (rests : p.placement ≠ .floating) (title position size handle slot content backend journal) :
      Change c (.flyOut id handle)
        { c.handled.floated (c.freshWindow id title position size handle true p.placement) slot with
          content, backend, journal }
  | docked {id : PanelId} {w : Chrome α}
      (hw : c.flyouts.get? id = some w) (content backend journal) :
      Change c (.dock id)
        { (c.discarded id).amended id (dockPatch w.returnPlacement) with content, backend, journal }
  | closed {id : PanelId} {w : Chrome α} (hw : c.flyouts.get? id = some w)
      (shown : w.displayed = true)
      (backend journal) :
      Change c (.close id)
        { ((c.placed { w with displayed := false }).dropped id).amended id
            { visible := some false } with
          backend, journal }
  | shown {id : PanelId} {w : Chrome α} (hw : c.flyouts.get? id = some w)
      (closed : w.displayed = false) (focus : c.settings.focusOnShow = false) (backend journal) :
      Change c (.reveal id)
        { (c.placed { w with displayed := true }).amended id { visible := some true } with
          backend, journal }
  | shownOnTop {id : PanelId} {w : Chrome α} (hw : c.flyouts.get? id = some w)
      (closed : w.displayed = false) (focus : c.settings.focusOnShow = true) {z : Int}
      (hz : (c.raising w).result = some z) (backend journal) :
      Change c (.reveal id)
        { (c.raised { w with displayed := true }).amended id
            { visible := some true, zIndex := some (some z) } with backend, journal }
  | focused {id : PanelId} {w : Chrome α} (hw : c.flyouts.get? id = some w)
      (shown : w.displayed = true) {z : Int} (hz : (c.raising w).result = some z) (journal) :
      Change c (.focus id) { (c.raised w).amended id { zIndex := some (some z) } with journal }
  | hidden {id : PanelId} {p : Panel α} (hp : c.store.get? id = some p)
      (was : p.placement = .docked)
      (backend journal) :
      Change c (.hide id)
        { c.amended id { placement := some .hidden, visible := some false } with backend, journal }
  | unhidden {id : PanelId} {p : Panel α} (hp : c.store.get? id = some p)
      (was : p.placement = .hidden)
      (backend journal) :
      Change c (.unhide id)
        { c.amended id { placement := some .docked, visible := some true } with backend, journal }
  | destroyed {id : PanelId} {p : Panel α}
      (hp : c.store.get? id = some p) (content backend journal) :
      Change c (.destroy id)
        { c.discarded id with store := (c.store.remove id).state, content, backend, journal }
  | grabbed {id : PanelId} {w : Chrome α} {p : Panel α} {grip : Grip} {pointer : Pointer α}
      {gesture : Gesture α} {z : Int} (hw : c.flyouts.get? id = some w)
      (hp : c.store.get? id = some p)
      (shown : w.displayed = true) (handle : grip = .resize → w.controls.resizeHandle = true)
      (idle : c.tracker.session = none) (opening : Tracker.openingGesture p id grip = .ok gesture)
      (hz : (c.raising w).result = some z) (name journal) :
      Change c (.grab id grip pointer.number true)
        { c.held w (opened name id pointer gesture) z with journal }
  | sampled {s : Session α} {w : Chrome α} {pointer : Pointer α} {release : Bool}
      (live : c.tracker.session = some s) (mine : s.pointer = pointer.number)
      (hw : c.flyouts.get? s.panel = some w) (backend journal) :
      Change c (.sample pointer.number true release)
        { (c.placed (reached w (c.geometryAt s pointer))).amended s.panel
          (c.geometryAt s pointer).patch with
          tracker := c.followed s pointer release
          backend, journal }

/-- The backend has been asked to save the panels as they are after the move, if the move commits
and saving is wanted; otherwise it was left alone. -/
def Booked [Backend β α] (c : Coordinator α β) (m : Move) (d : Coordinator α β) : Prop :=
  d.backend = if m.commits && c.saveOnTransition
    then filed c.backend (d.store.snapshot c.moment.now)
    else c.backend

/-- The outcome of an operation that makes a move. -/
inductive Verdict [Backend β α] (c : Coordinator α β) (m : Move) :
    Bool × Coordinator α β → Prop where
  | refused (es : List (Effect α)) (quiet : ∀ e ∈ es, e.isNotice = true)
      (stuck : c.layout.step m = none) :
      Verdict c m (false, c.record es)
  | done {d : Coordinator α β} (h : Change c m d) (booked : Booked c m d) : Verdict c m (true, d)

variable [Backend β α]

/-- A refusal without a line. -/
theorem Verdict.refused_bare {c : Coordinator α β} {m : Move} (stuck : c.layout.step m = none) :
    Verdict c m (false, c) := by
  have h := Verdict.refused (c := c) [] (by simp) stuck
  simpa [record] using h

/-- A refusal with one line. -/
theorem Verdict.refused_note {c : Coordinator α β} {m : Move} (n : Notice α)
    (stuck : c.layout.step m = none) : Verdict c m (false, c.note n) :=
  Verdict.refused [.notice n] (by simp [Effect.isNotice]) stuck

/-- Noting a refusal is nothing more than a line. -/
theorem Verdict.settle {ρ : Type} {c : Coordinator α β} {m : Move} (operation : Operation)
    {r : Except Refusal ρ × Coordinator α β} (h : Verdict c m (r.1.isOk, r.2)) :
    Verdict c m (settle operation r) := by
  obtain ⟨answer, d⟩ := r
  cases answer with
  | ok a => exact h
  | error cause =>
      cases h with
      | refused es quiet stuck =>
          -- the line about the refusal joins the lines that are there
          show Verdict c m (false, (c.record es).note (.refused operation cause))
          rw [note, record_record]
          refine Verdict.refused _ (fun e he => ?_) stuck
          rcases List.mem_append.mp he with he | he
          · exact quiet e he
          · rw [List.mem_singleton.mp he]; rfl

/-- A move that commits ends with saving. -/
theorem Verdict.persisted {c d : Coordinator α β} {m : Move} (occasion : Occasion)
    (h : ∀ backend journal, Change c m { d with backend, journal }) (commits : m.commits = true)
    (same : d.backend = c.backend ∧ d.saveOnTransition = c.saveOnTransition ∧ d.moment = c.moment) :
    Verdict c m (true, d.persist occasion) := by
  obtain ⟨hbackend, hwanted, hmoment⟩ := same
  have hbook := persist_backend d occasion
  obtain ⟨backend, journal, hs⟩ := persist_eq d occasion
  rw [hs] at hbook ⊢
  refine Verdict.done (h backend journal) ?_
  rw [Booked, commits, Bool.true_and, ← hbackend, ← hwanted, ← hmoment]
  exact hbook

end Coordinator

end PanelDock
