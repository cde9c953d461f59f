import PanelDock.Coordinator.Execute
/-!
# The layout of panels

What a user keeps in mind of a coordinator is small: each panel rests in its dock or in hiding, or
floats in a window that is shown or closed and knows where to return; and one panel may be held by a
pointer. A `Layout` is that picture, and a `Move` is what can be done to it. `Layout.step` is the
whole machine: it refuses a move that does not apply, and otherwise gives the picture afterwards.

`Coordinator.layout` is the picture that a coordinator shows.
-/

namespace PanelDock

/-- Where a panel is, as far as moving it goes. -/
inductive Station where
  /-- In its dock, or hidden. -/
  | resting (placement : Placement)
  /-- In a window, with the place it returns to. -/
  | floating (returns : Placement) (shown handle : Bool)
deriving DecidableEq, Repr

namespace Station

/-- Whether the panel is in a window. -/
def floats : Station → Bool
  | resting _ => false
  | floating _ _ _ => true

end Station

/-- A pointer that drags or resizes a panel. -/
structure Hold where
  panel : PanelId
  grip : Grip
  pointer : Nat
deriving DecidableEq, Repr

/-- Where all panels are, and which one is held. -/
@[ext] structure Layout where
  station : PanelId → Option Station
  hold : Option Hold

/-- What can be done to a layout. The dock for a new panel may be shut, and a sample of a pointer
may lie nowhere. -/
inductive Move where
  | register (id : PanelId) (shut : Bool)
  | refill (id : PanelId)
  | flyOut (id : PanelId) (handle : Bool)
  | dock (id : PanelId)
  | close (id : PanelId)
  | reveal (id : PanelId)
  | focus (id : PanelId)
  | hide (id : PanelId)
  | unhide (id : PanelId)
  | destroy (id : PanelId)
  | grab (id : PanelId) (grip : Grip) (pointer : Nat) (somewhere : Bool)
  | sample (pointer : Nat) (somewhere release : Bool)
deriving DecidableEq, Repr

/-- The move where the dock for a new panel is also shut if it is full. -/
def Move.shutIf (full : Bool) : Move → Move
  | .register id shut => .register id (shut || full)
  | m => m

theorem Move.shutIf_false (m : Move) : m.shutIf false = m := by
  cases m with
  | register id shut => exact congrArg _ (Bool.or_false shut)
  | _ => rfl

namespace Layout

/-- The layout with a panel put elsewhere, or taken away. -/
def put (l : Layout) (id : PanelId) (station : Option Station) : Layout :=
  { l with station := fun i => if i = id then station else l.station i }

/-- The layout with a panel no longer held. -/
def letGo (l : Layout) (id : PanelId) : Layout :=
  { l with hold := l.hold.filter (fun h => decide (h.panel ≠ id)) }

/-- The layout after a move, if the move applies. -/
def step (l : Layout) : Move → Option Layout
  | .register id shut =>
    if l.station id = none ∧ shut = false then some (l.put id (some (.resting .docked))) else none
  | .refill id => if (l.station id).isSome then some l else none
  | .flyOut id handle => match l.station id with
    | some (.resting placement) => some (l.put id (some (.floating placement true handle)))
    | _ => none
  | .dock id => match l.station id with
    | some (.floating returns _ _) => some ((l.letGo id).put id (some (.resting returns)))
    | _ => none
  | .close id => match l.station id with
    | some (.floating returns true handle) =>
      some ((l.letGo id).put id (some (.floating returns false handle)))
    | _ => none
  | .reveal id => match l.station id with
    | some (.floating returns false handle) =>
        some (l.put id (some (.floating returns true handle)))
    | _ => none
  | .focus id => match l.station id with
    | some (.floating _ true _) => some l
    | _ => none
  | .hide id =>
    if l.station id = some (.resting .docked)
      then some (l.put id (some (.resting .hidden))) else none
  | .unhide id =>
    if l.station id = some (.resting .hidden)
      then some (l.put id (some (.resting .docked))) else none
  | .destroy id => if (l.station id).isSome then some ((l.letGo id).put id none) else none
  | .grab id grip pointer somewhere => match l.station id with
    | some (.floating _ true handle) =>
      if l.hold = none ∧ somewhere = true ∧ (grip = .resize → handle = true) then
        some { l with hold := some { panel := id, grip, pointer } }
      else none
    | _ => none
  | .sample pointer somewhere release => match l.hold with
    | some h =>
      if h.pointer = pointer ∧ somewhere = true then
        some (if release then { l with hold := none } else l)
      else none
    | none => none

@[grind =] theorem put_station (l : Layout) (id : PanelId) (station : Option Station)
    (i : PanelId) :
    (l.put id station).station i = if i = id then station else l.station i := rfl

@[grind =] theorem put_hold (l : Layout) (id : PanelId) (station : Option Station) :
    (l.put id station).hold = l.hold := rfl

@[grind =] theorem letGo_station (l : Layout) (id : PanelId) :
    (l.letGo id).station = l.station := rfl

@[grind =] theorem letGo_hold_eq_some (l : Layout) (id : PanelId) (h : Hold) :
    (l.letGo id).hold = some h ↔ l.hold = some h ∧ h.panel ≠ id := by
  rw [letGo, Option.filter_eq_some_iff, decide_eq_true_iff]

@[simp] theorem put_here (l : Layout) (id : PanelId) (station : Option Station) :
    (l.put id station).station id = station := if_pos rfl

/-- A move that applies where a full dock is shut is the same move without a look at the dock. -/
theorem shutIf_eq_of_step {l : Layout} {m : Move} {full : Bool}
    (h : (l.step (m.shutIf full)).isSome = true) : m.shutIf full = m := by
  cases m with
  | register id shut =>
      rw [Move.shutIf, step] at h
      split at h
      · rename_i happlies
        obtain ⟨hshut, hfull⟩ := Bool.or_eq_false_iff.mp happlies.2
        rw [hshut, hfull]
        rfl
      · cases h
  | _ => rfl

theorem step_flyOut {l : Layout} {id : PanelId} {placement : Placement}
    (h : l.station id = some (.resting placement)) (handle : Bool) :
    l.step (.flyOut id handle) = some (l.put id (some (.floating placement true handle))) := by
  rw [step, h]

theorem step_hide {l : Layout} {id : PanelId} (h : l.station id = some (.resting .docked)) :
    l.step (.hide id) = some (l.put id (some (.resting .hidden))) := if_pos h

theorem step_unhide {l : Layout} {id : PanelId} (h : l.station id = some (.resting .hidden)) :
    l.step (.unhide id) = some (l.put id (some (.resting .docked))) := if_pos h

theorem step_sample {l : Layout} {h : Hold} (held : l.hold = some h) (release : Bool) :
    l.step (.sample h.pointer true release) =
      some (if release then { l with hold := none } else l) := by
  rw [step, held]
  exact if_pos ⟨rfl, rfl⟩

section Windows

variable {l : Layout} {id : PanelId} {returns : Placement} {shown handle : Bool}

theorem step_dock (h : l.station id = some (.floating returns shown handle)) :
    l.step (.dock id) = some ((l.letGo id).put id (some (.resting returns))) := by
  rw [step, h]

theorem step_close (h : l.station id = some (.floating returns true handle)) :
    l.step (.close id) = some ((l.letGo id).put id (some (.floating returns false handle))) := by
  rw [step, h]

theorem step_reveal (h : l.station id = some (.floating returns false handle)) :
    l.step (.reveal id) = some (l.put id (some (.floating returns true handle))) := by
  rw [step, h]

theorem step_focus (h : l.station id = some (.floating returns true handle)) :
    l.step (.focus id) = some l := by
  rw [step, h]

theorem step_grab {grip : Grip} (h : l.station id = some (.floating returns true handle))
    (idle : l.hold = none) (able : grip = .resize → handle = true) (pointer : Nat) :
    l.step (.grab id grip pointer true) =
      some { l with hold := some { panel := id, grip, pointer } } := by
  rw [step, h]
  exact if_pos ⟨idle, rfl, able⟩

/-- What is done to windows is refused where there is none. -/
theorem step_without_window
    (h : ∀ returns shown handle, l.station id ≠ some (.floating returns shown handle)) :
    l.step (.dock id) = none ∧ l.step (.close id) = none ∧ l.step (.reveal id) = none ∧
      l.step (.focus id) = none ∧
      ∀ grip pointer somewhere, l.step (.grab id grip pointer somewhere) = none := by
  cases hst : l.station id with
  | none => simp [step, hst]
  | some station =>
      cases station with
      | resting placement => simp [step, hst]
      | floating returns shown handle => exact absurd hst (h returns shown handle)

end Windows

end Layout

namespace Coordinator

variable {α β : Type}

/-- Where a panel is. -/
def station (c : Coordinator α β) (id : PanelId) : Option Station :=
  (c.store.get? id).map (fun p => match p.placement, c.flyouts.get? id with
    | .floating, some w => .floating w.returnPlacement w.displayed w.controls.resizeHandle
    | placement, _ => .resting placement)

theorem station_of_none {c : Coordinator α β} {id : PanelId} (h : c.store.get? id = none) :
    c.station id = none := by
  rw [station, h, Option.map_none]

theorem station_of_resting {c : Coordinator α β} {id : PanelId} {p : Panel α}
    (h : c.store.get? id = some p) (hp : p.placement ≠ .floating) :
    c.station id = some (.resting p.placement) := by
  rw [station, h, Option.map_some]
  split
  · rename_i hfl _; exact absurd hfl hp
  · rfl

theorem station_of_window {c : Coordinator α β} {id : PanelId} {w : Chrome α} {p : Panel α}
    (hw : c.flyouts.get? id = some w) (hp : c.store.get? id = some p)
    (h : p.placement = .floating) :
    c.station id = some (.floating w.returnPlacement w.displayed w.controls.resizeHandle) := by
  rw [station, hp, hw, Option.map_some, h]

theorem station_ne_none {c : Coordinator α β} {id : PanelId} {p : Panel α}
    (h : c.store.get? id = some p) : c.station id ≠ none := by
  rw [station, h, Option.map_some]
  exact Option.some_ne_none _

/-- The picture that a coordinator shows of its panels. -/
def layout (c : Coordinator α β) : Layout where
  station := c.station
  hold :=
    c.tracker.session.map (fun s => { panel := s.panel, grip := s.grip, pointer := s.pointer })

theorem layout_hold (c : Coordinator α β) :
    c.layout.hold = c.tracker.session.map
      (fun s => { panel := s.panel, grip := s.grip, pointer := s.pointer }) := rfl

end Coordinator

end PanelDock
