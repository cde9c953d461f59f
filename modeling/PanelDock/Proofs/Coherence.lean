import PanelDock.Proofs.Layout
import PanelDock.Proofs.Records
/-!
# When a coordinator is coherent

A coordinator keeps what it knows of a floating panel three times: in the record, on the window, and
with the stack that raises the window. A gesture on the panel is a fourth. `Coherent` says that the
four tell the same story, and it is what every operation has to leave behind:

* `paired` — a panel has a window exactly if its record says that it floats, and then window and
  record agree field by field;
* `stacked` — every window is registered under a handle of its own, at the value that it shows;
* `attended` — a gesture is on a window that is shown, and a resize on one with a handle;
* `measured` — gestures keep to the least size of the settings.

The operations look now at one of the four and now at another. That they come to the same answer
rests on all parts of this together.
-/

namespace PanelDock

variable {α β : Type} [Coordinate α]

/-- The window of a panel and its record say the same. -/
structure Mirrors (w : Chrome α) (p : Panel α) : Prop where
  placement : p.placement = .floating
  position : Agrees p.position w.position
  size : Agrees p.size w.size
  zIndex : ∃ z, p.zIndex = some z ∧ w.zIndex = some z
  visible : p.visible = w.displayed
  mounted : p.mounted = w.slot.isMounted
  /-- A window leads back to where the panel does not float. -/
  returns : w.returnPlacement ≠ .floating

/-- The window and the record that may stand under one name. -/
inductive Pairs (id : PanelId) : Option (Chrome α) → Option (Panel α) → Prop where
  | absent : Pairs id none none
  | resting {p : Panel α} (name : p.id = id) (rests : p.placement ≠ .floating) :
      Pairs id none (some p)
  | floating {w : Chrome α} {p : Panel α} (named : w.panel = id) (name : p.id = id)
      (same : Mirrors w p) :
      Pairs id (some w) (some p)

/-- Every window is registered, under a handle of its own that was given out before. -/
structure Stacked (flyouts : Catalog PanelId (Chrome α)) (stack : Allocator) : Prop where
  registered : ∀ id w, flyouts.get? id = some w →
    ∃ r, stack.registration? w.handle = some r ∧ w.zIndex = some r.zIndex
  apart : ∀ i j v w, flyouts.get? i = some v → flyouts.get? j = some w → v.handle = w.handle → i = j
  given : ∀ id w, flyouts.get? id = some w → w.handle.number < stack.nextHandle

/-- The gesture in progress is on a window that is shown and has what the gesture needs. -/
def Attended (flyouts : Catalog PanelId (Chrome α)) (session : Option (Session α)) : Prop :=
  ∀ s, session = some s → ∃ w, flyouts.get? s.panel = some w ∧ w.displayed = true ∧
    (s.grip = .resize → w.controls.resizeHandle = true)

namespace Coordinator

/-- Under every name stand a window and a record that agree. -/
def Paired (c : Coordinator α β) : Prop := ∀ id, Pairs id (c.flyouts.get? id) (c.store.get? id)

/-- Windows, records, stack and gesture tell the same story. -/
structure Coherent (c : Coordinator α β) : Prop where
  paired : c.Paired
  stacked : Stacked c.flyouts c.stack
  attended : Attended c.flyouts c.tracker.session
  measured : c.tracker.minSize = c.settings.minSize

/-- What is done aside does not matter. -/
theorem Coherent.aside {c : Coordinator α β} (h : c.Coherent) (content : Catalog PanelId Source)
    (backend : Option β) (moment : Moment) (journal : List (Effect α)) :
    Coherent { c with content, backend, moment, journal } :=
  ⟨h.paired, h.stacked, h.attended, h.measured⟩

theorem coherent_ofSettings (settings : Settings α) (backend : Option β) (moment : Moment) :
    Coherent (ofSettings settings backend moment) where
  paired := by intro id; exact Pairs.absent
  stacked := by
    refine ⟨?_, ?_, ?_⟩
    · intro id w h; exact absurd h (by simp [ofSettings])
    · intro i j v w h; exact absurd h (by simp [ofSettings])
    · intro id w h; exact absurd h (by simp [ofSettings])
  attended := by intro s h; exact absurd h (by simp [ofSettings, Tracker.idle])
  measured := rfl

namespace Paired

variable {c : Coordinator α β}

/-- The three things that a name can stand for. -/
theorem whereabouts (h : c.Paired) (id : PanelId) :
    (c.flyouts.get? id = none ∧ c.store.get? id = none) ∨
    (∃ p, c.flyouts.get? id = none ∧ c.store.get? id = some p ∧ p.id = id ∧
      p.placement ≠ .floating) ∨
    (∃ w p, c.flyouts.get? id = some w ∧ c.store.get? id = some p ∧ w.panel = id ∧ p.id = id ∧
      Mirrors w p) := by
  have hp := h id
  generalize hw : c.flyouts.get? id = window at hp
  generalize hr : c.store.get? id = record at hp
  cases hp with
  | absent => exact Or.inl ⟨rfl, rfl⟩
  | resting name rests => exact Or.inr (Or.inl ⟨_, rfl, rfl, name, rests⟩)
  | floating named name same => exact Or.inr (Or.inr ⟨_, _, rfl, rfl, named, name, same⟩)

/-- A record stands under the name of its panel. -/
theorem record_named (h : c.Paired) {id : PanelId} {p : Panel α} (hp : c.store.get? id = some p) :
    p.id = id := by
  rcases h.whereabouts id with ⟨_, hn⟩ | ⟨q, _, hq, name, _⟩ | ⟨_, q, _, hq, _, name, _⟩
  · exact absurd (hn.symm.trans hp) (by simp)
  · exact Option.some.inj (hq.symm.trans hp) ▸ name
  · exact Option.some.inj (hq.symm.trans hp) ▸ name

/-- Behind every window stands a record that mirrors it. -/
theorem record_of_window (h : c.Paired) {id : PanelId} {w : Chrome α}
    (hw : c.flyouts.get? id = some w) :
    ∃ p, c.store.get? id = some p ∧ w.panel = id ∧ p.id = id ∧ Mirrors w p := by
  rcases h.whereabouts id with ⟨hn, _⟩ | ⟨_, hn, _⟩ | ⟨v, p, hv, hp, named, name, same⟩
  · exact absurd (hn.symm.trans hw) (by simp)
  · exact absurd (hn.symm.trans hw) (by simp)
  · obtain rfl : v = w := Option.some.inj (hv.symm.trans hw)
    exact ⟨p, hp, named, name, same⟩

/-- A window carries the name under which it stands. -/
theorem window_named (h : c.Paired) {id : PanelId} {w : Chrome α}
    (hw : c.flyouts.get? id = some w) :
    w.panel = id := by
  obtain ⟨_, _, named, _, _⟩ := h.record_of_window hw
  exact named

/-- Where no record is, or one of a panel that rests, no window is. -/
theorem no_window (h : c.Paired) {id : PanelId}
    (hr : ∀ p, c.store.get? id = some p → p.placement ≠ .floating) : c.flyouts.get? id = none := by
  rcases h.whereabouts id with ⟨hn, _⟩ | ⟨_, hn, _⟩ | ⟨w, p, _, hp, _, _, same⟩
  · exact hn
  · exact hn
  · exact absurd same.placement (hr p hp)

/-- A panel that rests has no window. -/
theorem no_window_of_rests (h : c.Paired) {id : PanelId} {p : Panel α}
    (hp : c.store.get? id = some p) (rests : p.placement ≠ .floating) : c.flyouts.get? id = none :=
  h.no_window (fun _ hq => Option.some.inj (hp.symm.trans hq) ▸ rests)

/-- A panel rests in a place exactly if its record says so. -/
theorem station_resting_iff (h : c.Paired) (id : PanelId) {placement : Placement}
    (hpl : placement ≠ .floating) :
    c.station id = some (.resting placement) ↔ ∃ p, c.store.get? id = some p ∧
      p.placement = placement := by
  rcases h.whereabouts id with ⟨_, hp⟩ | ⟨p, _, hp, _, rests⟩ | ⟨w, p, hw, hp, _, _, same⟩
  · rw [station_of_none hp, hp]
    simp
  · rw [station_of_resting hp rests, hp]
    simp
  · rw [station_of_window hw hp same.placement, hp]
    simp [same.placement, hpl.symm]

/-- An operation on a window finds it exactly where the layout has a window. -/
theorem window_cases (h : c.Paired) (id : PanelId) :
    (∃ cause, c.window id = .error cause ∧
      ∀ returns shown handle, c.layout.station id ≠ some (.floating returns shown handle)) ∨
    (∃ w p, c.window id = .ok w ∧ c.flyouts.get? id = some w ∧ c.store.get? id = some p ∧
      w.panel = id ∧ Mirrors w p ∧
      c.layout.station id =
        some (.floating w.returnPlacement w.displayed w.controls.resizeHandle)) := by
  rcases h.whereabouts id with ⟨hw, hp⟩ | ⟨p, hw, hp, _, rests⟩ | ⟨w, p, hw, hp, named, _, same⟩
  · refine Or.inl ⟨.unknownPanel id, ?_, ?_⟩
    · rw [window, Store.contains_eq, hp]
      rfl
    · intro returns shown handle
      rw [show c.layout.station id = none from station_of_none hp]
      simp
  · refine Or.inl ⟨.noWindow id, ?_, ?_⟩
    · rw [window, Store.contains_eq, hp, hw]
      rfl
    · intro returns shown handle
      rw [show c.layout.station id = _ from station_of_resting hp rests]
      simp
  · refine Or.inr ⟨w, p, ?_, hw, hp, named, same, station_of_window hw hp same.placement⟩
    rw [window, Store.contains_eq, hp, hw]
    rfl

/-- A panel counts as floating exactly if it has a station in a window. -/
theorem isFlyingOut_eq (h : c.Paired) (id : PanelId) :
    c.isFlyingOut id = (c.layout.station id).any Station.floats := by
  rw [isFlyingOut, Catalog.contains]
  rcases h.whereabouts id with ⟨hw, hp⟩ | ⟨p, hw, hp, _, rests⟩ | ⟨w, p, hw, hp, _, _, same⟩
  · rw [show c.layout.station id = none from station_of_none hp, hw]
    rfl
  · rw [show c.layout.station id = _ from station_of_resting hp rests, hw]
    rfl
  · rw [show c.layout.station id = _ from station_of_window hw hp same.placement, hw, hp,
      Option.any_some, p.isFloating_iff.mpr same.placement]
    rfl

end Paired

end Coordinator

end PanelDock
