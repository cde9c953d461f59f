import PanelDock.Coordinator.Execute
import PanelDock.Proofs.Catalog
/-!
# What the small steps leave behind

The operations of a coordinator are made of a few small steps, and most of what a step does is aside
from the windows and records: it calls a provider, writes a line, saves a snapshot. Each equation
here gives the whole state after a step. What was only done aside is left open, and everything else
is said.
-/

namespace PanelDock

/-- A gesture leaves the dock of its panel alone. -/
theorem GeometryUpdate.patch_dock {α : Type} (update : GeometryUpdate α) :
    update.patch.dock = none := by
  cases update <;> rfl

theorem Allocator.clamp_eq_min (layer : Layer) (requested : Int) :
    Allocator.clamp layer requested = min layer.greatest requested := by
  rw [clamp]
  split <;> omega

/-- An overlay that is registered is raised, and registered again at its new value. -/
theorem Allocator.bringToFront_registered {α : Type} {a : Allocator} {o : Overlay}
    {r : Registration} (h : a.registration? o.handle = some r) :
    ∃ r', (a.bringToFront (α := α) o).result = some r'.zIndex ∧
      (a.bringToFront (α := α) o).state =
        ({ a.raiseCounter r.layer r'.zIndex with
          registrations := a.registrations.insert o.handle r' },
          { o with zIndex := some r'.zIndex }) ∧
      r'.zIndex = clamp r.layer (max (a.counter r.layer) r.zIndex + a.frontGap) ∧
      r'.handle = r.handle ∧ r'.layer = r.layer ∧ r'.label = r.label ∧
      r'.priority = (r'.zIndex - r.layer.least).toNat := by
  rw [bringToFront, h]
  exact ⟨_, rfl, rfl, rfl, rfl, rfl, rfl, rfl⟩

namespace Coordinator

variable {α β : Type}

theorem record_nil (c : Coordinator α β) : c.record [] = c := by
  simp only [record, List.append_nil]

theorem record_record (c : Coordinator α β) (es fs : List (Effect α)) :
    (c.record es).record fs = c.record (es ++ fs) := by
  simp only [record, List.append_assoc]

theorem recordCall_eq (c : Coordinator α β) (source : Source) (call : Option Call) :
    ∃ journal, c.recordCall source call = { c with journal } := by
  cases call with
  | none => exact ⟨c.journal, rfl⟩
  | some call => exact ⟨_, rfl⟩

/-- Mounting fills the slot of the window, and asks the provider. -/
theorem mountInto_eq (c : Coordinator α β) (chrome : Chrome α) :
    ∃ slot content journal,
      c.mountInto chrome = ({ chrome with slot }, { c with content, journal }) := by
  rw [mountInto]
  split
  · exact ⟨_, c.content, _, rfl⟩
  · rename_i source _
    obtain ⟨answer, after, call⟩ := source.mount chrome.panel
    obtain ⟨journal, hcall⟩ :=
      recordCall_eq { c with content := c.content.insert chrome.panel after } after call
    dsimp only
    rw [hcall]
    cases answer with
    | ok element => exact ⟨_, _, _, rfl⟩
    | error reason => exact ⟨_, _, _, rfl⟩

/-- Unmounting empties the slot of the window, and tells the provider. -/
theorem unmountFrom_eq (c : Coordinator α β) (chrome : Chrome α) :
    ∃ content journal,
      c.unmountFrom chrome = ({ chrome with slot := .empty }, { c with content, journal }) := by
  rw [unmountFrom]
  split
  · split
    · exact ⟨c.content, c.journal, rfl⟩
    · rename_i source _
      obtain ⟨after, call⟩ := source.unmount chrome.panel
      obtain ⟨journal, hcall⟩ :=
        recordCall_eq { c with content := c.content.insert chrome.panel after } after call
      dsimp only
      rw [hcall]
      exact ⟨_, _, rfl⟩
  · exact ⟨c.content, c.journal, rfl⟩

/-- The stack without the window of a panel. -/
def released (c : Coordinator α β) (id : PanelId) : Allocator :=
  match c.flyouts.get? id with
  | none => c.stack
  | some w => (c.stack.unregister (α := α) w.toOverlay).state.1

/-- A window that is taken down is released by the stack. -/
theorem tearDown_eq (c : Coordinator α β) (id : PanelId) :
    ∃ content journal, c.tearDown id =
      { c with flyouts := c.flyouts.erase id, stack := c.released id, content, journal } := by
  rw [tearDown, released]
  cases h : c.flyouts.get? id with
  | none => exact ⟨c.content, c.journal, by rw [Catalog.erase_of_get?_none _ h]⟩
  | some w =>
      obtain ⟨content, journal, hu⟩ := unmountFrom_eq { c with flyouts := c.flyouts.erase id } w
      dsimp only
      rw [hu]
      exact ⟨_, _, rfl⟩

/-- Only the gesture on the panel is dropped. -/
theorem dropTarget_session (t : Tracker α) (id : PanelId) :
    (t.dropTarget id).state.session = t.session.filter (fun s => decide (s.panel ≠ id)) := by
  rw [Tracker.dropTarget]
  cases h : t.session with
  | none => exact h
  | some s =>
      by_cases hs : s.panel = id
      · simp [hs, Tracker.ended, Option.filter_some]
      · simp [hs, h, Option.filter_some]

theorem dropTarget_minSize (t : Tracker α) (id : PanelId) :
    (t.dropTarget id).state.minSize = t.minSize := by
  rw [Tracker.dropTarget]
  split
  · rfl
  · split <;> rfl

/-- The state without the window of a panel and the gesture on it. -/
def discarded (c : Coordinator α β) (id : PanelId) : Coordinator α β :=
  { c with
    flyouts := c.flyouts.erase id
    stack := c.released id
    tracker := (c.tracker.dropTarget id).state }

theorem discard_eq [Coordinate α] (c : Coordinator α β) (id : PanelId) :
    ∃ content journal, c.discard id = { c.discarded id with content, journal } := by
  obtain ⟨content, journal, h⟩ := tearDown_eq (c.dropGesture id) id
  exact ⟨content, journal, h⟩

/-- How the stack takes in a window that opens: above all others, under the name of its panel. -/
def stacking (c : Coordinator α β) (w : Chrome α) : Outcome α (Allocator × Overlay) Int :=
  c.stack.register c.moment.now w.toOverlay .popup (c.stack.nextPriority .popup)
    { isolated := true, label := some w.panel.text }

/-- A window that opens is registered under the name of its panel, at the value that it gets. -/
theorem stacking_registered (c : Coordinator α β) (w : Chrome α) :
    ∃ r, (c.stacking w).result = r.zIndex ∧
      (c.stacking w).state =
        ({ c.stack.raiseCounter .popup r.zIndex with
            registrations := c.stack.registrations.insert w.handle r },
          { w.toOverlay with zIndex := some r.zIndex }) ∧
      r.handle = w.handle ∧ r.layer = .popup ∧ r.label = some w.panel.text :=
  ⟨_, rfl, rfl, rfl, rfl, rfl⟩

/-- What the record of a panel is told of its open window. -/
def openPatch (w : Chrome α) (z : Int) : Panel.Patch α where
  placement := some .floating
  position := some (some w.position)
  size := some (some w.size)
  zIndex := some (some z)
  visible := some w.displayed
  mounted := some w.slot.isMounted

/-- The state with a window open and this in its slot. -/
def floated [Coordinate α] (c : Coordinator α β) (w : Chrome α) (slot : Slot) : Coordinator α β :=
  { c with
    flyouts := c.flyouts.insert w.panel { w with toOverlay := (c.stacking w).state.2, slot }
    store := (c.store.update c.moment.now w.panel
      (openPatch { w with toOverlay := (c.stacking w).state.2, slot } (c.stacking w).result)).state
    stack := (c.stacking w).state.1 }

/-- A window that opens is stacked and mounted, and its geometry goes into the record. -/
theorem float_eq [Coordinate α] (c : Coordinator α β) (w : Chrome α) :
    ∃ slot content journal,
      c.float w = ((c.stacking w).result, { c.floated w slot with content, journal }) := by
  obtain ⟨slot, content, journal, hm⟩ := mountInto_eq
    ({ c with stack := (c.stacking w).state.1 }.record (c.stacking w).effects)
    { w with toOverlay := (c.stacking w).state.2 }
  rw [stacking] at hm
  rw [float]
  dsimp only
  rw [hm]
  exact ⟨slot, content, _, rfl⟩

/-- How the stack raises a window. -/
def raising (c : Coordinator α β) (w : Chrome α) : Outcome α (Allocator × Overlay) (Option Int) :=
  c.stack.bringToFront w.toOverlay

/-- A window that is raised shows its new value. -/
theorem raising_overlay {c : Coordinator α β} {w : Chrome α} {z : Int}
    (h : (c.raising w).result = some z) :
    (c.raising w).state.2 = { w.toOverlay with zIndex := some z } := by
  rw [raising, Allocator.bringToFront] at h ⊢
  cases hr : c.stack.registration? w.handle with
  | none =>
      rw [hr] at h
      exact absurd h (by simp)
  | some r =>
      rw [hr] at h
      obtain rfl := Option.some.inj h
      rfl

/-- The state with a window raised. -/
def raised (c : Coordinator α β) (w : Chrome α) : Coordinator α β :=
  { c with
    flyouts := c.flyouts.insert w.panel { w with toOverlay := (c.raising w).state.2 }
    stack := (c.raising w).state.1 }

theorem raise_eq (c : Coordinator α β) (w : Chrome α) :
    ∃ journal, c.raise w = ((c.raising w).result, { c.raised w with journal }) :=
  ⟨_, rfl⟩

/-- The window after a gesture has reached this geometry. -/
def reached (w : Chrome α) : GeometryUpdate α → Chrome α
  | .moved _ position => { w with position }
  | .resized _ size => { w with size }

@[simp] theorem reached_panel (w : Chrome α) (update : GeometryUpdate α) :
    (reached w update).panel = w.panel := by
  cases update <;> rfl

@[simp] theorem reached_toOverlay (w : Chrome α) (update : GeometryUpdate α) :
    (reached w update).toOverlay = w.toOverlay := by
  cases update <;> rfl

@[simp] theorem reached_returnPlacement (w : Chrome α) (update : GeometryUpdate α) :
    (reached w update).returnPlacement = w.returnPlacement := by
  cases update <;> rfl

@[simp] theorem reached_displayed (w : Chrome α) (update : GeometryUpdate α) :
    (reached w update).displayed = w.displayed := by
  cases update <;> rfl

@[simp] theorem reached_controls (w : Chrome α) (update : GeometryUpdate α) :
    (reached w update).controls = w.controls := by
  cases update <;> rfl

/-- The window of a panel follows the gesture on it. -/
theorem follow_eq {c : Coordinator α β} {update : GeometryUpdate α} {w : Chrome α}
    (hw : c.flyouts.get? update.panel = some w) :
    c.follow update =
      { c with flyouts := c.flyouts.insert (reached w update).panel (reached w update) } := by
  rw [follow, hw]
  cases update <;> rfl

section Saving

variable [Backend β α]

/-- Saving changes the backend, whether it works or not. -/
theorem save_eq (c : Coordinator α β) (occasion : Occasion) :
    ∃ backend journal, (c.save occasion).2 = { c with backend, journal } := by
  rw [save]
  split
  · exact ⟨c.backend, c.journal, rfl⟩
  · dsimp only
    split
    · exact ⟨_, _, rfl⟩
    · exact ⟨_, _, rfl⟩

theorem persist_eq (c : Coordinator α β) (occasion : Occasion) :
    ∃ backend journal, c.persist occasion = { c with backend, journal } := by
  rw [persist]
  split
  · exact save_eq c occasion
  · exact ⟨c.backend, c.journal, rfl⟩

/-- What has become of a backend that was asked to save a snapshot. -/
def filed (backend : Option β) (snapshot : Snapshot α) : Option β :=
  backend.map (fun b => (Backend.save b snapshot).state)

/-- What is saved is the store at that moment. -/
theorem save_backend (c : Coordinator α β) (occasion : Occasion) :
    (c.save occasion).2.backend = filed c.backend (c.store.snapshot c.moment.now) := by
  rw [save, filed]
  split
  · rename_i hb
    rw [hb]
    rfl
  · rename_i backend hb
    rw [hb]
    dsimp only
    split <;> rfl

theorem persist_backend (c : Coordinator α β) (occasion : Occasion) :
    (c.persist occasion).backend =
      if c.saveOnTransition then filed c.backend (c.store.snapshot c.moment.now)
        else c.backend := by
  rw [persist]
  split
  · exact save_backend c occasion
  · rfl

end Saving

end Coordinator

end PanelDock
