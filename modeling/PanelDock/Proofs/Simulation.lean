import PanelDock.Proofs.Stacking
/-!
# Changes follow the layout

A change of a coordinator is a step of its layout. The layout also carries the part of coherence
that is about gestures: `Layout.Steady` says that what is held is in a window that is shown, every
step keeps it, and from the layout it comes back to the coordinator.
-/

namespace PanelDock

namespace Layout

/-- What is held is in a window that is shown and has what the grip needs. -/
def Steady (l : Layout) : Prop := ∀ h, l.hold = some h → ∃ returns handle,
  l.station h.panel = some (.floating returns true handle) ∧ (h.grip = .resize → handle = true)

/-- A step shows in the panel of its move only. -/
theorem step_elsewhere {l l' : Layout} {m : Move} (h : l.step m = some l') {i : PanelId}
    (hi : m.panel l ≠ some i) : l'.station i = l.station i := by
  cases m <;> grind [step, Move.panel]

/-- A step keeps a layout steady. -/
theorem Steady.step {l l' : Layout} {m : Move} (hl : l.Steady) (h : l.step m = some l') :
    l'.Steady := by
  cases m <;> grind [Layout.step, Steady]

end Layout

namespace Coordinator

variable {α β : Type} [Coordinate α]

/-- A change is a change of some panel. -/
theorem Change.panel_eq_some {c d : Coordinator α β} {m : Move} (h : Change c m d) :
    ∃ id, m.panel c.layout = some id := by
  cases h with
  | @sampled s _ _ _ live mine hw backend journal =>
      refine ⟨s.panel, ?_⟩
      rw [Move.panel, layout_hold, live]
      rfl
  | _ => exact ⟨_, rfl⟩

/-- A change is a step of the layout. -/
theorem Change.layout_step {c d : Coordinator α β} {m : Move} (h : Change c m d) (hc : c.Paired) :
    c.layout.step m = some d.layout := by
  obtain ⟨id, hm⟩ := h.panel_eq_some
  obtain ⟨l, hl, hstation, hhold⟩ := (h.here hc hm).follows
  rw [hl]
  congr 1
  refine Layout.ext (funext (fun i => ?_)) hhold
  -- where the move is, the change arrives; elsewhere neither shows
  by_cases hi : i = id
  · rw [hi, hstation]
  · have hne : m.panel c.layout ≠ some i := fun he => hi (Option.some.inj (he.symm.trans hm))
    obtain ⟨hw, hp⟩ := h.frame hc hne
    rw [Layout.step_elsewhere hl hne]
    show c.station i = d.station i
    rw [station, station, hw, hp]

/-- A gesture is attended exactly if the layout is steady. -/
theorem Paired.attended_iff {c : Coordinator α β} (hc : c.Paired) :
    Attended c.flyouts c.tracker.session ↔ c.layout.Steady := by
  constructor
  · intro h hold hhold
    rw [layout_hold, Option.map_eq_some_iff] at hhold
    obtain ⟨s, hs, rfl⟩ := hhold
    obtain ⟨w, hw, shown, able⟩ := h s hs
    obtain ⟨p, hp, _, _, same⟩ := hc.record_of_window hw
    refine ⟨w.returnPlacement, w.controls.resizeHandle, ?_, able⟩
    rw [← shown]
    exact station_of_window hw hp same.placement
  · intro h s hs
    have hhold :
        c.layout.hold = some { panel := s.panel, grip := s.grip, pointer := s.pointer } := by
      rw [layout_hold, hs]
      rfl
    obtain ⟨returns, handle, hst, able⟩ := h _ hhold
    rcases hc.window_cases s.panel with ⟨_, _, hno⟩ | ⟨w, p, _, hw, _, _, _, hst'⟩
    · exact absurd hst (hno _ _ _)
    · rw [hst, Option.some.injEq, Station.floating.injEq] at hst'
      obtain ⟨_, hshown, hhandle⟩ := hst'
      exact ⟨w, hw, hshown.symm, fun hgrip => hhandle ▸ able hgrip⟩

/-- No change touches the settings, or the least size that a gesture keeps to. -/
theorem Change.settings_eq {c d : Coordinator α β} {m : Move} (h : Change c m d) :
    d.settings = c.settings ∧ d.tracker.minSize = c.tracker.minSize := by
  cases h with
  | docked hw content backend journal => exact ⟨rfl, dropTarget_minSize _ _⟩
  | closed hw shown backend journal => exact ⟨rfl, dropTarget_minSize _ _⟩
  | destroyed hp content backend journal => exact ⟨rfl, dropTarget_minSize _ _⟩
  | @sampled s w pointer release live mine hw backend journal =>
      refine ⟨rfl, ?_⟩
      show (c.followed s pointer release).minSize = _
      cases release <;> rfl
  | _ => exact ⟨rfl, rfl⟩

/-- A change leaves a coherent coordinator coherent. -/
theorem Change.coherent {c d : Coordinator α β} {m : Move} (h : Change c m d) (hc : c.Coherent) :
    d.Coherent where
  paired := h.paired hc.paired
  stacked := h.stacked hc.stacked hc.paired
  attended := by
    rw [(h.paired hc.paired).attended_iff]
    exact (hc.paired.attended_iff.mp hc.attended).step (h.layout_step hc.paired)
  measured := by
    rw [h.settings_eq.1, h.settings_eq.2, hc.measured]

end Coordinator

end PanelDock
