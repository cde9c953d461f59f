import PanelDock.Proofs.Operations
/-!
# Windows mirror records through every change

A change writes a window and a record side by side. `Change.frame` says that it writes those of one
panel only, and `Change.paired` that what it writes agrees again, however little of it was written
on either side.
-/

namespace PanelDock

variable {α β : Type} [Coordinate α]

/-- The panel that a move is about; a sample is about the panel that is held. -/
def Move.panel (l : Layout) : Move → Option PanelId
  | .register id _ | .refill id | .flyOut id _ | .dock id | .close id | .reveal
      id | .focus id | .hide id
  | .unhide id | .destroy id | .grab id _ _ _ => some id
  | .sample _ _ _ => l.hold.map (·.panel)

theorem Move.panel_shutIf (l : Layout) (full : Bool) (m : Move) :
    (m.shutIf full).panel l = m.panel l := by
  cases m <;> rfl

/-- The record of a window that opens is told all that the window shows. -/
theorem Mirrors.opened {w : Chrome α} (p : Panel α) (now : Instant) {z : Int}
    (rests : w.returnPlacement ≠ .floating) (hz : w.zIndex = some z) :
    Mirrors w (p.revised (Coordinator.openPatch w z) now) where
  placement := settled_some _ _
  position := agrees_settled _ _
  size := agrees_settled _ _
  zIndex := ⟨z, settled_some _ _, hz⟩
  visible := settled_some _ _
  mounted := settled_some _ _
  returns := rests

/-- Window and record go to the same geometry. -/
theorem Mirrors.reached {w : Chrome α} {p : Panel α} (same : Mirrors w p)
    (update : GeometryUpdate α) (now : Instant) :
    Mirrors (Coordinator.reached w update) (p.revised update.patch now) := by
  cases update with
  | moved _ position => exact { same with position := agrees_settled _ _ }
  | resized _ size => exact { same with size := agrees_settled _ _ }

namespace Coordinator

/-! ## One window and one record -/

section Writes

variable {c : Coordinator α β} {flyouts : Catalog PanelId (Chrome α)} {w : Chrome α}
  {key id i : PanelId}

omit [Coordinate α] in
theorem window_here (named : key = id) : (flyouts.insert key w).get? id = some w := by
  rw [named, Catalog.get?_insert_self]

omit [Coordinate α] in
theorem window_elsewhere (named : key = id) (hi : i ≠ id) :
    (flyouts.insert key w).get? i = flyouts.get? i := by
  rw [named, Catalog.get?_insert_of_ne _ _ hi]

omit [Coordinate α] in
theorem window_gone (flyouts : Catalog PanelId (Chrome α)) (id : PanelId) :
    (flyouts.erase id).get? id = none := by
  rw [Catalog.get?_erase, if_pos rfl]

theorem record_here {p : Panel α} {patch : Panel.Patch α} (hp : c.store.get? id = some p)
    (hdock : patch.dock = none) :
    (c.store.update c.moment.now id patch).state.get? id = some (p.revised patch c.moment.now) := by
  rw [Store.update_get? _ _ _ hdock, if_pos rfl, hp, Option.map_some]

theorem record_elsewhere {patch : Panel.Patch α} (hdock : patch.dock = none) (hi : i ≠ id) :
    (c.store.update c.moment.now id patch).state.get? i = c.store.get? i := by
  rw [Store.update_get? _ _ _ hdock, if_neg hi]

end Writes

/-! ## The frame of a change -/

/-- A change shows in the panel of its move only. -/
theorem Change.frame {c d : Coordinator α β} {m : Move} (h : Change c m d) (hc : c.Paired)
    {i : PanelId} (hi : m.panel c.layout ≠ some i) :
    d.flyouts.get? i = c.flyouts.get? i ∧ d.store.get? i = c.store.get? i := by
  have hne : ∀ {id}, m.panel c.layout = some id → i ≠ id := fun hm he => hi (he ▸ hm)
  cases h with
  | registered new name fresh content journal =>
      exact ⟨rfl, Catalog.get?_insert_of_ne _ _ (hne rfl)⟩
  | refilledAside known bare content => exact ⟨rfl, rfl⟩
  | refilled hw slot content journal =>
      have named := hc.window_named hw
      exact ⟨window_elsewhere named (hne rfl), record_elsewhere rfl (hne rfl)⟩
  | @flownOut id p hp rests title position size handle slot content backend journal =>
      have hi' : i ≠ id := hne rfl
      exact ⟨window_elsewhere rfl hi', record_elsewhere rfl hi'⟩
  | docked hw content backend journal =>
      refine ⟨?_, record_elsewhere rfl (hne rfl)⟩
      show (c.flyouts.erase _).get? i = _
      rw [Catalog.get?_erase, if_neg (hne rfl)]
  | closed hw shown backend journal =>
      have named := hc.window_named hw
      exact ⟨window_elsewhere named (hne rfl), record_elsewhere rfl (hne rfl)⟩
  | shown hw closed focus backend journal =>
      have named := hc.window_named hw
      exact ⟨window_elsewhere named (hne rfl), record_elsewhere rfl (hne rfl)⟩
  | shownOnTop hw closed focus hz backend journal =>
      have named := hc.window_named hw
      exact ⟨window_elsewhere named (hne rfl), record_elsewhere rfl (hne rfl)⟩
  | focused hw shown hz journal =>
      have named := hc.window_named hw
      exact ⟨window_elsewhere named (hne rfl), record_elsewhere rfl (hne rfl)⟩
  | hidden hp was backend journal => exact ⟨rfl, record_elsewhere rfl (hne rfl)⟩
  | unhidden hp was backend journal => exact ⟨rfl, record_elsewhere rfl (hne rfl)⟩
  | @destroyed id p hp content backend journal =>
      have hi' : i ≠ id := hne rfl
      refine ⟨?_, ?_⟩
      · show (c.flyouts.erase id).get? i = _
        rw [Catalog.get?_erase, if_neg hi']
      · show (c.store.remove id).state.get? i = _
        rw [Store.remove_get?, if_neg hi']
  | grabbed hw hp shown handle idle opening hz name journal =>
      have named := hc.window_named hw
      exact ⟨window_elsewhere named (hne rfl), record_elsewhere rfl (hne rfl)⟩
  | sampled live mine hw backend journal =>
      have hi' :=
        hne (show Move.panel c.layout _ = some _ by rw [Move.panel, layout_hold, live]; rfl)
      refine ⟨window_elsewhere ?_ hi', record_elsewhere ?_ hi'⟩
      · rw [reached_panel, hc.window_named hw]
      · rw [GeometryUpdate.patch_dock]

/-! ## What a change writes -/

/-- Under a name stand a window and a record that agree, where the layout puts the panel. -/
structure Arrives (c d : Coordinator α β) (m : Move) (id : PanelId) : Prop where
  pairs : Pairs id (d.flyouts.get? id) (d.store.get? id)
  follows : ∃ l, c.layout.step m = some l ∧ l.station id = d.layout.station id ∧
      l.hold = d.layout.hold

section Arrivals

variable {c d : Coordinator α β} {m : Move} {id : PanelId} {l : Layout}

theorem Arrives.floating {w : Chrome α} {p : Panel α} (hw : d.flyouts.get? id = some w)
    (hp : d.store.get? id = some p) (named : w.panel = id) (name : p.id = id) (same : Mirrors w p)
    (hstep : c.layout.step m = some l)
    (hstation : l.station id =
      some (.floating w.returnPlacement w.displayed w.controls.resizeHandle))
    (hhold : l.hold = d.layout.hold) :
    Arrives c d m id where
  pairs := by
    rw [hw, hp]
    exact Pairs.floating named name same
  follows := ⟨l, hstep, hstation.trans (station_of_window hw hp same.placement).symm, hhold⟩

theorem Arrives.resting {p : Panel α} (hw : d.flyouts.get? id = none)
    (hp : d.store.get? id = some p) (name : p.id = id) (rests : p.placement ≠ .floating)
    (hstep : c.layout.step m = some l) (hstation : l.station id = some (.resting p.placement))
    (hhold : l.hold = d.layout.hold) :
    Arrives c d m id where
  pairs := by
    rw [hw, hp]
    exact Pairs.resting name rests
  follows := ⟨l, hstep, hstation.trans (station_of_resting hp rests).symm, hhold⟩

theorem Arrives.gone (hw : d.flyouts.get? id = none) (hp : d.store.get? id = none)
    (hstep : c.layout.step m = some l) (hstation : l.station id = none)
    (hhold : l.hold = d.layout.hold) : Arrives c d m id where
  pairs := by
    rw [hw, hp]
    exact Pairs.absent
  follows := ⟨l, hstep, hstation.trans (station_of_none hp).symm, hhold⟩

/-- A panel that is hidden or shown again goes from one resting place to another. -/
theorem Arrives.swapped (hc : c.Paired) {p : Panel α} {old new : Placement} {visible : Bool}
    (hp : c.store.get? id = some p) (was : p.placement = old) (hold : old ≠ .floating)
    (hnew : new ≠ .floating)
    (hstep : c.layout.station id = some (.resting old) →
      c.layout.step m = some (c.layout.put id (some (.resting new))))
    (backend : Option β) (journal : List (Effect α)) :
    Arrives c { c.amended id { placement := some new, visible := some visible } with
      backend, journal }
      m id := by
  have rests : p.placement ≠ .floating := was ▸ hold
  have hst : c.layout.station id = some (.resting old) := was ▸ station_of_resting hp rests
  have hw := hc.no_window_of_rests hp rests
  have name : p.id = id := hc.record_named hp
  refine Arrives.resting hw (record_here hp rfl) name ?_ (hstep hst) ?_ rfl
  · rw [Panel.revised_placement, settled_some]
    exact hnew
  · rw [Panel.revised_placement, settled_some, Layout.put_here]

end Arrivals

omit [Coordinate α] in
/-- A gesture that is dropped lets go of its panel. -/
theorem hold_letGo (c : Coordinator α β) (id : PanelId) :
    (c.layout.letGo id).hold = (c.dropped id).layout.hold := by
  rw [layout_hold, dropped, dropTarget_session, Layout.letGo, layout_hold]
  cases c.tracker.session with
  | none => rfl
  | some s =>
      by_cases hs : s.panel = id
      · simp [hs, Option.filter_some]
      · simp [hs, Option.filter_some]

omit [Coordinate α] in
/-- A gesture begins with the grip that it is asked for. -/
theorem openingGesture_grip {p : Panel α} {id : PanelId} {grip : Grip} {gesture : Gesture α}
    (h : Tracker.openingGesture p id grip = .ok gesture) : gesture.grip = grip := by
  cases grip with
  | drag =>
      rw [Tracker.openingGesture] at h
      split at h
      · rw [← Except.ok.inj h]; rfl
      · exact absurd h (by simp)
  | resize =>
      rw [Tracker.openingGesture] at h
      split at h
      · rw [← Except.ok.inj h]; rfl
      · exact absurd h (by simp)

/-- What a change writes agrees, and puts the panel where the layout has it. -/
theorem Change.here {c d : Coordinator α β} {m : Move} (h : Change c m d) (hc : c.Paired)
    {id : PanelId} (hm : m.panel c.layout = some id) : Arrives c d m id := by
  cases h with
  | registered new name fresh content journal =>
      cases hm
      have hst : c.layout.station id = none := station_of_none new
      have hw : c.flyouts.get? id = none :=
        hc.no_window (fun p hp => absurd (new.symm.trans hp) (by simp))
      refine Arrives.resting hw (Catalog.get?_insert_self _ _ _) name ?_ (if_pos ⟨hst, rfl⟩) ?_ rfl
      · rw [fresh.docked]
        decide
      · rw [Layout.put_here, fresh.docked]
  -- without a window, and known all the same: the panel rests
  | refilledAside known bare content =>
      cases hm
      obtain ⟨_, hp⟩ | ⟨p, hw, hp, name, rests⟩ | ⟨w, _, hw, _⟩ := hc.whereabouts id
      · exact absurd (hp.symm.trans known) (by simp)
      · have hst : c.layout.station id = some _ := station_of_resting hp rests
        exact Arrives.resting hw hp name rests (if_pos (by rw [hst]; rfl)) hst rfl
      · exact absurd (bare.symm.trans hw) (by simp)
  | refilled hw slot content journal =>
      cases hm
      obtain ⟨p, hp, named, name, same⟩ := hc.record_of_window hw
      have hst : c.layout.station id = some _ := station_of_window hw hp same.placement
      exact Arrives.floating (window_here named) (record_here hp rfl) named name
        { same with mounted := settled_some _ _ } (if_pos (by rw [hst]; rfl)) hst rfl
  | @flownOut _ p hp rests title position size handle slot content backend journal =>
      cases hm
      have name : p.id = id := (hc.record_named hp)
      exact Arrives.floating (window_here rfl) (record_here hp rfl) rfl name
        (Mirrors.opened p _ rests rfl)
        (Layout.step_flyOut (station_of_resting hp rests) handle) (Layout.put_here _ _ _) rfl
  | docked hw content backend journal =>
      cases hm
      obtain ⟨p, hp, named, name, same⟩ := hc.record_of_window hw
      have hst := station_of_window hw hp same.placement
      refine Arrives.resting (window_gone _ _) (record_here hp rfl) name ?_
        (Layout.step_dock hst) ?_
        (hold_letGo c id)
      · rw [Panel.revised_placement, dockPatch, settled_some]
        exact same.returns
      · rw [Panel.revised_placement, dockPatch, settled_some, Layout.put_here]
  | closed hw shown backend journal =>
      cases hm
      obtain ⟨p, hp, named, name, same⟩ := hc.record_of_window hw
      have hst := station_of_window hw hp same.placement
      rw [shown] at hst
      exact Arrives.floating (window_here named) (record_here hp rfl) named name
        { same with visible := settled_some _ _ } (Layout.step_close hst) (Layout.put_here _ _ _)
        (hold_letGo c id)
  | shown hw closed focus backend journal =>
      cases hm
      obtain ⟨p, hp, named, name, same⟩ := hc.record_of_window hw
      have hst := station_of_window hw hp same.placement
      rw [closed] at hst
      exact Arrives.floating (window_here named) (record_here hp rfl) named name
        { same with visible := settled_some _ _ } (Layout.step_reveal hst)
          (Layout.put_here _ _ _) rfl
  | @shownOnTop _ w hw closed focus z hz backend journal =>
      cases hm
      obtain ⟨p, hp, named, name, same⟩ := hc.record_of_window hw
      have hst := station_of_window hw hp same.placement
      rw [closed] at hst
      have hz' : (c.raising w).state.2.zIndex = some z := by rw [raising_overlay hz]
      exact Arrives.floating (window_here named) (record_here hp rfl) named name
        { same with visible := settled_some _ _, zIndex := ⟨z, settled_some _ _, hz'⟩ }
        (Layout.step_reveal hst) (Layout.put_here _ _ _) rfl
  | @focused _ w hw shown z hz journal =>
      cases hm
      obtain ⟨p, hp, named, name, same⟩ := hc.record_of_window hw
      have hst := station_of_window hw hp same.placement
      have hz' : (c.raising w).state.2.zIndex = some z := by rw [raising_overlay hz]
      have hst' := hst
      rw [shown] at hst'
      exact Arrives.floating (window_here named) (record_here hp rfl) named name
        { same with zIndex := ⟨z, settled_some _ _, hz'⟩ } (Layout.step_focus hst') hst rfl
  | hidden hp was backend journal =>
      cases hm
      exact Arrives.swapped hc hp was (by decide) (by decide) Layout.step_hide backend journal
  | unhidden hp was backend journal =>
      cases hm
      exact Arrives.swapped hc hp was (by decide) (by decide) Layout.step_unhide backend journal
  -- whether a window was open or not, nothing stands under the name afterwards
  | destroyed hp content backend journal =>
      cases hm
      have hst : c.layout.station id ≠ none := station_ne_none hp
      refine Arrives.gone (window_gone _ _) ?_ (if_pos (Option.isSome_iff_ne_none.mpr hst))
        (Layout.put_here _ _ _) (hold_letGo c id)
      show (c.store.remove id).state.get? id = none
      rw [Store.remove_get?, if_pos rfl]
  | @grabbed _ w p grip pointer gesture z hw hp shown handle idle opening hz name journal =>
      cases hm
      obtain ⟨q, hq, named, name', same⟩ := hc.record_of_window hw
      obtain rfl : q = p := Option.some.inj (hq.symm.trans hp)
      have hst := station_of_window hw hp same.placement
      have hst' := hst
      rw [shown] at hst'
      have hz' : (c.raising w).state.2.zIndex = some z := by rw [raising_overlay hz]
      have hidle : c.layout.hold = none := by rw [layout_hold, idle]; rfl
      refine Arrives.floating (window_here named) (record_here hp rfl) named name'
        { same with zIndex := ⟨z, settled_some _ _, hz'⟩ }
          (Layout.step_grab hst' hidle handle _) hst ?_
      rw [← openingGesture_grip opening]
      rfl
  -- the panel of a sample is the one that is held
  | @sampled s w pointer release live mine hw backend journal =>
      have hheld :
          c.layout.hold = some { panel := s.panel, grip := s.grip, pointer := s.pointer } := by
        rw [layout_hold, live]; rfl
      obtain rfl : s.panel = id := by
        rw [Move.panel, hheld] at hm
        exact Option.some.inj hm
      obtain ⟨p, hp, named, name, same⟩ := hc.record_of_window hw
      have hst := station_of_window hw hp same.placement
      refine Arrives.floating (window_here ?_)
        (record_here hp (GeometryUpdate.patch_dock _)) ?_ name
        (same.reached _ _) (mine ▸ Layout.step_sample hheld release) ?_ ?_
      · rw [reached_panel, named]
      · rw [reached_panel, named]
      · rw [reached_returnPlacement, reached_displayed, reached_controls]
        cases release with
        | false => exact hst
        | true => exact hst
      · cases release with
        | false =>
            show c.layout.hold =
              some { panel := s.panel, grip := (c.advanced s pointer).grip, pointer := s.pointer }
            rw [hheld, advanced_grip]
        | true => rfl

/-- The record and the window of every panel agree after a change. -/
theorem Change.paired {c d : Coordinator α β} {m : Move} (h : Change c m d) (hc : c.Paired) :
    d.Paired := by
  intro id
  by_cases hid : m.panel c.layout = some id
  · exact (h.here hc hid).pairs
  · obtain ⟨hw, hp⟩ := h.frame hc hid
    rw [hw, hp]
    exact hc id

end Coordinator

end PanelDock
