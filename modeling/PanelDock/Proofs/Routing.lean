import PanelDock.Proofs.Pressing
/-!
# A press takes effect

A press goes to the window on top under the pointer, and does there what the part under the pointer
stands for: it begins to drag or to resize the window, docks it, closes it or raises it. That
nothing speaks against it is due to what all runs keep. The window that was hit is shown; its panel
floats, with a position, a size and a place to return to; it is registered with the stack; and a
resize handle is hit only where there is one. So the press can fail only because another gesture is
in progress.

`Coordinator.OnTop` says which window is hit, and `Coordinator.Effective` what has become of it
afterwards.
-/

namespace PanelDock

variable {α β : Type} [Coordinate α]

/-- The handle is hit only on a window that has one. -/
theorem Chrome.resizeHandle_of_hitAt? {w : Chrome α} {point : Point α}
    (h : w.hitAt? point = some .resizeHandle) : w.controls.resizeHandle = true := by
  rw [hitAt?] at h
  split at h
  · have hregion := Option.some.inj h
    rw [region] at hregion
    split at hregion
    · rename_i hcorner
      exact hcorner.1
    · -- none of the regions beside the corner is the handle
      dsimp only at hregion
      split at hregion
      · split at hregion
        · cases hregion
        · split at hregion <;> cases hregion
      · cases hregion
  · cases h

/-- The layout after a press on a part of a window that is shown, when nothing was held before. -/
def Hit.Leaves (hit : Hit) (id : PanelId) (pointer : Nat) (returns : Placement) (handle : Bool)
    (l : Layout) : Prop :=
  match hit with
  | .titleBar => l.hold = some { panel := id, grip := .drag, pointer }
  | .resizeHandle => l.hold = some { panel := id, grip := .resize, pointer }
  | .dockButton => l.station id = some (.resting returns)
  | .closeButton => l.station id = some (.floating returns false handle)
  | .content => l.station id = some (.floating returns true handle)

/-- When nothing is held, a layout lets every press on a window that is shown take effect. -/
theorem Layout.step_hit {l : Layout} {id : PanelId} {returns : Placement} {handle : Bool}
    (hst : l.station id = some (.floating returns true handle)) (idle : l.hold = none)
    {pointer : Pointer α} (finite : pointer.position.isFinite = true) {hit : Hit}
    (able : hit = .resizeHandle → handle = true) :
    ∃ l', l.step (hit.move id pointer) = some l' ∧
      hit.Leaves id pointer.number returns handle l' := by
  cases hit with
  | titleBar =>
      rw [Hit.move, finite, step_grab hst idle (fun he => by cases he)]
      exact ⟨_, rfl, rfl⟩
  | resizeHandle =>
      rw [Hit.move, finite, step_grab hst idle (fun _ => able rfl)]
      exact ⟨_, rfl, rfl⟩
  | dockButton => exact ⟨_, step_dock hst, put_here _ _ _⟩
  | closeButton => exact ⟨_, step_close hst, put_here _ _ _⟩
  | content => exact ⟨_, step_focus hst, hst⟩

namespace Coordinator

/-! ## The window that is hit -/

/-- The window is shown and covers the point, and every other one that does lies below it: at a
smaller value, or at the same under a smaller name. -/
structure OnTop (c : Coordinator α β) (point : Point α) (id : PanelId) (w : Chrome α) : Prop where
  window : c.flyouts.get? id = some w
  covers : w.Covers point
  above : ∀ i v, i ≠ id → c.flyouts.get? i = some v → v.Covers point →
    ∃ y z, v.zIndex = some y ∧ w.zIndex = some z ∧ (y < z ∨ (y = z ∧ compare i id = .lt))

variable {c d : Coordinator α β} {id : PanelId} {w : Chrome α}

/-- Nothing lies under the point where no window covers it. -/
theorem topmost?_eq_none_iff (hc : c.Coherent) (point : Point α) :
    topmost? (c.candidates point) = none ↔ ∀ i v, c.flyouts.get? i = some v → ¬ v.Covers point := by
  have htop := lastGreatest_of_topmost? (c.candidates point)
  cases hfound : topmost? (c.candidates point) with
  | none =>
      rw [hfound] at htop
      refine iff_of_true rfl (fun i v hv covers => ?_)
      obtain ⟨x, hx, _⟩ := candidate_of_window hc hv covers
      rw [htop] at hx
      exact absurd hx List.not_mem_nil
  | some top =>
      rw [hfound] at htop
      obtain ⟨v, hv, covers, _⟩ := window_of_candidate hc htop.mem
      exact iff_of_false (Option.some_ne_none top) (fun hnone => hnone _ v hv covers)

/-- The candidate on top is the part of the window on top. -/
theorem onTop_of_topmost? (hc : c.Coherent) {point : Point α} {top : Candidate}
    (h : topmost? (c.candidates point) = some top) :
    ∃ w, c.OnTop point top.panel w ∧ w.hitAt? point = some top.hit := by
  have htop := lastGreatest_of_topmost? (c.candidates point)
  rw [h] at htop
  obtain ⟨i, w, hit, hw, hhit, rfl⟩ := mem_candidates.mp htop.mem
  have named := hc.paired.window_named hw
  obtain ⟨r, _, hz⟩ := hc.stacked.registered i w hw
  refine ⟨w, ⟨by rw [named]; exact hw, (w.hitAt?_isSome point).mp ⟨hit, hhit⟩,
    fun j v hj hv covers => ?_⟩, hhit⟩
  obtain ⟨x, hx, hname, hshows⟩ := candidate_of_window hc hv covers
  refine ⟨x.zIndex, r.zIndex, hshows, hz, ?_⟩
  have hle := htop.le hx
  rw [hz, Option.getD_some] at hle
  rcases Int.lt_or_eq_of_le hle with hlt | heq
  · exact Or.inl hlt
  · -- of two with one value the later name is taken
    rcases htop.before (candidates_ordered hc.paired point) hx
      (by rw [hz]; exact heq) with rfl | hbefore
    · exact absurd hname.symm hj
    · exact Or.inr ⟨heq, hname ▸ hbefore⟩

/-! ## What the part under the pointer stands for -/

/-- What has become of a window when the press on a part of it has taken effect. -/
def Effective (d : Coordinator α β) (id : PanelId) (pointer : Pointer α) : Hit → Prop
  | .titleBar => ∃ s, d.tracker.session = some s ∧ s.panel = id ∧ s.grip = .drag ∧
      s.pointer = pointer.number
  | .resizeHandle => ∃ s, d.tracker.session = some s ∧ s.panel = id ∧ s.grip = .resize ∧
      s.pointer = pointer.number
  | .dockButton => ∃ p, d.store.get? id = some p ∧ p.placement ≠ .floating
  | .closeButton => ∃ p w, d.store.get? id = some p ∧ p.placement = .floating ∧
      d.flyouts.get? id = some w ∧
      w.displayed = false
  | .content => ∃ p w, d.store.get? id = some p ∧ p.placement = .floating ∧
      d.flyouts.get? id = some w ∧
      w.displayed = true

/-- Where the layout has a window, there is one. -/
theorem window_of_station (hc : c.Paired) {returns : Placement} {shown handle : Bool}
    (h : c.layout.station id = some (.floating returns shown handle)) :
    ∃ p w, c.store.get? id = some p ∧ p.placement = .floating ∧ c.flyouts.get? id = some w ∧
      w.displayed = shown := by
  rcases hc.window_cases id with ⟨_, _, hno⟩ | ⟨w, p, _, hw, hp, _, same, hst⟩
  · exact absurd h (hno _ _ _)
  · rw [hst, Option.some.injEq, Station.floating.injEq] at h
    exact ⟨p, w, hp, same.placement, hw, h.2.1⟩

omit [Coordinate α] in
/-- What is held is held by the session. -/
theorem session_of_hold {held : Hold} (h : c.layout.hold = some held) :
    ∃ s, c.tracker.session = some s ∧ s.panel = held.panel ∧ s.grip = held.grip ∧
      s.pointer = held.pointer := by
  rw [layout_hold, Option.map_eq_some_iff] at h
  obtain ⟨s, hs, rfl⟩ := h
  exact ⟨s, hs, rfl, rfl, rfl⟩

/-- What the layout says after a press is what has become of the window. -/
theorem effective_of_leaves (hd : d.Paired) {pointer : Pointer α} {returns : Placement}
    {handle : Bool} {hit : Hit} (rests : returns ≠ .floating)
    (h : hit.Leaves id pointer.number returns handle d.layout) : d.Effective id pointer hit := by
  cases hit with
  | titleBar => exact session_of_hold h
  | resizeHandle => exact session_of_hold h
  | dockButton =>
      obtain ⟨p, hp, hplacement⟩ := (hd.station_resting_iff id rests).mp h
      exact ⟨p, hp, by rw [hplacement]; exact rests⟩
  | closeButton => exact window_of_station hd h
  | content => exact window_of_station hd h

variable [Backend β α]

/-- The operation that a part of a window stands for. -/
def press (c : Coordinator α β) (id : PanelId) (pointer : Pointer α) : Hit → Bool × Coordinator α β
  | .titleBar => c.beginDrag id pointer
  | .resizeHandle => c.beginResize id pointer
  | .dockButton => c.dock id
  | .closeButton => c.closeFlyout id
  | .content => c.focusFlyout id

theorem press_verdict (hc : c.Coherent) (id : PanelId) (pointer : Pointer α) (hit : Hit) :
    Verdict c (hit.move id pointer) (c.press id pointer hit) := by
  cases hit with
  | titleBar => exact Verdict.settle .beginDrag (tryBegin_verdict hc id pointer .drag)
  | resizeHandle => exact Verdict.settle .beginResize (tryBegin_verdict hc id pointer .resize)
  | dockButton => exact Verdict.settle .dock (tryDock_verdict hc id)
  | closeButton => exact Verdict.settle .closeFlyout (tryCloseFlyout_verdict hc id)
  | content => exact Verdict.settle .focusFlyout (tryFocusFlyout_verdict hc id)

theorem pointerDown_of_topmost? {pointer : Pointer α} {top : Candidate}
    (h : topmost? (c.candidates pointer.position) = some top) : c.pointerDown pointer =
      (some (top.panel, top.hit),
        ((c.note (.pressed top.panel top.hit)).press top.panel pointer top.hit).2) := by
  obtain ⟨zIndex, panel, hit⟩ := top
  rw [pointerDown, h]
  cases hit <;> rfl

/-- While no gesture is in progress, the operation that the part under the pointer stands for
succeeds. -/
theorem press_succeeds (hc : c.Coherent) {pointer : Pointer α}
    (finite : pointer.position.isFinite = true) (hw : c.flyouts.get? id = some w) {hit : Hit}
    (hhit : w.hitAt? pointer.position = some hit) (idle : c.tracker.session = none) :
    (c.press id pointer hit).1 = true ∧ (c.press id pointer hit).2.Effective id pointer hit := by
  obtain ⟨p, hp, _, _, same⟩ := hc.paired.record_of_window hw
  have hst : c.layout.station id =
      some (.floating w.returnPlacement true w.controls.resizeHandle) := by
    rw [← ((w.hitAt?_isSome _).mp ⟨hit, hhit⟩).1]
    exact station_of_window hw hp same.placement
  have hhold : c.layout.hold = none := by rw [layout_hold, idle]; rfl
  obtain ⟨l, hstep, hleaves⟩ := Layout.step_hit hst hhold finite
    (fun (he : hit = .resizeHandle) => Chrome.resizeHandle_of_hitAt? (he ▸ hhit))
  have hverdict := press_verdict hc id pointer hit
  generalize c.press id pointer hit = r at hverdict
  cases hverdict with
  | refused es quiet stuck => exact absurd (stuck.symm.trans hstep) (Option.some_ne_none l).symm
  | done h booked =>
      obtain rfl := Option.some.inj (hstep.symm.trans (h.layout_step hc.paired))
      exact ⟨rfl, effective_of_leaves (h.paired hc.paired) same.returns hleaves⟩

/-- **A press takes effect on the window on top.** Whatever has been done, a press comes to nothing
exactly if no window that is shown covers the point. Otherwise it hits the part under the pointer of
the window on top there. If no gesture was in progress and the pointer is somewhere, the operation
that this part stands for is accepted: the panel is dragged or resized from then on, or it is back
in its place, or its window is closed, or it is raised. -/
theorem press_takes_effect (h : Reachable c) (moment : Moment) (pointer : Pointer α) :
    let e := c.during moment
    let r := e.pointerDown pointer
    (r.1 = none ↔ ∀ i v, c.flyouts.get? i = some v → ¬ v.Covers pointer.position) ∧
    ∀ id hit, r.1 = some (id, hit) → ∃ w, c.OnTop pointer.position id w ∧
      w.hitAt? pointer.position = some hit ∧
      (pointer.position.isFinite = true → c.tracker.session = none →
        (e.note (.pressed id hit)).press id pointer hit = (true, r.2) ∧
        r.2.Effective id pointer hit) := by
  intro e r
  have hc := h.coherent.during moment
  have hanswer :
      r.1 = (topmost? (e.candidates pointer.position)).map (fun top => (top.panel, top.hit)) :=
    pointerDown_answer e pointer
  refine ⟨?_, fun id hit hr => ?_⟩
  · rw [hanswer, Option.map_eq_none_iff]
    exact topmost?_eq_none_iff hc pointer.position
  · rw [hanswer, Option.map_eq_some_iff] at hr
    obtain ⟨top, htop, hpair⟩ := hr
    obtain ⟨rfl, rfl⟩ := Prod.mk.inj hpair
    obtain ⟨w, hon, hhit⟩ := onTop_of_topmost? hc htop
    refine ⟨w, ⟨hon.window, hon.covers, hon.above⟩, hhit, fun finite idle => ?_⟩
    have hnoted : (e.note (.pressed top.panel top.hit)).Coherent :=
      hc.aside e.content e.backend e.moment _
    obtain ⟨hdone, heffect⟩ := press_succeeds hnoted finite hon.window hhit idle
    have hstate :
        r.2 = ((e.note (.pressed top.panel top.hit)).press top.panel pointer top.hit).2 := by
      show (e.pointerDown pointer).2 = _
      rw [pointerDown_of_topmost? htop]
    rw [hstate]
    exact ⟨Prod.ext hdone rfl, heffect⟩

open SmallRun in
/-- Two windows overlap. A press where only the lower one lies begins to drag it. -/
theorem press_drags_log :
    let pointer := pointerAt 0 130 90
    let r := (sideBySide.during clock).pointerDown pointer
    Reachable sideBySide ∧ sideBySide.tracker.session = none ∧ pointer.position.isFinite = true ∧
      r.1 = some (log, .titleBar) ∧
      ∃ s, r.2.tracker.session = some s ∧ s.panel = log ∧ s.grip = .drag ∧ s.pointer = 0 := by
  intro pointer r
  have hidle : sideBySide.tracker.session = none := by
    rw [← Option.isNone_iff_eq_none]
    decide
  have hpressed : r.1 = some (log, .titleBar) := by decide
  obtain ⟨w, _, _, heffect⟩ :=
    (press_takes_effect reachable_sideBySide clock pointer).2 log .titleBar hpressed
  exact ⟨reachable_sideBySide, hidle, rfl, hpressed, (heffect rfl hidle).2⟩

end Coordinator

end PanelDock
