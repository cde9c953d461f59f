import Mathlib.Tactic.Linarith
import PanelDock.Proofs.Cascade
import PanelDock.Proofs.Finiteness
/-!
# The regions of a window

A window has a button to close it and one to dock it at the right of its title bar, and a handle in
the corner below them. Each is found by tests of its own, one after the other, and the sizes that
they test by are constants of the window. What keeps the handle off the buttons and leaves some of
the title bar is the least size, and that is a matter of the settings. `Chrome.divided` brings the
two together: on a window of the least size that settings may ask for, or a larger one, every region
is where it is drawn, none overlaps another, and none is empty.

Whether a window has its controls is said when it opens, and nothing that is done later takes one
away. The buttons are on every window (`Reachable.furnished`). The handle is not, but without it no
resize begins.
-/

namespace PanelDock

theorem Rect.contains_iff {α : Type} [Coordinate α] (r : Rect α) (p : Point α) :
    r.contains p = true ↔ r.x ≤ p.x ∧ p.x < r.x + r.width ∧ r.y ≤ p.y ∧ p.y < r.y + r.height := by
  simp only [contains, Bool.and_eq_true, decide_eq_true_eq, and_assoc]

/-! ## One window -/

/-- The place is within the size. -/
def Size.Spans (s : Size Rat) (x y : Rat) : Prop := 0 ≤ x ∧ x < s.width ∧ 0 ≤ y ∧ y < s.height

/-- The place is on the control. -/
def Size.Holds (s : Size Rat) (x y : Rat) : Hit → Prop
  | .closeButton => s.width - 24 ≤ x ∧ x < s.width ∧ 0 ≤ y ∧ y < 28
  | .dockButton => s.width - 48 ≤ x ∧ x < s.width - 24 ∧ 0 ≤ y ∧ y < 28
  | .titleBar => 0 ≤ x ∧ x < s.width - 48 ∧ 0 ≤ y ∧ y < 28
  | .resizeHandle => s.width - 16 ≤ x ∧ x < s.width ∧ s.height - 16 ≤ y ∧ y < s.height
  | .content => False

/-- The place is in the region; the content has what no control takes. -/
def Size.Region (s : Size Rat) (x y : Rat) (hit : Hit) : Prop :=
  s.Holds x y hit ∨ (hit = .content ∧ s.Spans x y ∧ ∀ control, ¬ s.Holds x y control)

/-- All the controls that a window can have. -/
def Controls.all : Controls := { resizeHandle := true }

/-- A window is divided into its five regions, and a point hits the one that it is in. -/
structure Chrome.Divided (w : Chrome Rat) : Prop where
  hits : ∀ x y hit, w.hitAt? (w.position.offset x y) = some hit ↔ w.size.Region x y hit
  covered : ∀ x y, w.size.Spans x y ↔ ∃ hit, w.size.Region x y hit
  apart : ∀ x y hit other, w.size.Region x y hit → w.size.Region x y other → hit = other
  reachable : ∀ hit, ∃ x y, w.size.Region x y hit
  bounded : ∀ x y, w.bounds.contains (w.position.offset x y) = true ↔ w.size.Spans x y
  outside : ∀ point, w.hitAt? point = none ↔ w.bounds.contains point = false

/-- Both sides are as long as the settings may ask for at least. -/
def Size.Roomy (s : Size Rat) : Prop := 50 ≤ s.width ∧ 50 ≤ s.height

namespace Size

variable {s : Size Rat} {x y : Rat} {hit : Hit}

theorem spans_of_holds (roomy : s.Roomy) (h : s.Holds x y hit) : s.Spans x y := by
  obtain ⟨hwidth, hheight⟩ := roomy
  cases hit with
  | content => exact h.elim
  | _ =>
      obtain ⟨hleft, hright, htop, hbottom⟩ := h
      exact ⟨by linarith, by linarith, by linarith, by linarith⟩

/-- No two controls share a place. -/
theorem holds_unique (roomy : s.Roomy) {other : Hit} (h : s.Holds x y hit)
    (h' : s.Holds x y other) : hit = other := by
  obtain ⟨hwidth, hheight⟩ := roomy
  cases hit <;> cases other <;> first | rfl | (exfalso; unfold Holds at h h'; grind)

theorem region_unique (roomy : s.Roomy) {other : Hit} (h : s.Region x y hit)
    (h' : s.Region x y other) : hit = other := by
  rcases h with h | ⟨rfl, _, hnone⟩
  · rcases h' with h' | ⟨rfl, _, hnone⟩
    · exact holds_unique roomy h h'
    · exact absurd h (hnone hit)
  · rcases h' with h' | ⟨rfl, _, _⟩
    · exact absurd h' (hnone other)
    · rfl

theorem spans_iff (roomy : s.Roomy) : s.Spans x y ↔ ∃ hit, s.Region x y hit := by
  constructor
  · intro h
    by_cases hheld : ∃ control, s.Holds x y control
    · obtain ⟨control, hcontrol⟩ := hheld
      exact ⟨control, Or.inl hcontrol⟩
    · exact ⟨.content, Or.inr ⟨rfl, h, fun control hcontrol => hheld ⟨control, hcontrol⟩⟩⟩
  · rintro ⟨hit, h | ⟨_, hspans, _⟩⟩
    · exact spans_of_holds roomy h
    · exact hspans

/-- There is a place in every region. -/
theorem exists_region (roomy : s.Roomy) (hit : Hit) : ∃ x y, s.Region x y hit := by
  obtain ⟨hwidth, hheight⟩ := roomy
  cases hit with
  | closeButton =>
      exact ⟨s.width - 24, 0, Or.inl ⟨by linarith, by linarith, by norm_num, by norm_num⟩⟩
  | dockButton =>
      exact ⟨s.width - 48, 0, Or.inl ⟨by linarith, by linarith, by norm_num, by norm_num⟩⟩
  | titleBar => exact ⟨0, 0, Or.inl ⟨by norm_num, by linarith, by norm_num, by norm_num⟩⟩
  | resizeHandle =>
      exact ⟨s.width - 16, s.height - 16,
        Or.inl ⟨by linarith, by linarith, by linarith, by linarith⟩⟩
  | content =>
      -- the left end of the first row below the title bar
      refine ⟨0, 28,
        Or.inr ⟨rfl, ⟨by norm_num, by linarith, by norm_num, by linarith⟩, fun control h => ?_⟩⟩
      cases control <;> unfold Holds at h <;> grind

end Size

namespace Chrome

variable {w : Chrome Rat} {x y : Rat} {hit : Hit}

theorem handleSide_eq : (handleSide : Rat) = 16 := by norm_num [handleSide, Coordinate.ofNat]

theorem titleBarHeight_eq :
    (titleBarHeight : Rat) = 28 := by norm_num [titleBarHeight, Coordinate.ofNat]

theorem buttonWidth_eq : (buttonWidth : Rat) = 24 := by norm_num [buttonWidth, Coordinate.ofNat]

/-- What the tests find at a place of a roomy window is the region of the place. -/
theorem region_region (furnished : w.controls = .all) (roomy : w.size.Roomy)
    (spans : w.size.Spans x y) : w.size.Region x y (w.region x y) := by
  have htwo : (Coordinate.ofNat 2 : Rat) = 2 := by norm_num [Coordinate.ofNat]
  have hall : w.controls.resizeHandle = true ∧ w.controls.closeButton = true ∧
      w.controls.dockButton = true := by
    rw [furnished]
    exact ⟨rfl, rfl, rfl⟩
  obtain ⟨hhandle, hclose, hdock⟩ := hall
  obtain ⟨hwidth, hheight⟩ := roomy
  obtain ⟨hleft, hright, htop, hbottom⟩ := spans
  unfold region
  split
  · rename_i hcorner
    rw [handleSide_eq] at hcorner
    exact Or.inl ⟨hcorner.2.1, hright, hcorner.2.2, hbottom⟩
  · rename_i hcorner
    rw [handleSide_eq] at hcorner
    split
    · rename_i hbar
      rw [titleBarHeight_eq] at hbar
      dsimp only
      split
      · rename_i houter
        rw [buttonWidth_eq] at houter
        exact Or.inl ⟨by linarith [houter.2], hright, htop, hbar⟩
      · rename_i houter
        rw [buttonWidth_eq] at houter
        have hinner : x < w.size.width - 24 := by
          by_contra h
          exact houter ⟨hclose, by linarith⟩
        split
        · rename_i hbeside
          rw [buttonWidth_eq, htwo] at hbeside
          exact Or.inl ⟨by linarith [hbeside.2.2], hinner, htop, hbar⟩
        · rename_i hbeside
          rw [buttonWidth_eq, htwo] at hbeside
          refine Or.inl ⟨hleft, ?_, htop, hbar⟩
          by_contra h
          exact hbeside ⟨hdock, by linarith, by linarith⟩
    · rename_i hbar
      rw [titleBarHeight_eq] at hbar
      refine Or.inr ⟨rfl, ⟨hleft, hright, htop, hbottom⟩, fun control h => ?_⟩
      cases control with
      | resizeHandle => exact hcorner ⟨hhandle, h.1, h.2.2.1⟩
      | content => exact h
      | _ => exact hbar h.2.2.2

theorem contains_offset (x y : Rat) :
    w.bounds.contains (w.position.offset x y) = true ↔ w.size.Spans x y := by
  rw [Rect.contains_iff]
  unfold bounds Rect.ofParts Point.offset
  constructor
  · rintro ⟨hleft, hright, htop, hbottom⟩
    exact ⟨by linarith, by linarith, by linarith, by linarith⟩
  · rintro ⟨hleft, hright, htop, hbottom⟩
    exact ⟨by linarith, by linarith, by linarith, by linarith⟩

theorem hitAt?_offset (shown : w.displayed = true) (x y : Rat) : w.hitAt? (w.position.offset x y) =
    if w.bounds.contains (w.position.offset x y) then some (w.region x y) else none := by
  have hx : w.position.x + x - w.position.x = x := by linarith
  have hy : w.position.y + y - w.position.y = y := by linarith
  rw [hitAt?, shown, Bool.true_and, Point.deltaFrom, Point.offset]
  dsimp only
  rw [hx, hy]

/-- A roomy window that is shown with all its controls is divided into its regions. -/
theorem divided (shown : w.displayed = true) (furnished : w.controls = .all)
    (roomy : w.size.Roomy) : w.Divided where
  hits x y hit := by
    rw [hitAt?_offset shown]
    split
    · rename_i hinside
      have hregion := region_region furnished roomy ((contains_offset x y).mp hinside)
      rw [Option.some_inj]
      exact ⟨fun he => he ▸ hregion, fun h => Size.region_unique roomy hregion h⟩
    · rename_i hinside
      refine ⟨fun he => absurd he nofun, fun h => absurd ((contains_offset x y).mpr ?_) hinside⟩
      exact (Size.spans_iff roomy).mpr ⟨hit, h⟩
  covered x y := Size.spans_iff roomy
  apart x y hit other h h' := Size.region_unique roomy h h'
  reachable hit := Size.exists_region roomy hit
  bounded := contains_offset
  outside point := by
    rw [hitAt?, shown, Bool.true_and]
    cases w.bounds.contains point with
    | true => exact ⟨nofun, nofun⟩
    | false => exact ⟨fun _ => rfl, fun _ => rfl⟩

end Chrome

/-! ## The windows of a coordinator -/

namespace Coordinator

variable {α β : Type} [Coordinate α] {c d : Coordinator α β} {id : PanelId}

/-- Every window has both of its buttons. -/
def Furnished (c : Coordinator α β) : Prop :=
  ∀ i w, c.flyouts.get? i = some w → w.controls.closeButton = true ∧ w.controls.dockButton = true

omit [Coordinate α] in
theorem Furnished.inserted (hc : c.Furnished) {w : Chrome α}
    (furnished : w.controls.closeButton = true ∧ w.controls.dockButton = true)
    (h : d.flyouts = c.flyouts.insert id w) : d.Furnished := by
  intro i v hv
  rw [h] at hv
  rcases Catalog.get?_insert_eq_some hv with ⟨_, rfl⟩ | ⟨_, hold⟩
  · exact furnished
  · exact hc i v hold

omit [Coordinate α] in
theorem Furnished.erased (hc : c.Furnished) (h : d.flyouts = c.flyouts.erase id) : d.Furnished := by
  intro i v hv
  rw [h] at hv
  exact hc i v (Catalog.get?_erase_eq_some hv).2

omit [Coordinate α] in
/-- A window may change in all but its controls. -/
theorem Furnished.placed (hc : c.Furnished) {i : PanelId} {v w : Chrome α}
    (hv : c.flyouts.get? i = some v) (h : d.flyouts = c.flyouts.insert id w)
    (same : w.controls = v.controls) : d.Furnished :=
  hc.inserted (same ▸ hc i v hv) h

/-- A window opens with both buttons, and no change takes one away. -/
theorem Change.furnished {m : Move} (h : Change c m d) (hc : c.Furnished) : d.Furnished := by
  cases h with
  | registered new name fresh content journal => exact hc
  | refilledAside known bare content => exact hc
  | hidden hp was backend journal => exact hc
  | unhidden hp was backend journal => exact hc
  | docked hw content backend journal => exact hc.erased rfl
  | destroyed hp content backend journal => exact hc.erased rfl
  | flownOut hp rests title position size handle slot content backend journal =>
      exact hc.inserted ⟨rfl, rfl⟩ rfl
  | refilled hw slot content journal => exact hc.placed hw rfl rfl
  | closed hw shown backend journal => exact hc.placed hw rfl rfl
  | shown hw closed focus backend journal => exact hc.placed hw rfl rfl
  | shownOnTop hw closed focus hz backend journal => exact hc.placed hw rfl rfl
  | focused hw shown hz journal => exact hc.placed hw rfl rfl
  | grabbed hw hp shown handle idle opening hz name journal => exact hc.placed hw rfl rfl
  | sampled live mine hw backend journal =>
      -- a sample moves the window or makes it larger or smaller
      exact hc.placed hw rfl (reached_controls _ _)

theorem Furnished.rebuild (hc : c.Furnished) : c.rebuild.2.Furnished := by
  refine rebuild_keeps (fun e id he => ?_) (fun e p he => ?_) hc
  · obtain ⟨content, journal, hd⟩ := discard_eq e id
    rw [hd]
    exact he.erased rfl
  · obtain ⟨slot, content, journal, hr⟩ := reopen_eq e p
    rw [hr]
    have hdiscarded : (e.discarded p.id).Furnished := he.erased rfl
    exact hdiscarded.inserted ⟨rfl, rfl⟩ rfl

variable [Backend β α]

/-- In every run all windows have both of their buttons. -/
theorem Reachable.furnished (h : Reachable c) : c.Furnished := by
  refine h.invariant (P := Furnished) (fun settings backend moment => ?_) (fun c moment hc => hc) ?_
  · intro i w hw
    cases hw
  · intro c command d hafter _ hc
    cases hafter with
    | aside stuck spent subscribers nextSubscriber journal => exact hc
    | changed asks es h booked => exact h.furnished hc
    | @restored snapshot asks found =>
        obtain ⟨lines, e, journal, rfl, hr⟩ := restore_eq found
        rw [hr]
        have himported : (c.imported snapshot lines).Furnished := hc
        exact himported.rebuild

omit [Backend β α] in
/-- A command resizes a panel: it comes down to a sample of the pointer that resizes it. -/
def Resizes (c : Coordinator α β) (command : Command α β) (id : PanelId) : Prop :=
  ∃ s release, c.tracker.session = some s ∧ s.panel = id ∧ s.grip = .resize ∧
    c.asked command = some (.sample s.pointer true release)

omit [Backend β α] in
/-- The size that a resize gives is not below the least. -/
theorem geometryAt_resize {s : Session α} (grip : s.grip = .resize) (c : Coordinator α β)
    (pointer : Pointer α) :
    ∃ size : Size α, c.geometryAt s pointer =
      .resized s.panel (size.atLeast c.tracker.minSize) := by
  unfold Session.grip at grip
  unfold geometryAt advanced
  cases hg : s.gesture with
  | drag start last =>
      rw [hg] at grip
      cases grip
  | resize start last => exact ⟨_, rfl⟩

/-- After a command that resizes a panel its window is shown and has its handle, and its size is not
below the least. -/
theorem Resizes.window (hc : c.Coherent) {command : Command α β} (h : c.Resizes command id) :
    ∃ w size, (c.perform command).2.flyouts.get? id = some w ∧ w.displayed = true ∧
      w.controls.resizeHandle = true ∧ w.size = Size.atLeast size c.settings.minSize := by
  obtain ⟨s, release, live, rfl, grip, asks⟩ := h
  obtain ⟨v, hv, shown, handle⟩ := hc.attended s live
  have hheld : c.layout.hold = some { panel := s.panel, grip := s.grip, pointer := s.pointer } := by
    rw [layout_hold, live]
    rfl
  have hallowed : (c.layout.step (.sample s.pointer true release)).isSome = true := by
    rw [Layout.step_sample hheld]
    rfl
  obtain ⟨es, hchange⟩ := Makes.change hc (Or.inr ⟨asks, hallowed⟩)
  generalize (c.perform command).2 = d at hchange
  generalize s.pointer = number at hchange
  cases hchange with
  | @sampled t w pointer release live' mine hw backend journal =>
      obtain rfl : s = t := Option.some.inj (live.symm.trans live')
      obtain rfl : v = w := Option.some.inj (hv.symm.trans hw)
      obtain ⟨size, hreaches⟩ := geometryAt_resize grip (c.record es) pointer
      refine ⟨reached v ((c.record es).geometryAt s pointer), size, ?_, ?_, ?_, ?_⟩
      · show (c.flyouts.insert (reached v _).panel _).get? s.panel = _
        rw [reached_panel, hc.paired.window_named hv, Catalog.get?_insert_self]
      · rw [reached_displayed, shown]
      · rw [reached_controls, handle grip]
      · rw [hreaches]
        show size.atLeast c.tracker.minSize = _
        rw [hc.measured]

/-- A command that answers with a size resizes. -/
theorem resizes_of_answer (hc : c.Coherent) {command : Command α β} {size : Size α}
    (h : (c.perform command).1 = .reached (some (.resized id size))) : c.Resizes command id := by
  have hfeed : ∀ {pointer : Pointer α} {release : Bool}, (c.feed pointer release).1 =
      some (.resized id size) →
      c.asked command = some (.sample pointer.number pointer.position.isFinite release) →
      c.Resizes command id := by
    intro pointer release hfed asks
    rcases hc.feed_cases pointer release with
      ⟨es, _, hr, _⟩ | ⟨s, w, journal, live, mine, somewhere, _, hr⟩
    · rw [hr] at hfed
      cases hfed
    · rw [hr] at hfed
      have hreaches : c.geometryAt s pointer = .resized id size := Option.some.inj hfed
      rw [← mine, somewhere] at asks
      unfold geometryAt advanced at hreaches
      cases hg : s.gesture with
      | drag start last =>
          rw [hg] at hreaches
          cases hreaches
      | resize start last =>
          rw [hg] at hreaches
          cases hreaches
          exact ⟨s, release, live, rfl, by rw [Session.grip, hg]; rfl, asks⟩
  -- only a movement and a release of the pointer answer with a size, and both come down to a sample
  cases command with
  | action a => cases h
  | request k =>
      cases k with
      | pointerMove pointer => exact hfeed (Answer.reached.inj h) rfl
      | pointerUp pointer =>
          refine hfeed ?_ rfl
          have hanswer : (c.pointerUp pointer).1 = some (.resized id size) := Answer.reached.inj h
          rw [pointerUp] at hanswer
          split at hanswer
          · cases hanswer
          · rename_i hfed
            rw [hfed]
            exact hanswer
      | _ => cases h

/-- No command of a run touches the settings. -/
theorem run_settings (h : Reachable c) (steps : List (Moment × Command α β)) :
    (c.run steps).settings = c.settings := by
  induction steps generalizing c with
  | nil => rfl
  | cons step rest ih =>
      exact (ih (h.step step.1 step.2)).trans (perform_settings (h.coherent.during step.1) step.2)

end Coordinator

/-! ## Legal settings -/

/-- No value is larger than the larger of two. -/
theorem Coordinate.le_larger (a b : Rat) : b ≤ larger a b := by
  unfold larger
  split
  · exact Rat.le_refl
  · split
    · rename_i h _
      exact Rat.not_lt.mp h
    · exact Rat.le_refl

/-- A size that is not below the least of legal settings is roomy. -/
theorem Size.roomy_of_legal {settings : Settings Rat} (legal : settings.violations = [])
    {s : Size Rat} (width : settings.flyout.minWidth ≤ s.width)
    (height : settings.flyout.minHeight ≤ s.height) : s.Roomy := by
  have hleast : ∀ {name : String} {value : Rat} {most : Nat},
      Settings.rangeViolation name value 50 most = [] → 50 ≤ value := by
    intro name value most h
    unfold Settings.rangeViolation at h
    split at h
    · rename_i hrange
      exact hrange.1
    · cases h
  simp only [Settings.violations, List.append_eq_nil_iff] at legal
  obtain ⟨⟨⟨⟨⟨_, hwidth⟩, hheight⟩, _⟩, _⟩, _⟩ := legal
  exact ⟨le_trans (hleast hwidth) width, le_trans (hleast hheight) height⟩

namespace Coordinator

variable {β : Type} [Backend β Rat]

/-- **Every control of a legal window can be reached.** Let the settings be legal. A window that is
shown with all its controls, at any place, and that is not smaller than the least size, is divided
into its five regions. And after every command of a run that resizes a panel, its window is shown
with all its controls and is not smaller than the least size, so that it is divided too. -/
theorem legal_windows_are_divided {settings : Settings Rat} (legal : settings.violations = []) :
    (∀ w : Chrome Rat, w.displayed = true → w.controls = .all →
      settings.flyout.minWidth ≤ w.size.width →
      settings.flyout.minHeight ≤ w.size.height → w.Divided) ∧
    ∀ (backend : Option β) (moment now : Moment) (steps : List (Moment × Command Rat β))
      (command : Command Rat β) (id : PanelId),
      let c := ((ofSettings settings backend moment).run steps).during now
      c.Resizes command id → ∃ w, (c.perform command).2.flyouts.get? id = some w ∧
        w.displayed = true ∧ w.controls = .all ∧ settings.flyout.minWidth ≤ w.size.width ∧
        settings.flyout.minHeight ≤ w.size.height ∧ w.Divided := by
  have hdivided : ∀ w : Chrome Rat, w.displayed = true → w.controls = .all →
      settings.flyout.minWidth ≤ w.size.width →
      settings.flyout.minHeight ≤ w.size.height → w.Divided :=
    fun w shown all width height =>
      Chrome.divided shown all (Size.roomy_of_legal legal width height)
  refine ⟨hdivided, ?_⟩
  intro backend moment now steps command id c resizes
  have hreachable : Reachable ((ofSettings settings backend moment).run steps) :=
    (Reachable.start settings backend moment).run steps
  have hsettings : c.settings = settings.flyout :=
    run_settings (.start settings backend moment) steps
  obtain ⟨w, size, hw, shown, handle, hsize⟩ := resizes.window (hreachable.coherent.during now)
  obtain ⟨hclose, hdock⟩ := (hreachable.step now command).furnished id w hw
  have hall : w.controls = .all := by
    generalize w.controls = controls at handle hclose hdock ⊢
    cases controls
    cases handle
    cases hclose
    cases hdock
    rfl
  rw [hsettings] at hsize
  have hwidth : settings.flyout.minWidth ≤ w.size.width := hsize ▸ Coordinate.le_larger _ _
  have hheight : settings.flyout.minHeight ≤ w.size.height := hsize ▸ Coordinate.le_larger _ _
  exact ⟨w, hw, shown, hall, hwidth, hheight, hdivided w shown hall hwidth hheight⟩

open SmallRun in
/-- A panel is flown out and taken by the handle of its window. -/
def stretching : List (Moment × Command Rat (Memory Rat)) :=
  [(clock, .request (.registerPanel log "Log" "left" none)), (clock, .request (.flyOut log {})),
    (clock, .request (.beginResize log { position := { x := 592, y := 432 }, number := 0 }))]

open SmallRun in
/-- The pointer goes up to the corner of the screen. The window is as small as it can be, and its
content can still be reached. -/
theorem smallest_log_is_divided :
    let corner : Pointer Rat := { position := { x := 0, y := 0 }, number := 0 }
    let c :=
      ((ofSettings Settings.standard (some ({} : Memory Rat)) clock).run stretching).during clock
    (Settings.standard : Settings Rat).violations = [] ∧
      c.Resizes (.request (.pointerMove corner)) log ∧
      (c.pointerMove corner).1 = some (.resized log { width := 200, height := 150 }) ∧
      ∃ w, (c.pointerMove corner).2.flyouts.get? log = some w ∧ w.controls = .all ∧ w.Divided ∧
        w.hitAt? (w.position.offset 199 149) = some .resizeHandle := by
  intro corner c
  have hlegal : (Settings.standard : Settings Rat).violations = [] := by decide +kernel
  have hanswer : (c.pointerMove corner).1 =
      some (.resized log { width := 200, height := 150 }) := by decide +kernel
  have hresizes : c.Resizes (.request (.pointerMove corner)) log :=
    resizes_of_answer (((Reachable.start _ _ _).run stretching).coherent.during clock)
      (congrArg Answer.reached hanswer)
  obtain ⟨_, hdivided⟩ := legal_windows_are_divided (β := Memory Rat) hlegal
  obtain ⟨w, hw, _, hall, _, _, hparts⟩ := hdivided (some {}) clock clock stretching _ log hresizes
  have hsize : ((c.pointerMove corner).2.flyouts.get? log).map (·.size) =
      some { width := 200, height := 150 } := by
    decide +kernel
  have hw' : (c.pointerMove corner).2.flyouts.get? log = some w := hw
  rw [hw', Option.map_some, Option.some_inj] at hsize
  refine ⟨hlegal, hresizes, hanswer, w, hw, hall, hparts,
    (hparts.hits 199 149 .resizeHandle).mpr (Or.inl ?_)⟩
  rw [hsize]
  unfold Size.Holds
  norm_num

end Coordinator

end PanelDock
