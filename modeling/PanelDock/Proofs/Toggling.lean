import PanelDock.Proofs.Lineage
import PanelDock.Proofs.Passages
/-!
# Toggling twice

To toggle a panel that rests, and to toggle it again, is to do nothing. Its window opens and is
taken down, and all that either writes is written over by the other: the record because it was bare
before, the stack because the handle was free before, the gesture because none is on a panel without
a window. What stays is that a handle was given out, that the counter of the layer of windows may
have risen, that the source of the panel may have been called, and the time of the last change.

To toggle a panel that floats, and to toggle it again, brings its window back where a new one would
open.
-/

namespace PanelDock

variable {α β : Type} [Coordinate α]

/-- A bare panel is what it was when it has been flown out and docked again, but for the time of the
change. -/
theorem Panel.Bare.flown_and_docked {p : Panel α} (bare : p.Bare) (rests : p.placement ≠ .floating)
    (w : Chrome α) (z : Int) (first second : Instant) :
    (p.revised (Coordinator.openPatch w z) first).revised
      (Coordinator.dockPatch p.placement) second =
      { p with lastUpdated := second } := by
  have hfloats : (p.revised (Coordinator.openPatch w z) first).placement = .floating :=
    settled_some _ _
  generalize hq : p.revised (Coordinator.openPatch w z) first = q at hfloats ⊢
  have hdiffers : differs q.placement (some p.placement) = true := by
    rw [hfloats, differs, bne_iff_ne]
    exact rests.symm
  have hchanged : q.changedBy (Coordinator.dockPatch p.placement) = true := by
    simp only [Panel.changedBy, Coordinator.dockPatch, hdiffers, Bool.or_true, Bool.true_or]
  have hvisible : settled q.visible (some (p.placement == .docked)) = p.visible := by
    rw [settled_some, Bool.eq_iff_iff, beq_iff_eq]
    exact bare.seen.symm
  rw [Panel.revised, if_pos hchanged, Panel.mk.injEq]
  subst hq
  exact ⟨rfl, rfl, settled_some _ _, rfl, (settled_clear _).trans bare.unplaced.symm,
    (settled_clear _).trans bare.unsized.symm,
    (settled_clear _).trans bare.unstacked.symm, hvisible,
    (settled_some _ _).trans bare.unmounted.symm, rfl, rfl, rfl⟩

/-- A bare panel takes on the geometry of its window as it is. -/
theorem Panel.Bare.opened {p : Panel α} (bare : p.Bare) (w : Chrome α) (z : Int) (now : Instant) :
    (p.revised (Coordinator.openPatch w z) now).position = some w.position ∧
      (p.revised (Coordinator.openPatch w z) now).size = some w.size := by
  have hposition : (p.revised (Coordinator.openPatch w z) now).position =
      settled p.position (some (some w.position)) := rfl
  have hsize : (p.revised (Coordinator.openPatch w z) now).size =
      settled p.size (some (some w.size)) := rfl
  rw [hposition, hsize, bare.unplaced, bare.unsized]
  exact ⟨rfl, rfl⟩

namespace Coordinator

/-- The number of windows of other panels that are shown. -/
def shownBesides (c : Coordinator α β) (id : PanelId) : Nat :=
  (c.flyouts.erase id).values.countP (·.displayed)

variable {c : Coordinator α β} {id : PanelId} {p : Panel α} {w : Chrome α}

/-! ## Nothing is left of a window -/

omit [Coordinate α] in
/-- The next handle is not in use. -/
theorem newHandle_free (hr : Ranked c.flyouts c.stack) (hs : Stacked c.flyouts c.stack) :
    c.stack.registrations.get? c.stack.newHandle.1 = none := by
  rw [Option.eq_none_iff_forall_ne_some]
  intro r hreg
  obtain ⟨_, _, i, v, hv, hown, _⟩ := hr.named _ r hreg
  have hgiven := hs.given i v hv
  rw [hown] at hgiven
  exact absurd hgiven (Nat.lt_irrefl _)

/-- Of a window that opens and is taken down, the stack keeps its counter only. -/
theorem released_floated (free : c.stack.registrations.get? w.handle = none) (slot : Slot) :
    (c.floated w slot).released w.panel = c.stack.raiseCounter .popup (c.stacking w).result := by
  obtain ⟨r, hresult, hstate, _⟩ := stacking_registered c w
  have hwindow : (c.floated w slot).flyouts.get? w.panel =
      some { w with toOverlay := { w.toOverlay with zIndex := some r.zIndex }, slot } := by
    show (c.flyouts.insert w.panel _).get? w.panel = _
    rw [Catalog.get?_insert_self, hstate]
  have hstack : (c.floated w slot).stack = { c.stack.raiseCounter .popup r.zIndex with
      registrations := c.stack.registrations.insert w.handle r } := congrArg Prod.fst hstate
  have hregistered : (c.floated w slot).stack.registration? w.handle = some r := by
    rw [hstack]
    exact Catalog.get?_insert_self _ _ _
  rw [released, hwindow]
  dsimp only
  rw [Allocator.unregister, hregistered, hstack, hresult]
  dsimp only
  rw [Catalog.erase_insert _ _ free]
  rfl

omit [Coordinate α] in
/-- There is no gesture to be dropped on a panel without a window. -/
theorem dropTarget_bare (ha : Attended c.flyouts c.tracker.session)
    (bare : c.flyouts.get? id = none) :
    (c.tracker.dropTarget id).state = c.tracker := by
  rw [Tracker.dropTarget]
  cases hlive : c.tracker.session with
  | none => rfl
  | some s =>
      have hother : s.panel ≠ id := by
        rintro rfl
        obtain ⟨v, hv, _⟩ := ha s hlive
        exact absurd (bare.symm.trans hv) (Option.some_ne_none v).symm
      dsimp only
      rw [if_neg hother]

/-- The state after a bare panel was flown out and docked again. -/
theorem docked_after_floated (hc : c.Coherent) (hr : Ranked c.flyouts c.stack)
    (hp : c.store.get? w.panel = some p) (rests : p.placement ≠ .floating) (bare : p.Bare)
    (new : w.handle = c.stack.newHandle.1) (slot : Slot) (second : Moment) :
    (((c.handled.floated w slot).during second).discarded w.panel).amended w.panel
      (dockPatch p.placement) =
      { c with
        store :=
          { c.store with
            panels := c.store.panels.insert w.panel { p with lastUpdated := second.now } }
        stack := { c.stack.raiseCounter .popup (c.handled.stacking w).result with
          nextHandle := c.stack.nextHandle + 1 }
        moment := second } := by
  have hbare : c.flyouts.get? w.panel = none := hc.paired.no_window_of_rests hp rests
  have hstack : (c.handled.floated w slot).released w.panel =
      { c.stack.raiseCounter .popup (c.handled.stacking w).result with
        nextHandle := c.stack.nextHandle + 1 } :=
    released_floated (c := c.handled) (by rw [new]; exact newHandle_free hr hc.stacked) slot
  have htracker : (c.tracker.dropTarget w.panel).state = c.tracker :=
    dropTarget_bare hc.attended hbare
  have hflyouts : (c.handled.floated w slot).flyouts.erase w.panel = c.flyouts :=
    Catalog.erase_insert _ _ hbare
  have hstore :
      ((c.handled.floated w slot).store.update second.now w.panel (dockPatch p.placement)).state =
      { c.store with
        panels := c.store.panels.insert w.panel { p with lastUpdated := second.now } } := by
    have hopened : (c.handled.floated w slot).store = _ := Store.update_state hp c.moment.now rfl
    have hrecord : (c.handled.floated w slot).store.get? w.panel = some _ := record_here hp rfl
    rw [Store.update_state hrecord second.now rfl, bare.flown_and_docked rests, hopened]
    dsimp only
    rw [Catalog.insert_insert]
  show { c with
    store :=
      ((c.handled.floated w slot).store.update second.now w.panel (dockPatch p.placement)).state
    stack := (c.handled.floated w slot).released w.panel
    tracker := (c.tracker.dropTarget w.panel).state
    flyouts := (c.handled.floated w slot).flyouts.erase w.panel
    moment := second } = _
  rw [hstore, hstack, htracker, hflyouts]

/-! ## Two turns -/

theorem isFlyingOut_of_window (hc : c.Paired) (hw : c.flyouts.get? id = some w) :
    c.isFlyingOut id = true := by
  obtain ⟨p, hp, _, _, same⟩ := hc.record_of_window hw
  exact (hc.isFlyingOut_eq id).trans (congrArg _ (station_of_window hw hp same.placement))

theorem isFlyingOut_of_rests (hc : c.Paired) (hp : c.store.get? id = some p)
    (rests : p.placement ≠ .floating) : c.isFlyingOut id = false :=
  (hc.isFlyingOut_eq id).trans (congrArg _ (station_of_resting hp rests))

/-- A panel is as it was, and so is all around it; it has been changed at this moment. Only the
counter of the layer of windows, the number of the next handle and the backend have moved, and the
source of the panel may have been called. -/
structure BackInPlace (c : Coordinator α β) (id : PanelId) (p : Panel α) (moment : Moment)
    (d : Coordinator α β) :
    Prop where
  state : d = { c with
    store :=
      { c.store with panels := c.store.panels.insert id { p with lastUpdated := moment.now } }
    stack := { c.stack with counter := d.stack.counter, nextHandle := c.stack.nextHandle + 1 }
    content := d.content
    backend := d.backend
    moment
    journal := d.journal }
  counters : ∀ layer, layer ≠ .popup → d.stack.counter layer = c.stack.counter layer
  elsewhere : ∀ i, i ≠ id → d.content.get? i = c.content.get? i
  sources : d.sources = c.sources

/-- A window and its record are where a new one opens when so many others are shown. The window
leads back to this place. -/
structure OpenedAnew (settings : FlyoutSettings α) (shown : Nat) (returns : Placement)
    (w : Chrome α) (p : Panel α) :
    Prop where
  floating : p.placement = .floating
  displayed : w.displayed = true
  visible : p.visible = true
  leadsBack : w.returnPlacement = returns
  position : w.position = settings.cascade shown
  size : w.size = settings.defaultSize
  placed : p.position = some (settings.cascade shown)
  sized : p.size = some settings.defaultSize

variable [Backend β α]

theorem toggled_out (hc : c.Paired) (hp : c.store.get? id = some p)
    (rests : p.placement ≠ .floating) : c.toggleFlyout id = c.flyOut id {} := by
  rw [toggleFlyout, isFlyingOut_of_rests hc hp rests]
  rfl

theorem toggled_in (hc : c.Paired) (hw : c.flyouts.get? id = some w) :
    c.toggleFlyout id = c.dock id := by
  rw [toggleFlyout, isFlyingOut_of_window hc hw]
  rfl

/-- Out and in again. -/
theorem flown_and_docked (hc : c.Coherent) (hr : Ranked c.flyouts c.stack)
    (hp : c.store.get? id = some p) (rests : p.placement ≠ .floating) (bare : p.Bare)
    (second : Moment) (hd : ((c.flyOut id {}).2.during second).Coherent) :
    ∃ w, (c.flyOut id {}).1 = true ∧ (c.flyOut id {}).2.flyouts.get? id = some w ∧
      (((c.flyOut id {}).2.during second).dock id).1 = true ∧
      c.BackInPlace id p second (((c.flyOut id {}).2.during second).dock id).2 := by
  have hsources :=
    (dock_sources ((c.flyOut id {}).2.during second) id).trans (flyOut_sources c id {})
  have helsewhere : ∀ i, i ≠ id →
      (((c.flyOut id {}).2.during second).dock id).2.content.get? i = c.content.get? i := by
    intro i hi
    have hne : some id ≠ some i := fun he => hi (Option.some.inj he).symm
    have hout : Confined (some id) c (c.flyOut id {}).2 := (Confined.flyOut c id {}).settle
    have hin : Confined (some id) _ (((c.flyOut id {}).2.during second).dock id).2 :=
      (Confined.dock hd.paired id).settle
    exact (hin.content i hne).trans (hout.content i hne)
  obtain ⟨content, backend, journal, hflown⟩ := flyOut_eq hp rests {}
  rw [hflown] at hd hsources helsewhere ⊢
  have hw :
      (c.handled.floated (c.flownWindow id p {})
        (Slot.ofSource id (c.content.get? id))).flyouts.get? id =
      some _ := window_here rfl
  obtain ⟨content', backend', journal', hdocked⟩ := dock_eq hd.paired hw
  have hstate := docked_after_floated (w := c.flownWindow id p {}) hc hr hp rests bare rfl
    (Slot.ofSource id (c.content.get? id)) second
  have hafter := hdocked.trans (congrArg (fun e : Coordinator α β =>
    (true, { e with content := content', backend := backend', journal := journal' })) hstate)
  rw [hafter] at hsources helsewhere ⊢
  exact ⟨_, rfl, hw, rfl, rfl, fun layer hlayer => if_neg hlayer, helsewhere, hsources⟩

/-- A bare panel that is flown out without more gets its window in the usual place. -/
theorem flyOut_opensAnew (hp : c.store.get? id = some p) (rests : p.placement ≠ .floating)
    (bare : p.Bare) :
    (c.flyOut id {}).1 = true ∧ ∃ w q, (c.flyOut id {}).2.flyouts.get? id = some w ∧
      (c.flyOut id {}).2.store.get? id = some q ∧
      OpenedAnew c.settings c.displayedCount p.placement w q := by
  obtain ⟨content, backend, journal, hflown⟩ := flyOut_eq hp rests {}
  rw [hflown]
  exact ⟨rfl, _, _, window_here rfl, record_here hp rfl, settled_some _ _, rfl, settled_some _ _,
    rfl, rfl, rfl,
    (bare.opened _ _ _).1, (bare.opened _ _ _).2⟩

/-- A panel that is docked lies bare where its window led back to. -/
theorem dock_leaves (hc : c.Paired) (hw : c.flyouts.get? id = some w) :
    (c.dock id).1 = true ∧ (c.dock id).2.flyouts = c.flyouts.erase id ∧
    (c.dock id).2.settings = c.settings ∧
      ∃ p, (c.dock id).2.store.get? id = some p ∧ p.placement = w.returnPlacement ∧
        p.placement ≠ .floating ∧ p.Bare := by
  obtain ⟨p, hp, _, _, same⟩ := hc.record_of_window hw
  obtain ⟨content, backend, journal, hdocked⟩ := dock_eq hc hw
  rw [hdocked]
  have hplacement : (p.revised (dockPatch w.returnPlacement) c.moment.now).placement =
      w.returnPlacement :=
    settled_some _ _
  refine ⟨rfl, rfl, rfl, _, record_here hp rfl, hplacement, ?_, bare_docked p _ _⟩
  exact fun hfl => same.returns (hplacement.symm.trans hfl)

/-- **Toggling twice undoes itself.** Where only such snapshots are restored as were saved by such
coordinators, a panel that is known can be toggled twice. If it rests it is as it was then, but for
the time of its last change, and so is everything but the counter of the layer of windows, the next
handle, the calls that its provider has had, and what is done aside. If it floats its window has
been opened anew in the usual place, and leads back to where it led before. -/
theorem toggling_twice (h : c.Descends) (hp : c.store.get? id = some p) (first second : Moment) :
    let once := (c.during first).toggleFlyout id
    let twice := (once.2.during second).toggleFlyout id
    once.1 = true ∧ twice.1 = true ∧
      (p.placement ≠ .floating → c.BackInPlace id p second twice.2) ∧
      (p.placement = .floating → ∃ w v q, c.flyouts.get? id = some w ∧
        twice.2.flyouts.get? id = some v ∧ twice.2.store.get? id = some q ∧
        OpenedAnew c.settings (c.shownBesides id) w.returnPlacement v q) := by
  intro once twice
  have hkept := h.kept
  have hc := hkept.reachable.coherent.during first
  have hd : (once.2.during second).Coherent :=
    (hkept.reachable.step first (.request (.toggleFlyout id))).coherent.during second
  by_cases hfl : p.placement = .floating
  · rcases hc.paired.whereabouts id with ⟨_, hno⟩ | ⟨q, _, hq, _, rests⟩ | ⟨w, q, hw, _⟩
    · exact absurd (hno.symm.trans hp) (by simp)
    · exact absurd hfl (Option.some.inj (hq.symm.trans hp) ▸ rests)
    · have honce : once = (c.during first).dock id := toggled_in hc.paired hw
      rw [honce] at hd
      obtain ⟨hdone, hflyouts, hsettings, r, hr, hplacement, hrests, hbare⟩ :=
        dock_leaves hc.paired hw
      obtain ⟨hagain, v, q, hv, hq, hnew⟩ :=
        flyOut_opensAnew (c := ((c.during first).dock id).2.during second) hr hrests hbare
      have htwice : twice = (((c.during first).dock id).2.during second).flyOut id {} := by
        show (once.2.during second).toggleFlyout id = _
        rw [honce]
        exact toggled_out hd.paired hr hrests
      -- only the windows of other panels are still there when it is flown out again
      have hshown : (((c.during first).dock id).2.during second).displayedCount =
          c.shownBesides id :=
        congrArg (fun flyouts => flyouts.values.countP (·.displayed)) hflyouts
      have hsame : (((c.during first).dock id).2.during second).settings = c.settings := hsettings
      rw [hshown, hplacement, hsame] at hnew
      rw [honce, htwice]
      exact ⟨hdone, hagain, fun rests => absurd hfl rests, fun _ => ⟨w, v, q, hw, hv, hq, hnew⟩⟩
  · have honce : once = (c.during first).flyOut id {} := toggled_out hc.paired hp hfl
    rw [honce] at hd
    obtain ⟨w, hdone, hw, hagain, hback⟩ :=
      flown_and_docked hc hkept.reachable.ranked hp hfl (hkept.tidy id p hp hfl) second hd
    have htwice : twice = (((c.during first).flyOut id {}).2.during second).dock id := by
      show (once.2.during second).toggleFlyout id = _
      rw [honce]
      exact toggled_in hd.paired hw
    rw [honce, htwice]
    exact ⟨hdone, hagain, fun _ => ⟨hback.state, hback.counters, hback.elsewhere, hback.sources⟩,
      fun he => absurd he hfl⟩

open SmallRun in
/-- A panel in its dock is flown out and docked, and a panel in a window is docked and flown out. -/
theorem log_is_toggled_twice :
    let twice (c : Coordinator Int (Memory Int)) :=
      (((c.during clock).toggleFlyout log).2.during clock).toggleFlyout log
    docked.Descends ∧ afloat.Descends ∧
      (∃ p, docked.store.get? log = some p ∧ p.placement = .docked ∧
        docked.BackInPlace log p clock (twice docked).2) ∧
      ∃ p, afloat.store.get? log = some p ∧ p.placement = .floating ∧
        ∃ w v q, afloat.flyouts.get? log = some w ∧ (twice afloat).2.flyouts.get? log = some v ∧
          (twice afloat).2.store.get? log = some q ∧
          OpenedAnew afloat.settings (afloat.shownBesides log) w.returnPlacement v q := by
  have hdocked : docked.Descends := .step (.start _ _ _) _ _ (fun he => by cases he)
  have hafloat : afloat.Descends := .step hdocked _ _ (fun he => by cases he)
  obtain ⟨p, hp, hrests⟩ : ∃ p, docked.store.get? log = some p ∧ p.placement = .docked :=
    ⟨_, rfl, by decide⟩
  obtain ⟨q, hq, hfloats⟩ : ∃ q, afloat.store.get? log = some q ∧ q.placement = .floating :=
    ⟨_, rfl, by decide⟩
  obtain ⟨_, _, hback, _⟩ := toggling_twice hdocked hp clock clock
  obtain ⟨_, _, _, hanew⟩ := toggling_twice hafloat hq clock clock
  exact ⟨hdocked, hafloat, ⟨p, hp, hrests, hback (by rw [hrests]; decide)⟩, q, hq, hfloats,
    hanew hfloats⟩

end Coordinator

end PanelDock
