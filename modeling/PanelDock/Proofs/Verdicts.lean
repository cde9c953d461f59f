import PanelDock.Proofs.Operations
/-!
# The verdict on each operation

Every operation that moves panels gets its verdict here, on a coherent coordinator. The checks are
spread over records, windows and tracker, and an operation may find late that it cannot go on; that
no such late refusal happens, and that the checks come down to the one question of `Layout.step`, is
what coherence is for. The changes of a run are then known from `Change` alone.
-/

namespace PanelDock.Coordinator

variable {α β : Type} [Coordinate α]

/-! ## What coherence tells an operation -/

variable {c : Coordinator α β}

/-- Every window can be raised. -/
theorem Coherent.raising_result (h : c.Coherent) {id : PanelId} {w : Chrome α}
    (hw : c.flyouts.get? id = some w) : ∃ z, (c.raising w).result = some z := by
  obtain ⟨r, hr, _⟩ := h.stacked.registered id w hw
  obtain ⟨r', hz, _⟩ := Allocator.bringToFront_registered (α := α) hr
  exact ⟨r'.zIndex, hz⟩

/-- The record of a panel with a window knows where a gesture begins. -/
theorem openingGesture_ok {w : Chrome α} {p : Panel α} (same : Mirrors w p) (id : PanelId)
    (grip : Grip) :
    ∃ gesture, Tracker.openingGesture p id grip = .ok gesture := by
  cases grip with
  | drag =>
      obtain ⟨start, hstart, _⟩ := same.position
      exact ⟨.drag start start, by rw [Tracker.openingGesture, hstart]⟩
  | resize =>
      obtain ⟨size, hsize, _⟩ := same.size
      exact ⟨.resize size size, by rw [Tracker.openingGesture, hsize]⟩

/-! ## Panels without a window -/

/-- A new panel is introduced unless its dock has no name or no place behind its panels. -/
theorem registerPanel_verdict [Backend β α] (id : PanelId) (title dock : String)
    (source : Option Source) :
    Verdict c (.register id (Text.isBlankText dock || c.store.isFull dock))
      ((c.registerPanel id title dock source).1.succeeded,
        (c.registerPanel id title dock source).2) := by
  unfold registerPanel
  have hcreate := c.store.creation c.moment.now id dock (.titled title)
  generalize c.store.create c.moment.now id dock (.titled title) = o at hcreate ⊢
  cases hcreate with
  | refused n why =>
      refine Verdict.refused_note n ?_
      rcases why with hblank | hknown
      · simp [Layout.step, hblank]
      · obtain ⟨p, hp⟩ := Option.ne_none_iff_exists'.mp hknown
        have hst : c.layout.station id ≠ none := station_ne_none hp
        simp [Layout.step, hst]
  | brokenOff quiet named new unordered full =>
      exact Verdict.refused _ quiet (by simp [Layout.step, Store.isFull, full])
  | @done es order quiet named new behind =>
      have hopen : (Text.isBlankText dock || c.store.isFull dock) = false := by
        have horder : c.store.nextOrder? dock = some order := behind
        rw [named, Store.isFull, horder]
        rfl
      rw [hopen]
      cases source with
      | none => exact Verdict.done (Change.registered new rfl ⟨rfl, rfl, rfl, rfl⟩ _ _) rfl
      | some source => exact Verdict.done (Change.registered new rfl ⟨rfl, rfl, rfl, rfl⟩ _ _) rfl

theorem setContent_verdict [Backend β α] (h : c.Coherent) (id : PanelId) (source : Source) :
    Verdict c (.refill id) (c.setContent id source) := by
  rw [setContent, Store.contains_eq]
  rcases h.paired.whereabouts id with ⟨_, hp⟩ | ⟨p, hw, hp, _, _⟩ | ⟨w, p, hw, hp, named, _, _⟩
  · rw [hp]
    refine Verdict.refused_note (.contentForUnknown id) ?_
    have hst : c.layout.station id = none := station_of_none hp
    simp [Layout.step, hst]
  · rw [hp, hw]
    exact Verdict.done (Change.refilledAside hp hw _) rfl
  · rw [hp, hw]
    -- the window is emptied and filled again, in the slot and nowhere else
    obtain ⟨content, journal, hun⟩ := unmountFrom_eq c w
    obtain ⟨slot, content', journal', hmount⟩ := mountInto_eq
      { c with content := content.insert id source, journal } { w with slot := .empty }
    simp only [Option.isSome_some, Bool.not_true, Bool.false_eq_true, if_false, hun, hmount]
    exact Verdict.done (Change.refilled hw slot content' _) rfl

/-! ## Gestures and raising -/

theorem tryFocusFlyout_verdict [Backend β α] (h : c.Coherent) (id : PanelId) :
    Verdict c (.focus id) ((c.tryFocusFlyout id).1.isOk, (c.tryFocusFlyout id).2) := by
  rw [tryFocusFlyout]
  rcases h.paired.window_cases id with ⟨cause, hwin, hst⟩ | ⟨w, p, hwin, hw, hp, named, same, hst⟩
  · rw [hwin]
    exact Verdict.refused_bare (Layout.step_without_window hst).2.2.2.1
  · rw [hwin]
    dsimp only
    cases hshown : w.displayed with
    | false =>
        refine Verdict.refused_bare ?_
        simp [Layout.step, hst, hshown]
    | true =>
        obtain ⟨z, hz⟩ := h.raising_result hw
        obtain ⟨journal, hraise⟩ := raise_eq c w
        rw [hz] at hraise
        rw [hraise]
        exact Verdict.done (Change.focused hw hshown hz _) rfl

/-- Nothing keeps a gesture from beginning on a floating panel when none is in progress. -/
theorem start_free {t : Tracker α} {store : Store α} (token : UInt32) {id : PanelId}
    {pointer : Pointer α} {grip : Grip} {p : Panel α} {gesture : Gesture α}
    (hfin : pointer.position.isFinite = true) (hidle : t.session = none)
    (hp : store.get? id = some p) (hfl : p.placement = .floating)
    (hopen : Tracker.openingGesture p id grip = .ok gesture) :
    t.start store token id pointer grip =
      ⟨.ok (Session.nameOf grip token),
        { t with
          session := some (opened (Session.nameOf grip token) id pointer gesture)
          listeners := t.listeners.attach },
        [.notice (.gestureStarted (Session.nameOf grip token) grip id)]⟩ := by
  rw [Tracker.start, Tracker.startTarget, hfin, hidle]
  simp only [Bool.not_true, Bool.false_eq_true, if_false, hp, p.isFloating_iff.mpr hfl,
    if_true, hopen]
  rfl

/-- A gesture is refused, or it begins on the window and raises it. -/
theorem Coherent.tryBegin_cases (h : c.Coherent) (id : PanelId) (pointer : Pointer α)
    (grip : Grip) :
    (∃ cause, c.tryBegin id pointer grip = (.error cause, c) ∧
      c.layout.step (.grab id grip pointer.number pointer.position.isFinite) = none) ∨
    (∃ w p gesture z name journal, c.flyouts.get? id = some w ∧ c.store.get? id = some p ∧
      w.displayed = true ∧ (grip = .resize → w.controls.resizeHandle = true) ∧
      c.tracker.session = none ∧ pointer.position.isFinite = true ∧
      Tracker.openingGesture p id grip = .ok gesture ∧ (c.raising w).result = some z ∧
      c.tryBegin id pointer grip =
        (.ok (), { c.held w (opened name id pointer gesture) z with journal })) := by
  rw [tryBegin]
  rcases h.paired.window_cases id with ⟨cause, hwin, hst⟩ | ⟨w, p, hwin, hw, hp, named, same, hst⟩
  · rw [hwin]
    exact Or.inl ⟨cause, rfl, (Layout.step_without_window hst).2.2.2.2 _ _ _⟩
  rw [hwin]
  dsimp only
  cases hshown : w.displayed with
  | false => exact Or.inl ⟨_, rfl, by simp [Layout.step, hst, hshown]⟩
  | true =>
      rw [if_neg (by simp)]
      by_cases hgrip : grip = .resize ∧ (!w.controls.resizeHandle) = true
      · rw [if_pos hgrip]
        simp only [Bool.not_eq_true'] at hgrip
        exact Or.inl ⟨_, rfl, by simp [Layout.step, hst, hshown, hgrip]⟩
      rw [if_neg hgrip]
      cases hfin : pointer.position.isFinite with
      | false =>
          rw [Tracker.start, Tracker.startTarget, hfin]
          exact Or.inl ⟨_, rfl, by simp [Layout.step, hst, hshown]⟩
      | true =>
          cases hidle : c.tracker.session with
          | some s =>
              -- only one gesture at a time
              have hheld : c.layout.hold ≠ none := by
                show c.tracker.session.map _ ≠ none
                rw [hidle]
                simp
              rw [Tracker.start, Tracker.startTarget, hfin, hidle]
              exact Or.inl ⟨_, rfl, by simp [Layout.step, hst, hshown, hheld]⟩
          | none =>
              obtain ⟨gesture, hopen⟩ := openingGesture_ok same id grip
              obtain ⟨z, hz⟩ := h.raising_result hw
              have hhandle : grip = .resize → w.controls.resizeHandle = true := by
                intro hr
                cases hh : w.controls.resizeHandle with
                | true => rfl
                | false => exact absurd ⟨hr, by rw [hh]; rfl⟩ hgrip
              -- the stack does not look at the gesture that has just begun
              have hraise : ∀ (tracker : Tracker α) (es : List (Effect α)),
                  (({ c with tracker }.record es).raise w).1 = some z := fun _ _ => hz
              rw [start_free _ hfin hidle hp same.placement hopen]
              dsimp only
              rw [hraise]
              exact Or.inr ⟨w, p, gesture, z, _, _, hw, hp, hshown, hhandle, rfl, rfl,
                hopen, hz, rfl⟩

theorem tryBegin_verdict [Backend β α] (h : c.Coherent) (id : PanelId) (pointer : Pointer α)
    (grip : Grip) :
    Verdict c (.grab id grip pointer.number pointer.position.isFinite)
      ((c.tryBegin id pointer grip).1.isOk, (c.tryBegin id pointer grip).2) := by
  rcases h.tryBegin_cases id pointer grip with ⟨cause, hr, stuck⟩ |
    ⟨w, p, gesture, z, name, journal, hw, hp, hshown, hhandle, hidle, hfin, hopen, hz, hr⟩
  · rw [hr]
    exact Verdict.refused_bare stuck
  · rw [hr, hfin]
    exact Verdict.done (Change.grabbed hw hp hshown hhandle hidle hopen hz name journal) rfl

/-- What a coherent coordinator reads from a sample: it is passed over, or its session goes on. -/
theorem Coherent.read_cases (h : c.Coherent) (pointer : Pointer α) :
    (c.tracker.read c.store pointer = .ignored ∧
      ∀ s, c.tracker.session = some s → s.pointer ≠ pointer.number) ∨
    (∃ s, c.tracker.read c.store pointer = .nowhere s ∧ pointer.position.isFinite = false) ∨
    (∃ s w, c.tracker.read c.store pointer = .accepted (c.advanced s pointer) ∧
      c.tracker.session = some s ∧ s.pointer = pointer.number ∧ pointer.position.isFinite = true ∧
      c.flyouts.get? s.panel = some w) := by
  rw [Tracker.read]
  cases hlive : c.tracker.session with
  | none => exact Or.inl ⟨rfl, fun s hs => absurd hs (by simp)⟩
  | some s =>
      dsimp only
      by_cases hmine : s.pointer = pointer.number
      · rw [if_neg (not_not_intro hmine)]
        cases hfin : pointer.position.isFinite with
        | false => exact Or.inr (Or.inl ⟨s, rfl, rfl⟩)
        | true =>
            -- the panel of a session has a window, so its record says that it floats
            obtain ⟨w, hw, _⟩ := h.attended s hlive
            obtain ⟨p, hp, _, _, same⟩ := h.paired.record_of_window hw
            refine Or.inr (Or.inr ⟨s, w, ?_, rfl, hmine, rfl, hw⟩)
            rw [if_neg (by simp), hp, Option.any_some,
              p.isFloating_iff.mpr same.placement, if_pos rfl]
            rfl
      · rw [if_pos hmine]
        exact Or.inl ⟨rfl, fun t ht => Option.some.inj ht ▸ hmine⟩

/-- A sample that the session accepts is written into the record. -/
theorem tracker_feed_accepted {s : Session α} {pointer : Pointer α}
    (hread : c.tracker.read c.store pointer = .accepted (c.advanced s pointer)) (release : Bool) :
    ∃ es, c.tracker.feed c.store c.moment.now pointer release =
      ⟨some (c.geometryAt s pointer), (c.followed s pointer release,
        (c.store.update c.moment.now s.panel (c.geometryAt s pointer).patch).state), es⟩ := by
  rw [Tracker.feed, hread]
  cases release with
  | false => exact ⟨_, rfl⟩
  | true => exact ⟨_, rfl⟩

/-- A sample comes to nothing, or it gives the panel of the session its geometry. -/
theorem Coherent.feed_cases (h : c.Coherent) (pointer : Pointer α) (release : Bool) :
    (∃ es, (∀ e ∈ es, e.isNotice = true) ∧ c.feed pointer release = (none, c.record es) ∧
      c.layout.step (.sample pointer.number pointer.position.isFinite release) = none) ∨
    (∃ s w journal, c.tracker.session = some s ∧ s.pointer = pointer.number ∧
      pointer.position.isFinite = true ∧ c.flyouts.get? s.panel = some w ∧
      c.feed pointer release = (some (c.geometryAt s pointer),
        { (c.placed (reached w (c.geometryAt s pointer))).amended s.panel
            (c.geometryAt s pointer).patch with
          tracker := c.followed s pointer release
          journal })) := by
  rcases h.read_cases pointer with
    ⟨hread, hother⟩ | ⟨s, hread, hfin⟩ | ⟨s, w, hread, hlive, hmine, hfin, hw⟩
  · rw [feed, Tracker.feed, hread]
    refine Or.inl ⟨[], by simp, rfl, ?_⟩
    rw [Layout.step, layout_hold]
    cases hlive : c.tracker.session with
    | none => rfl
    | some s => exact if_neg (fun hs => hother s hlive hs.1)
  · rw [feed, Tracker.feed, hread]
    refine Or.inl ⟨_, ?_, rfl, ?_⟩
    · simp [Effect.isNotice]
    · rw [hfin, Layout.step]
      split
      · rw [if_neg (by simp)]
      · rfl
  · obtain ⟨es, hfeed⟩ := tracker_feed_accepted hread release
    have hpanel : (c.geometryAt s pointer).panel = s.panel := by
      rw [geometryAt]
      cases (c.advanced s pointer).gesture <;> rfl
    have hfollow : ∀ (tracker : Tracker α) (store : Store α),
        ({ c with tracker, store }.record es).follow (c.geometryAt s pointer) =
          ({ c with tracker, store }.record es).placed (reached w (c.geometryAt s pointer)) :=
      fun tracker store =>
        follow_eq (c := { c with tracker, store }.record es) (by rw [hpanel]; exact hw)
    rw [feed, hfeed]
    dsimp only
    rw [hfollow]
    exact Or.inr ⟨s, w, _, hlive, hmine, hfin, hw, rfl⟩

theorem pointerMove_verdict [Backend β α] (h : c.Coherent) (pointer : Pointer α) :
    Verdict c (.sample pointer.number pointer.position.isFinite false)
      ((c.pointerMove pointer).1.isSome, (c.pointerMove pointer).2) := by
  rw [pointerMove]
  rcases h.feed_cases pointer false with ⟨es, quiet, hfeed, stuck⟩ |
    ⟨s, w, journal, hlive, hmine, hfin, hw, hfeed⟩
  · rw [hfeed]
    exact Verdict.refused es quiet stuck
  · rw [hfeed, hfin]
    exact Verdict.done (Change.sampled hlive hmine hw c.backend journal) rfl

variable [Backend β α]

theorem swapDocked_change {id : PanelId} {p : Panel α} {old : Placement} (new : Placement)
    (hp : c.store.get? id = some p) (was : p.placement = old) :
    c.swapDocked id old new =
      (.ok (), ((c.amend id { placement := some new, visible := some (new == .docked) }).note
        (.placementChanged id old new)).persist .placement) := by
  rw [swapDocked, hp]
  dsimp only
  rw [if_neg (not_not_intro was)]

theorem swapDocked_refused {id : PanelId} {old : Placement} (new : Placement)
    (h : ∀ p, c.store.get? id = some p → p.placement ≠ old) :
    ∃ cause, c.swapDocked id old new = (.error cause, c) := by
  rw [swapDocked]
  cases hp : c.store.get? id with
  | none => exact ⟨_, rfl⟩
  | some p => exact ⟨_, by dsimp only; rw [if_pos (h p hp)]⟩

/-- A panel is moved between its dock and hiding if it rests where it is taken from. -/
theorem swapDocked_verdict (h : c.Coherent) (id : PanelId) {m : Move} {old new : Placement}
    (hold : old ≠ .floating) (commits : m.commits = true)
    (change : ∀ p, c.store.get? id = some p → p.placement = old →
      ∀ backend journal,
      Change c m { c.amended id { placement := some new, visible := some (new == .docked) } with
        backend, journal })
    (stuck : c.layout.station id ≠ some (.resting old) → c.layout.step m = none) :
    Verdict c m ((c.swapDocked id old new).1.isOk, (c.swapDocked id old new).2) := by
  by_cases hst : c.station id = some (.resting old)
  · obtain ⟨p, hp, was⟩ := (h.paired.station_resting_iff id hold).mp hst
    rw [swapDocked_change new hp was]
    exact Verdict.persisted .placement (change p hp was) commits ⟨rfl, rfl, rfl⟩
  · have hother : ∀ p, c.store.get? id = some p → p.placement ≠ old :=
      fun p hp was => hst ((h.paired.station_resting_iff id hold).mpr ⟨p, hp, was⟩)
    obtain ⟨cause, hs⟩ := swapDocked_refused new hother
    rw [hs]
    exact Verdict.refused_bare (stuck hst)

theorem hidePanel_verdict (h : c.Coherent) (id : PanelId) : Verdict c (.hide id) (c.hidePanel id) :=
  Verdict.settle .hidePanel
    (swapDocked_verdict h id (by decide) rfl (fun _ => Change.hidden) (fun hst => if_neg hst))

theorem showPanel_verdict (h : c.Coherent) (id : PanelId) :
    Verdict c (.unhide id) (c.showPanel id) :=
  Verdict.settle .showPanel
    (swapDocked_verdict h id (by decide) rfl (fun _ => Change.unhidden) (fun hst => if_neg hst))

/-! ## In and out of windows -/

theorem tryFlyOut_verdict (h : c.Coherent) (id : PanelId) (options : FlyoutOptions α) :
    Verdict c (.flyOut id (options.resizeHandle.getD c.settings.resizeHandle))
      ((c.tryFlyOut id options).1.isOk, (c.tryFlyOut id options).2) := by
  rw [tryFlyOut]
  rcases h.paired.whereabouts id with ⟨_, hp⟩ | ⟨p, hw, hp, _, rests⟩ | ⟨w, p, hw, hp, _, _, same⟩
  · rw [hp]
    refine Verdict.refused_bare ?_
    have hst : c.layout.station id = none := station_of_none hp
    simp [Layout.step, hst]
  · rw [hp]
    dsimp only
    rw [if_neg (fun hfl => rests (p.isFloating_iff.mp hfl))]
    -- the handle is given out before the window opens
    obtain ⟨slot, content, journal, hfloat⟩ := float_eq c.handled
      (c.freshWindow id (options.title.getD p.title) (options.position.getD c.defaultPosition)
        (options.size.getD c.settings.defaultSize)
        (options.resizeHandle.getD c.settings.resizeHandle) true p.placement)
    rw [freshWindow, handled] at hfloat
    rw [newWindow] at hfloat ⊢
    dsimp only at hfloat ⊢
    rw [hfloat]
    exact Verdict.persisted .flyOut (Change.flownOut hp rests _ _ _ _ slot content) rfl
      ⟨rfl, rfl, rfl⟩
  · rw [hp]
    dsimp only
    rw [if_pos (p.isFloating_iff.mpr same.placement)]
    refine Verdict.refused_bare ?_
    have hst : c.layout.station id = some (.floating _ _ _) :=
      station_of_window hw hp same.placement
    simp [Layout.step, hst]

theorem tryDock_verdict (h : c.Coherent) (id : PanelId) :
    Verdict c (.dock id) ((c.tryDock id).1.isOk, (c.tryDock id).2) := by
  rw [tryDock]
  rcases h.paired.whereabouts id with ⟨_, hp⟩ | ⟨p, hw, hp, _, rests⟩ | ⟨w, p, hw, hp, _, _, same⟩
  · rw [hp]
    refine Verdict.refused_bare ?_
    have hst : c.layout.station id = none := station_of_none hp
    simp [Layout.step, hst]
  · have hfl : p.isFloating = false := by
      rw [Bool.eq_false_iff]
      exact fun hfl => rests (p.isFloating_iff.mp hfl)
    rw [hp]
    dsimp only
    rw [hfl]
    refine Verdict.refused_bare ?_
    have hst : c.layout.station id = some (.resting _) := station_of_resting hp rests
    simp [Layout.step, hst]
  · obtain ⟨content, journal, hdis⟩ := discard_eq c id
    rw [discard] at hdis
    rw [hp, hw]
    dsimp only
    rw [p.isFloating_iff.mpr same.placement, hdis]
    exact Verdict.persisted .dock
      (fun backend journal' => Change.docked hw content backend journal') rfl
      ⟨rfl, rfl, rfl⟩

theorem tryCloseFlyout_verdict (h : c.Coherent) (id : PanelId) :
    Verdict c (.close id) ((c.tryCloseFlyout id).1.isOk, (c.tryCloseFlyout id).2) := by
  rw [tryCloseFlyout]
  rcases h.paired.window_cases id with ⟨cause, hwin, hst⟩ | ⟨w, p, hwin, hw, hp, named, same, hst⟩
  · rw [hwin]
    exact Verdict.refused_bare (Layout.step_without_window hst).2.1
  · rw [hwin]
    dsimp only
    cases hshown : w.displayed with
    | false =>
        refine Verdict.refused_bare ?_
        simp [Layout.step, hst, hshown]
    | true =>
        exact Verdict.persisted .closeFlyout (Change.closed hw hshown) rfl ⟨rfl, rfl, rfl⟩

theorem tryShowFlyout_verdict (h : c.Coherent) (id : PanelId) :
    Verdict c (.reveal id) ((c.tryShowFlyout id).1.isOk, (c.tryShowFlyout id).2) := by
  rw [tryShowFlyout]
  rcases h.paired.window_cases id with ⟨cause, hwin, hst⟩ | ⟨w, p, hwin, hw, hp, named, same, hst⟩
  · rw [hwin]
    exact Verdict.refused_bare (Layout.step_without_window hst).2.2.1
  · rw [hwin]
    dsimp only
    cases hshown : w.displayed with
    | true =>
        refine Verdict.refused_bare ?_
        simp [Layout.step, hst, hshown]
    | false =>
        cases hfocus : c.settings.focusOnShow with
        | false =>
            exact Verdict.persisted .showFlyout (Change.shown hw hshown hfocus) rfl ⟨rfl, rfl, rfl⟩
        | true =>
            -- the window counts as shown before the stack is asked, and the stack cannot refuse
            obtain ⟨z, hz⟩ := h.raising_result hw
            obtain ⟨journal, hraise⟩ := raise_eq c { w with displayed := true }
            have htop : (c.raising { w with displayed := true }).result = some z := hz
            rw [htop] at hraise
            rw [if_pos rfl, hraise]
            exact Verdict.persisted .showFlyout (Change.shownOnTop (w := w) hw hshown hfocus hz) rfl
              ⟨rfl, rfl, rfl⟩

theorem pointerUp_verdict (h : c.Coherent) (pointer : Pointer α) :
    Verdict c (.sample pointer.number pointer.position.isFinite true)
      ((c.pointerUp pointer).1.isSome, (c.pointerUp pointer).2) := by
  rw [pointerUp]
  rcases h.feed_cases pointer true with ⟨es, quiet, hfeed, stuck⟩ |
    ⟨s, w, journal, hlive, hmine, hfin, hw, hfeed⟩
  · rw [hfeed]
    exact Verdict.refused es quiet stuck
  · rw [hfeed, hfin]
    exact Verdict.persisted .pointerUp
      (fun backend journal' => Change.sampled hlive hmine hw backend journal') rfl ⟨rfl, rfl, rfl⟩

theorem destroyPanel_verdict (id : PanelId) : Verdict c (.destroy id) (c.destroyPanel id) := by
  rw [destroyPanel, Store.contains_eq]
  cases hp : c.store.get? id with
  | none =>
      refine Verdict.refused_note (.destroyUnknown id) ?_
      have hst : c.layout.station id = none := station_of_none hp
      simp [Layout.step, hst]
  | some p =>
      obtain ⟨content, journal, hdis⟩ := discard_eq c id
      rw [discard] at hdis
      rw [hdis]
      exact Verdict.persisted .destroyPanel (Change.destroyed hp _) rfl ⟨rfl, rfl, rfl⟩

theorem toggleFlyout_verdict (h : c.Coherent) (id : PanelId) :
    Verdict c (if (c.layout.station id).any Station.floats then .dock id
      else .flyOut id c.settings.resizeHandle) (c.toggleFlyout id) := by
  rw [toggleFlyout, h.paired.isFlyingOut_eq id]
  split
  · exact Verdict.settle .dock (tryDock_verdict h id)
  · exact Verdict.settle .flyOut (tryFlyOut_verdict h id {})

end PanelDock.Coordinator
