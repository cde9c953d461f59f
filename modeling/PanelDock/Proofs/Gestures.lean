import PanelDock.Proofs.Commands
/-!
# A gesture depends on its ends only

While a gesture is in progress, all sorts of commands may come between: further samples, samples of
other pointers or from nowhere, other panels that open and close, this one raised or filled anew.
Whatever they are, as long as the gesture lives through them, the panel lands where the gesture
would have taken it without them.

A session remembers where the pointer and the panel were when it began, and measures every sample
from there. So what has to be shown is that nothing touches this memory, and that the part of the
geometry that the gesture does not change is changed by nobody else.
-/

namespace PanelDock

variable {α β : Type}

/-- The gesture as it was when it began. -/
def Gesture.begun : Gesture α → Gesture α
  | drag start _ => drag start start
  | resize start _ => resize start start

/-- The part of the geometry that a gesture leaves alone is the same: the size if the panel is
dragged, the position if it is resized. -/
def Grip.Spares : Grip → Chrome α → Panel α → Chrome α → Panel α → Prop
  | .drag, w, p, w', p' => w'.size = w.size ∧ p'.size = p.size
  | .resize, w, p, w', p' => w'.position = w.position ∧ p'.position = p.position

variable [Coordinate α]

/-- Where a gesture moves to depends on where it began. -/
theorem Gesture.moved_begun (g : Gesture α) (minSize : Size α) (dx dy : α) :
    g.begun.moved minSize dx dy = g.moved minSize dx dy := by
  cases g <;> rfl

theorem Gesture.begun_moved (g : Gesture α) (minSize : Size α) (dx dy : α) :
    (g.moved minSize dx dy).begun = g.begun := by
  cases g <;> rfl

omit [Coordinate α] in
theorem Gesture.grip_begun (g : Gesture α) : g.begun.grip = g.grip := by
  cases g <;> rfl

section Spared

variable {w w' v : Chrome α} {p p' q : Panel α}

omit [Coordinate α] in
theorem Grip.Spares.same {grip : Grip} (h : grip.Spares w p w' p')
    (hv : v.position = w'.position ∧ v.size = w'.size)
    (hq : q.position = p'.position ∧ q.size = p'.size) : grip.Spares w p v q := by
  cases grip with
  | drag => exact ⟨hv.2.trans h.1, hq.2.trans h.2⟩
  | resize => exact ⟨hv.1.trans h.1, hq.1.trans h.2⟩

/-- A gesture spares what it leaves alone. -/
theorem Grip.Spares.update {g : Gesture α} (h : g.grip.Spares w p w' p') (id : PanelId)
    (now : Instant) :
    g.grip.Spares w p (Coordinator.reached w' (g.update id))
      (p'.revised (g.update id).patch now) := by
  cases g with
  | drag start last => exact h
  | resize start last => exact h

end Spared

/-- Where a gesture takes a panel, from its record as the gesture began and the way of the pointer.
-/
def destination (minSize : Size α) (id : PanelId) (p : Panel α) (first last : Pointer α) :
    Grip → Option (GeometryUpdate α)
  | .drag => p.position.map (fun start =>
    .moved id (start.offset (last.position.deltaFrom first.position).1
      (last.position.deltaFrom first.position).2))
  | .resize => p.size.map (fun start =>
    .resized id (Size.atLeast
      { width := start.width + (last.position.deltaFrom first.position).1
        height := start.height + (last.position.deltaFrom first.position).2 } minSize))

theorem destination_eq {p : Panel α} {id : PanelId} {grip : Grip} {gesture : Gesture α}
    (h : Tracker.openingGesture p id grip = .ok gesture) (minSize : Size α)
    (first last : Pointer α) :
    destination minSize id p first last grip =
      some ((gesture.begun.moved minSize (last.position.deltaFrom first.position).1
        (last.position.deltaFrom first.position).2).update id) := by
  cases grip with
  | drag =>
      rw [Tracker.openingGesture] at h
      split at h
      · rename_i start hstart
        rw [← Except.ok.inj h, destination, hstart]
        rfl
      · exact absurd h (by simp)
  | resize =>
      rw [Tracker.openingGesture] at h
      split at h
      · rename_i start hstart
        rw [← Except.ok.inj h, destination, hstart]
        rfl
      · exact absurd h (by simp)

namespace Coordinator

/-! ## One change -/

/-- A change other than a sample keeps the session of a gesture, or ends it. -/
theorem Change.session_eq {c d : Coordinator α β} {m : Move} (h : Change c m d) {s : Session α}
    (live : c.tracker.session = some s) (still : d.tracker.session.isSome = true)
    (other : ∀ pointer somewhere release, m ≠ .sample pointer somewhere release) :
    d.tracker.session = some s := by
  have hdropped : ∀ {id}, ((c.tracker.dropTarget id).state.session).isSome = true →
      (c.tracker.dropTarget id).state.session = some s := by
    intro id hstill
    rw [dropTarget_session, live, Option.filter_some] at hstill ⊢
    split at hstill
    · rename_i hne
      rw [if_pos hne]
    · exact Bool.noConfusion hstill
  cases h with
  | docked hw content backend journal => exact hdropped still
  | closed hw shown backend journal => exact hdropped still
  | destroyed hp content backend journal => exact hdropped still
  | grabbed hw hp shown handle idle opening hz name journal =>
      exact absurd (idle.symm.trans live) (by simp)
  | sampled live mine hw backend journal => exact absurd rfl (other _ _ _)
  | _ => exact live

/-- A change other than a sample keeps the geometry of every window that it leaves open. -/
theorem Change.geometry_eq {c d : Coordinator α β} {m : Move} (h : Change c m d) (hc : c.Paired)
    {id : PanelId} {w : Chrome α} {p : Panel α} (hw : c.flyouts.get? id = some w)
    (hp : c.store.get? id = some p) (still : (d.flyouts.get? id).isSome = true)
    (other : ∀ pointer somewhere release, m ≠ .sample pointer somewhere release) :
    ∃ w' p', d.flyouts.get? id = some w' ∧ d.store.get? id = some p' ∧ w'.position = w.position ∧
      w'.size = w.size ∧ p'.position = p.position ∧ p'.size = p.size := by
  by_cases hm : m.panel c.layout = some id
  · have named := hc.window_named hw
    cases h with
    | registered new name fresh content journal =>
        cases hm
        exact absurd (new.symm.trans hp) (by simp)
    | refilledAside known bare content => exact ⟨w, p, hw, hp, rfl, rfl, rfl, rfl⟩
    | flownOut hq rests title position size handle slot content backend journal =>
        cases hm
        exact absurd (hw.symm.trans (hc.no_window_of_rests hq rests)) (by simp)
    | hidden hq was backend journal =>
        cases hm
        exact ⟨w, _, hw, record_here hp rfl, rfl, rfl, rfl, rfl⟩
    | unhidden hq was backend journal =>
        cases hm
        exact ⟨w, _, hw, record_here hp rfl, rfl, rfl, rfl, rfl⟩
    -- a window that is taken down does not stay open
    | docked hv content backend journal =>
        cases hm
        exact absurd (still.symm.trans (congrArg Option.isSome (window_gone _ _))) (by simp)
    | destroyed hq content backend journal =>
        cases hm
        exact absurd (still.symm.trans (congrArg Option.isSome (window_gone _ _))) (by simp)
    -- what else is written is neither position nor size
    | refilled hv slot content journal =>
        cases hm
        obtain rfl := Option.some.inj (hv.symm.trans hw)
        exact ⟨_, _, window_here named, record_here hp rfl, rfl, rfl, rfl, rfl⟩
    | closed hv shown backend journal =>
        cases hm
        obtain rfl := Option.some.inj (hv.symm.trans hw)
        exact ⟨_, _, window_here named, record_here hp rfl, rfl, rfl, rfl, rfl⟩
    | shown hv closed focus backend journal =>
        cases hm
        obtain rfl := Option.some.inj (hv.symm.trans hw)
        exact ⟨_, _, window_here named, record_here hp rfl, rfl, rfl, rfl, rfl⟩
    | shownOnTop hv closed focus hz backend journal =>
        cases hm
        obtain rfl := Option.some.inj (hv.symm.trans hw)
        exact ⟨_, _, window_here named, record_here hp rfl, rfl, rfl, rfl, rfl⟩
    | focused hv shown hz journal =>
        cases hm
        obtain rfl := Option.some.inj (hv.symm.trans hw)
        exact ⟨_, _, window_here named, record_here hp rfl, rfl, rfl, rfl, rfl⟩
    | grabbed hv hq shown handle idle opening hz name journal =>
        cases hm
        obtain rfl := Option.some.inj (hv.symm.trans hw)
        exact ⟨_, _, window_here named, record_here hp rfl, rfl, rfl, rfl, rfl⟩
    | sampled live mine hw backend journal => exact absurd rfl (other _ _ _)
  · obtain ⟨hw', hp'⟩ := h.frame hc hm
    exact ⟨w, p, hw'.trans hw, hp'.trans hp, rfl, rfl, rfl, rfl⟩

/-- A sample that does not end the gesture moves it on, and window and record with it. -/
theorem Change.sample_eq {c d : Coordinator α β} {number : Nat} {somewhere release : Bool}
    (h : Change c (.sample number somewhere release) d) (hc : c.Paired) {s : Session α}
    (live : c.tracker.session = some s) (still : d.tracker.session.isSome = true) {w : Chrome α}
    {p : Panel α} (hw : c.flyouts.get? s.panel = some w) (hp : c.store.get? s.panel = some p) :
    ∃ pointer, d.tracker.session = some (c.advanced s pointer) ∧
      d.flyouts.get? s.panel = some (reached w (c.geometryAt s pointer)) ∧
      d.store.get? s.panel = some (p.revised (c.geometryAt s pointer).patch c.moment.now) := by
  have named := hc.window_named hw
  cases h with
  | @sampled s' w' pointer release live' mine hw' backend journal =>
      obtain rfl : s' = s := Option.some.inj (live'.symm.trans live)
      obtain rfl : w' = w := Option.some.inj (hw'.symm.trans hw)
      cases release with
      | true => exact Bool.noConfusion still
      | false =>
          refine ⟨pointer, rfl, window_here ?_, record_here hp (GeometryUpdate.patch_dock _)⟩
          rw [reached_panel, named]

/-! ## One command -/

/-- In progress is the gesture that began with this session, on a panel that had this window and
record when it began. -/
structure Carries (s : Session α) (w : Chrome α) (p : Panel α) (minSize : Size α)
    (c : Coordinator α β) :
    Prop where
  session : ∃ s', c.tracker.session = some s' ∧ s'.panel = s.panel ∧ s'.pointer = s.pointer ∧
    s'.origin = s.origin ∧ s'.gesture.begun = s.gesture.begun
  spared : ∃ w' p', c.flyouts.get? s.panel = some w' ∧ c.store.get? s.panel = some p' ∧
    s.grip.Spares w p w' p'
  measured : c.tracker.minSize = minSize

section Carrying

variable {s : Session α} {w : Chrome α} {p : Panel α} {minSize : Size α} {c d : Coordinator α β}

/-- A change carries the gesture on, or ends it. -/
theorem Carries.change (h : Carries s w p minSize c) {m : Move} (hch : Change c m d)
    (hc : c.Coherent) (still : d.tracker.session.isSome = true) : Carries s w p minSize d := by
  obtain ⟨⟨s', live, hpanel, hpointer, horigin, hbegun⟩, ⟨w', p', hw, hp, hspared⟩, hmin⟩ := h
  have hmin' : d.tracker.minSize = minSize := hch.settings_eq.2.trans hmin
  -- a sample writes what the gesture changes, any other move neither position nor size
  by_cases hsample : ∃ number somewhere release, m = .sample number somewhere release
  · obtain ⟨number, somewhere, release, rfl⟩ := hsample
    rw [← hpanel] at hw hp
    obtain ⟨pointer, hsession, hwindow, hrecord⟩ := hch.sample_eq hc.paired live still hw hp
    refine ⟨⟨_, hsession, hpanel, hpointer, horigin, ?_⟩,
      ⟨_, _, hpanel ▸ hwindow, hpanel ▸ hrecord, ?_⟩, hmin'⟩
    · exact (Gesture.begun_moved _ _ _ _).trans hbegun
    · have hgrip : (c.advanced s' pointer).gesture.grip = s.grip := by
        rw [Session.grip, ← Gesture.grip_begun s.gesture, ← hbegun, Gesture.grip_begun]
        exact advanced_grip c s' pointer
      rw [← hgrip] at hspared ⊢
      exact hspared.update s'.panel c.moment.now
  · have hother : ∀ number somewhere release, m ≠ .sample number somewhere release :=
      fun number somewhere release hm => hsample ⟨number, somewhere, release, hm⟩
    have hsession := hch.session_eq live still hother
    obtain ⟨v, hv, _⟩ := (hch.coherent hc).attended s' hsession
    rw [hpanel] at hv
    obtain ⟨w'', p'', hwindow, hrecord, h1, h2, h3, h4⟩ :=
      hch.geometry_eq hc.paired hw hp (by rw [hv]; rfl) hother
    exact ⟨⟨s', hsession, hpanel, hpointer, horigin, hbegun⟩,
      ⟨w'', p'', hwindow, hrecord, hspared.same ⟨h1, h2⟩ ⟨h3, h4⟩⟩, hmin'⟩

/-- A command carries the gesture on, or ends it. -/
theorem Carries.aftermath [Backend β α] {command : Command α β} (h : Carries s w p minSize c)
    (ha : Aftermath c command d) (hc : c.Coherent) (still : d.tracker.session.isSome = true) :
    Carries s w p minSize d := by
  cases ha with
  | aside stuck spent subscribers nextSubscriber journal => exact ⟨h.session, h.spared, h.measured⟩
  | changed asks es hch booked =>
      have hline : Carries s w p minSize (c.record es) := ⟨h.session, h.spared, h.measured⟩
      exact hline.change hch (hc.aside c.content c.backend c.moment _) still
  | restored asks hrestorable =>
      rw [(restore_coherent hc hrestorable).2] at still
      exact Bool.noConfusion still

end Carrying

/-! ## A run -/

variable [Backend β α]

/-- Commands done one after the other, each at its moment. -/
def run (c : Coordinator α β) : List (Moment × Command α β) → Coordinator α β
  | [] => c
  | (moment, command) :: rest => run ((c.during moment).perform command).2 rest

/-- What commands lead to from a state that can be reached can be reached. -/
theorem Reachable.run {c : Coordinator α β} (h : Reachable c)
    (steps : List (Moment × Command α β)) : Reachable (c.run steps) := by
  induction steps generalizing c with
  | nil => exact h
  | cons step rest ih => exact ih (h.step step.1 step.2)

/-- A gesture is in progress after each of the commands. -/
def LivesThrough (c : Coordinator α β) : List (Moment × Command α β) → Prop
  | [] => True
  | (moment, command) :: rest =>
    ((c.during moment).perform command).2.tracker.session.isSome = true ∧
      LivesThrough ((c.during moment).perform command).2 rest

/-- What commands carry a gesture through is coherent, and carries it. -/
theorem Carries.run {s : Session α} {w : Chrome α} {p : Panel α} {minSize : Size α}
    {c : Coordinator α β} (h : Carries s w p minSize c) (hc : c.Coherent)
    (steps : List (Moment × Command α β)) (lives : c.LivesThrough steps) :
    (c.run steps).Coherent ∧ Carries s w p minSize (c.run steps) := by
  induction steps generalizing c with
  | nil => exact ⟨hc, h⟩
  | cons step rest ih =>
      obtain ⟨moment, command⟩ := step
      obtain ⟨still, lives⟩ := lives
      have hduring := hc.during moment
      have hcarries : Carries s w p minSize (c.during moment) := ⟨h.session, h.spared, h.measured⟩
      have ha := perform_aftermath hduring command
      exact ih (hcarries.aftermath ha hduring still) (ha.coherent hduring) lives

/-! ## Where it ends -/

/-- An operation reports the geometry that a panel has reached and puts it onto its window and into
its record, and the rest of the geometry is that of the window `w` and the record `p`. -/
structure Lands (update : GeometryUpdate α) (w : Chrome α) (p : Panel α)
    (r : Option (GeometryUpdate α) × Coordinator α β) : Prop where
  reported : r.1 = some update
  window : ∃ v, r.2.flyouts.get? update.panel = some v ∧
    v.position = (reached w update).position ∧ v.size = (reached w update).size
  record : ∃ q, r.2.store.get? update.panel = some q ∧ match update with
    | .moved _ position => Agrees q.position position ∧ q.size = p.size
    | .resized _ size => q.position = p.position ∧ Agrees q.size size

/-- Begins a gesture of either kind. -/
def beginGesture (c : Coordinator α β) (id : PanelId) (pointer : Pointer α) :
    Grip → Bool × Coordinator α β
  | .drag => c.beginDrag id pointer
  | .resize => c.beginResize id pointer

section Ends

variable {s : Session α} {w : Chrome α} {p : Panel α} {minSize : Size α} {c : Coordinator α β}

omit [Backend β α] in
/-- A gesture that spares the rest of the geometry lands where it says. -/
theorem lands_of_gesture {g : Gesture α} {w' : Chrome α} {p' : Panel α} {id : PanelId}
    {now : Instant} {d : Coordinator α β} (spared : g.grip.Spares w p w' p')
    (hwindow : d.flyouts.get? id = some (reached w' (g.update id)))
    (hrecord : d.store.get? id = some (p'.revised (g.update id).patch now)) :
    Lands (g.update id) w p (some (g.update id), d) := by
  cases g with
  | drag start last =>
      exact ⟨rfl, ⟨_, hwindow, rfl, spared.1⟩, ⟨_, hrecord, agrees_settled _ _, spared.2⟩⟩
  | resize start last =>
      exact ⟨rfl, ⟨_, hwindow, spared.1, rfl⟩, ⟨_, hrecord, spared.2, agrees_settled _ _⟩⟩

/-- The gesture lands by where it began and where its pointer is released. -/
theorem Carries.release (h : Carries s w p minSize c) (hc : c.Coherent) {last : Pointer α}
    (mine : s.pointer = last.number) (finite : last.position.isFinite = true) :
    Lands ((s.gesture.begun.moved minSize (last.position.deltaFrom s.origin).1
      (last.position.deltaFrom s.origin).2).update s.panel) w p (c.pointerUp last) := by
  obtain ⟨⟨s', live, hpanel, hpointer, horigin, hbegun⟩, ⟨w', p', hw, hp, hspared⟩, hmin⟩ := h
  rw [pointerUp]
  rcases hc.feed_cases last true with ⟨es, _, _, stuck⟩ | ⟨t, v, journal, live', _, _, hv, hfeed⟩
  · rw [Layout.step, layout_hold, live] at stuck
    exact absurd ((if_pos ⟨hpointer.trans mine, finite⟩).symm.trans stuck) (by simp)
  · obtain rfl : t = s' := Option.some.inj (live'.symm.trans live)
    rw [← hpanel] at hw hp
    obtain rfl : v = w' := Option.some.inj (hv.symm.trans hw)
    have named := hc.paired.window_named hw
    -- the way of the pointer is measured from where the gesture began
    have hgeometry : (s.gesture.begun.moved minSize (last.position.deltaFrom s.origin).1
        (last.position.deltaFrom s.origin).2).update s.panel = c.geometryAt t last := by
      rw [← hbegun, Gesture.moved_begun, ← hmin, ← hpanel, ← horigin]
      rfl
    have hgrip : (c.advanced t last).gesture.grip = s.grip := by
      rw [Session.grip, ← Gesture.grip_begun s.gesture, ← hbegun, Gesture.grip_begun]
      exact advanced_grip c t last
    rw [← hgrip] at hspared
    rw [hgeometry, hfeed]
    dsimp only
    obtain ⟨backend, journal', hs⟩ := persist_eq
      { (c.placed (reached v (c.geometryAt t last))).amended t.panel
        (c.geometryAt t last).patch with
        tracker := c.followed t last true
        journal } .pointerUp
    rw [hs]
    refine lands_of_gesture hspared (window_here ?_) (record_here hp (GeometryUpdate.patch_dock _))
    rw [reached_panel, named]

omit [Backend β α] in
/-- A gesture that has just begun carries itself. -/
theorem carries_held (hc : c.Coherent) {id : PanelId} (hw : c.flyouts.get? id = some w)
    (hp : c.store.get? id = some p) (name : String) (first : Pointer α) (gesture : Gesture α)
    (z : Int) (journal : List (Effect α)) :
    Carries (opened name id first gesture) w p c.settings.minSize
      { c.held w (opened name id first gesture) z with journal } := by
  have named := hc.paired.window_named hw
  refine ⟨⟨_, rfl, rfl, rfl, rfl, rfl⟩,
    ⟨_, _, window_here named, record_here hp rfl, ?_⟩, hc.measured⟩
  cases (opened name id first gesture).grip with
  | drag => exact ⟨rfl, rfl⟩
  | resize => exact ⟨rfl, rfl⟩

/-- **A gesture depends on its ends only.** However long it takes and whatever is done meanwhile, as
long as it is not ended, the release of its pointer takes the panel to where the way of the pointer
leads from the geometry that it had when the gesture began; and so does a release right at the
start. -/
theorem gesture_depends_on_ends (h : Reachable c) (moment : Moment) {grip : Grip} {id : PanelId}
    {first last : Pointer α} {d : Coordinator α β}
    (begins : (c.during moment).beginGesture id first grip = (true, d))
    (steps : List (Moment × Command α β)) (lives : d.LivesThrough steps) (later : Moment)
    (same : last.number = first.number) (finite : last.position.isFinite = true) :
    ∃ w p update, c.flyouts.get? id = some w ∧ c.store.get? id = some p ∧
      destination c.settings.minSize id p first last grip = some update ∧
      Lands update w p (((d.run steps).during later).pointerUp last) ∧
      Lands update w p ((d.during later).pointerUp last) := by
  have hc : (c.during moment).Coherent := h.coherent.aside c.content c.backend moment c.journal
  obtain ⟨operation, hsettle⟩ : ∃ operation,
      settle operation ((c.during moment).tryBegin id first grip) = (true, d) := by
    cases grip with
    | drag => exact ⟨_, begins⟩
    | resize => exact ⟨_, begins⟩
  rcases hc.tryBegin_cases id first grip with ⟨cause, hr, _⟩ |
    ⟨w, p, gesture, z, name, journal, hw, hp, hshown, hhandle, hidle, _, hopen, hz, hr⟩
  · rw [hr] at hsettle
    exact absurd (congrArg Prod.fst hsettle) (by simp [settle])
  rw [hr] at hsettle
  have hd : d = { (c.during moment).held w (opened name id first gesture) z with journal } :=
    (congrArg Prod.snd hsettle).symm
  have hchange : Change (c.during moment) (.grab id grip first.number true) d :=
    hd ▸ Change.grabbed hw hp hshown hhandle hidle hopen hz name journal
  have hcarries := carries_held hc hw hp name first gesture z journal
  rw [← hd] at hcarries
  -- whatever carries the gesture lands where the gesture takes it: the run, and no run at all
  have hends : ∀ e : Coordinator α β, e.Coherent →
      Carries (opened name id first gesture) w p c.settings.minSize e →
      Lands ((gesture.begun.moved c.settings.minSize (last.position.deltaFrom first.position).1
        (last.position.deltaFrom first.position).2).update id) w p
          ((e.during later).pointerUp last) := by
    intro e he hcarried
    have hlater : Carries (opened name id first gesture) w p c.settings.minSize (e.during later) :=
      ⟨hcarried.session, hcarried.spared, hcarried.measured⟩
    exact hlater.release (he.aside e.content e.backend later e.journal) same.symm finite
  obtain ⟨hrun, hcarried⟩ := hcarries.run (hchange.coherent hc) steps lives
  exact ⟨w, p, _, hw, hp, destination_eq hopen _ first last, hends _ hrun hcarried,
    hends _ (hchange.coherent hc) hcarries⟩

end Ends

open SmallRun in
/-- Moves, another pointer and a raise between press and release. -/
def wandering : List (Moment × Command Int (Memory Int)) :=
  [(clock, .request (.pointerMove (pointerAt 0 900 (-400)))),
    (clock, .request (.pointerUp (pointerAt 1 5 5))),
    (clock, focusLog), (clock, .request (.setContent log (.static "new")))]

open SmallRun in
/-- The window of the small run opens at (120, 80); pulled from (130, 90) to (150, 80), it lands at
(140, 70). -/
theorem drag_depends_on_ends : Reachable afloat ∧
    ∃ d, (afloat.during clock).beginGesture log (pointerAt 0 130 90) .drag = (true, d) ∧
      d.LivesThrough wandering ∧
      (((d.run wandering).during clock).pointerUp (pointerAt 0 150 80)).1 =
        some (.moved log { x := 140, y := 70 }) := by
  refine ⟨reachable_afloat, _, rfl, ⟨rfl, rfl, rfl, rfl, trivial⟩, ?_⟩
  obtain ⟨w, p, update, _, hp, hupdate, hlands, _⟩ := gesture_depends_on_ends reachable_afloat clock
    (show (afloat.during clock).beginGesture log (pointerAt 0 130 90) .drag = (true, _) from rfl)
    wandering ⟨rfl, rfl, rfl, rfl, trivial⟩ clock
    (show (pointerAt 0 150 80).number = (pointerAt 0 130 90).number from rfl) rfl
  have hrecord : (afloat.store.get? log).bind (fun p => destination afloat.settings.minSize log p
      (pointerAt 0 130 90) (pointerAt 0 150 80) .drag) =
        some (.moved log { x := 140, y := 70 }) := by decide
  rw [hp, Option.bind_some, hupdate] at hrecord
  rw [hlands.reported, hrecord]

end Coordinator

end PanelDock
