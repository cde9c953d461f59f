import PanelDock.Proofs.Gestures
/-!
# Sessions are alive

A session in progress is on a window that is there and shown, and remembers the geometry that the
panel has. So a sample never finds its panel gone, although the tracker is prepared for it. Every
way in which a window can go away or be closed ends the session on it first: the panel is docked,
closed or destroyed, or everything is restored. Nothing else ends a session but the release of its
own pointer.

`Tended` is what holds of tracker and records at every moment; that the window is there is part of
`Coherent`. The listeners for moves and releases are counted: they are attached once for each
session and detached once for each that has ended.
-/

namespace PanelDock

variable {α β : Type}

/-! ## Listeners -/

/-- The listeners are installed if they are wanted, and were attached once more than detached in
that case only. -/
def Listeners.Balanced (l : Listeners) (wanted : Bool) : Prop :=
  l.installed = wanted ∧ l.attachCount = l.detachCount + (if wanted then 1 else 0)

theorem Listeners.Balanced.attach {l : Listeners} (h : l.Balanced false) :
    l.attach.Balanced true := by
  obtain ⟨hinstalled, hcount⟩ := h
  rw [Listeners.attach, hinstalled]
  exact ⟨rfl, congrArg (· + 1) hcount⟩

theorem Listeners.Balanced.detach {l : Listeners} {wanted : Bool} (h : l.Balanced wanted) :
    l.detach.Balanced false := by
  obtain ⟨hinstalled, hcount⟩ := h
  rw [Listeners.detach, hinstalled]
  cases wanted with
  | false => exact ⟨hinstalled, hcount⟩
  | true => exact ⟨rfl, hcount⟩

/-- The listeners are installed as long as a gesture is in progress. -/
def Tracker.Listening (t : Tracker α) : Prop := t.listeners.Balanced t.session.isSome

theorem Tracker.Listening.ended {t : Tracker α} (h : t.Listening) : t.ended.Listening := h.detach

theorem Tracker.Listening.dropTarget {t : Tracker α} (h : t.Listening) (id : PanelId) :
    (t.dropTarget id).state.Listening := by
  rw [Tracker.dropTarget]
  split
  · exact h
  · split
    · exact h.ended
    · exact h

/-! ## Where the gesture has come to -/

/-- The record of a panel has the geometry that a gesture has reached. -/
def Gesture.Fits [Coordinate α] (p : Panel α) : Gesture α → Prop
  | .drag _ last => Agrees p.position last
  | .resize _ last => Agrees p.size last

section Fitting

variable [Coordinate α] {g : Gesture α} {p q : Panel α}

/-- A gesture begins where the panel is. -/
theorem Gesture.fits_opening {id : PanelId} {grip : Grip}
    (h : Tracker.openingGesture p id grip = .ok g) (now : Instant) (z : Option (Option Int)) :
    g.Fits (p.revised { zIndex := z } now) := by
  cases grip with
  | drag =>
      rw [Tracker.openingGesture] at h
      split at h
      · rename_i start hstart
        rw [← Except.ok.inj h]
        exact ⟨start, hstart, Or.inl rfl⟩
      · exact absurd h (by simp)
  | resize =>
      rw [Tracker.openingGesture] at h
      split at h
      · rename_i start hstart
        rw [← Except.ok.inj h]
        exact ⟨start, hstart, Or.inl rfl⟩
      · exact absurd h (by simp)

theorem Gesture.fits_update (g : Gesture α) (p : Panel α) (id : PanelId) (now : Instant) :
    g.Fits (p.revised (g.update id).patch now) := by
  cases g with
  | drag start last => exact agrees_settled _ _
  | resize start last => exact agrees_settled _ _

theorem Gesture.Fits.same (h : g.Fits p) (position : q.position = p.position)
    (size : q.size = p.size) : g.Fits q := by
  cases g with
  | drag start last => rw [Gesture.Fits, position]; exact h
  | resize start last => rw [Gesture.Fits, size]; exact h

end Fitting

/-- One session is the other, maybe further on its way. -/
structure Session.Continues (s' s : Session α) : Prop where
  name : s'.name = s.name
  panel : s'.panel = s.panel
  pointer : s'.pointer = s.pointer
  origin : s'.origin = s.origin
  begun : s'.gesture.begun = s.gesture.begun

theorem Session.Continues.refl (s : Session α) : s.Continues s := ⟨rfl, rfl, rfl, rfl, rfl⟩

/-- A move lets go of what is held: it releases the pointer, or docks, closes or destroys the panel.
-/
def Move.LetsGo (m : Move) (h : Hold) : Prop :=
  m = .sample h.pointer true true ∨ m = .dock h.panel ∨ m = .close h.panel ∨ m = .destroy h.panel

namespace Layout

/-- What is held stays held, but for the moves that let go of it. -/
theorem step_hold {l l' : Layout} {m : Move} {h : Hold} (held : l.hold = some h)
    (hstep : l.step m = some l') :
    (l'.hold = none ↔ m.LetsGo h) ∧ (l'.hold = none ∨ l'.hold = some h) := by
  cases m <;> grind [step, letGo, Move.LetsGo]

/-- What lets go of what is held is always allowed. -/
theorem step_letsGo {l : Layout} {m : Move} {h : Hold} (hl : l.Steady) (held : l.hold = some h)
    (hm : m.LetsGo h) : l.step m ≠ none := by
  grind [step, Steady, Move.LetsGo]

end Layout

namespace Coordinator

variable [Coordinate α]

/-- The listeners are installed as long as a gesture is in progress, and the record of its panel has
the geometry that it has reached. -/
structure Tended (c : Coordinator α β) : Prop where
  listening : c.tracker.Listening
  fits : ∀ s p, c.tracker.session = some s → c.store.get? s.panel = some p → s.gesture.Fits p

section Changes

variable {c d : Coordinator α β} {m : Move}

/-- The listeners go with the gesture through every change. -/
theorem Change.listening (h : Change c m d) (hl : c.tracker.Listening) : d.tracker.Listening := by
  cases h with
  | docked hw content backend journal => exact hl.dropTarget _
  | closed hw shown backend journal => exact hl.dropTarget _
  | destroyed hp content backend journal => exact hl.dropTarget _
  | grabbed hw hp shown handle idle opening hz name journal =>
      rw [Tracker.Listening, idle] at hl
      exact Listeners.Balanced.attach hl
  | @sampled s w pointer release live mine hw backend journal =>
      rw [Tracker.Listening, live] at hl
      show (c.followed s pointer release).Listening
      cases release with
      | false => exact hl
      | true => exact hl.detach
  | _ => exact hl

/-- A change carries a session on, or ends it. -/
theorem Change.continues (h : Change c m d) (hc : c.Coherent) {s s' : Session α}
    (live : c.tracker.session = some s) (after : d.tracker.session = some s') : s'.Continues s := by
  by_cases hsample : ∃ number somewhere release, m = .sample number somewhere release
  · obtain ⟨number, somewhere, release, rfl⟩ := hsample
    obtain ⟨w, hw, _⟩ := hc.attended s live
    obtain ⟨p, hp, _⟩ := hc.paired.record_of_window hw
    obtain ⟨pointer, hsession, _⟩ := h.sample_eq hc.paired live (by rw [after]; rfl) hw hp
    obtain rfl : s' = c.advanced s pointer := Option.some.inj (after.symm.trans hsession)
    exact ⟨rfl, rfl, rfl, rfl, Gesture.begun_moved _ _ _ _⟩
  · have hsession := h.session_eq live (by rw [after]; rfl)
      (fun number somewhere release hm => hsample ⟨number, somewhere, release, hm⟩)
    obtain rfl : s' = s := Option.some.inj (after.symm.trans hsession)
    exact Session.Continues.refl s'

/-- The record has the geometry that the gesture has reached, after every change. -/
theorem Change.fits (h : Change c m d) (hc : c.Coherent) (ht : c.Tended) {s : Session α}
    {p : Panel α} (after : d.tracker.session = some s) (hp : d.store.get? s.panel = some p) :
    s.gesture.Fits p := by
  have hstill : d.tracker.session.isSome = true := by rw [after]; rfl
  cases live : c.tracker.session with
  | none =>
      -- where nothing was in progress, a gesture has just begun
      have hidle : ∀ id, (c.tracker.dropTarget id).state.session = none := by
        intro id
        rw [dropTarget_session, live]
        rfl
      cases h with
      | @grabbed id w q grip pointer gesture z hw hq shown handle idle opening hz name journal =>
          obtain rfl : opened name id pointer gesture = s := Option.some.inj after
          obtain rfl : q.revised _ _ = p := Option.some.inj ((record_here hq rfl).symm.trans hp)
          exact Gesture.fits_opening opening _ _
      | docked hw content backend journal => exact absurd ((hidle _).symm.trans after) (by simp)
      | closed hw shown backend journal => exact absurd ((hidle _).symm.trans after) (by simp)
      | destroyed hq content backend journal => exact absurd ((hidle _).symm.trans after) (by simp)
      | sampled live' mine hw backend journal => exact absurd (live.symm.trans live') (by simp)
      | _ => exact absurd (live.symm.trans after) (by simp)
  | some t =>
      obtain ⟨w, hw, _⟩ := hc.attended t live
      obtain ⟨q, hq, _⟩ := hc.paired.record_of_window hw
      have hpanel := (h.continues hc live after).panel
      by_cases hsample : ∃ number somewhere release, m = .sample number somewhere release
      · obtain ⟨number, somewhere, release, rfl⟩ := hsample
        obtain ⟨pointer, hsession, _, hrecord⟩ := h.sample_eq hc.paired live hstill hw hq
        obtain rfl : s = c.advanced t pointer := Option.some.inj (after.symm.trans hsession)
        obtain rfl := Option.some.inj (hrecord.symm.trans hp)
        exact Gesture.fits_update _ _ _ _
      · have hother : ∀ number somewhere release, m ≠ .sample number somewhere release :=
          fun number somewhere release hm => hsample ⟨number, somewhere, release, hm⟩
        obtain rfl : s = t := Option.some.inj (after.symm.trans (h.session_eq live hstill hother))
        obtain ⟨v, hv, _⟩ := (h.coherent hc).attended s after
        obtain ⟨_, q', _, hrecord, _, _, hposition, hsize⟩ :=
          h.geometry_eq hc.paired hw hq (by rw [hv]; rfl) hother
        obtain rfl := Option.some.inj (hrecord.symm.trans hp)
        exact (ht.fits s q live hq).same hposition hsize

theorem Change.tended (h : Change c m d) (hc : c.Coherent) (ht : c.Tended) : d.Tended :=
  ⟨h.listening ht.listening, fun _ _ after hp => h.fits hc ht after hp⟩

end Changes

/-- Rebuilding windows ends gestures as everything else does. -/
theorem listening_rebuild {c : Coordinator α β} (h : c.tracker.Listening) :
    c.rebuild.2.tracker.Listening := by
  refine rebuild_keeps (P := fun e => e.tracker.Listening) ?_ ?_ h
  · intro e id he
    obtain ⟨content, journal, hd⟩ := discard_eq e id
    rw [hd]
    exact he.dropTarget id
  · intro e p he
    obtain ⟨slot, content, journal, hd⟩ := reopen_eq e p
    rw [hd]
    exact he.dropTarget p.id

variable [Backend β α] {c d : Coordinator α β}

theorem Aftermath.tended {command : Command α β} (h : Aftermath c command d) (hc : c.Coherent)
    (ht : c.Tended) : d.Tended := by
  cases h with
  | aside stuck spent subscribers nextSubscriber journal => exact ⟨ht.listening, ht.fits⟩
  | changed asks es h booked =>
      exact h.tended (hc.aside c.content c.backend c.moment _) ⟨ht.listening, ht.fits⟩
  | @restored snapshot asks h =>
      have hnone := (restore_coherent hc h).2
      obtain ⟨lines, e, journal, he, hrestore⟩ := restore_eq h
      refine ⟨?_, fun s p hs => absurd (hnone.symm.trans hs) (by simp)⟩
      rw [hrestore, he]
      exact listening_rebuild (c := c.imported snapshot lines) ht.listening

theorem Reachable.tended (h : Reachable c) : c.Tended := by
  refine h.invariant (P := Tended) ?_ (fun c moment ht => ⟨ht.listening, ht.fits⟩)
    (fun c command d ha hc ht => ha.tended hc ht)
  intro settings backend moment
  exact ⟨⟨rfl, rfl⟩, fun s p hs => absurd hs (by simp [ofSettings, Tracker.idle])⟩

/-! ## How a session ends -/

/-- The session of a gesture is on a window that is shown and has what the gesture needs, and the
record of the panel has the geometry that the gesture has reached. -/
def Alive (c : Coordinator α β) (s : Session α) : Prop :=
  ∃ w p, c.flyouts.get? s.panel = some w ∧ c.store.get? s.panel = some p ∧
    w.displayed = true ∧ (s.grip = .resize → w.controls.resizeHandle = true) ∧
    p.placement = .floating ∧ p.visible = true ∧ s.gesture.Fits p

/-- A command ends a session: it releases its pointer, docks, closes or destroys its panel, or
restores what the backend has. -/
def Ends (c : Coordinator α β) (command : Command α β) (s : Session α) : Prop :=
  c.asked command = some (.sample s.pointer true true) ∨ c.asked command = some (.dock s.panel) ∨
  c.asked command = some (.close s.panel) ∨ c.asked command = some (.destroy s.panel) ∨
  (command = .request .restore ∧ c.restorable.isSome = true)

/-- A command ends a session or carries it on. -/
theorem Aftermath.session {command : Command α β} (h : Aftermath c command d) (hc : c.Coherent)
    {s : Session α} (live : c.tracker.session = some s) :
    (d.tracker.session = none ↔ c.Ends command s) ∧
    ∀ s', d.tracker.session = some s' → s'.Continues s := by
  have hsteady := hc.paired.attended_iff.mp hc.attended
  have hheld : c.layout.hold = some { panel := s.panel, grip := s.grip, pointer := s.pointer } := by
    rw [layout_hold, live]
    rfl
  cases h with
  | aside stuck spent subscribers nextSubscriber journal =>
      refine ⟨⟨fun hnone => absurd (live.symm.trans hnone) (by simp), ?_⟩, ?_⟩
      · -- no move that would let go can have been refused
        have hfree : ∀ m, c.asked command = some m →
            ¬ m.LetsGo { panel := s.panel, grip := s.grip, pointer := s.pointer } :=
          fun m hm hends => Layout.step_letsGo hsteady hheld hends (stuck m hm)
        rintro (hm | hm | hm | hm | ⟨rfl, hsome⟩)
        · exact absurd (Or.inl rfl) (hfree _ hm)
        · exact absurd (Or.inr (Or.inl rfl)) (hfree _ hm)
        · exact absurd (Or.inr (Or.inr (Or.inl rfl))) (hfree _ hm)
        · exact absurd (Or.inr (Or.inr (Or.inr rfl))) (hfree _ hm)
        · rw [spent rfl] at hsome
          exact Bool.noConfusion hsome
      · intro s' hs'
        obtain rfl : s' = s := Option.some.inj (hs'.symm.trans live)
        exact Session.Continues.refl s'
  | @changed d m asks es h booked =>
      have hc' : (c.record es).Coherent := hc.aside c.content c.backend c.moment _
      have hstep := Layout.step_hold hheld (h.layout_step hc'.paired)
      have hnone : d.layout.hold = none ↔ d.tracker.session = none := by
        rw [layout_hold, Option.map_eq_none_iff]
      refine ⟨?_, fun s' hs' => h.continues hc' live hs'⟩
      rw [← hnone, hstep.1]
      constructor
      · rintro (rfl | rfl | rfl | rfl)
        · exact Or.inl asks
        · exact Or.inr (Or.inl asks)
        · exact Or.inr (Or.inr (Or.inl asks))
        · exact Or.inr (Or.inr (Or.inr (Or.inl asks)))
      · have hasked : ∀ {n}, c.asked command = some n → m = n :=
          fun hn => Option.some.inj (asks.symm.trans hn)
        rintro (hm | hm | hm | hm | ⟨hm, _⟩)
        · exact Or.inl (hasked hm)
        · exact Or.inr (Or.inl (hasked hm))
        · exact Or.inr (Or.inr (Or.inl (hasked hm)))
        · exact Or.inr (Or.inr (Or.inr (hasked hm)))
        · exact absurd hm (backendBy_of_asked asks).2
  | restored asks h =>
      have hnone := (restore_coherent hc h).2
      refine ⟨⟨fun _ => ?_, fun _ => hnone⟩, fun s' hs' => absurd (hnone.symm.trans hs') (by simp)⟩
      exact Or.inr (Or.inr (Or.inr (Or.inr ⟨asks, by rw [h]; rfl⟩)))

/-- **Sessions are alive.** Whatever has been done, a session in progress is on a window that is
there and shown, and no sample finds its panel gone. The listeners are installed exactly as long. A
command ends the session only if it releases its pointer, docks, closes or destroys its panel, or
restores; every other leaves the same session in progress. -/
theorem sessions_are_alive (h : Reachable c) :
    (∀ s, c.tracker.session = some s → c.Alive s) ∧
    (c.tracker.listeners.installed = c.tracker.session.isSome ∧
      c.tracker.listeners.attachCount = c.tracker.listeners.detachCount +
        (if c.tracker.listeners.installed then 1 else 0)) ∧
    (∀ pointer s, c.tracker.read c.store pointer ≠ .lost s) ∧
    ∀ moment (command : Command α β) s, c.tracker.session = some s →
      (((c.during moment).perform command).2.tracker.session = none ↔ c.Ends command s) ∧
      ∀ s', ((c.during moment).perform command).2.tracker.session = some s' → s'.Continues s := by
  have hc := h.coherent
  have ht := h.tended
  refine ⟨?_, ?_, ?_, ?_⟩
  · intro s hs
    obtain ⟨w, hw, hshown, hable⟩ := hc.attended s hs
    obtain ⟨p, hp, _, _, same⟩ := hc.paired.record_of_window hw
    exact ⟨w, p, hw, hp, hshown, hable, same.placement, same.visible.trans hshown,
      ht.fits s p hs hp⟩
  · obtain ⟨hinstalled, hcount⟩ := ht.listening
    rw [hinstalled]
    exact ⟨rfl, hcount⟩
  · intro pointer s
    rcases hc.read_cases pointer with ⟨hread, _⟩ | ⟨t, hread, _⟩ | ⟨t, w, hread, _⟩
    · rw [hread]; exact fun he => by cases he
    · rw [hread]; exact fun he => by cases he
    · rw [hread]; exact fun he => by cases he
  · intro moment command s hs
    have hduring := hc.during moment
    exact (perform_aftermath hduring command).session hduring hs

open SmallRun in
/-- Raising the window leaves the session in progress, and docking the panel ends it. -/
theorem dock_ends_session : Reachable dragging ∧
    ∃ s, dragging.tracker.session = some s ∧ dragging.Alive s ∧
    ((dragging.during clock).perform focusLog).2.tracker.session ≠ none ∧
    ((dragging.during clock).perform dockLog).2.tracker.session = none := by
  obtain ⟨halive, _, _, hends⟩ := sessions_are_alive reachable_dragging
  obtain ⟨s, hs⟩ : ∃ s, dragging.tracker.session = some s := Option.isSome_iff_exists.mp (by decide)
  refine ⟨reachable_dragging, s, hs, halive s hs, ?_, ?_⟩
  · rw [ne_eq, (hends clock focusLog s hs).1]
    have hasked : dragging.asked focusLog = some (.focus log) := rfl
    rw [Ends, hasked]
    rintro (hm | hm | hm | hm | ⟨hm, _⟩) <;> cases hm
  · refine (hends clock dockLog s hs).1.mpr (Or.inr (Or.inl ?_))
    have hpanel : dragging.tracker.session.map (·.panel) = some log := by decide
    rw [hs, Option.map_some, Option.some.injEq] at hpanel
    rw [hpanel]
    rfl

end Coordinator

end PanelDock
