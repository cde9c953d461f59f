import PanelDock.Proofs.Gestures
import PanelDock.Proofs.Staging
/-!
# Content is mounted and unmounted in turn

Whatever a host does, what is done with content is done step by step: this is shown operation by
operation, and then for commands and runs. What every single step keeps therefore holds after every
run.
-/

namespace PanelDock

variable {α β : Type}

namespace Coordinator

/-! ## Operations -/

section Operations

variable [Coordinate α] [Backend β α] {given : PanelId → Source → Prop} {c d : Coordinator α β}

omit [Backend β α] in
theorem Coherent.bare (hd : d.Coherent) {id : PanelId}
    (rests : ∀ p, d.store.get? id = some p → p.placement ≠ .floating) : d.shows id = false :=
  shows_of_no_window (hd.paired.no_window rests)

omit [Coordinate α] [Backend β α] in
theorem create_contains (s : Store α) (now : Instant) (id : PanelId) (dock : String)
    (defaults : Panel.Defaults) :
    (∀ i, s.contains i = true → (s.create now id dock defaults).state.contains i = true) ∧
    ((s.create now id dock defaults).result = .done →
      s.contains id = false ∧ (s.create now id dock defaults).state.contains id = true) := by
  have hcreate := s.creation now id dock defaults
  generalize s.create now id dock defaults = o at hcreate ⊢
  cases hcreate with
  | refused n why => exact ⟨fun _ hi => hi, fun h => by cases h⟩
  | brokenOff quiet named new unordered full => exact ⟨fun _ hi => hi, fun h => by cases h⟩
  | done quiet named new behind =>
      refine ⟨fun i hi => ?_, fun _ => ⟨?_, ?_⟩⟩
      · show ((s.panels.insert id _).get? i).isSome = true
        rw [Catalog.get?_insert]
        split
        · rfl
        · exact hi
      · rw [Store.contains_eq, new]
        rfl
      · show ((s.panels.insert id _).get? id).isSome = true
        rw [Catalog.get?_insert_self]
        rfl

omit [Backend β α] in
theorem Staging.registerPanel (h : Staging given c d) (hd : d.Coherent) (id : PanelId)
    (title dock : String) (source : Option Source) (comes : ∀ x, source = some x → given id x) :
    Staging given c (d.registerPanel id title dock source).2 := by
  have hkeyed : d.store.Keyed := fun _ _ hp => hd.paired.record_named hp
  obtain ⟨hknown, hcreated⟩ := create_contains d.store d.moment.now id dock (.titled title)
  have hstored := h.calm ((Calm.refl d).store
    (fun name => (Store.create_turn hkeyed d.moment.now id dock (.titled title)).no_calls name)
    (fun i _ => hknown i))
  unfold Coordinator.registerPanel
  dsimp only
  split
  · rename_i hresult
    obtain ⟨hnew, hthere⟩ := hcreated hresult
    have hbare : d.shows id = false := hd.bare (fun p hp => by
      rw [Store.contains_eq, hp] at hnew
      cases hnew)
    cases source with
    | none => exact hstored
    | some x =>
        exact (hstored.calm ((Calm.refl _).note (.contentRegistered id x.kind))).assigned hthere
          hbare (comes x rfl)
  · exact hstored

omit [Coordinate α] [Backend β α] in
theorem mountInto_windows (d : Coordinator α β) (w : Chrome α)
    (flyouts : Catalog PanelId (Chrome α)) :
    mountInto { d with flyouts } w = ((d.mountInto w).1, { (d.mountInto w).2 with flyouts }) := by
  cases hs : d.content.get? w.panel with
  | none => simp only [mountInto, hs]; rfl
  | some source =>
      simp only [mountInto, hs]
      generalize source.mount w.panel = called
      obtain ⟨answer, after, call⟩ := called
      cases call <;> cases answer <;> rfl

omit [Coordinate α] [Backend β α] in
/-- A window is filled and takes the place of one in which nothing stands. -/
theorem Staging.replaced {flyouts : Catalog PanelId (Chrome α)}
    (h : Staging given c { d with flyouts }) {w : Chrome α}
    (bare : shows { d with flyouts } w.panel = false)
    (elsewhere : ∀ i, i ≠ w.panel → flyouts.get? i = d.flyouts.get? i) :
    Staging given c ((d.mountInto w).2.place (d.mountInto w).1) := by
  have hfilled := h.filled bare
  rw [mountInto_windows] at hfilled
  obtain ⟨slot, content, journal, hm⟩ := mountInto_eq d w
  rw [hm] at hfilled ⊢
  -- the window that is filled stands over whatever stood there
  refine hfilled.calm ⟨fun _ => rfl, fun i => ?_, fun _ => rfl, fun _ _ hi => hi⟩
  show ((d.flyouts.insert w.panel _).get? i).any _ = ((flyouts.insert w.panel _).get? i).any _
  rw [Catalog.get?_insert, Catalog.get?_insert]
  by_cases hi : i = w.panel
  · rw [if_pos hi, if_pos hi]
  · rw [if_neg hi, if_neg hi, elsewhere i hi]

omit [Backend β α] in
theorem Staging.setContent (h : Staging given c d) (hd : d.Coherent) (id : PanelId)
    (source : Source) (comes : given id source) : Staging given c (d.setContent id source).2 := by
  rw [Coordinator.setContent]
  split
  · exact h.calm ((Calm.refl d).note _)
  · rename_i hknown
    rw [Bool.not_eq_true', Bool.not_eq_false] at hknown
    split
    · rename_i hw
      exact h.assigned hknown (shows_of_no_window hw) comes
    · -- the window is emptied, the source is exchanged, and the window is filled
      rename_i w hw
      obtain rfl := hd.paired.window_named hw
      have hemptied := h.emptied hw
      obtain ⟨content, journal, hu⟩ := unmountFrom_eq d w
      rw [hu] at hemptied ⊢
      generalize hempty : { w with slot := Slot.empty } = empty at hemptied ⊢
      have hpanel : empty.panel = w.panel := by rw [← hempty]
      have hbare : (d.place empty).shows empty.panel = false := by
        rw [shows, place, Catalog.get?_insert_self, ← hempty]
        rfl
      have hassigned : Staging given c { d with
          content := content.insert w.panel source, journal, flyouts :=
            d.flyouts.insert empty.panel empty } :=
        hemptied.assigned hknown (hpanel ▸ hbare) comes
      have hreplaced :=
        Staging.replaced (d := { d with content := content.insert w.panel source, journal })
        hassigned hbare (fun i hi => Catalog.get?_insert_of_ne _ _ hi)
      exact hreplaced.calm ((Calm.refl _).amend w.panel rfl)

theorem Staging.flyOut (h : Staging given c d) (hd : d.Coherent) (id : PanelId)
    (options : FlyoutOptions α) : Staging given c (d.tryFlyOut id options).2 := by
  rw [tryFlyOut]
  split
  · exact h
  · rename_i p hp
    split
    · exact h
    · rename_i hrests
      have hbare : d.shows id = false := hd.bare (fun q hq hfl =>
        hrests (Option.some.inj (hp.symm.trans hq) ▸ (q.isFloating_iff.mpr hfl)))
      have hhandled :=
        h.calm
          ((Calm.refl d).aside d.stack.newHandle.2 d.tracker d.backend d.moment [] (fun _ => rfl))
      rw [List.append_nil] at hhandled
      have hfloats := hhandled.float (w := d.freshWindow id (options.title.getD p.title)
        (options.position.getD d.defaultPosition) (options.size.getD d.settings.defaultSize)
        (options.resizeHandle.getD d.settings.resizeHandle) true p.placement) hbare
      exact hfloats.calm (((Calm.refl _).note _).persist _)

theorem Staging.dock (h : Staging given c d) (hd : d.Coherent) (id : PanelId) :
    Staging given c (d.tryDock id).2 := by
  rw [tryDock]
  split
  · exact h
  · split
    · exact h
    · have hdown :=
        (h.calm ((Calm.refl d).dropGesture id)).tearDown id (fun w hw => hd.paired.window_named hw)
      exact hdown.calm ((((Calm.refl _).amend id rfl).note _).persist _)

theorem Calm.closeFlyout (hd : d.Coherent) (id : PanelId) : Calm d (d.tryCloseFlyout id).2 := by
  rw [tryCloseFlyout]
  rcases hd.paired.window_cases id with ⟨cause, hwin, _⟩ | ⟨w, p, hwin, hw, _, rfl, _, _⟩
  · rw [hwin]
    exact Calm.refl d
  · rw [hwin]
    dsimp only
    split
    · exact Calm.refl d
    · have hshows := shows_of_window hw
      have hplaced := (Calm.refl d).place (w := { w with displayed := false }) hshows
      exact (((hplaced.dropGesture w.panel).amend w.panel rfl).note _).persist _

theorem Calm.showFlyout (hd : d.Coherent) (id : PanelId) : Calm d (d.tryShowFlyout id).2 := by
  rw [tryShowFlyout]
  rcases hd.paired.window_cases id with ⟨cause, hwin, _⟩ | ⟨w, p, hwin, hw, _, rfl, _, _⟩
  · rw [hwin]
    exact Calm.refl d
  · rw [hwin]
    dsimp only
    split
    · exact Calm.refl d
    · have hshows := shows_of_window hw
      split
      · have hraised := (Calm.refl d).raise (w := { w with displayed := true }) hshows
        exact ((hraised.amend w.panel rfl).note _).persist _
      · have hplaced := (Calm.refl d).place (w := { w with displayed := true }) hshows
        exact ((hplaced.amend w.panel rfl).note _).persist _

omit [Backend β α] in
theorem Calm.focusFlyout (hd : d.Coherent) (id : PanelId) : Calm d (d.tryFocusFlyout id).2 := by
  rw [tryFocusFlyout]
  rcases hd.paired.window_cases id with ⟨cause, hwin, _⟩ | ⟨w, p, hwin, hw, _, rfl, _, _⟩
  · rw [hwin]
    exact Calm.refl d
  · rw [hwin]
    dsimp only
    split
    · exact Calm.refl d
    · have hraised := (Calm.refl d).raise (shows_of_window hw)
      split
      · rename_i e hr
        rw [hr] at hraised
        exact hraised
      · rename_i z e hr
        rw [hr] at hraised
        exact (hraised.amend w.panel rfl).note _

theorem Calm.swapDocked (d : Coordinator α β) (id : PanelId) (old new : Placement) :
    Calm d (d.swapDocked id old new).2 := by
  rw [Coordinator.swapDocked]
  split
  · exact Calm.refl d
  · split
    · exact Calm.refl d
    · exact (((Calm.refl d).amend id rfl).note _).persist _

theorem Staging.destroyPanel (h : Staging given c d) (hd : d.Coherent) (id : PanelId) :
    Staging given c (d.destroyPanel id).2 := by
  unfold Coordinator.destroyPanel
  split
  · exact h.calm ((Calm.refl d).note _)
  · have hdown :=
      (h.calm ((Calm.refl d).dropGesture id)).tearDown id (fun w hw => hd.paired.window_named hw)
    obtain ⟨content, journal, hd'⟩ := tearDown_eq (d.dropGesture id) id
    dsimp only
    rw [hd'] at hdown ⊢
    -- the source goes when there is no window any more, and the record goes after it
    have hdeprived := hdown.deprived (show shows _ id = false from
      shows_of_no_window (by rw [Catalog.get?_erase, if_pos rfl]))
    have hkeyed : d.store.Keyed := fun _ _ hp => hd.paired.record_named hp
    refine hdeprived.calm
      ((((Calm.refl _).store (fun name => (Store.remove_turn hkeyed id).no_calls name)
      (fun i hi hknown => ?_)).note _).persist _)
    rw [Store.contains_eq, Store.remove_get?]
    have hid : i ≠ id := fun he => hi (by rw [role?_erase, if_pos he])
    rw [if_neg hid]
    exact hknown

omit [Backend β α] in
theorem Calm.begin (hd : d.Coherent) (id : PanelId) (pointer : Pointer α) (grip : Grip) :
    Calm d (d.tryBegin id pointer grip).2 := by
  unfold tryBegin
  rcases hd.paired.window_cases id with ⟨cause, hwin, _⟩ | ⟨w, p, hwin, hw, _, rfl, _, _⟩
  · rw [hwin]
    exact Calm.refl d
  · rw [hwin]
    dsimp only
    split
    · exact Calm.refl d
    split
    · exact Calm.refl d
    split
    · exact Calm.refl d
    · have hbegun := (Calm.refl d).aside d.stack
        (d.tracker.start d.store d.moment.token w.panel pointer grip).state d.backend d.moment _
        (fun name => callsTo_quiet name
          (d.tracker.start_quiet d.store d.moment.token w.panel pointer grip))
      have hraised := hbegun.raise (w := w) (shows_of_window hw)
      split
      · exact hraised
      · exact hraised.amend w.panel rfl

omit [Backend β α] in
theorem Calm.feed (hd : d.Coherent) (pointer : Pointer α) (release : Bool) :
    Calm d (d.feed pointer release).2 := by
  have hfed : Calm d ({ d with
      tracker := (d.tracker.feed d.store d.moment.now pointer release).state.1
      store := (d.tracker.feed d.store d.moment.now pointer release).state.2 }.record
      (d.tracker.feed d.store d.moment.now pointer release).effects) := by
    have htracked :
        Calm d
          { d with tracker := (d.tracker.feed d.store d.moment.now pointer release).state.1 } :=
      ⟨fun _ => rfl, fun _ => rfl, fun _ => rfl, fun _ _ hi => hi⟩
    refine htracked.store
      (fun name => d.tracker.feed_no_calls d.store d.moment.now pointer release name)
      (fun i _ hi => ?_)
    exact (d.tracker.feed_contains d.store d.moment.now pointer release i).trans hi
  unfold Coordinator.feed
  dsimp only
  split
  · exact hfed
  · rename_i update hresult
    refine hfed.follow (fun w hw => ?_)
    exact hd.paired.window_named hw

/-! ## Restoring -/

/-- Every window stands under the name of its panel. -/
def Named (c : Coordinator α β) : Prop := ∀ id w, c.flyouts.get? id = some w → w.panel = id

omit [Backend β α] in
theorem Named.discard (h : d.Named) (id : PanelId) : (d.discard id).Named := by
  obtain ⟨content, journal, hd⟩ := discard_eq d id
  rw [hd]
  exact fun i w hw => h i w (Catalog.get?_erase_eq_some hw).2

omit [Backend β α] in
theorem Named.reopen (h : d.Named) (p : Panel α) : (d.reopen p).Named := by
  obtain ⟨slot, content, journal, hd⟩ := reopen_eq d p
  rw [hd]
  intro i w hw
  rcases Catalog.get?_insert_eq_some hw with ⟨rfl, rfl⟩ | ⟨_, hold⟩
  · rfl
  · exact h i w (Catalog.get?_erase_eq_some hold).2

omit [Coordinate α] [Backend β α] in
theorem Staging.discard (h : Staging given c d) (hd : d.Named) (id : PanelId) :
    Staging given c (d.discard id) :=
  (h.calm ((Calm.refl d).dropGesture id)).tearDown id (hd id)

omit [Backend β α] in
theorem Staging.reopen (h : Staging given c d) (hd : d.Named) (p : Panel α) :
    Staging given c (d.reopen p) := by
  have hdiscarded := h.discard hd p.id
  have hbare : (d.discard p.id).shows p.id = false := by
    obtain ⟨content, journal, he⟩ := discard_eq d p.id
    rw [he]
    refine shows_of_no_window ?_
    show (d.flyouts.erase p.id).get? p.id = none
    rw [Catalog.get?_erase, if_pos rfl]
  have hhandled := hdiscarded.calm ((Calm.refl _).aside (d.discard p.id).stack.newHandle.2
    (d.discard p.id).tracker (d.discard p.id).backend (d.discard p.id).moment [] (fun _ => rfl))
  rw [List.append_nil] at hhandled
  have hfloats := hhandled.float (w := (d.discard p.id).recreated p) hbare
  exact hfloats.calm ((Calm.refl _).note _)

omit [Backend β α] in
/-- However the records have changed, the windows are rebuilt step by step. -/
theorem Staging.rebuild (h : Staging given c d) (hd : d.Named) : Staging given c d.rebuild.2 :=
  (rebuild_keeps (P := fun e => Staging given c e ∧ e.Named)
    (fun _ id he => ⟨he.1.discard he.2 id, he.2.discard id⟩)
    (fun _ p he => ⟨he.1.reopen he.2 p, he.2.reopen p⟩) ⟨h, hd⟩).1

omit [Coordinate α] [Backend β α] in
theorem import?_contains (s : Store α) (snapshot : Snapshot α) {id : PanelId}
    (h : s.contains id = true) :
    (s.import? snapshot).state.contains id = true := by
  rw [Store.import?]
  split
  · exact h
  · refine List.foldlRecOn
      (motive := fun (panels : Catalog PanelId (Panel α)) => panels.contains id = true)
      _ _ h (fun panels hpanels p _ => ?_)
    show ((panels.insert p.id p).get? id).isSome = true
    rw [Catalog.get?_insert]
    split
    · rfl
    · exact hpanels

theorem Staging.restore (h : Staging given c d) (hd : d.Coherent) :
    Staging given c d.restore.2 := by
  rw [Coordinator.restore]
  split
  · exact h.calm ((Calm.refl d).note _)
  · rename_i backend hb
    have hasked :=
      h.calm ((Calm.refl d).aside d.stack d.tracker (some (Backend.restore backend).state) d.moment
      (Backend.restore backend).notices (fun name => callsTo_quiet name (notices_quiet _)))
    dsimp only
    split
    · exact hasked.calm ((Calm.refl _).note _)
    · exact hasked.calm ((Calm.refl _).note _)
    · rename_i snapshot hr
      split
      · exact hasked.calm ((Calm.refl _).note _)
      · have hkeyed : d.store.Keyed := fun _ _ hp => hd.paired.record_named hp
        have himported := hasked.calm ((Calm.refl _).store
          (fun name => (Store.import?_turn hkeyed snapshot).no_calls name)
          (fun i _ hi => import?_contains d.store snapshot hi))
        have hrebuilt := himported.rebuild (fun i w hw => hd.paired.window_named hw)
        exact hrebuilt.calm (((Calm.refl _).note _).save _)

omit [Coordinate α] in
theorem Staging.saveAll (h : Staging given c d) : Staging given c d.saveAll.2 := by
  rw [Coordinator.saveAll]
  split
  · exact h.calm ((Calm.refl d).note _)
  · exact h.calm ((Calm.refl d).save _)

omit [Coordinate α] [Backend β α] in
theorem Staging.settle {ρ : Type} {operation : Operation} {r : Except Refusal ρ × Coordinator α β}
    (h : Staging given c r.2) : Staging given c (Coordinator.settle operation r).2 := by
  obtain ⟨result, e⟩ := r
  cases result with
  | ok v => exact h
  | error cause => exact h.calm ((Calm.refl _).note _)

end Operations

end Coordinator

/-! ## Commands -/

/-- The source that is handed over with a request, and for which panel. -/
def Request.hands : Request α β → Option (PanelId × Source)
  | .registerPanel id _ _ source => source.map (fun x => (id, x))
  | .setContent id source => some (id, source)
  | _ => none

/-- The source that is handed over with a command. -/
def Command.hands : Command α β → Option (PanelId × Source)
  | .request k => k.hands
  | .action a => (a.request? : Option (Request α β)).bind Request.hands

namespace Coordinator

variable [Coordinate α] [Backend β α] {given : PanelId → Source → Prop} {c d : Coordinator α β}

theorem Staging.pointerUp (h : Staging given c d) (hd : d.Coherent) (pointer : Pointer α) :
    Staging given c (d.pointerUp pointer).2 := by
  have hfed := h.calm (Calm.feed hd pointer true)
  rw [Coordinator.pointerUp]
  split
  · rename_i e hr
    rw [hr] at hfed
    exact hfed
  · rename_i update e hr
    rw [hr] at hfed
    exact hfed.calm ((Calm.refl _).persist _)

theorem Staging.pointerDown (h : Staging given c d) (hd : d.Coherent) (pointer : Pointer α) :
    Staging given c (d.pointerDown pointer).2 := by
  rw [Coordinator.pointerDown]
  split
  · exact h
  · rename_i zIndex panel hit _
    have hpressed := h.calm ((Calm.refl d).note (.pressed panel hit))
    have hnoted : (d.note (.pressed panel hit)).Coherent := hd.aside d.content d.backend d.moment _
    cases hit with
    | titleBar => exact (hpressed.calm (Calm.begin hnoted panel pointer .drag)).settle
    | resizeHandle => exact (hpressed.calm (Calm.begin hnoted panel pointer .resize)).settle
    | dockButton => exact (hpressed.dock hnoted panel).settle
    | closeButton => exact (hpressed.calm (Calm.closeFlyout hnoted panel)).settle
    | content => exact (hpressed.calm (Calm.focusFlyout hnoted panel)).settle

theorem Staging.request (h : Staging given c d) (hd : d.Coherent) (k : Request α β)
    (comes : ∀ id source, k.hands = some (id, source) → given id source) :
    Staging given c (d.request k).2 := by
  cases k with
  | subscribe => exact h.calm ⟨fun _ => rfl, fun _ => rfl, fun _ => rfl, fun _ _ hi => hi⟩
  | unsubscribe n => exact h.calm ⟨fun _ => rfl, fun _ => rfl, fun _ => rfl, fun _ _ hi => hi⟩
  | attach backend => exact h.calm ⟨fun _ => rfl, fun _ => rfl, fun _ => rfl, fun _ _ hi => hi⟩
  | registerPanel id title dock source =>
      exact h.registerPanel hd id title dock source
        (fun x hx => comes id x (by rw [Request.hands, hx]; rfl))
  | setContent id source => exact h.setContent hd id source (comes id source rfl)
  | flyOut id options => exact (h.flyOut hd id options).settle
  | tryFlyOut id options => exact h.flyOut hd id options
  | dock id => exact (h.dock hd id).settle
  | tryDock id => exact h.dock hd id
  | closeFlyout id => exact (h.calm (Calm.closeFlyout hd id)).settle
  | tryCloseFlyout id => exact h.calm (Calm.closeFlyout hd id)
  | showFlyout id => exact (h.calm (Calm.showFlyout hd id)).settle
  | tryShowFlyout id => exact h.calm (Calm.showFlyout hd id)
  | focusFlyout id => exact (h.calm (Calm.focusFlyout hd id)).settle
  | tryFocusFlyout id => exact h.calm (Calm.focusFlyout hd id)
  | toggleFlyout id =>
      show Staging given c (d.toggleFlyout id).2
      rw [toggleFlyout]
      split
      · exact (h.dock hd id).settle
      · exact (h.flyOut hd id {}).settle
  | hidePanel id => exact (h.calm (Calm.swapDocked d id .docked .hidden)).settle
  | showPanel id => exact (h.calm (Calm.swapDocked d id .hidden .docked)).settle
  | destroyPanel id => exact h.destroyPanel hd id
  | beginDrag id pointer => exact (h.calm (Calm.begin hd id pointer .drag)).settle
  | beginResize id pointer => exact (h.calm (Calm.begin hd id pointer .resize)).settle
  | pointerDown pointer => exact h.pointerDown hd pointer
  | pointerMove pointer => exact h.calm (Calm.feed hd pointer false)
  | pointerUp pointer => exact h.pointerUp hd pointer
  | restore => exact h.restore hd
  | saveAll => exact h.saveAll

theorem Staging.perform (h : Staging given c d) (hd : d.Coherent) (command : Command α β)
    (comes : ∀ id source, command.hands = some (id, source) → given id source) :
    Staging given c (d.perform command).2 := by
  cases command with
  | request k => exact h.request hd k comes
  | action a =>
      show Staging given c (d.execute a).2
      rw [execute_eq]
      have hexecuting := h.calm ((Calm.refl d).note (.executing a.label))
      have hnoted : (d.note (.executing a.label)).Coherent :=
        hd.aside d.content d.backend d.moment _
      cases hk : (a.request? : Option (Request α β)) with
      | none => exact hexecuting
      | some k => exact hexecuting.request hnoted k (fun id source hs => comes id source (by
          rw [Command.hands, hk]
          exact hs))

theorem Staging.run (h : Staging given c d) (hd : d.Coherent) (steps : List (Moment × Command α β))
    (comes : ∀ step ∈ steps, ∀ id source, step.2.hands = some (id, source) → given id source) :
    Staging given c (d.run steps) := by
  induction steps generalizing d with
  | nil => exact h
  | cons step rest ih =>
      obtain ⟨moment, command⟩ := step
      have hduring := hd.during moment
      have hmeanwhile : Staging given c (d.during moment) :=
        h.calm ⟨fun _ => rfl, fun _ => rfl, fun _ => rfl, fun _ _ hi => hi⟩
      exact ih (hmeanwhile.perform hduring command (comes _ List.mem_cons_self))
        ((perform_aftermath hduring command).coherent hduring)
        (fun s hs => comes s (List.mem_cons_of_mem _ hs))

omit [Coordinate α] [Backend β α] in
theorem balanced_ofSettings (settings : Settings α) (backend : Option β) (moment : Moment)
    (name : String) (id : PanelId) : Balanced name id (ofSettings settings backend moment) where
  devoted := fun i role hi => nomatch hi
  even := by
    show balance (callsTo name (Allocator.fresh.setFrontGap _).effects) = some (_ && false)
    rw [Bool.and_false, callsTo_quiet name (Allocator.setFrontGap_quiet _ _)]
    rfl

/-- **Content is mounted and unmounted in turn.** Whatever is done, every source belongs to a panel
that is known. And if the providers of some name that are handed over are components for one panel,
then, whether or not they accept, all calls to them come in turn: content is not mounted twice, and
what is unmounted was mounted. The last of them leave the content mounted exactly if such a
component still is the source of the panel and content stands in its window. -/
theorem mounts_are_balanced (settings : Settings α) (backend : Option β) (moment : Moment)
    (steps : List (Moment × Command α β)) :
    let c := (ofSettings settings backend moment).run steps
    (∀ id source, c.content.get? id = some source → ∃ p, c.store.get? id = some p) ∧
    ∀ name id,
      (∀ step ∈ steps, ∀ i source p, step.2.hands = some (i, source) → source.provider? = some p →
        p.name = name → i = id ∧ source = .component p) →
      ∃ mounted, balance (callsTo name c.journal) = some mounted ∧
        (mounted = true ↔ (∃ p, c.content.get? id = some (.component p) ∧ p.name = name) ∧
          ∃ w, c.flyouts.get? id = some w ∧ w.slot.isMounted = true) := by
  intro c
  have hstart := coherent_ofSettings settings backend moment
  have hstaging : Staging (fun i source => ∃ step ∈ steps, step.2.hands = some (i, source))
      (ofSettings settings backend moment) c :=
    Staging.idle.run hstart steps (fun step hstep i source hs => ⟨step, hstep, hs⟩)
  refine ⟨fun id source hs => ?_, fun name id devoted => ?_⟩
  · have hhoused :=
      hstaging.housed (fun i hi => absurd rfl hi) id
        (by rw [role?, hs]; exact Option.some_ne_none _)
    rw [Store.contains_eq, Option.isSome_iff_exists] at hhoused
    exact hhoused
  · have hbalanced : Balanced name id c := by
      refine hstaging.balanced ?_ (balanced_ofSettings settings backend moment name id)
      rintro i source ⟨step, hstep, hs⟩
      cases source with
      | static body => exact ⟨fun he => (by cases he), fun he => (by cases he)⟩
      | component p =>
          refine ⟨fun he => (by cases he), fun he => ?_⟩
          exact (devoted step hstep i _ p hs rfl (Role.component.inj he)).1
      | renderer p =>
          refine ⟨fun he => ?_, fun he => by cases he⟩
          cases (devoted step hstep i _ p hs rfl (Role.renderer.inj he)).2
    refine ⟨_, hbalanced.even, ?_⟩
    rw [Bool.and_eq_true, decide_eq_true_iff, role?_eq_component, shows, Option.any_eq_true]

/-- A component that refuses the first call and accepts the others. -/
def reluctant : Provider where
  name := "plot"
  respond past id :=
    if past.isEmpty then .error "no data yet" else .ok { panel := id, body := "a plot" }

open SmallRun in
/-- The component refuses when the window opens, accepts when it opens again, and is told when other
content takes its place. -/
theorem reluctant_is_called_in_turn :
    let steps : List (Moment × Command Int (Memory Int)) :=
      [(clock, .request (.registerPanel log "Log" "left" (some (.component reluctant)))),
        (clock, flyOutLog),
        (clock, dockLog), (clock, flyOutLog),
        (clock, .request (.setContent log (.static "nothing")))]
    let c := (ofSettings .standard (some {}) clock).run steps
    callsTo "plot" c.journal = [.mount log 1 false, .mount log 2 true, .unmount log] ∧
      ∃ mounted, balance (callsTo "plot" c.journal) = some mounted ∧
        (mounted = true ↔ (∃ p, c.content.get? log = some (.component p) ∧ p.name = "plot") ∧
          ∃ w, c.flyouts.get? log = some w ∧ w.slot.isMounted = true) := by
  intro steps c
  have hbalanced :=
    (mounts_are_balanced (α := Int) (β := Memory Int) .standard (some {}) clock steps).2 "plot" log
  refine ⟨by decide, hbalanced ?_⟩
  intro step hstep i source p hs hp _
  simp only [steps, List.mem_cons, List.not_mem_nil, or_false] at hstep
  rcases hstep with rfl | rfl | rfl | rfl | rfl
  · cases hs
    cases hp
    exact ⟨rfl, rfl⟩
  · cases hs
  · cases hs
  · cases hs
  · cases hs
    cases hp

end Coordinator

end PanelDock
