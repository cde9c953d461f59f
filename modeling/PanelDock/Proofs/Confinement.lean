import PanelDock.Proofs.Rejection
import PanelDock.Proofs.Reporting
/-!
# One operation touches one panel

All panels share one stack, one gesture, one store and one list of windows, and every operation goes
through some of them. It writes under the name of one panel only: the one that it is told of, the
one under a gesture, or the one that is pressed. For records and windows this is known
(`Change.frame`). Here it is shown of what stands beside them: the stack, the gesture and the
sources of content.

A change leaves open what becomes of the content, so that is looked at operation by operation.
`Confined` is what is kept on the way, together with this: as long as panels are saved on request
only, no operation saves them on its own.
-/

namespace PanelDock

variable {α β : Type}

/-- To change a record saves nothing by itself. -/
theorem Store.update_unsaved [Coordinate α] (s : Store α) (now : Instant) (id : PanelId)
    (patch : Panel.Patch α) : written (s.update now id patch).effects = [] := by
  cases hp : s.get? id with
  | none => rw [update, hp]; rfl
  | some p =>
      obtain ⟨kept, quiet, hupdate⟩ := update_known hp now patch
      rw [hupdate]
      split
      · rw [written_append, written_quiet quiet]
        rfl
      · exact written_quiet quiet

theorem Store.create_unsaved [Coordinate α] (s : Store α) (now : Instant) (id : PanelId)
    (dock : String) (defaults : Panel.Defaults) :
    written (s.create now id dock defaults).effects = [] := by
  have hcreate := s.creation now id dock defaults
  generalize s.create now id dock defaults = o at hcreate ⊢
  cases hcreate with
  | refused n why => rfl
  | brokenOff quiet named new unordered full => exact written_quiet quiet
  | done quiet named new behind =>
      rw [written_append, written_quiet quiet]
      rfl

theorem Store.remove_unsaved (s : Store α) (id : PanelId) : written (s.remove id).effects = [] := by
  rw [remove]
  split
  · rfl
  · rfl

/-- A gesture writes geometry, and nothing is saved of it. -/
theorem Tracker.feed_unsaved [Coordinate α] (t : Tracker α) (store : Store α) (now : Instant)
    (pointer : Pointer α) (release : Bool) :
    written (t.feed store now pointer release).effects = [] := by
  rw [feed]
  split
  · rfl
  · rfl
  · rfl
  · dsimp only
    split
    · rw [written_append, store.update_unsaved]
      rfl
    · exact store.update_unsaved _ _ _

namespace Coordinator

/-- Only the source of this panel's content is another one, if there is such a panel. As long as
panels are saved on request only, nothing was saved. -/
structure Confined (subject : Option PanelId) (c d : Coordinator α β) : Prop where
  content : ∀ i, subject ≠ some i → d.content.get? i = c.content.get? i
  saving : d.saveOnTransition = c.saveOnTransition
  unsaved : c.saveOnTransition = false → written d.journal = written c.journal

/-! ## Where content is called -/

/-- Mounting calls the source of the window's panel only. -/
theorem mountInto_content (c : Coordinator α β) (w : Chrome α) {i : PanelId} (hi : i ≠ w.panel) :
    (c.mountInto w).2.content.get? i = c.content.get? i := by
  rw [mountInto]
  split
  · rfl
  · rename_i source _
    obtain ⟨journal, hcall⟩ := recordCall_eq
      { c with content := c.content.insert w.panel (source.mount w.panel).2.1 }
      (source.mount w.panel).2.1 (source.mount w.panel).2.2
    dsimp only
    rw [hcall]
    split
    · exact Catalog.get?_insert_of_ne _ _ hi
    · exact Catalog.get?_insert_of_ne _ _ hi

/-- Unmounting calls the source of the window's panel only. -/
theorem unmountFrom_content (c : Coordinator α β) (w : Chrome α) {i : PanelId} (hi : i ≠ w.panel) :
    (c.unmountFrom w).2.content.get? i = c.content.get? i := by
  rw [unmountFrom]
  split
  · split
    · rfl
    · rename_i source _
      obtain ⟨journal, hcall⟩ := recordCall_eq
        { c with content := c.content.insert w.panel (source.unmount w.panel).1 }
        (source.unmount w.panel).1 (source.unmount w.panel).2
      dsimp only
      rw [hcall]
      exact Catalog.get?_insert_of_ne _ _ hi
  · rfl

namespace Confined

variable {subject : Option PanelId} {c d e : Coordinator α β}

theorem refl (subject : Option PanelId) (c : Coordinator α β) : Confined subject c c :=
  ⟨fun _ _ => rfl, rfl, fun _ => rfl⟩

theorem trans (h : Confined subject c d) (h' : Confined subject d e) : Confined subject c e where
  content := fun i hi => (h'.content i hi).trans (h.content i hi)
  saving := h'.saving.trans h.saving
  unsaved := fun off => (h'.unsaved (h.saving.trans off)).trans (h.unsaved off)

/-- A mute step is confined if the content is. -/
theorem mute (h : Confined subject c d) (step : Mute d e)
    (content : ∀ i, subject ≠ some i → e.content.get? i = d.content.get? i)
    (saving : e.saveOnTransition = d.saveOnTransition) : Confined subject c e := by
  obtain ⟨es, hjournal, _, hunsaved⟩ := step.grows
  refine h.trans ⟨content, saving, fun _ => ?_⟩
  rw [hjournal, written_append, hunsaved, List.append_nil]

theorem note (h : Confined subject c d) (n : Notice α) : Confined subject c (d.note n) :=
  h.mute ((Mute.refl d).note n) (fun _ _ => rfl) rfl

/-- The records may change, if nothing is saved of it. -/
theorem store (h : Confined subject c d) (store : Store α) {es : List (Effect α)}
    (unsaved : written es = []) : Confined subject c ({ d with store }.record es) := by
  refine h.trans ⟨fun _ _ => rfl, rfl, fun _ => ?_⟩
  show written (d.journal ++ es) = written d.journal
  rw [written_append, unsaved, List.append_nil]

theorem amend [Coordinate α] (h : Confined subject c d) (id : PanelId) (patch : Panel.Patch α) :
    Confined subject c (d.amend id patch) :=
  h.store _ (Store.update_unsaved _ _ _ _)

theorem persist [Backend β α] (h : Confined subject c d) (occasion : Occasion) :
    Confined subject c (d.persist occasion) := by
  obtain ⟨backend, journal, hpersist⟩ := persist_eq d occasion
  refine h.trans ⟨fun _ _ => by rw [hpersist], by rw [hpersist], fun off => ?_⟩
  rw [Coordinator.persist, off]
  rfl

theorem settle {ρ : Type} {operation : Operation} {r : Except Refusal ρ × Coordinator α β}
    (h : Confined subject c r.2) : Confined subject c (Coordinator.settle operation r).2 := by
  obtain ⟨result, d⟩ := r
  cases result with
  | ok v => exact h
  | error cause => exact h.note _

theorem dropGesture (h : Confined subject c d) (id : PanelId) :
    Confined subject c (d.dropGesture id) :=
  h.mute ((Mute.refl d).dropGesture id) (fun _ _ => rfl) rfl

theorem raise (h : Confined subject c d) (w : Chrome α) : Confined subject c (d.raise w).2 :=
  h.mute ((Mute.refl d).raise w) (fun _ _ => rfl) rfl

theorem place (h : Confined subject c d) (w : Chrome α) : Confined subject c (d.place w) :=
  h.mute ((Mute.refl d).place w) (fun _ _ => rfl) rfl

theorem follow [Coordinate α] (h : Confined subject c d) (update : GeometryUpdate α) :
    Confined subject c (d.follow update) := by
  rw [Coordinator.follow]
  split
  · exact h
  · split
    · exact h.place _
    · exact h.place _

theorem mountInto {w : Chrome α} (h : Confined (some w.panel) c d) :
    Confined (some w.panel) c (d.mountInto w).2 := by
  obtain ⟨slot, content, journal, hm⟩ := mountInto_eq d w
  refine h.mute ((Mute.refl d).mountInto w) (fun i hi => ?_) (by rw [hm])
  exact mountInto_content d w (fun he => hi (congrArg some he.symm))

theorem unmountFrom {w : Chrome α} (h : Confined (some w.panel) c d) :
    Confined (some w.panel) c (d.unmountFrom w).2 := by
  obtain ⟨content, journal, hu⟩ := unmountFrom_eq d w
  refine h.mute ((Mute.refl d).unmountFrom w) (fun i hi => ?_) (by rw [hu])
  exact unmountFrom_content d w (fun he => hi (congrArg some he.symm))

theorem tearDown {id : PanelId} (h : Confined (some id) c d)
    (named : ∀ w, d.flyouts.get? id = some w → w.panel = id) :
    Confined (some id) c (d.tearDown id) := by
  refine h.trans ?_
  have hmute := (Mute.refl d).tearDown id
  have hcontent : ∀ i, some id ≠ some i → (d.tearDown id).content.get? i = d.content.get? i := by
    intro i hi
    rw [Coordinator.tearDown]
    cases hw : d.flyouts.get? id with
    | none => rfl
    | some w =>
        have hother : i ≠ w.panel := fun he => hi (congrArg some (he.trans (named w hw)).symm)
        exact unmountFrom_content { d with flyouts := d.flyouts.erase id } w hother
  obtain ⟨content, journal, ht⟩ := tearDown_eq d id
  exact (refl (some id) d).mute hmute hcontent (by rw [ht])

/-- When a window opens, the source of its panel is called. -/
theorem float [Coordinate α] {w : Chrome α} (h : Confined (some w.panel) c d) :
    Confined (some w.panel) c (d.float w).2 := by
  have hstacked : Confined (some w.panel) c
      ({ d with stack := (d.stacking w).state.1 }.record (d.stacking w).effects) := by
    have hmute : Mute d { d with stack := (d.stacking w).state.1 } := (Mute.refl d).beside rfl rfl
    exact h.mute (hmute.record (Allocator.register_quiet _ _ _ _ _ _)) (fun _ _ => rfl) rfl
  have hfilled := mountInto (w := { w with toOverlay := (d.stacking w).state.2 }) hstacked
  exact (hfilled.place _).amend w.panel _

/-- The source of a panel is exchanged. -/
theorem assign {id : PanelId} (h : Confined (some id) c d) (source : Source) :
    Confined (some id) c { d with content := d.content.insert id source } :=
  h.mute ((Mute.refl _).beside rfl rfl)
    (fun _ hi => Catalog.get?_insert_of_ne _ _ (fun he => hi (congrArg some he.symm))) rfl

/-! ## Operations -/

section Operations

variable [Coordinate α] [Backend β α]

omit [Backend β α] in
theorem registerPanel (c : Coordinator α β) (id : PanelId) (title dock : String)
    (source : Option Source) : Confined (some id) c (c.registerPanel id title dock source).2 := by
  have hcreated :=
    (refl (some id) c).store (c.store.create c.moment.now id dock (.titled title)).state
    (Store.create_unsaved c.store c.moment.now id dock (.titled title))
  unfold Coordinator.registerPanel
  dsimp only
  split
  · cases source with
    | none => exact hcreated
    | some x => exact (hcreated.note (.contentRegistered id x.kind)).assign x
  · exact hcreated

omit [Backend β α] in
theorem setContent (hc : c.Paired) (id : PanelId) (source : Source) :
    Confined (some id) c (c.setContent id source).2 := by
  rw [Coordinator.setContent]
  split
  · exact (refl _ c).note _
  · split
    · exact (refl _ c).assign source
    · rename_i w hw
      obtain rfl := hc.window_named hw
      have hemptied := unmountFrom (refl (some w.panel) c)
      obtain ⟨content, journal, hu⟩ := unmountFrom_eq c w
      rw [hu] at hemptied ⊢
      have hfilled := mountInto (w := { w with slot := .empty }) (hemptied.assign source)
      exact (hfilled.place _).amend w.panel _

theorem flyOut (c : Coordinator α β) (id : PanelId) (options : FlyoutOptions α) :
    Confined (some id) c (c.tryFlyOut id options).2 := by
  rw [tryFlyOut]
  split
  · exact refl _ c
  · split
    · exact refl _ c
    · have hhandled : Confined (some id) c c.handled :=
        (refl _ c).mute ((Mute.refl c).beside rfl rfl) (fun _ _ => rfl) rfl
      exact ((hhandled.float (w := c.freshWindow id _ _ _ _ true _)).note _).persist _

theorem dock (hc : c.Paired) (id : PanelId) : Confined (some id) c (c.tryDock id).2 := by
  rw [tryDock]
  split
  · exact refl _ c
  · split
    · exact refl _ c
    · have hdown := ((refl (some id) c).dropGesture id).tearDown (fun w hw => hc.window_named hw)
      exact ((hdown.amend id _).note _).persist _

theorem closeFlyout (subject : Option PanelId) (c : Coordinator α β) (id : PanelId) :
    Confined subject c (c.tryCloseFlyout id).2 := by
  rw [tryCloseFlyout]
  split
  · exact refl _ c
  · split
    · exact refl _ c
    · exact (((((refl _ c).place _).dropGesture id).amend id _).note _).persist _

theorem showFlyout (subject : Option PanelId) (c : Coordinator α β) (id : PanelId) :
    Confined subject c (c.tryShowFlyout id).2 := by
  rw [tryShowFlyout]
  split
  · exact refl _ c
  · split
    · exact refl _ c
    · dsimp only
      split
      · exact ((((refl _ c).raise _).amend id _).note _).persist _
      · exact ((((refl _ c).place _).amend id _).note _).persist _

omit [Backend β α] in
theorem focusFlyout (subject : Option PanelId) (c : Coordinator α β) (id : PanelId) :
    Confined subject c (c.tryFocusFlyout id).2 := by
  rw [tryFocusFlyout]
  split
  · exact refl _ c
  · rename_i w _
    split
    · exact refl _ c
    · have hraised := (refl subject c).raise w
      split
      · rename_i d hr
        rw [hr] at hraised
        exact hraised
      · rename_i z d hr
        rw [hr] at hraised
        exact (hraised.amend id _).note _

theorem swapDocked (subject : Option PanelId) (c : Coordinator α β) (id : PanelId)
    (old new : Placement) : Confined subject c (c.swapDocked id old new).2 := by
  rw [Coordinator.swapDocked]
  split
  · exact refl _ c
  · split
    · exact refl _ c
    · exact (((refl _ c).amend id _).note _).persist _

theorem destroyPanel (hc : c.Paired) (id : PanelId) :
    Confined (some id) c (c.destroyPanel id).2 := by
  unfold Coordinator.destroyPanel
  split
  · exact (refl _ c).note _
  · have hdown := ((refl (some id) c).dropGesture id).tearDown (fun w hw => hc.window_named hw)
    dsimp only
    generalize (c.dropGesture id).tearDown id = d at hdown
    have hdeprived : Confined (some id) c { d with content := d.content.erase id } := by
      refine hdown.mute ((Mute.refl d).beside rfl rfl) (fun i hi => ?_) rfl
      exact (Catalog.get?_erase _ _ _).trans (if_neg (fun he => hi (congrArg some he.symm)))
    exact ((hdeprived.store _ (Store.remove_unsaved d.store id)).note _).persist _

omit [Backend β α] in
theorem tryBegin (subject : Option PanelId) (c : Coordinator α β) (id : PanelId)
    (pointer : Pointer α) (grip : Grip) : Confined subject c (c.tryBegin id pointer grip).2 := by
  unfold Coordinator.tryBegin
  split
  · exact refl _ c
  · rename_i w _
    split
    · exact refl _ c
    split
    · exact refl _ c
    dsimp only
    split
    · exact refl _ c
    · have hbegun :
          Mute c
            { c with tracker := (c.tracker.start c.store c.moment.token id pointer grip).state } :=
        (Mute.refl c).beside rfl rfl
      have hquiet := hbegun.record (c.tracker.start_quiet c.store c.moment.token id pointer grip)
      have hraised := ((refl subject c).mute hquiet (fun _ _ => rfl) rfl).raise w
      split
      · exact hraised
      · exact hraised.amend id _

omit [Backend β α] in
theorem feed (subject : Option PanelId) (c : Coordinator α β) (pointer : Pointer α)
    (release : Bool) : Confined subject c (c.feed pointer release).2 := by
  have hfed : Confined subject c ({ c with
      tracker := (c.tracker.feed c.store c.moment.now pointer release).state.1
      store := (c.tracker.feed c.store c.moment.now pointer release).state.2 }.record
      (c.tracker.feed c.store c.moment.now pointer release).effects) := by
    have htracked : Confined subject c
        { c with tracker := (c.tracker.feed c.store c.moment.now pointer release).state.1 } :=
      (refl _ c).mute ((Mute.refl c).beside rfl rfl) (fun _ _ => rfl) rfl
    exact htracked.store _ (c.tracker.feed_unsaved c.store c.moment.now pointer release)
  unfold Coordinator.feed
  dsimp only
  split
  · exact hfed
  · exact hfed.follow _

theorem pointerUp (subject : Option PanelId) (c : Coordinator α β) (pointer : Pointer α) :
    Confined subject c (c.pointerUp pointer).2 := by
  have hfed := feed subject c pointer true
  rw [Coordinator.pointerUp]
  split
  · rename_i d hr
    rw [hr] at hfed
    exact hfed
  · rename_i update d hr
    rw [hr] at hfed
    exact hfed.persist _

/-- A press touches the panel that it answers with. -/
theorem pointerDown (hc : c.Paired) (pointer : Pointer α) :
    Confined ((c.pointerDown pointer).1.map (·.1)) c (c.pointerDown pointer).2 := by
  rw [Coordinator.pointerDown]
  split
  · exact refl _ c
  · rename_i zIndex panel hit _
    have hpressed := (refl (some panel) c).note (.pressed panel hit)
    have hpaired : (c.note (.pressed panel hit)).Paired := hc
    cases hit with
    | titleBar => exact hpressed.trans (tryBegin _ _ panel pointer .drag).settle
    | resizeHandle => exact hpressed.trans (tryBegin _ _ panel pointer .resize).settle
    | dockButton => exact hpressed.trans (dock hpaired panel).settle
    | closeButton => exact hpressed.trans (closeFlyout _ _ panel).settle
    | content => exact hpressed.trans (focusFlyout _ _ panel).settle

end Operations

end Confined

/-! ## Commands -/

variable [Coordinate α] [Backend β α] {c : Coordinator α β}

/-- The panel that a request is about: the one that is named, the one under a gesture, or the one
that the answer to a press names. -/
def subjectOf (c : Coordinator α β) : Request α β → Option PanelId
  | .registerPanel id _ _ _ | .setContent id _ | .flyOut id _ | .tryFlyOut id _ | .dock
      id | .tryDock id
  | .closeFlyout id | .tryCloseFlyout id | .showFlyout id | .tryShowFlyout id | .focusFlyout id
  | .tryFocusFlyout id | .toggleFlyout id | .hidePanel id | .showPanel id | .destroyPanel id
  | .beginDrag id _ | .beginResize id _ => some id
  | .pointerMove _ | .pointerUp _ => c.tracker.session.map (·.panel)
  | .pointerDown pointer => (c.pointerDown pointer).1.map (·.1)
  | .subscribe | .unsubscribe _ | .attach _ | .restore | .saveAll => none

/-- The panel that a command is about; an action is about that of its request. -/
def subject (c : Coordinator α β) : Command α β → Option PanelId
  | .request k => c.subjectOf k
  | .action a => (a.request? : Option (Request α β)).bind c.subjectOf

omit [Backend β α] in
theorem move_panel (hit : Hit) (panel : PanelId) (pointer : Pointer α) (l : Layout) :
    (hit.move panel pointer).panel l = some panel := by
  cases hit <;> rfl

theorem subjectOf_of_asked {k : Request α β} {m : Move} (h : c.asked (.request k) = some m) :
    c.subjectOf k = m.panel c.layout := by
  cases k with
  | pointerDown pointer =>
      obtain ⟨top, htop, rfl⟩ := Option.map_eq_some_iff.mp h
      rw [move_panel, subjectOf, Coordinator.pointerDown, htop]
      rfl
  | pointerMove pointer =>
      obtain rfl := Option.some.inj h
      rw [Move.panel_shutIf, Move.panel, layout_hold, Option.map_map]
      rfl
  | pointerUp pointer =>
      obtain rfl := Option.some.inj h
      rw [Move.panel_shutIf, Move.panel, layout_hold, Option.map_map]
      rfl
  | toggleFlyout id =>
      obtain rfl := Option.some.inj h
      split <;> rfl
  | subscribe => cases h
  | unsubscribe n => cases h
  | attach backend => cases h
  | restore => cases h
  | saveAll => cases h
  | _ => obtain rfl := Option.some.inj h; rfl

/-- The move that a command comes down to is about the panel that the command is about. -/
theorem subject_of_asked {command : Command α β} {m : Move} (h : c.asked command = some m) :
    c.subject command = m.panel c.layout := by
  cases command with
  | request k => exact subjectOf_of_asked h
  | action a =>
      cases hk : (a.request? : Option (Request α β)) with
      | none => simp [asked, Command.move?, hk] at h
      | some k =>
          rw [subject, hk]
          exact subjectOf_of_asked ((asked_action hk).symm.trans h)

/-- Every request is confined to its panel, but for the two that deal with what is saved. -/
theorem Confined.request (hc : c.Paired) {k : Request α β} (other : k ≠ .restore)
    (unasked : k ≠ .saveAll) : Confined (c.subjectOf k) c (c.request k).2 := by
  cases k with
  | subscribe => exact (refl _ c).mute ((Mute.refl c).beside rfl rfl) (fun _ _ => rfl) rfl
  | unsubscribe n => exact (refl _ c).mute ((Mute.refl c).beside rfl rfl) (fun _ _ => rfl) rfl
  | attach backend => exact (refl _ c).mute ((Mute.refl c).beside rfl rfl) (fun _ _ => rfl) rfl
  | registerPanel id title dock source => exact registerPanel c id title dock source
  | setContent id source => exact setContent hc id source
  | flyOut id options => exact (flyOut c id options).settle
  | tryFlyOut id options => exact flyOut c id options
  | dock id => exact (dock hc id).settle
  | tryDock id => exact dock hc id
  | closeFlyout id => exact (closeFlyout _ c id).settle
  | tryCloseFlyout id => exact closeFlyout _ c id
  | showFlyout id => exact (showFlyout _ c id).settle
  | tryShowFlyout id => exact showFlyout _ c id
  | focusFlyout id => exact (focusFlyout _ c id).settle
  | tryFocusFlyout id => exact focusFlyout _ c id
  | toggleFlyout id =>
      show Confined (some id) c (c.toggleFlyout id).2
      rw [toggleFlyout]
      split
      · exact (dock hc id).settle
      · exact (flyOut c id {}).settle
  | hidePanel id => exact (swapDocked _ c id .docked .hidden).settle
  | showPanel id => exact (swapDocked _ c id .hidden .docked).settle
  | destroyPanel id => exact destroyPanel hc id
  | beginDrag id pointer => exact (tryBegin _ c id pointer .drag).settle
  | beginResize id pointer => exact (tryBegin _ c id pointer .resize).settle
  | pointerDown pointer => exact pointerDown hc pointer
  | pointerMove pointer => exact feed _ c pointer false
  | pointerUp pointer => exact pointerUp _ c pointer
  | restore => exact absurd rfl other
  | saveAll => exact absurd rfl unasked

/-- Every command is confined to its panel, but for those that deal with what is saved. -/
theorem Confined.perform (hc : c.Paired) {command : Command α β} (other : command.restores = false)
    (unasked : command.savesAll = false) :
    Confined (c.subject command) c (c.perform command).2 := by
  cases command with
  | request k =>
      exact request hc (fun hk => by rw [hk] at other; cases other)
        (fun hk => by rw [hk] at unasked; cases unasked)
  | action a =>
      have hexecuting := (refl (c.subject (.action a)) c).note (.executing a.label)
      show Confined _ c (c.execute a).2
      rw [execute_eq]
      cases hk : (a.request? : Option (Request α β)) with
      | none => exact hexecuting
      | some k =>
          -- no action is about a gesture or a press, so the line before it is nothing to its panel
          have hsubject : (c.note (.executing a.label)).subjectOf k = c.subject (.action a) := by
            cases a <;> cases hk <;> rfl
          refine hexecuting.trans ?_
          rw [← hsubject]
          refine request (c := c.note _) hc ?_ ?_
          · rintro rfl
            cases a <;> cases hk
          · rintro rfl
            cases a with
            | saveAll => cases unasked
            | _ => cases hk

/-! ## The stack and the gesture -/

section Frame

omit [Coordinate α] [Backend β α]

variable {id i : PanelId} {v w : Chrome α}

/-- A window that is taken down takes only its own registration with it. -/
theorem released_elsewhere (h : Stacked c.flyouts c.stack) (hv : c.flyouts.get? i = some v)
    (hi : i ≠ id) :
    (c.released id).registration? v.handle = c.stack.registration? v.handle := by
  rw [released]
  cases hw : c.flyouts.get? id with
  | none => rfl
  | some w =>
      obtain ⟨r, hr, _⟩ := h.registered id w hw
      dsimp only
      rw [Allocator.unregister, hr]
      exact (Catalog.get?_erase _ _ _).trans (if_neg (fun he => hi (h.apart i id v w hv hw he)))

/-- A window that is raised is written over its own registration only. -/
theorem raising_elsewhere (h : Stacked c.flyouts c.stack) (hv : c.flyouts.get? i = some v)
    (hw : c.flyouts.get? id = some w) (hi : i ≠ id) :
    (c.raising w).state.1.registration? v.handle = c.stack.registration? v.handle := by
  obtain ⟨r, hr, _⟩ := h.registered id w hw
  obtain ⟨r', _, hstate, _⟩ := Allocator.bringToFront_registered (α := α) hr
  rw [raising, hstate]
  exact Catalog.get?_insert_of_ne _ _ (fun he => hi (h.apart i id v w hv hw he))

/-- A window that opens is registered under a handle that no window has. -/
theorem stacking_elsewhere (h : Stacked c.flyouts c.stack) (hv : c.flyouts.get? i = some v)
    (new : w.handle = c.stack.newHandle.1) :
    (c.handled.stacking w).state.1.registration? v.handle = c.stack.registration? v.handle := by
  refine Catalog.get?_insert_of_ne _ _ (fun he => ?_)
  have hgiven := h.given i v hv
  rw [he, new] at hgiven
  exact absurd hgiven (Nat.lt_irrefl _)

/-- A gesture on another panel is not dropped. -/
theorem dropTarget_elsewhere {t : Tracker α} {s : Session α} (live : t.session = some s)
    (hs : s.panel ≠ id) :
    (t.dropTarget id).state = t := by
  rw [Tracker.dropTarget, live]
  dsimp only
  rw [if_neg hs]

end Frame

omit [Backend β α] in
/-- A change leaves the registrations of the other windows, and a gesture on another panel, as they
are. -/
theorem Change.apart {d : Coordinator α β} {m : Move} (h : Change c m d) (hc : c.Coherent) :
    (∀ i v, m.panel c.layout ≠ some i → c.flyouts.get? i = some v →
      d.stack.registration? v.handle = c.stack.registration? v.handle) ∧
    ∀ s, c.tracker.session = some s → m.panel c.layout ≠ some s.panel → d.tracker = c.tracker := by
  have hne : ∀ {id i}, m.panel c.layout = some id → m.panel c.layout ≠ some i → i ≠ id :=
    fun hm hi he => hi (he ▸ hm)
  have hs := hc.stacked
  cases h with
  | registered new name fresh content journal => exact ⟨fun _ _ _ _ => rfl, fun _ _ _ => rfl⟩
  | refilledAside known bare content => exact ⟨fun _ _ _ _ => rfl, fun _ _ _ => rfl⟩
  | refilled hw slot content journal => exact ⟨fun _ _ _ _ => rfl, fun _ _ _ => rfl⟩
  | flownOut hp rests title position size handle slot content backend journal =>
      exact ⟨fun i v _ hv => stacking_elsewhere hs hv rfl, fun _ _ _ => rfl⟩
  | docked hw content backend journal =>
      exact ⟨fun i v hi hv => released_elsewhere hs hv (hne rfl hi),
        fun s live hi => dropTarget_elsewhere live (hne rfl hi)⟩
  | closed hw shown backend journal =>
      exact ⟨fun _ _ _ _ => rfl, fun s live hi => dropTarget_elsewhere live (hne rfl hi)⟩
  | shown hw closed focus backend journal => exact ⟨fun _ _ _ _ => rfl, fun _ _ _ => rfl⟩
  | @shownOnTop id w hw closed focus z hz backend journal =>
      exact ⟨fun i v hi hv => raising_elsewhere (w := w) hs hv hw (hne rfl hi), fun _ _ _ => rfl⟩
  | focused hw shown hz journal =>
      exact ⟨fun i v hi hv => raising_elsewhere hs hv hw (hne rfl hi), fun _ _ _ => rfl⟩
  | hidden hp was backend journal => exact ⟨fun _ _ _ _ => rfl, fun _ _ _ => rfl⟩
  | unhidden hp was backend journal => exact ⟨fun _ _ _ _ => rfl, fun _ _ _ => rfl⟩
  | destroyed hp content backend journal =>
      exact ⟨fun i v hi hv => released_elsewhere hs hv (hne rfl hi),
        fun s live hi => dropTarget_elsewhere live (hne rfl hi)⟩
  | grabbed hw hp shown handle idle opening hz name journal =>
      -- a gesture is begun only while there is none
      refine ⟨fun i v hi hv => raising_elsewhere hs hv hw (hne rfl hi), fun s live _ => ?_⟩
      exact absurd (idle.symm.trans live) (by simp)
  | sampled live mine hw backend journal =>
      -- only the gesture on this panel is fed
      refine ⟨fun _ _ _ _ => rfl, fun s' live' hi => absurd ?_ hi⟩
      rw [Move.panel, layout_hold, live']
      rfl

/-- What stands under the name of a panel is the same: record, window, its registration, and the
source of the content. -/
structure SameAt (i : PanelId) (c d : Coordinator α β) : Prop where
  record : d.store.get? i = c.store.get? i
  window : d.flyouts.get? i = c.flyouts.get? i
  registration : ∀ w, c.flyouts.get? i = some w →
    d.stack.registration? w.handle = c.stack.registration? w.handle
  source : d.content.get? i = c.content.get? i

/-- **One operation touches one panel.** Whatever has been done before, every command but that to
restore is about one panel at most, and all that stands under the name of any other panel is
afterwards exactly as it was. A gesture that is on another panel goes on as it was. -/
theorem commands_touch_one_panel (h : Reachable c) (moment : Moment) {command : Command α β}
    (other : command ≠ .request .restore) :
    let e := c.during moment
    let d := (e.perform command).2
    (∀ i, e.subject command ≠ some i → SameAt i e d) ∧
    ∀ s, e.tracker.session = some s → e.subject command ≠ some s.panel → d.tracker = e.tracker := by
  intro e d
  have hc := h.coherent.during moment
  have hconfined : command.savesAll = false → Confined (e.subject command) e d :=
    Confined.perform hc.paired (Bool.eq_false_iff.mpr (fun h => other (Command.eq_of_restores h)))
  -- what has become of the content is not in the aftermath, and is taken from the operation itself
  have hafter := perform_aftermath hc command
  change Aftermath e command d at hafter
  generalize d = d at hconfined hafter ⊢
  cases hafter with
  | aside stuck spent subscribers nextSubscriber journal =>
      exact ⟨fun i _ => ⟨rfl, rfl, fun _ _ => rfl, rfl⟩, fun _ _ _ => rfl⟩
  | changed asks es h booked =>
      have hunasked : command.savesAll = false := by
        cases command with
        | request k => cases k with | saveAll => cases asks | _ => rfl
        | action a => cases a with | saveAll => cases asks | _ => rfl
      have hrecorded : (e.record es).Coherent := hc.aside e.content e.backend e.moment _
      rw [subject_of_asked asks] at hconfined ⊢
      obtain ⟨hregistrations, htracker⟩ := h.apart hrecorded
      refine ⟨fun i hi => ?_, htracker⟩
      obtain ⟨hwindow, hrecord⟩ := h.frame hrecorded.paired hi
      exact ⟨hrecord, hwindow, fun w hw => hregistrations i w hi hw,
        (hconfined hunasked).content i hi⟩
  | restored asks h => exact absurd asks other

open SmallRun in
/-- To raise one of two windows leaves all of the other panel as it was, and to introduce a panel
leaves the gesture that is on another one. -/
theorem focus_touches_log :
    (Reachable sideBySide ∧ focusLog ≠ .request .restore ∧
      (sideBySide.during clock).subject focusLog ≠ some chart ∧
      (sideBySide.flyouts.get? chart).isSome = true ∧
      SameAt chart (sideBySide.during clock) ((sideBySide.during clock).perform focusLog).2) ∧
    Reachable dragging ∧ registerChart ≠ .request .restore ∧
      ∃ s, dragging.tracker.session = some s ∧
        (dragging.during clock).subject registerChart ≠ some s.panel ∧
        ((dragging.during clock).perform registerChart).2.tracker = dragging.tracker := by
  have hfocus : focusLog ≠ .request .restore := fun he => by cases he
  have hregister : registerChart ≠ .request .restore := fun he => by cases he
  obtain ⟨hsame, _⟩ := commands_touch_one_panel reachable_sideBySide clock hfocus
  obtain ⟨_, hlive⟩ := commands_touch_one_panel reachable_dragging clock hregister
  have hother : (sideBySide.during clock).subject focusLog ≠ some chart := by decide
  refine ⟨⟨reachable_sideBySide, hfocus, hother, by decide, hsame chart hother⟩, reachable_dragging,
    hregister, ?_⟩
  obtain ⟨s, hs⟩ : ∃ s, dragging.tracker.session = some s := Option.isSome_iff_exists.mp (by decide)
  have hpanel : dragging.tracker.session.map (·.panel) = some log := by decide
  rw [hs, Option.map_some] at hpanel
  have hheld : (dragging.during clock).subject registerChart ≠ some s.panel := by
    rw [hpanel]
    decide
  exact ⟨s, hs, hheld, hlive s hs hheld⟩

end Coordinator

end PanelDock
