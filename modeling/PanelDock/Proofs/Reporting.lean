import PanelDock.Proofs.Merging
import PanelDock.Proofs.Staging
/-!
# What observers see of an operation

An operation takes many small steps, and subscribers must not see the panels between two of them.
Nearly all steps are `Mute`: they leave the records alone and neither tell nor save anything. Every
operation but restoring makes its change of the records by one step of the store, with mute steps
before and after it, and saves last; so it `Reports` one event at most, of panels as they are when
it returns, and what it saves are these panels.
-/

namespace PanelDock

variable {α β : Type}

/-! ## What is written and what is told -/

/-- The snapshot that is written, if one is. -/
def Effect.snapshot? : Effect α → Option (Snapshot α)
  | .write snapshot _ => some snapshot
  | _ => none

/-- The snapshots that are written, in order. -/
def written (effects : List (Effect α)) : List (Snapshot α) := effects.filterMap Effect.snapshot?

@[simp] theorem written_append (es fs : List (Effect α)) :
    written (es ++ fs) = written es ++ written fs :=
  List.filterMap_append

theorem mem_written {s : Snapshot α} {es : List (Effect α)} :
    s ∈ written es ↔ ∃ accepted, Effect.write s accepted ∈ es := by
  rw [written, List.mem_filterMap]
  constructor
  · rintro ⟨x, hx, hs⟩
    cases x with
    | write t accepted =>
        obtain rfl : t = s := Option.some.inj hs
        exact ⟨accepted, hx⟩
    | notice n => cases hs
    | event subscribers e => cases hs
    | call provider call => cases hs
  · rintro ⟨accepted, hx⟩
    exact ⟨_, hx, rfl⟩

/-- Lines for the log are not saved panels. -/
theorem written_quiet {es : List (Effect α)} (quiet : ∀ x ∈ es, x.isNotice = true) :
    written es = [] := by
  refine List.filterMap_eq_nil_iff.mpr (fun x hx => ?_)
  obtain ⟨n, rfl⟩ := Effect.isNotice_iff.mp (quiet x hx)
  rfl

/-- What is told is so among these panels. -/
def Event.TrueOf (panels : Catalog PanelId (Panel α)) : Event α → Prop
  | .created p => panels.get? p.id = some p
  | .updated p => panels.get? p.id = some p
  | .removed id => panels.get? id = none
  | .reset => True

/-- What is told is so among the panels that come of it. -/
theorem Event.trueOf_applied {held panels : Catalog PanelId (Panel α)} {e : Event α}
    (makes : e.applied panels held = panels) : e.TrueOf panels := by
  cases e with
  | created p =>
      rw [← makes]
      exact Catalog.get?_insert_self _ _ _
  | updated p =>
      rw [← makes]
      exact Catalog.get?_insert_self _ _ _
  | removed id =>
      rw [← makes]
      exact (Catalog.get?_erase _ _ _).trans (if_pos rfl)
  | reset => trivial

/-- A store saves nothing by itself. -/
theorem Store.Turn.no_writes [Coordinate α] {s s' : Store α} {taken : Bool} {es : List (Effect α)}
    (h : s.Turn taken s' es) : written es = [] := by
  cases h with
  | silent quiet => exact written_quiet quiet
  | telling e quiet fits makes keyed alters =>
      rw [written_append, written_quiet quiet]
      rfl

namespace Coordinator

/-- Besides lines and calls, the journal has grown by these events and these snapshots. -/
def Grows (c d : Coordinator α β) (told : List (Event α)) (saved : List (Snapshot α)) : Prop :=
  ∃ es, d.journal = c.journal ++ es ∧ emitted es = told ∧ written es = saved

/-- The records are left alone, and nothing is told or saved. -/
structure Mute (c d : Coordinator α β) : Prop where
  grows : Grows c d [] []
  panels : d.store.panels = c.store.panels

/-- At most one event is told, of the panels as they are in the end, and only these are saved. -/
def Reports (c d : Coordinator α β) : Prop :=
  ∃ told saved, Grows c d told saved ∧
    ((told = [] ∧ d.store.panels = c.store.panels) ∨ ∃ e, told = [e] ∧ e.TrueOf d.store.panels) ∧
    ∀ s ∈ saved, s.panels = d.store.panels.values

theorem Grows.refl (c : Coordinator α β) :
    Grows c c [] [] := ⟨[], (List.append_nil _).symm, rfl, rfl⟩

theorem Grows.trans {c d e : Coordinator α β} {told told' : List (Event α)}
    {saved saved' : List (Snapshot α)} (h : Grows c d told saved) (h' : Grows d e told' saved') :
    Grows c e (told ++ told') (saved ++ saved') := by
  obtain ⟨es, hes, htold, hsaved⟩ := h
  obtain ⟨fs, hfs, htold', hsaved'⟩ := h'
  refine ⟨es ++ fs, ?_, ?_, ?_⟩
  · rw [hfs, hes, List.append_assoc]
  · rw [emitted_append, htold, htold']
  · rw [written_append, hsaved, hsaved']

/-! ## Mute steps -/

namespace Mute

variable {c d e : Coordinator α β}

theorem refl (c : Coordinator α β) : Mute c c := ⟨Grows.refl c, rfl⟩

theorem trans (h : Mute c d) (h' : Mute d e) :
    Mute c e := ⟨h.grows.trans h'.grows, h'.panels.trans h.panels⟩

theorem keyed (h : Mute c d) (keyed : c.store.Keyed) : d.store.Keyed := by
  intro id p hp
  rw [Store.get?, h.panels] at hp
  exact keyed id p hp

/-- Whatever is done besides the records and the journal is mute. -/
theorem beside (h : Mute c d) (journal : e.journal = d.journal)
    (panels : e.store.panels = d.store.panels) : Mute c e :=
  h.trans ⟨⟨[], journal.trans (List.append_nil _).symm, rfl, rfl⟩, panels⟩

theorem record (h : Mute c d) {es : List (Effect α)} (quiet : ∀ x ∈ es, x.isNotice = true) :
    Mute c (d.record es) :=
  h.trans ⟨⟨es, rfl, emitted_quiet quiet, written_quiet quiet⟩, rfl⟩

theorem note (h : Mute c d) (n : Notice α) : Mute c (d.note n) := h.record (quiet_notice n)

theorem place (h : Mute c d) (w : Chrome α) : Mute c (d.place w) := h.beside rfl rfl

theorem dropGesture (h : Mute c d) (id : PanelId) : Mute c (d.dropGesture id) := by
  have hdropped : Mute c { d with tracker := (d.tracker.dropTarget id).state } := h.beside rfl rfl
  exact hdropped.record (d.tracker.dropTarget_quiet id)

/-- A call is neither told nor saved. -/
theorem recordCall (h : Mute c d) (source : Source) (call : Option Call) :
    Mute c (d.recordCall source call) := by
  cases call with
  | none => exact h
  | some call =>
      refine h.trans ⟨⟨_, rfl, ?_, ?_⟩, rfl⟩
      · cases source <;> rfl
      · cases source <;> rfl

theorem mountInto (h : Mute c d) (w : Chrome α) : Mute c (d.mountInto w).2 := by
  rw [Coordinator.mountInto]
  split
  · exact h.note _
  · rename_i source _
    dsimp only
    have hfiled :
        Mute c { d with content := d.content.insert w.panel (source.mount w.panel).2.1 } :=
      h.beside rfl rfl
    have hcalled := hfiled.recordCall (source.mount w.panel).2.1 (source.mount w.panel).2.2
    split
    · exact hcalled
    · exact hcalled.note _

theorem unmountFrom (h : Mute c d) (w : Chrome α) : Mute c (d.unmountFrom w).2 := by
  rw [Coordinator.unmountFrom]
  split
  · split
    · exact h
    · rename_i source _
      have hfiled :
          Mute c { d with content := d.content.insert w.panel (source.unmount w.panel).1 } :=
        h.beside rfl rfl
      exact hfiled.recordCall _ _
  · exact h

theorem tearDown (h : Mute c d) (id : PanelId) : Mute c (d.tearDown id) := by
  rw [Coordinator.tearDown]
  split
  · exact h
  · rename_i w _
    have hgone : Mute c { d with flyouts := d.flyouts.erase id } := h.beside rfl rfl
    have hempty := hgone.unmountFrom w
    generalize Coordinator.unmountFrom { d with flyouts := d.flyouts.erase id } w =
      emptied at hempty
    have hreleased : Mute c { emptied.2 with
        stack := (emptied.2.stack.unregister (α := α) emptied.1.toOverlay).state.1 } :=
            hempty.beside rfl rfl
    exact hreleased.record (Allocator.unregister_quiet _ _)

theorem discard [Coordinate α] (h : Mute c d) (id : PanelId) : Mute c (d.discard id) :=
  (h.dropGesture id).tearDown id

theorem raise (h : Mute c d) (w : Chrome α) : Mute c (d.raise w).2 := by
  have hraised : Mute c { d with stack := (d.raising w).state.1 } := h.beside rfl rfl
  exact (hraised.place _).record (Allocator.bringToFront_quiet _ _)

theorem follow [Coordinate α] (h : Mute c d) (update : GeometryUpdate α) :
    Mute c (d.follow update) := by
  rw [Coordinator.follow]
  split
  · exact h
  · split
    · exact h.place _
    · exact h.place _

end Mute

/-- When a window opens, its record is told at the end. -/
theorem float_amends [Coordinate α] (c : Coordinator α β) (w : Chrome α) :
    ∃ d v z, Mute c d ∧ c.float w = (z, d.amend w.panel (openPatch v z)) := by
  have hstacked : Mute c { c with stack := (c.stacking w).state.1 } := (Mute.refl c).beside rfl rfl
  have hquiet : ∀ x ∈ (c.stacking w).effects, x.isNotice = true :=
    Allocator.register_quiet _ _ _ _ _ _
  have hfilled := (hstacked.record hquiet).mountInto { w with toOverlay := (c.stacking w).state.2 }
  exact ⟨_, _, _, hfilled.place _, rfl⟩

/-- What is saved are the panels as they are then, and nothing is told. -/
theorem save_grows [Backend β α] (c : Coordinator α β) (occasion : Occasion) :
    ∃ saved, Grows c (c.save occasion).2 [] saved ∧
      (c.save occasion).2.store.panels = c.store.panels ∧
      ∀ s ∈ saved, s.panels = (c.save occasion).2.store.panels.values := by
  rw [save]
  split
  · exact ⟨[], Grows.refl c, rfl, fun _ hs => absurd hs List.not_mem_nil⟩
  · rename_i backend _
    have hfiled : Grows c ({ c with
          backend := some (Backend.save backend (c.store.snapshot c.moment.now)).state }.record
        ((Backend.save backend (c.store.snapshot c.moment.now)).notices ++
          [Effect.write (c.store.snapshot c.moment.now)
            (Backend.save backend (c.store.snapshot c.moment.now)).result.isOk]))
        [] [c.store.snapshot c.moment.now] := by
      refine ⟨_, rfl, ?_, ?_⟩
      · rw [emitted_append, emitted_quiet (notices_quiet _)]
        rfl
      · rw [written_append, written_quiet (notices_quiet _)]
        rfl
    have hnoted := fun n => hfiled.trans ((Mute.refl _).note n).grows
    have hnow : ∀ s ∈ [c.store.snapshot c.moment.now] ++ [], s.panels = c.store.panels.values := by
      intro s hs
      obtain rfl := List.mem_singleton.mp hs
      rfl
    dsimp only
    split
    · exact ⟨_, hnoted _, rfl, hnow⟩
    · exact ⟨_, hnoted _, rfl, hnow⟩

/-! ## Operations that tell one event at most -/

namespace Reports

variable {c d e : Coordinator α β}

theorem of_mute (h : Mute c d) : Reports c d :=
  ⟨[], [], h.grows, Or.inl ⟨rfl, h.panels⟩, fun _ hs => absurd hs List.not_mem_nil⟩

/-- Mute steps before do not matter. -/
theorem after (h : Reports d e) (before : Mute c d) : Reports c e := by
  obtain ⟨told, saved, hgrows, hone, hcurrent⟩ := h
  refine ⟨told, saved, before.grows.trans hgrows, ?_, hcurrent⟩
  exact hone.imp_left (fun ⟨hnone, hpanels⟩ => ⟨hnone, hpanels.trans before.panels⟩)

/-- Nor do mute steps afterwards. -/
theorem mute (h : Reports c d) (step : Mute d e) : Reports c e := by
  obtain ⟨told, saved, hgrows, hone, hcurrent⟩ := h
  have hafter := hgrows.trans step.grows
  rw [List.append_nil, List.append_nil] at hafter
  refine ⟨told, saved, hafter, ?_, ?_⟩
  · rw [step.panels]
    exact hone
  · rw [step.panels]
    exact hcurrent

theorem note (h : Reports c d) (n : Notice α) :
    Reports c (d.note n) := h.mute ((Mute.refl d).note n)

/-- The store is changed in one step. -/
theorem of_turn [Coordinate α] (h : Mute c d) {store : Store α} {taken : Bool}
    {es : List (Effect α)} (turn : d.store.Turn taken store es) :
    Reports c ({ d with store }.record es) := by
  refine Reports.after ?_ h
  have hunsaved := turn.no_writes
  cases turn with
  | silent quiet =>
      exact ⟨[], [], ⟨es, rfl, emitted_quiet quiet, hunsaved⟩, Or.inl ⟨rfl, rfl⟩,
        fun _ hs => absurd hs List.not_mem_nil⟩
  | telling e quiet fits makes keyed alters =>
      refine ⟨[e], [], ⟨_, rfl, ?_, hunsaved⟩, Or.inr ⟨e, rfl, Event.trueOf_applied makes⟩,
        fun _ hs => absurd hs List.not_mem_nil⟩
      rw [emitted_append, emitted_quiet quiet]
      rfl

theorem amend [Coordinate α] (h : Mute c d) (keyed : c.store.Keyed) (id : PanelId)
    (patch : Panel.Patch α) : Reports c (d.amend id patch) :=
  of_turn h (Store.update_turn (h.keyed keyed) d.moment.now id patch)

theorem save [Backend β α] (h : Reports c d) (occasion : Occasion) :
    Reports c (d.save occasion).2 := by
  obtain ⟨told, saved, hgrows, hone, hcurrent⟩ := h
  obtain ⟨more, hmore, hpanels, hnow⟩ := save_grows d occasion
  have hafter := hgrows.trans hmore
  rw [List.append_nil] at hafter
  rw [← hpanels] at hone hcurrent
  refine ⟨told, saved ++ more, hafter, hone, fun s hs => ?_⟩
  rcases List.mem_append.mp hs with hs | hs
  · exact hcurrent s hs
  · exact hnow s hs

theorem persist [Backend β α] (h : Reports c d) (occasion : Occasion) :
    Reports c (d.persist occasion) := by
  rw [Coordinator.persist]
  split
  · exact h.save occasion
  · exact h

theorem settle {ρ : Type} {operation : Operation} {r : Except Refusal ρ × Coordinator α β}
    (h : Reports c r.2) : Reports c (Coordinator.settle operation r).2 := by
  obtain ⟨result, d⟩ := r
  cases result with
  | ok v => exact h
  | error cause => exact h.note _

section Operations

variable [Coordinate α] [Backend β α]

omit [Backend β α] in
theorem registerPanel (keyed : c.store.Keyed) (id : PanelId) (title dock : String)
    (source : Option Source) : Reports c (c.registerPanel id title dock source).2 := by
  have hcreated :=
    of_turn (Mute.refl c) (Store.create_turn keyed c.moment.now id dock (.titled title))
  unfold Coordinator.registerPanel
  dsimp only
  split
  · cases source with
    | none => exact hcreated
    | some x =>
        exact (hcreated.note (.contentRegistered id x.kind)).mute ((Mute.refl _).beside rfl rfl)
  · exact hcreated

omit [Backend β α] in
theorem setContent (keyed : c.store.Keyed) (id : PanelId) (source : Source) :
    Reports c (c.setContent id source).2 := by
  rw [Coordinator.setContent]
  split
  · exact of_mute ((Mute.refl c).note _)
  · split
    · exact of_mute ((Mute.refl c).beside rfl rfl)
    · rename_i w _
      have hemptied := (Mute.refl c).unmountFrom w
      generalize c.unmountFrom w = emptied at hemptied
      have hassigned : Mute c { emptied.2 with content := emptied.2.content.insert id source } :=
        hemptied.beside rfl rfl
      exact amend ((hassigned.mountInto emptied.1).place _) keyed id _

theorem flyOut (keyed : c.store.Keyed) (id : PanelId) (options : FlyoutOptions α) :
    Reports c (c.tryFlyOut id options).2 := by
  rw [tryFlyOut]
  split
  · exact of_mute (Mute.refl c)
  · rename_i p _
    split
    · exact of_mute (Mute.refl c)
    · have hhandled : Mute c c.handled := (Mute.refl c).beside rfl rfl
      obtain ⟨d, v, z, hfilled, hfloat⟩ := float_amends c.handled (c.freshWindow id
        (options.title.getD p.title) (options.position.getD c.defaultPosition)
        (options.size.getD c.settings.defaultSize)
          (options.resizeHandle.getD c.settings.resizeHandle) true
        p.placement)
      have hopened := amend (hhandled.trans hfilled) keyed id (openPatch v z)
      have hreports := (hopened.note (.flownOut id (options.position.getD c.defaultPosition)
        (options.size.getD c.settings.defaultSize) z p.placement)).persist .flyOut
      rw [handled, freshWindow] at hfloat
      dsimp only [newWindow] at hfloat ⊢
      rw [hfloat]
      exact hreports

theorem dock (keyed : c.store.Keyed) (id : PanelId) : Reports c (c.tryDock id).2 := by
  rw [tryDock]
  split
  · exact of_mute (Mute.refl c)
  · split
    · exact of_mute (Mute.refl c)
    · have hdown := ((Mute.refl c).dropGesture id).tearDown id
      exact ((amend hdown keyed id _).note _).persist _

theorem closeFlyout (keyed : c.store.Keyed) (id : PanelId) : Reports c (c.tryCloseFlyout id).2 := by
  rw [tryCloseFlyout]
  split
  · exact of_mute (Mute.refl c)
  · rename_i w _
    split
    · exact of_mute (Mute.refl c)
    · have hclosed := ((Mute.refl c).place { w with displayed := false }).dropGesture id
      exact ((amend hclosed keyed id _).note _).persist _

theorem showFlyout (keyed : c.store.Keyed) (id : PanelId) : Reports c (c.tryShowFlyout id).2 := by
  rw [tryShowFlyout]
  split
  · exact of_mute (Mute.refl c)
  · rename_i w _
    split
    · exact of_mute (Mute.refl c)
    · dsimp only
      split
      · have hraised := (Mute.refl c).raise { w with displayed := true }
        exact ((amend hraised keyed id _).note _).persist _
      · have hplaced := (Mute.refl c).place { w with displayed := true }
        exact ((amend hplaced keyed id _).note _).persist _

omit [Backend β α] in
theorem focusFlyout (keyed : c.store.Keyed) (id : PanelId) : Reports c (c.tryFocusFlyout id).2 := by
  rw [tryFocusFlyout]
  split
  · exact of_mute (Mute.refl c)
  · rename_i w _
    split
    · exact of_mute (Mute.refl c)
    · have hraised := (Mute.refl c).raise w
      split
      · rename_i d hr
        rw [hr] at hraised
        exact of_mute hraised
      · rename_i z d hr
        rw [hr] at hraised
        exact (amend hraised keyed id _).note _

theorem swapDocked (keyed : c.store.Keyed) (id : PanelId) (old new : Placement) :
    Reports c (c.swapDocked id old new).2 := by
  rw [Coordinator.swapDocked]
  split
  · exact of_mute (Mute.refl c)
  · split
    · exact of_mute (Mute.refl c)
    · exact ((amend (Mute.refl c) keyed id _).note _).persist _

theorem destroyPanel (keyed : c.store.Keyed) (id : PanelId) : Reports c (c.destroyPanel id).2 := by
  unfold Coordinator.destroyPanel
  split
  · exact of_mute ((Mute.refl c).note _)
  · have hdown := ((Mute.refl c).dropGesture id).tearDown id
    dsimp only
    generalize (c.dropGesture id).tearDown id = d at hdown
    have hdeprived : Mute c { d with content := d.content.erase id } := hdown.beside rfl rfl
    have hremoved := of_turn hdeprived (Store.remove_turn (hdeprived.keyed keyed) id)
    exact (hremoved.note _).persist _

omit [Backend β α] in
theorem tryBegin (keyed : c.store.Keyed) (id : PanelId) (pointer : Pointer α) (grip : Grip) :
    Reports c (c.tryBegin id pointer grip).2 := by
  unfold Coordinator.tryBegin
  split
  · exact of_mute (Mute.refl c)
  · rename_i w _
    split
    · exact of_mute (Mute.refl c)
    split
    · exact of_mute (Mute.refl c)
    dsimp only
    split
    · exact of_mute (Mute.refl c)
    · have hbegun :
          Mute c
            { c with tracker := (c.tracker.start c.store c.moment.token id pointer grip).state } :=
        (Mute.refl c).beside rfl rfl
      have hraised :=
        (hbegun.record (c.tracker.start_quiet c.store c.moment.token id pointer grip)).raise w
      split
      · exact of_mute hraised
      · exact amend hraised keyed id _

omit [Backend β α] in
theorem feed (keyed : c.store.Keyed) (pointer : Pointer α) (release : Bool) :
    Reports c (c.feed pointer release).2 := by
  have hfed : Reports c ({ c with
      tracker := (c.tracker.feed c.store c.moment.now pointer release).state.1
      store := (c.tracker.feed c.store c.moment.now pointer release).state.2 }.record
      (c.tracker.feed c.store c.moment.now pointer release).effects) := by
    rw [Tracker.feed]
    split
    · exact of_mute ((Mute.refl c).beside (List.append_nil _) rfl)
    · exact of_mute ((Mute.refl c).record (quiet_notice _))
    · have hended : Mute c { c with tracker := c.tracker.ended } := (Mute.refl c).beside rfl rfl
      exact of_mute (hended.record (quiet_notice _))
    · -- the geometry goes into the record, and a gesture that ends is only noted
      rename_i session _
      have hmoved : Mute c { c with tracker := { c.tracker with session := some session } } :=
        (Mute.refl c).beside rfl rfl
      have hwritten := of_turn hmoved (Store.update_turn keyed c.moment.now session.panel
        (session.gesture.update session.panel).patch)
      dsimp only
      split
      · have hended := hwritten.note (.gestureFinished session.name session.grip session.panel)
        rw [Coordinator.note, record_record] at hended
        exact hended.mute ((Mute.refl _).beside rfl rfl)
      · exact hwritten
  unfold Coordinator.feed
  dsimp only
  split
  · exact hfed
  · exact hfed.mute ((Mute.refl _).follow _)

theorem pointerUp (keyed : c.store.Keyed) (pointer : Pointer α) :
    Reports c (c.pointerUp pointer).2 := by
  have hfed := feed keyed pointer true
  rw [Coordinator.pointerUp]
  split
  · rename_i d hr
    rw [hr] at hfed
    exact hfed
  · rename_i update d hr
    rw [hr] at hfed
    exact hfed.persist _

theorem pointerDown (keyed : c.store.Keyed) (pointer : Pointer α) :
    Reports c (c.pointerDown pointer).2 := by
  rw [Coordinator.pointerDown]
  split
  · exact of_mute (Mute.refl c)
  · rename_i zIndex panel hit _
    have hpressed := (Mute.refl c).note (.pressed panel hit)
    have hkeyed := hpressed.keyed keyed
    cases hit with
    | titleBar => exact (tryBegin hkeyed panel pointer .drag).settle.after hpressed
    | resizeHandle => exact (tryBegin hkeyed panel pointer .resize).settle.after hpressed
    | dockButton => exact (dock hkeyed panel).settle.after hpressed
    | closeButton => exact (closeFlyout hkeyed panel).settle.after hpressed
    | content => exact (focusFlyout hkeyed panel).settle.after hpressed

omit [Coordinate α] in
theorem saveAll (c : Coordinator α β) : Reports c c.saveAll.2 := by
  rw [Coordinator.saveAll]
  split
  · exact of_mute ((Mute.refl c).note _)
  · exact (of_mute (Mute.refl c)).save _

/-- Every request but that to restore tells one event at most. -/
theorem request (keyed : c.store.Keyed) {k : Request α β} (other : k ≠ .restore) :
    Reports c (c.request k).2 := by
  cases k with
  | subscribe => exact of_mute ((Mute.refl c).beside rfl rfl)
  | unsubscribe n => exact of_mute ((Mute.refl c).beside rfl rfl)
  | attach backend => exact of_mute ((Mute.refl c).beside rfl rfl)
  | registerPanel id title dock source => exact registerPanel keyed id title dock source
  | setContent id source => exact setContent keyed id source
  | flyOut id options => exact (flyOut keyed id options).settle
  | tryFlyOut id options => exact flyOut keyed id options
  | dock id => exact (dock keyed id).settle
  | tryDock id => exact dock keyed id
  | closeFlyout id => exact (closeFlyout keyed id).settle
  | tryCloseFlyout id => exact closeFlyout keyed id
  | showFlyout id => exact (showFlyout keyed id).settle
  | tryShowFlyout id => exact showFlyout keyed id
  | focusFlyout id => exact (focusFlyout keyed id).settle
  | tryFocusFlyout id => exact focusFlyout keyed id
  | toggleFlyout id =>
      show Reports c (c.toggleFlyout id).2
      rw [toggleFlyout]
      split
      · exact (dock keyed id).settle
      · exact (flyOut keyed id {}).settle
  | hidePanel id => exact (swapDocked keyed id .docked .hidden).settle
  | showPanel id => exact (swapDocked keyed id .hidden .docked).settle
  | destroyPanel id => exact destroyPanel keyed id
  | beginDrag id pointer => exact (tryBegin keyed id pointer .drag).settle
  | beginResize id pointer => exact (tryBegin keyed id pointer .resize).settle
  | pointerDown pointer => exact pointerDown keyed pointer
  | pointerMove pointer => exact feed keyed pointer false
  | pointerUp pointer => exact pointerUp keyed pointer
  | restore => exact absurd rfl other
  | saveAll => exact saveAll c

/-- No action restores, so every one tells one event at most. -/
theorem perform (keyed : c.store.Keyed) {command : Command α β}
    (other : command ≠ .request .restore) : Reports c (c.perform command).2 := by
  cases command with
  | request k => exact request keyed (fun hk => other (hk ▸ rfl))
  | action a =>
      show Reports c (c.execute a).2
      rw [execute_eq]
      have hexecuting := (Mute.refl c).note (.executing a.label)
      cases hk : (a.request? : Option (Request α β)) with
      | none => exact of_mute hexecuting
      | some k =>
          have hother : k ≠ .restore := by
            rintro rfl
            cases a <;> cases hk
          exact (request (hexecuting.keyed keyed) hother).after hexecuting

end Operations

end Reports

end Coordinator

end PanelDock
