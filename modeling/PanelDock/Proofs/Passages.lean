import PanelDock.Proofs.Confinement
/-!
# Into a window and out of it

What comes of flying a panel out and of docking it, to the last field. `Change` leaves open where a
new window opens, how it is titled and what stands in it, since no invariant depends on these. Here
they are told: the geometry comes from the options or the settings, the title from the options or
the record, and the slot from the source of the panel.

The one thing that cannot be had back is how often a provider was called. `sources` is the content
without that.
-/

namespace PanelDock

variable {α β : Type}

/-! ## Sources but for their calls -/

/-- The source before it was ever called. -/
def Source.unused : Source → Source
  | component p => component { p with calls := [] }
  | renderer p => renderer { p with calls := [] }
  | static body => static body

theorem Source.unused_mount (source : Source) (id : PanelId) :
    (source.mount id).2.1.unused = source.unused := by
  cases source <;> rfl

theorem Source.unused_unmount (source : Source) (id : PanelId) :
    (source.unmount id).1.unused = source.unused := by
  cases source <;> rfl

/-- Changing a record files it again as it is after the patch. -/
theorem Store.update_state [Coordinate α] {s : Store α} {id : PanelId} {p : Panel α}
    (hp : s.get? id = some p) (now : Instant) {patch : Panel.Patch α} (hdock : patch.dock = none) :
    (s.update now id patch).state =
      { s with panels := s.panels.insert id (p.revised patch now) } := by
  have hpanels : (s.update now id patch).state.panels =
      s.panels.insert id (p.revised patch now) := by
    refine Catalog.ext_get? (fun i => ?_)
    rw [Catalog.get?_insert]
    exact (update_get? s now id hdock i).trans (by rw [hp, Option.map_some]; rfl)
  obtain ⟨kept, _, hupdate⟩ := update_known hp now patch
  rw [hupdate] at hpanels ⊢
  rw [← hpanels]
  split
  · rfl
  · rfl

namespace Coordinator

/-- Where the content of a panel comes from, whatever calls there have been. -/
def sources (c : Coordinator α β) (id : PanelId) : Option Source :=
  (c.content.get? id).map Source.unused

/-- A source that was called stands for the same source. -/
theorem sources_insert {c : Coordinator α β} {id : PanelId} {source after : Source}
    (h : c.content.get? id = some source) (same : after.unused = source.unused) :
    sources { c with content := c.content.insert id after } = c.sources := by
  funext i
  show ((c.content.insert id after).get? i).map Source.unused = (c.content.get? i).map Source.unused
  rw [Catalog.get?_insert]
  split
  · rename_i hi
    rw [hi, h, Option.map_some, Option.map_some, same]
  · rfl

theorem mountInto_sources (c : Coordinator α β) (w : Chrome α) :
    (c.mountInto w).2.sources = c.sources := by
  rw [mountInto]
  split
  · rfl
  · rename_i source hs
    obtain ⟨journal, hcall⟩ := recordCall_eq
      { c with content := c.content.insert w.panel (source.mount w.panel).2.1 }
      (source.mount w.panel).2.1 (source.mount w.panel).2.2
    have hsame := sources_insert hs (source.unused_mount w.panel)
    dsimp only
    rw [hcall]
    split
    · exact hsame
    · exact hsame

theorem unmountFrom_sources (c : Coordinator α β) (w : Chrome α) :
    (c.unmountFrom w).2.sources = c.sources := by
  rw [unmountFrom]
  split
  · split
    · rfl
    · rename_i source hs
      obtain ⟨journal, hcall⟩ := recordCall_eq
        { c with content := c.content.insert w.panel (source.unmount w.panel).1 }
        (source.unmount w.panel).1 (source.unmount w.panel).2
      dsimp only
      rw [hcall]
      exact sources_insert hs (source.unused_unmount w.panel)
  · rfl

theorem tearDown_sources (c : Coordinator α β) (id : PanelId) :
    (c.tearDown id).sources = c.sources := by
  rw [tearDown]
  split
  · rfl
  · rename_i w _
    exact unmountFrom_sources { c with flyouts := c.flyouts.erase id } w

/-! ## What stands in a window -/

/-- What stands in the window of a panel when its content is mounted from this source. -/
def Slot.ofSource (id : PanelId) : Option Source → Slot
  | none => .failed (Refusal.mountFailed id "no content provider registered").message
  | some source => match (source.mount id).1 with
    | .ok element => .mounted element
    | .error reason => .failed (Refusal.mountFailed id reason).message

theorem mountInto_slot (c : Coordinator α β) (w : Chrome α) :
    (c.mountInto w).1 = { w with slot := Slot.ofSource w.panel (c.content.get? w.panel) } := by
  rw [mountInto]
  cases hs : c.content.get? w.panel with
  | none => rfl
  | some source =>
      rw [Slot.ofSource]
      dsimp only
      obtain ⟨answer, after, call⟩ := source.mount w.panel
      cases answer with
      | ok element => rfl
      | error reason => rfl

variable [Coordinate α]

/-- A window that opens is filled from the source of its panel. -/
theorem float_filled (c : Coordinator α β) (w : Chrome α) :
    ∃ content journal, c.float w = ((c.stacking w).result,
      { c.floated w (Slot.ofSource w.panel (c.content.get? w.panel)) with content, journal }) := by
  have hslot :=
    mountInto_slot ({ c with stack := (c.stacking w).state.1 }.record (c.stacking w).effects)
    { w with toOverlay := (c.stacking w).state.2 }
  obtain ⟨slot, content, journal, hm⟩ := mountInto_eq
    ({ c with stack := (c.stacking w).state.1 }.record (c.stacking w).effects)
    { w with toOverlay := (c.stacking w).state.2 }
  rw [hm] at hslot
  obtain rfl : slot = _ := congrArg Chrome.slot hslot
  rw [stacking] at hm
  rw [float]
  dsimp only
  rw [hm]
  exact ⟨content, _, rfl⟩

theorem float_sources (c : Coordinator α β) (w : Chrome α) : (c.float w).2.sources = c.sources := by
  have hfilled := mountInto_sources
    ({ c with stack := (c.stacking w).state.1 }.record (c.stacking w).effects)
    { w with toOverlay := (c.stacking w).state.2 }
  exact hfilled

/-! ## The two passages -/

theorem defaultPosition_eq (c : Coordinator α β) :
    c.defaultPosition = c.settings.cascade c.displayedCount := rfl

/-- The window in which a panel is flown out. -/
def flownWindow (c : Coordinator α β) (id : PanelId) (p : Panel α)
    (options : FlyoutOptions α) : Chrome α :=
  c.freshWindow id (options.title.getD p.title) (options.position.getD c.defaultPosition)
    (options.size.getD c.settings.defaultSize)
      (options.resizeHandle.getD c.settings.resizeHandle) true p.placement

variable [Backend β α] {c : Coordinator α β} {id : PanelId} {p : Panel α}

omit [Coordinate α] in
theorem persist_sources (c : Coordinator α β) (occasion : Occasion) :
    (c.persist occasion).sources = c.sources := by
  obtain ⟨backend, journal, hs⟩ := persist_eq c occasion
  rw [hs]
  rfl

/-- A panel that rests is flown out, in a window that shows its content. -/
theorem flyOut_eq (hp : c.store.get? id = some p) (rests : p.placement ≠ .floating)
    (options : FlyoutOptions α) :
    ∃ content backend journal, c.flyOut id options = (true,
      { c.handled.floated (c.flownWindow id p options) (Slot.ofSource id (c.content.get? id)) with
        content, backend, journal }) := by
  obtain ⟨content, journal, hfloat⟩ := float_filled c.handled (c.flownWindow id p options)
  rw [flownWindow, freshWindow, handled] at hfloat
  rw [flyOut, tryFlyOut, hp]
  dsimp only
  rw [if_neg (fun hfl => rests (p.isFloating_iff.mp hfl))]
  rw [newWindow] at hfloat ⊢
  dsimp only at hfloat ⊢
  rw [hfloat]
  obtain ⟨backend, journal', hs⟩ := persist_eq
    ({ c.handled.floated (c.flownWindow id p options) (Slot.ofSource id (c.content.get? id)) with
        content, journal }.note (.flownOut id (options.position.getD c.defaultPosition)
      (options.size.getD c.settings.defaultSize)
        (c.handled.stacking (c.flownWindow id p options)).result p.placement))
    .flyOut
  exact ⟨content, backend, journal', congrArg (Prod.mk true) hs⟩

theorem flyOut_sources (c : Coordinator α β) (id : PanelId) (options : FlyoutOptions α) :
    (c.flyOut id options).2.sources = c.sources := by
  have htry : (c.tryFlyOut id options).2.sources = c.sources := by
    rw [tryFlyOut]
    split
    · rfl
    · split
      · rfl
      · exact (persist_sources _ _).trans (float_sources c.handled _)
  rw [flyOut]
  generalize c.tryFlyOut id options = r at htry
  obtain ⟨answer, d⟩ := r
  cases answer with
  | ok z => exact htry
  | error cause => exact htry

/-- A panel with a window is docked where the window leads back to. -/
theorem dock_eq (hc : c.Paired) {w : Chrome α} (hw : c.flyouts.get? id = some w) :
    ∃ content backend journal, c.dock id = (true,
      { (c.discarded id).amended id (dockPatch w.returnPlacement) with
        content, backend, journal }) := by
  obtain ⟨p, hp, _, _, same⟩ := hc.record_of_window hw
  obtain ⟨content, journal, hdis⟩ := discard_eq c id
  rw [discard] at hdis
  rw [dock, tryDock, hp, hw]
  dsimp only
  rw [p.isFloating_iff.mpr same.placement, hdis]
  obtain ⟨backend, journal', hs⟩ := persist_eq
    ((amend { c.discarded id with content, journal } id (dockPatch w.returnPlacement)).note
      (.panelDocked id p.dock w.returnPlacement)) .dock
  exact ⟨content, backend, journal', congrArg (Prod.mk true) hs⟩

theorem dock_sources (c : Coordinator α β) (id : PanelId) : (c.dock id).2.sources = c.sources := by
  have htry : (c.tryDock id).2.sources = c.sources := by
    rw [tryDock]
    split
    · rfl
    · split
      · rfl
      · exact (persist_sources _ _).trans (tearDown_sources (c.dropGesture id) id)
  rw [dock]
  generalize c.tryDock id = r at htry
  obtain ⟨answer, d⟩ := r
  cases answer with
  | ok _ => exact htry
  | error cause => exact htry

end Coordinator

end PanelDock
