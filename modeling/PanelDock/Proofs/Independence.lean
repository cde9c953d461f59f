import PanelDock.Proofs.Passages
/-!
# Operations on different panels commute

Two errands on different panels can be run in either order: each is accepted in the one order
exactly if it is in the other, and what comes out is the same but for how the windows are stacked
and when the records were changed.

This is a diamond from two facts about a single errand. It leaves the other panels as they were; and
on its own panel it does the same in any two coordinators that look alike there (`AlikeAt`),
whatever they hold besides. The stack does not come into it, for it never refuses. Only the gesture
is shared, and gestures on different panels are dropped independently.

Content from a provider is left out: the provider of two panels may be one and the same, and what it
answers may depend on who asked first. So is flying out without a position, as the usual place
depends on the other windows.
-/

namespace PanelDock

variable {α β : Type}

/-! ## Errands -/

/-- An operation on one panel that depends on no other. -/
inductive Errand (α : Type) where
  | flyOut (position : Point α) (size : Option (Size α)) (resizeHandle : Option Bool)
      (title : Option String)
  | dock
  | close
  | reveal
  | focus
  | hide
  | unhide
  | destroy

namespace Errand

/-- The request for an errand on a panel. -/
def request (id : PanelId) : Errand α → Request α β
  | .flyOut position size resizeHandle title =>
      .flyOut id { position := some position, size, resizeHandle, title }
  | .dock => .dock id
  | .close => .closeFlyout id
  | .reveal => .showFlyout id
  | .focus => .focusFlyout id
  | .hide => .hidePanel id
  | .unhide => .showPanel id
  | .destroy => .destroyPanel id

/-- The move of an errand. -/
def move (settings : FlyoutSettings α) (id : PanelId) : Errand α → Move
  | flyOut _ _ resizeHandle _ => .flyOut id (resizeHandle.getD settings.resizeHandle)
  | dock => .dock id
  | close => .close id
  | reveal => .reveal id
  | focus => .focus id
  | hide => .hide id
  | unhide => .unhide id
  | destroy => .destroy id

theorem panel_move (e : Errand α) (settings : FlyoutSettings α) (id : PanelId) (l : Layout) :
    (e.move settings id).panel l = some id := by
  cases e <;> rfl

/-- Whether the errand ends a gesture on its panel. -/
def letsGo : Errand α → Bool
  | dock | close | destroy => true
  | flyOut _ _ _ _ | reveal | focus | hide | unhide => false

/-- Whether the errand applies depends on where the panel is, and on nothing else. -/
theorem step_isSome (e : Errand α) {id : PanelId} {l l' : Layout} (h : l'.station id = l.station id)
    (settings : FlyoutSettings α) :
    (l'.step (e.move settings id)).isSome = (l.step (e.move settings id)).isSome := by
  cases e <;> grind [Layout.step, move]

end Errand

/-! ## The one gesture -/

/-- The tracker after a gesture was dropped. -/
theorem Tracker.dropTarget_state [Coordinate α] (t : Tracker α) (id : PanelId) :
    (t.dropTarget id).state = if t.session.any (fun s => decide (s.panel = id))
      then t.ended else t := by
  rw [dropTarget]
  cases t.session with
  | none => rfl
  | some s => by_cases hs : s.panel = id <;> simp [hs]

/-- It does not matter which of two gestures is dropped first, as there is one at most. -/
theorem Tracker.dropTarget_comm [Coordinate α] (t : Tracker α) (i j : PanelId) :
    ((t.dropTarget i).state.dropTarget j).state = ((t.dropTarget j).state.dropTarget i).state := by
  have hended : ∀ id, (t.ended.dropTarget id).state = t.ended := fun _ => rfl
  rw [t.dropTarget_state i, t.dropTarget_state j]
  split
  · rw [hended]
    split
    · rw [hended]
    · rw [t.dropTarget_state i, if_pos (by assumption)]
  · rw [t.dropTarget_state j]
    split
    · rw [hended]
    · rw [t.dropTarget_state i, if_neg (by assumption)]

/-! ## Looking alike -/

/-- What of a record does not depend on how its window is stacked and on when it was changed. -/
def Panel.lasting (p : Panel α) : Panel α := { p with zIndex := none, lastUpdated := p.createdAt }

/-- What of a window does not depend on how it is stacked. -/
def Chrome.lasting (w : Chrome α) : Chrome α := { w with handle := ⟨0⟩, zIndex := none }

theorem Panel.eq_of_lasting {p q : Panel α} (h : q.lasting = p.lasting) :
    ∃ zIndex lastUpdated, q = { p with zIndex, lastUpdated } := by
  refine ⟨q.zIndex, q.lastUpdated, ?_⟩
  rw [lasting, lasting, Panel.mk.injEq] at h
  obtain ⟨hid, htitle, hplacement, hdock, hposition, hsize, _, hvisible, hmounted, horder,
    hcreated, _⟩ := h
  rw [← hid, ← htitle, ← hplacement, ← hdock, ← hposition, ← hsize, ← hvisible, ← hmounted,
    ← horder, ← hcreated]

theorem Chrome.eq_of_lasting {v w : Chrome α} (h : w.lasting = v.lasting) :
    ∃ overlay, w = { v with toOverlay := overlay } := by
  refine ⟨w.toOverlay, ?_⟩
  rw [lasting, lasting, Chrome.mk.injEq] at h
  obtain ⟨_, hpanel, htitle, hposition, hsize, hdisplayed, hcontrols, hslot, hreturns⟩ := h
  rw [← hpanel, ← htitle, ← hposition, ← hsize, ← hdisplayed, ← hcontrols, ← hslot, ← hreturns]

namespace Coordinator

/-- The record of a panel, as far as it lasts. -/
def recordOf (c : Coordinator α β) (id : PanelId) : Option (Panel α) :=
  (c.store.get? id).map Panel.lasting

/-- The window of a panel, as far as it lasts. -/
def windowOf (c : Coordinator α β) (id : PanelId) : Option (Chrome α) :=
  (c.flyouts.get? id).map Chrome.lasting

/-- Two coordinators look alike at a panel: they have the same record, window and source of it, but
for how the window is stacked and when the record was changed, and they have the same settings. -/
structure AlikeAt (id : PanelId) (c d : Coordinator α β) : Prop where
  record : d.recordOf id = c.recordOf id
  window : d.windowOf id = c.windowOf id
  source : d.content.get? id = c.content.get? id
  settings : d.settings = c.settings

/-- The content of the panel, if it has any, is a fixed text. -/
def Still (c : Coordinator α β) (id : PanelId) : Prop :=
  ∀ source, c.content.get? id = some source → ∃ body, source = .static body

variable {c d e : Coordinator α β} {id i : PanelId}

namespace AlikeAt

theorem refl (id : PanelId) (c : Coordinator α β) : AlikeAt id c c := ⟨rfl, rfl, rfl, rfl⟩

theorem symm (h : AlikeAt id c d) : AlikeAt id d c :=
  ⟨h.record.symm, h.window.symm, h.source.symm, h.settings.symm⟩

theorem trans (h : AlikeAt id c d) (h' : AlikeAt id d e) : AlikeAt id c e :=
  ⟨h'.record.trans h.record, h'.window.trans h.window, h'.source.trans h.source,
    h'.settings.trans h.settings⟩

theorem during (h : AlikeAt id c d) (s t : Moment) : AlikeAt id (c.during s) (d.during t) :=
  ⟨h.record, h.window, h.source, h.settings⟩

theorem record_some (h : AlikeAt id c d) {p : Panel α} (hp : c.store.get? id = some p) :
    ∃ zIndex lastUpdated, d.store.get? id = some { p with zIndex, lastUpdated } := by
  have hrecord := h.record
  rw [recordOf, recordOf, hp, Option.map_some, Option.map_eq_some_iff] at hrecord
  obtain ⟨q, hq, hsame⟩ := hrecord
  obtain ⟨z, t, rfl⟩ := Panel.eq_of_lasting hsame
  exact ⟨z, t, hq⟩

theorem window_some (h : AlikeAt id c d) {w : Chrome α} (hw : c.flyouts.get? id = some w) :
    ∃ overlay, d.flyouts.get? id = some { w with toOverlay := overlay } := by
  have hwindow := h.window
  rw [windowOf, windowOf, hw, Option.map_some, Option.map_eq_some_iff] at hwindow
  obtain ⟨v, hv, hsame⟩ := hwindow
  obtain ⟨overlay, rfl⟩ := Chrome.eq_of_lasting hsame
  exact ⟨overlay, hv⟩

end AlikeAt

/-- Where a panel is can be told from what lasts. -/
theorem station_eq (c : Coordinator α β) (id : PanelId) :
    c.layout.station id = (c.recordOf id).map (fun p => match p.placement, c.windowOf id with
      | .floating, some w => .floating w.returnPlacement w.displayed w.controls.resizeHandle
      | placement, _ => .resting placement) := by
  show c.station id = _
  rw [station, recordOf, windowOf]
  cases c.store.get? id with
  | none => rfl
  | some p =>
      rw [Option.map_some, Option.map_some, Option.map_some]
      have hplacement : p.lasting.placement = p.placement := rfl
      rw [hplacement]
      cases p.placement <;> cases c.flyouts.get? id <;> rfl

theorem AlikeAt.station (h : AlikeAt id c d) : d.layout.station id = c.layout.station id := by
  rw [station_eq, station_eq, h.record, h.window]

variable [Coordinate α]

/-- Records that look alike look alike after the same change to what lasts. -/
theorem AlikeAt.updated (h : AlikeAt id c d) (patch : Panel.Patch α) (hdock : patch.dock = none)
    (y z : Option (Option Int)) (s t : Instant) :
    ((d.store.update t id { patch with zIndex := z }).state.get? id).map Panel.lasting =
      ((c.store.update s id { patch with zIndex := y }).state.get? id).map Panel.lasting := by
  have hdocks : ∀ x : Option (Option Int), Panel.Patch.dock { patch with zIndex := x } = none :=
    fun _ => hdock
  rw [Store.update_get? _ _ _ (hdocks z), Store.update_get? _ _ _ (hdocks y),
    if_pos rfl, if_pos rfl]
  have hrecord := h.record
  rw [recordOf, recordOf] at hrecord
  cases hp : c.store.get? id with
  | none =>
      rw [hp, Option.map_none, Option.map_eq_none_iff] at hrecord
      rw [hrecord]
      rfl
  | some p =>
      obtain ⟨_, _, hq⟩ := h.record_some hp
      rw [hq]
      rfl

omit [Coordinate α] in
/-- Windows that look alike look alike where they are put. -/
theorem windows_alike {key : PanelId} {v w : Chrome α} (named : key = id)
    (same : w.lasting = v.lasting) :
    ((d.flyouts.insert key w).get? id).map Chrome.lasting =
      ((c.flyouts.insert key v).get? id).map Chrome.lasting := by
  rw [window_here named, window_here named, Option.map_some, Option.map_some, same]

/-! ## One errand, on its own panel -/

/-- What an errand other than flying out leaves of a panel depends on nothing but how the panel
looked. -/
theorem Change.alike {errand : Errand α} {c' d' : Coordinator α β}
    (h : Change c (errand.move c.settings id) c') (h' : Change d (errand.move d.settings id) d')
    (hc : c.Paired) (same : AlikeAt id c d) (other : ∀ position size resizeHandle title, errand ≠
      .flyOut position size resizeHandle title) :
    d'.recordOf id = c'.recordOf id ∧ d'.windowOf id = c'.windowOf id := by
  -- of the two windows, one is the other stacked elsewhere
  have hsame : ∀ {w v}, c.flyouts.get? id = some w → d.flyouts.get? id = some v →
      ∃ overlay, v = { w with toOverlay := overlay } := by
    intro w v hw hv
    obtain ⟨overlay, hv'⟩ := same.window_some hw
    exact ⟨overlay, Option.some.inj (hv.symm.trans hv')⟩
  have hfocus : d.settings.focusOnShow = c.settings.focusOnShow := by rw [same.settings]
  cases errand with
  | flyOut position size resizeHandle title => exact absurd rfl (other _ _ _ _)
  | dock =>
      cases h with
      | docked hw content backend journal =>
      cases h' with
      | docked hv content' backend' journal' =>
      obtain ⟨overlay, rfl⟩ := hsame hw hv
      refine ⟨same.updated (dockPatch _) rfl (some none) (some none) _ _, ?_⟩
      show ((d.flyouts.erase id).get? id).map _ = ((c.flyouts.erase id).get? id).map _
      rw [window_gone, window_gone]
  | close =>
      cases h with
      | @closed _ w hw shown backend journal =>
      cases h' with
      | closed hv shown' backend' journal' =>
      obtain ⟨overlay, rfl⟩ := hsame hw hv
      have named := hc.window_named hw
      exact ⟨same.updated { visible := some false } rfl none none _ _, windows_alike named rfl⟩
  | reveal =>
      cases h with
      | @shown _ w hw closed focus backend journal =>
          cases h' with
          | shown hv closed' focus' backend' journal' =>
              obtain ⟨overlay, rfl⟩ := hsame hw hv
              have named := hc.window_named hw
              exact ⟨same.updated { visible := some true } rfl none none _ _,
                windows_alike named rfl⟩
          | shownOnTop hv closed' focus' hz' backend' journal' =>
              rw [hfocus, focus] at focus'
              cases focus'
      | @shownOnTop _ w hw closed focus z hz backend journal =>
          cases h' with
          | shown hv closed' focus' backend' journal' =>
              rw [hfocus, focus] at focus'
              cases focus'
          | shownOnTop hv closed' focus' hz' backend' journal' =>
              obtain ⟨overlay, rfl⟩ := hsame hw hv
              have named := hc.window_named hw
              exact ⟨same.updated { visible := some true } rfl (some (some _)) (some (some _)) _ _,
                windows_alike named rfl⟩
  | focus =>
      cases h with
      | @focused _ w hw shown z hz journal =>
      cases h' with
      | focused hv shown' hz' journal' =>
      obtain ⟨overlay, rfl⟩ := hsame hw hv
      have named := hc.window_named hw
      exact ⟨same.updated {} rfl (some (some _)) (some (some _)) _ _, windows_alike named rfl⟩
  | hide =>
      cases h with
      | hidden hp was backend journal =>
      cases h' with
      | hidden hq was' backend' journal' =>
      exact ⟨same.updated { placement := some .hidden, visible := some false } rfl none none _ _,
        same.window⟩
  | unhide =>
      cases h with
      | unhidden hp was backend journal =>
      cases h' with
      | unhidden hq was' backend' journal' =>
      exact ⟨same.updated { placement := some .docked, visible := some true } rfl none none _ _,
        same.window⟩
  | destroy =>
      cases h with
      | destroyed hp content backend journal =>
      cases h' with
      | destroyed hq content' backend' journal' =>
      refine ⟨?_, ?_⟩
      · show ((d.store.remove id).state.get? id).map _ = ((c.store.remove id).state.get? id).map _
        rw [Store.remove_get?, Store.remove_get?, if_pos rfl, if_pos rfl]
      · show ((d.flyouts.erase id).get? id).map _ = ((c.flyouts.erase id).get? id).map _
        rw [window_gone, window_gone]

/-- What a change leaves of the gesture: it is dropped, if the errand lets go of its panel. -/
theorem Change.tracker_eq {errand : Errand α} (h : Change c (errand.move c.settings id) d) :
    d.tracker = if errand.letsGo then (c.tracker.dropTarget id).state else c.tracker := by
  cases errand <;> cases h <;> rfl

/-- No change touches the subscribers. -/
theorem Change.subscribers_eq {m : Move} (h : Change c m d) (hc : c.Paired) :
    d.store.subscribers = c.store.subscribers ∧
    d.store.nextSubscriber = c.store.nextSubscriber := by
  have hkeyed : c.store.Keyed := fun _ _ hp => hc.record_named hp
  have hupdate := fun i patch => (Store.update_turn hkeyed c.moment.now i patch).subscribers
  cases h with
  | registered new name fresh content journal => exact ⟨rfl, rfl⟩
  | refilledAside known bare content => exact ⟨rfl, rfl⟩
  | destroyed hp content backend journal => exact (Store.remove_turn hkeyed _).subscribers
  | _ => exact hupdate _ _

/-! ## One errand -/

variable [Backend β α]

/-- Carries out an errand on a panel. Tells whether it was accepted. -/
def carryOut (c : Coordinator α β) (id : PanelId) : Errand α → Bool × Coordinator α β
  | .flyOut position size resizeHandle title =>
    c.flyOut id { position := some position, size, resizeHandle, title }
  | .dock => c.dock id
  | .close => c.closeFlyout id
  | .reveal => c.showFlyout id
  | .focus => c.focusFlyout id
  | .hide => c.hidePanel id
  | .unhide => c.showPanel id
  | .destroy => c.destroyPanel id

/-- To carry out an errand is to grant the request for it. -/
theorem carryOut_eq (c : Coordinator α β) (id : PanelId) (errand : Errand α) :
    c.carryOut id errand =
      ((c.request (errand.request id)).1.accepted, (c.request (errand.request id)).2) := by
  cases errand <;> rfl

theorem carryOut_verdict (hc : c.Coherent) (id : PanelId) (errand : Errand α) :
    Verdict c (errand.move c.settings id) (c.carryOut id errand) := by
  have hmove : (errand.request id : Request α β).move? c.settings c.layout =
      some (errand.move c.settings id) := by
    cases errand <;> rfl
  have hopen : (errand.move c.settings id).shutIf (c.overfills (.request (errand.request id))) =
      errand.move c.settings id := by
    cases errand <;> rfl
  have hverdict := request_verdict hc hmove
  rw [hopen] at hverdict
  rw [carryOut_eq]
  exact hverdict

/-- What errands lead to can be reached. -/
theorem Reachable.carryOut (h : Reachable c) (moment : Moment) (id : PanelId) (errand : Errand α) :
    Reachable ((c.during moment).carryOut id errand).2 := by
  rw [carryOut_eq]
  exact h.step moment (.request (errand.request id))

/-- An errand calls the source of its panel only. -/
theorem carryOut_confined (hc : c.Paired) (id : PanelId) (errand : Errand α) :
    Confined (some id) c (c.carryOut id errand).2 := by
  have hsubject : c.subjectOf (errand.request id) = some id := by cases errand <;> rfl
  rw [carryOut_eq, ← hsubject]
  exact Confined.request hc (fun he => by cases errand <;> cases he)
    (fun he => by cases errand <;> cases he)

/-- An errand leaves the other panels as they are. -/
theorem carryOut_elsewhere (hc : c.Coherent) (errand : Errand α) (hi : i ≠ id) :
    AlikeAt i c (c.carryOut id errand).2 := by
  have hsource :=
    (carryOut_confined hc.paired id errand).content i (fun he => hi (Option.some.inj he).symm)
  have hverdict := carryOut_verdict hc id errand
  generalize c.carryOut id errand = r at hsource hverdict ⊢
  cases hverdict with
  | refused es quiet stuck => exact ⟨rfl, rfl, rfl, rfl⟩
  | done h booked =>
      have hother : (errand.move c.settings id).panel c.layout ≠ some i := by
        rw [errand.panel_move]
        exact fun he => hi (Option.some.inj he).symm
      obtain ⟨hwindow, hrecord⟩ := h.frame hc.paired hother
      exact ⟨congrArg (Option.map Panel.lasting) hrecord,
        congrArg (Option.map Chrome.lasting) hwindow, hsource, h.settings_eq.1⟩

theorem Reachable.alike_elsewhere (h : Reachable c) (moment : Moment) (errand : Errand α)
    (hi : i ≠ id) : AlikeAt i c ((c.during moment).carryOut id errand).2 :=
  ((AlikeAt.refl i c).during c.moment moment).trans
    (carryOut_elsewhere (h.coherent.during moment) errand hi)

omit [Coordinate α] [Backend β α] in
/-- A fixed text is as it was if it is the same source. -/
theorem Still.source_eq (still : c.Still id) (same : d.sources id = c.sources id) :
    d.content.get? id = c.content.get? id := by
  rw [sources, sources] at same
  cases hs : c.content.get? id with
  | none =>
      rw [hs] at same
      exact Option.map_eq_none_iff.mp same
  | some source =>
      obtain ⟨body, rfl⟩ := still source hs
      rw [hs, Option.map_some, Option.map_eq_some_iff] at same
      obtain ⟨after, hafter, hsame⟩ := same
      rw [hafter]
      cases after with
      | static text => exact congrArg some hsame
      | component provider => cases hsame
      | renderer provider => cases hsame

omit [Coordinate α] in
/-- A panel that is removed leaves no source. -/
theorem destroyPanel_source (c : Coordinator α β) (id : PanelId) :
    (c.destroyPanel id).2.content.get? id =
      if (c.destroyPanel id).1 then none else c.content.get? id := by
  unfold destroyPanel
  split
  · rfl
  · dsimp only
    obtain ⟨backend, journal, hs⟩ := persist_eq ((({ (c.dropGesture id).tearDown id with
        content := ((c.dropGesture id).tearDown id).content.erase id
        store := (((c.dropGesture id).tearDown id).store.remove id).state }).record
      (((c.dropGesture id).tearDown id).store.remove id).effects).note (.panelDestroyed id))
        .destroyPanel
    rw [hs]
    exact (Catalog.get?_erase _ _ _).trans (if_pos rfl)

/-- What becomes of a fixed text: it stays, unless its panel is removed. -/
theorem carryOut_source (still : c.Still id) (errand : Errand α) :
    (c.carryOut id errand).2.content.get? id =
      match errand with
      | .destroy => if (c.carryOut id errand).1 then none else c.content.get? id
      | _ => c.content.get? id := by
  have hnobody : (none : Option PanelId) ≠ some id := (Option.some_ne_none id).symm
  cases errand with
  | flyOut position size resizeHandle title =>
      exact still.source_eq (congrFun (flyOut_sources c id _) id)
  | dock => exact still.source_eq (congrFun (dock_sources c id) id)
  | close => exact (Confined.closeFlyout none c id).settle.content id hnobody
  | reveal => exact (Confined.showFlyout none c id).settle.content id hnobody
  | focus => exact (Confined.focusFlyout none c id).settle.content id hnobody
  | hide => exact (Confined.swapDocked none c id .docked .hidden).settle.content id hnobody
  | unhide => exact (Confined.swapDocked none c id .hidden .docked).settle.content id hnobody
  | destroy => exact destroyPanel_source c id

/-- Where a new window opens that is told its place depends on the record, the source and the
settings. -/
theorem flyOut_alike (same : AlikeAt id c d) {p : Panel α} (hp : c.store.get? id = some p)
    (rests : p.placement ≠ .floating) (options : FlyoutOptions α) {position : Point α}
    (told : options.position = some position) :
    (d.flyOut id options).2.recordOf id = (c.flyOut id options).2.recordOf id ∧
      (d.flyOut id options).2.windowOf id = (c.flyOut id options).2.windowOf id := by
  obtain ⟨z, t, hq⟩ := same.record_some hp
  obtain ⟨content, backend, journal, hflown⟩ := flyOut_eq hp rests options
  obtain ⟨content', backend', journal', hflown'⟩ := flyOut_eq (c := d) hq rests options
  generalize hw : c.flownWindow id p options = w at hflown
  generalize hv : d.flownWindow id { p with zIndex := z, lastUpdated := t } options = v at hflown'
  have hlasting : v.lasting = w.lasting := by
    rw [← hv, ← hw, flownWindow, flownWindow, told, same.settings]
    rfl
  have hnamed : w.panel = id := by rw [← hw]; rfl
  obtain ⟨overlay, rfl⟩ := Chrome.eq_of_lasting hlasting
  rw [hflown, hflown', same.source]
  refine ⟨?_, windows_alike hnamed rfl⟩
  have hupdated :=
    same.updated (openPatch { w with slot := Slot.ofSource id (c.content.get? id) } 0) rfl
    (some (some (c.handled.stacking w).result))
    (some (some (d.handled.stacking { w with toOverlay := overlay }).result))
      c.moment.now d.moment.now
  rw [← hnamed] at hupdated ⊢
  exact hupdated

/-- An errand that is accepted in both leaves the panel looking alike in both. -/
theorem Change.alike_done {errand : Errand α} {c' d' : Coordinator α β}
    (hdone : c.carryOut id errand = (true, c')) (hdone' : d.carryOut id errand = (true, d'))
    (h : Change c (errand.move c.settings id) c') (h' : Change d (errand.move d.settings id) d')
    (hc : c.Paired) (same : AlikeAt id c d) :
    d'.recordOf id = c'.recordOf id ∧ d'.windowOf id = c'.windowOf id := by
  cases errand with
  | flyOut position size resizeHandle title =>
      have hrested : ∃ p, c.store.get? id = some p ∧ p.placement ≠ .floating := by
        cases h with
        | flownOut hp rests => exact ⟨_, hp, rests⟩
      obtain ⟨p, hp, rests⟩ := hrested
      have halike := flyOut_alike same hp rests ⟨some position, size, resizeHandle, title⟩ rfl
      obtain rfl : (d.flyOut id _).2 = d' := congrArg Prod.snd hdone'
      obtain rfl : (c.flyOut id _).2 = c' := congrArg Prod.snd hdone
      exact halike
  | _ => exact h.alike h' hc same (fun _ _ _ _ he => by cases he)

omit [Backend β α] in
/-- An operation is accepted exactly if the layout takes its move. -/
theorem Verdict.accepted [Backend β α] {m : Move} {r : Bool × Coordinator α β} (h : Verdict c m r)
    (hc : c.Paired) : r.1 = (c.layout.step m).isSome := by
  cases h with
  | refused es quiet stuck => rw [stuck]; rfl
  | done h booked => rw [h.layout_step hc]; rfl

/-- On its own panel an errand does the same wherever the panel looks alike. -/
theorem carryOut_alike (hc : c.Coherent) (hd : d.Coherent) (same : AlikeAt id c d)
    (still : c.Still id) (errand : Errand α) : (d.carryOut id errand).1 = (c.carryOut id errand).1 ∧
      AlikeAt id (c.carryOut id errand).2 (d.carryOut id errand).2 := by
  have hverdict := carryOut_verdict hc id errand
  have hverdict' := carryOut_verdict hd id errand
  have hanswer : (d.carryOut id errand).1 = (c.carryOut id errand).1 := by
    rw [hverdict.accepted hc.paired, hverdict'.accepted hd.paired, same.settings]
    exact errand.step_isSome same.station c.settings
  have hsource : (d.carryOut id errand).2.content.get? id =
      (c.carryOut id errand).2.content.get? id := by
    have hstill : d.Still id := fun source hs => still source (same.source.symm.trans hs)
    rw [carryOut_source hstill, carryOut_source still, hanswer, same.source]
  refine ⟨hanswer, ?_⟩
  generalize hr : c.carryOut id errand = r at hverdict hanswer hsource ⊢
  generalize hr' : d.carryOut id errand = r' at hverdict' hanswer hsource ⊢
  cases hverdict with
  | refused es quiet stuck =>
      cases hverdict' with
      | refused es' quiet' stuck' => exact ⟨same.record, same.window, hsource, same.settings⟩
      | done h' booked' => cases hanswer
  | done h booked =>
      cases hverdict' with
      | refused es' quiet' stuck' => cases hanswer
      | done h' booked' =>
          obtain ⟨hrecord, hwindow⟩ := Change.alike_done hr hr' h h' hc.paired same
          exact ⟨hrecord, hwindow, hsource,
            h'.settings_eq.1.trans (same.settings.trans h.settings_eq.1.symm)⟩

/-! ## What two errands share -/

/-- An errand drops the gesture on its panel, if it is accepted and lets go, and leaves the
subscribers alone. -/
theorem carryOut_shared (hc : c.Coherent) (id : PanelId) (errand : Errand α) :
    (c.carryOut id errand).2.tracker =
        (if (c.carryOut id errand).1 && errand.letsGo then (c.tracker.dropTarget id).state
          else c.tracker) ∧
      (c.carryOut id errand).2.store.subscribers = c.store.subscribers ∧
      (c.carryOut id errand).2.store.nextSubscriber = c.store.nextSubscriber := by
  have hverdict := carryOut_verdict hc id errand
  generalize c.carryOut id errand = r at hverdict ⊢
  cases hverdict with
  | refused es quiet stuck => exact ⟨rfl, rfl, rfl⟩
  | done h booked => exact ⟨h.tracker_eq, h.subscribers_eq hc.paired⟩

/-! ## Two errands -/

/-- Two coordinators that look alike at every panel, and have the same gesture with the same
listeners, the same subscribers and the same sources of content. -/
structure Alike (c d : Coordinator α β) : Prop where
  records : ∀ i, d.recordOf i = c.recordOf i
  windows : ∀ i, d.windowOf i = c.windowOf i
  content : d.content = c.content
  tracker : d.tracker = c.tracker
  subscribers : d.store.subscribers = c.store.subscribers
  nextSubscriber : d.store.nextSubscriber = c.store.nextSubscriber
  settings : d.settings = c.settings

/-- An errand is not disturbed by one on another panel that comes before it, nor undone by one that
comes after. -/
theorem carryOut_around (h : Reachable c) (apart : id ≠ i) (still : c.Still id) (a b : Errand α)
    (s t u v : Moment) :
    let before := (c.during s).carryOut id a
    let after := (((c.during u).carryOut i b).2.during v).carryOut id a
    after.1 = before.1 ∧ AlikeAt id ((before.2.during t).carryOut i b).2 after.2 := by
  intro before after
  have hbefore := (h.alike_elsewhere u b apart).during s v
  have hafter := (h.carryOut s id a).alike_elsewhere t b apart
  obtain ⟨hanswer, hsame⟩ :=
    carryOut_alike (h.coherent.during s) ((h.carryOut u i b).coherent.during v) hbefore
    still a
  exact ⟨hanswer, hafter.symm.trans hsame⟩

omit [Backend β α] in
/-- Of two gestures that may be dropped, it does not matter which is dropped first. -/
theorem trackers_meet {t t₁ t₁₂ t₂ t₂₁ : Tracker α} {i j : PanelId} {x x' y y' m n : Bool}
    (h₁ : t₁ = if x && m then (t.dropTarget i).state else t)
    (h₁₂ : t₁₂ = if y && n then (t₁.dropTarget j).state else t₁)
    (h₂ : t₂ = if y' && n then (t.dropTarget j).state else t)
    (h₂₁ : t₂₁ = if x' && m then (t₂.dropTarget i).state else t₂) (hx : x' = x) (hy : y = y') :
    t₂₁ = t₁₂ := by
  subst hx hy
  rw [h₂₁, h₁₂, h₂, h₁]
  cases x' && m with
  | false => rfl
  | true =>
      cases y && n with
      | false => rfl
      | true => exact t.dropTarget_comm j i

/-- **Operations on different panels commute.** Whatever has been done, two errands on different
panels whose content, if they have any, is a fixed text are accepted in one order exactly if they
are in the other, and lead to coordinators that are alike, at whatever moments they are run. -/
theorem errands_commute (h : Reachable c) {i j : PanelId} (apart : i ≠ j) (hi : c.Still i)
    (hj : c.Still j) (a b : Errand α) (s t u v : Moment) :
    let c₁ := (c.during s).carryOut i a
    let c₁₂ := (c₁.2.during t).carryOut j b
    let c₂ := (c.during u).carryOut j b
    let c₂₁ := (c₂.2.during v).carryOut i a
    c₂₁.1 = c₁.1 ∧ c₂.1 = c₁₂.1 ∧ Alike c₁₂.2 c₂₁.2 := by
  intro c₁ c₁₂ c₂ c₂₁
  have h₁ := h.carryOut s i a
  have h₂ := h.carryOut u j b
  obtain ⟨ha, hati⟩ := carryOut_around h apart hi a b s t u v
  obtain ⟨hb, hatj⟩ := carryOut_around h apart.symm hj b a u v s t
  -- elsewhere neither errand shows
  have halike : ∀ k, AlikeAt k c₁₂.2 c₂₁.2 := by
    intro k
    by_cases hki : k = i
    · exact hki ▸ hati
    by_cases hkj : k = j
    · exact hkj ▸ hatj.symm
    have hone := (h.alike_elsewhere s a hki).trans (h₁.alike_elsewhere t b hkj)
    have hother := (h.alike_elsewhere u b hkj).trans (h₂.alike_elsewhere v a hki)
    exact hone.symm.trans hother
  obtain ⟨htracker₁, hsubscribers₁, hnext₁⟩ := carryOut_shared (h.coherent.during s) i a
  obtain ⟨htracker₁₂, hsubscribers₁₂, hnext₁₂⟩ := carryOut_shared (h₁.coherent.during t) j b
  obtain ⟨htracker₂, hsubscribers₂, hnext₂⟩ := carryOut_shared (h.coherent.during u) j b
  obtain ⟨htracker₂₁, hsubscribers₂₁, hnext₂₁⟩ := carryOut_shared (h₂.coherent.during v) i a
  refine ⟨ha, hb.symm, fun k => (halike k).record, fun k => (halike k).window,
    Catalog.ext_get? (fun k => (halike k).source), ?_, ?_, ?_, (halike i).settings⟩
  · exact trackers_meet htracker₁ htracker₁₂ htracker₂ htracker₂₁ ha hb
  · exact (hsubscribers₂₁.trans hsubscribers₂).trans (hsubscribers₁₂.trans hsubscribers₁).symm
  · exact (hnext₂₁.trans hnext₂).trans (hnext₁₂.trans hnext₁).symm

open SmallRun in
/-- One panel is docked and the window of another is closed, both with a text. -/
theorem docking_and_closing_commute :
    let filled (c : Coordinator Int (Memory Int)) id body :=
      ((c.during clock).perform (.request (.setContent id (.static body)))).2
    let c := filled (filled sideBySide log "entries") chart "curves"
    let c₁ := (c.during clock).carryOut log .dock
    let c₂ := (c.during clock).carryOut chart .close
    Reachable c ∧ log ≠ chart ∧ c.content.get? log = some (.static "entries") ∧
      c.content.get? chart = some (.static "curves") ∧ c₁.1 = true ∧ c₂.1 = true ∧
      Alike ((c₁.2.during clock).carryOut chart .close).2
        ((c₂.2.during clock).carryOut log .dock).2 := by
  intro filled c c₁ c₂
  have hreachable : Reachable c := .step (.step reachable_sideBySide _ _) _ _
  have hlog : c.content.get? log = some (.static "entries") := rfl
  have hchart : c.content.get? chart = some (.static "curves") := rfl
  obtain ⟨_, _, halike⟩ := errands_commute hreachable (i := log) (j := chart) (by decide)
    (fun source hs => ⟨_, (Option.some.inj (hlog.symm.trans hs)).symm⟩)
    (fun source hs => ⟨_, (Option.some.inj (hchart.symm.trans hs)).symm⟩) .dock .close clock
      clock clock clock
  exact ⟨hreachable, by decide, hlog, hchart, by decide, by decide, halike⟩

end Coordinator

end PanelDock
