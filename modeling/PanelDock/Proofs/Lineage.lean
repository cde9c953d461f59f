import PanelDock.Proofs.Keeping
import PanelDock.Proofs.Retelling
/-!
# Placement decides the rest of a record

A panel that does not float has no geometry, no stacking value and nothing mounted, and can be seen
exactly in its dock; one that floats has all that its window needs. A snapshot could say otherwise,
and restoring takes records as they come. But coordinators that restore nothing but what such
coordinators have saved keep to it, and so do their snapshots: this is one induction over
coordinators and snapshots together, as each descends from the other.

Of the panels that float it needs no induction at all: their windows say it.
-/

namespace PanelDock

variable {α β : Type}

/-- The record of a panel without a window, seen only in its dock. -/
structure Panel.Bare (p : Panel α) : Prop where
  unplaced : p.position = none
  unsized : p.size = none
  unstacked : p.zIndex = none
  unmounted : p.mounted = false
  seen : p.visible = true ↔ p.placement = .docked

/-- The placement of the panel decides what else its record has. -/
structure Panel.Proper (p : Panel α) : Prop where
  resting : p.placement ≠ .floating → p.Bare
  floating : p.placement = .floating → p.position.isSome = true ∧ p.size.isSome = true ∧
    ∃ z, p.zIndex = some z ∧ 1000 ≤ z ∧ z ≤ 9999

variable [Coordinate α]

mutual

/-- What commands lead to when only such snapshots are restored as have the same descent. -/
inductive Coordinator.Descends : {β : Type} → [Backend β α] → Coordinator α β → Prop where
  | start {β : Type} [Backend β α] (settings : Settings α) (backend : Option β) (moment : Moment) :
      Coordinator.Descends (Coordinator.ofSettings settings backend moment)
  | step {β : Type} [Backend β α] {c : Coordinator α β} (h : Coordinator.Descends c)
      (moment : Moment) (command : Command α β)
      (own : command = .request .restore → ∀ s, c.restorable = some s → Snapshot.Descends s) :
      Coordinator.Descends ((c.during moment).perform command).2

/-- What such a coordinator has saved. -/
inductive Snapshot.Descends : Snapshot α → Prop where
  | saved {β : Type} [Backend β α] {c : Coordinator α β} (h : Coordinator.Descends c)
      {s : Snapshot α}
      {accepted : Bool} (filed : .write s accepted ∈ c.journal) : Snapshot.Descends s

end

namespace Coordinator

/-- No panel without a window has what belongs to one. -/
def Tidy (c : Coordinator α β) : Prop :=
  ∀ id p, c.store.get? id = some p → p.placement ≠ .floating → p.Bare

/-! ## One change -/

omit [Coordinate α] in
/-- A panel that is introduced is bare. -/
theorem Tidy.create {c : Coordinator α β} (tidy : c.Tidy) (id : PanelId) (dock title : String) :
    ∀ i p, (c.store.create c.moment.now id dock (.titled title)).state.get? i = some p →
      p.placement ≠ .floating → p.Bare := by
  have hcreate := c.store.creation c.moment.now id dock (.titled title)
  generalize c.store.create c.moment.now id dock (.titled title) = o at hcreate ⊢
  cases hcreate with
  | refused n why => exact tidy
  | brokenOff quiet named new unordered full => exact tidy
  | done quiet named new behind =>
      intro i p hp rests
      rcases Catalog.get?_insert_eq_some hp with ⟨_, rfl⟩ | ⟨_, hold⟩
      · exact ⟨rfl, rfl, rfl, rfl, ⟨fun _ => rfl, fun _ => rfl⟩⟩
      · exact tidy i p hold rests

/-- A panel that is docked loses what belongs to its window. -/
theorem bare_docked (p : Panel α) (placement : Placement) (now : Instant) :
    (p.revised (dockPatch placement) now).Bare where
  unplaced := settled_clear _
  unsized := settled_clear _
  unstacked := settled_clear _
  unmounted := settled_some _ _
  seen := by
    have hplacement : (p.revised (dockPatch placement) now).placement = placement :=
      settled_some _ _
    have hvisible : (p.revised (dockPatch placement) now).visible = (placement == .docked) :=
      settled_some _ _
    rw [hplacement, hvisible, beq_iff_eq]

/-- A bare panel that is hidden or shown again is bare. -/
theorem bare_swapped {p : Panel α} (bare : p.Bare) (placement : Placement) (now : Instant) :
    (p.revised
      { placement := some placement, visible := some (placement == .docked) } now).Bare where
  unplaced := bare.unplaced
  unsized := bare.unsized
  unstacked := bare.unstacked
  unmounted := bare.unmounted
  seen := by
    have hplacement :
        ∀ v, (p.revised { placement := some placement, visible := some v } now).placement =
        placement := fun _ => settled_some _ _
    have hvisible :
        ∀ v, (p.revised { placement := some placement, visible := some v } now).visible = v :=
      fun _ => settled_some _ _
    rw [hplacement, hvisible, beq_iff_eq]

/-- Of the panels without a window a change writes only such as it docks, hides or shows again. -/
theorem Change.tidy {c d : Coordinator α β} {m : Move} (h : Change c m d) (hc : c.Paired)
    (tidy : c.Tidy) (known : ∀ id blank, m ≠ .register id blank) : d.Tidy := by
  intro id q hq rests
  -- where a window stands nothing is to be shown
  have hbare := (h.paired hc).no_window_of_rests hq rests
  have hopen : ∀ {w}, d.flyouts.get? id = some w → q.Bare := fun hw => by
    rw [hbare] at hw
    cases hw
  by_cases hid : m.panel c.layout = some id
  · cases h with
    | registered new name fresh content journal => exact absurd rfl (known _ _)
    | refilledAside hp bare content => exact tidy id q hq rests
    | docked hw content backend journal =>
        cases hid
        obtain ⟨p, hp, _⟩ := hc.record_of_window hw
        obtain rfl := Option.some.inj ((record_here hp rfl).symm.trans hq)
        exact bare_docked p _ _
    | hidden hp was backend journal =>
        cases hid
        obtain rfl := Option.some.inj ((record_here hp rfl).symm.trans hq)
        exact bare_swapped (tidy id _ hp (by rw [was]; decide)) .hidden _
    | unhidden hp was backend journal =>
        cases hid
        obtain rfl := Option.some.inj ((record_here hp rfl).symm.trans hq)
        exact bare_swapped (tidy id _ hp (by rw [was]; decide)) .docked _
    | destroyed hp content backend journal =>
        cases hid
        have hgone : (c.store.remove id).state.get? id = none := by
          rw [Store.remove_get?, if_pos rfl]
        exact absurd (hgone.symm.trans hq) (by simp)
    | refilled hw slot content journal =>
        cases hid
        exact hopen (window_here (hc.window_named hw :))
    | flownOut hp rests' title position size handle slot content backend journal =>
        cases hid
        exact hopen (window_here rfl)
    | closed hw shown backend journal =>
        cases hid
        exact hopen (window_here (hc.window_named hw :))
    | shown hw closed focus backend journal =>
        cases hid
        exact hopen (window_here (hc.window_named hw :))
    | shownOnTop hw closed focus hz backend journal =>
        cases hid
        exact hopen (window_here (hc.window_named hw :))
    | focused hw shown hz journal =>
        cases hid
        exact hopen (window_here (hc.window_named hw :))
    | grabbed hw hp shown handle idle opening hz name journal =>
        cases hid
        exact hopen (window_here (hc.window_named hw :))
    | @sampled s w pointer release live mine hw backend journal =>
        obtain rfl : s.panel = id := by
          rw [Move.panel, layout_hold, live] at hid
          exact Option.some.inj hid
        have named : (reached w (c.geometryAt s pointer)).panel = s.panel := by
          rw [reached_panel, hc.window_named hw]
        exact hopen (window_here named)
  · exact tidy id q ((h.frame hc hid).2.symm.trans hq) rests

/-! ## One command -/

variable [Backend β α] {c : Coordinator α β}

/-- Panels are introduced by a request or an action to that end. -/
theorem registration_of_asked {command : Command α β} {id : PanelId} {blank : Bool}
    (asks : c.asked command = some (.register id blank)) :
    ∃ title dock filled journal, (c.perform command).2 = { c with
      store := (c.store.create c.moment.now id dock (.titled title)).state, content :=
        filled, journal } := by
  cases command with
  | request k =>
      cases k with
      | registerPanel other title dock source =>
          obtain rfl : other = id := (Move.register.inj (Option.some.inj asks)).1
          obtain ⟨content, es, h, _⟩ := registerPanel_eq c other title dock source
          exact ⟨title, dock, content, _, h⟩
      | pointerDown pointer =>
          rw [asked, Option.map_eq_some_iff] at asks
          obtain ⟨top, _, hmove⟩ := asks
          cases hhit : top.hit <;> rw [hhit] at hmove <;> cases hmove
      | toggleFlyout other =>
          have hmove := Option.some.inj asks
          split at hmove <;> cases hmove
      | _ => cases asks
  | action a =>
      cases a with
      | registerPanel other title dock content =>
          obtain rfl : other = id := (Move.register.inj (Option.some.inj asks)).1
          obtain ⟨filled, es, h, _⟩ := c.execute_registerPanel_eq other title dock content
          exact ⟨title, dock, filled, _, h⟩
      | toggleFlyout other =>
          have hmove := Option.some.inj asks
          split at hmove <;> cases hmove
      | _ => cases asks

omit [Coordinate α] [Backend β α] in
/-- A merged record comes from the snapshot or was there before. -/
theorem merged_cases {store : Store α} {snapshot : Snapshot α} {id : PanelId} {p : Panel α}
    (h : store.merged snapshot id = some p) :
    (p ∈ snapshot.panels ∧ p.id = id) ∨ store.get? id = some p := by
  rw [Store.merged, Option.or_eq_some_iff] at h
  rcases h with hfound | ⟨_, hstore⟩
  · have hmem := List.mem_reverse.mp (List.mem_of_find?_eq_some hfound)
    have hid := List.find?_some hfound
    rw [decide_eq_true_iff] at hid
    exact Or.inl ⟨(List.mem_filter.mp hmem).1, hid⟩
  · exact Or.inr hstore

/-- Where the snapshot has bare panels, so has the coordinator that restores it. -/
theorem Tidy.restore (h : c.Reachable) (tidy : c.Tidy) (moment : Moment) {snapshot : Snapshot α}
    (found : c.restorable = some snapshot)
    (saved : ∀ p ∈ snapshot.panels, p.placement ≠ .floating → p.Bare) :
    Tidy (c.during moment).restore.2 := by
  intro id p hp rests
  have hmerges := restore_merges h moment found
  cases hmerged : c.store.merged snapshot id with
  | none =>
      have hnone := (hmerges.known id).mpr hmerged
      exact absurd (hnone.symm.trans hp) (by simp)
  | some q =>
      have hcases := merged_cases hmerged
      by_cases hfl : q.placement = .floating
      · -- a panel that floats according to the merged records still does
        have hid : q.id = id :=
          hcases.elim (fun hs => hs.2) (fun hold => h.coherent.paired.record_named hold)
        obtain ⟨ps, _, hmem, hopened, _⟩ := hmerges.floating
        obtain ⟨before, after, hsplit⟩ :=
          List.append_of_mem ((hmem q).mpr ⟨by rw [hid]; exact hmerged, hfl⟩)
        obtain ⟨w, r, _, hr, hreopens⟩ := hopened before q after hsplit
        rw [hid] at hr
        obtain rfl := Option.some.inj (hr.symm.trans hp)
        exact absurd (hreopens.layout.placement.trans hfl) rests
      · obtain rfl := Option.some.inj ((hmerges.resting id q hmerged hfl).1.symm.trans hp)
        exact hcases.elim (fun hs => saved q hs.1 hfl) (fun hold => tidy id q hold hfl)

/-- A command keeps the records tidy, if what it restores is. -/
theorem Tidy.perform (h : c.Reachable) (tidy : c.Tidy) (moment : Moment) (command : Command α β)
    (saved : command = .request .restore → ∀ s, c.restorable = some s →
      ∀ p ∈ s.panels, p.placement ≠ .floating → p.Bare) :
    Tidy ((c.during moment).perform command).2 := by
  have hc := h.coherent.during moment
  have hafter := perform_aftermath hc command
  generalize hd : ((c.during moment).perform command).2 = d at hafter
  cases hafter with
  | aside stuck spent subscribers nextSubscriber journal => exact tidy
  | @changed d m asks es hchange booked =>
      by_cases hm : ∃ id blank, m = .register id blank
      · -- of what is introduced the move says too little, so it is looked up in the store
        obtain ⟨id, blank, rfl⟩ := hm
        obtain ⟨title, dock, filled, journal, hcreated⟩ := registration_of_asked asks
        rw [← hd, hcreated]
        exact Tidy.create (c := c.during moment) tidy id dock title
      · exact hchange.tidy hc.paired tidy (fun id blank he => hm ⟨id, blank, he⟩)
  | @restored snapshot asks found => exact tidy.restore h moment found (saved asks snapshot found)

/-- The windows say all that is to be said of the panels that float. -/
theorem proper_of_tidy (h : c.Reachable) (tidy : c.Tidy) {id : PanelId} {p : Panel α}
    (hp : c.store.get? id = some p) : p.Proper := by
  refine ⟨tidy id p hp, fun hfl => ?_⟩
  rcases h.coherent.paired.whereabouts id with
    ⟨_, hn⟩ | ⟨q, _, hq, _, rests⟩ | ⟨w, q, hw, hq, _, _, same⟩
  · exact absurd (hn.symm.trans hp) (by simp)
  · obtain rfl := Option.some.inj (hq.symm.trans hp)
    exact absurd hfl rests
  · obtain rfl := Option.some.inj (hq.symm.trans hp)
    obtain ⟨x, hx, _⟩ := same.position
    obtain ⟨y, hy, _⟩ := same.size
    obtain ⟨z, hz, hwz⟩ := same.zIndex
    have hwithin := h.ranked.within id w z hw hwz
    have hbounded := h.ranked.bounded
    have hleast : Layer.popup.least = 1000 := rfl
    have hgreatest : Layer.popup.greatest = 9999 := rfl
    exact ⟨Option.isSome_iff_exists.mpr ⟨x, hx⟩, Option.isSome_iff_exists.mpr ⟨y, hy⟩, z, hz,
      by omega, by omega⟩

/-- What a command saves are the panels as they are when it returns. -/
theorem perform_saves (h : c.Reachable) (moment : Moment) (command : Command α β) :
    ∃ told saved, Grows c ((c.during moment).perform command).2 told saved ∧
      ∀ s ∈ saved, s.panels = ((c.during moment).perform command).2.store.panels.values := by
  have hc := h.coherent.during moment
  by_cases hrestore : command = .request .restore
  · subst hrestore
    cases hfound : c.restorable with
    | none =>
        exact ⟨_, _, (refused_tells (c := c.during moment) hfound).grows,
          fun _ hs => absurd hs List.not_mem_nil⟩
    | some snapshot =>
        obtain ⟨_, _, hgrows, _, _, hcurrent⟩ := restore_tells (c := c.during moment) hc hfound
        exact ⟨_, _, hgrows, hcurrent⟩
  · have hkeyed : (c.during moment).store.Keyed := fun _ _ hp => hc.paired.record_named hp
    obtain ⟨_, _, hgrows, _, hcurrent⟩ := Reports.perform hkeyed hrestore
    exact ⟨_, _, hgrows, hcurrent⟩

/-- Commands have led here, the records are tidy, and what was saved is proper. -/
structure Kept (c : Coordinator α β) : Prop where
  reachable : c.Reachable
  tidy : c.Tidy
  saved : ∀ s ∈ written c.journal, ∀ p ∈ s.panels, p.Proper

theorem kept_ofSettings (settings : Settings α) (backend : Option β) (moment : Moment) :
    Kept (ofSettings settings backend moment) where
  reachable := .start settings backend moment
  tidy := fun id p hp => by cases hp
  saved := by
    intro s hs
    have hnothing : written (ofSettings settings backend moment).journal = [] :=
      written_quiet (Allocator.fresh.setFrontGap_quiet settings.stack.frontGap.toNat)
    rw [hnothing] at hs
    exact absurd hs List.not_mem_nil

theorem Kept.perform (h : c.Kept) (moment : Moment) (command : Command α β)
    (saved : command = .request .restore → ∀ s, c.restorable = some s → ∀ p ∈ s.panels, p.Proper) :
    Kept ((c.during moment).perform command).2 := by
  have hafter := h.reachable.step moment command
  have htidy := h.tidy.perform h.reachable moment command
    (fun he s found p hp => (saved he s found p hp).resting)
  refine ⟨hafter, htidy, fun s hs p hp => ?_⟩
  -- what was saved meanwhile are the records as they are now
  obtain ⟨told, more, ⟨es, hjournal, _, hwritten⟩, hcurrent⟩ :=
    perform_saves h.reachable moment command
  rw [hjournal, written_append, hwritten] at hs
  rcases List.mem_append.mp hs with hs | hs
  · exact h.saved s hs p hp
  · rw [hcurrent s hs] at hp
    obtain ⟨id, hrecord⟩ := (Catalog.mem_values_iff _ _).mp hp
    exact proper_of_tidy hafter htidy hrecord

/-- A coordinator keeps what the snapshots keep that it restores, and a snapshot what the
coordinator keeps that has saved it. -/
theorem Descends.kept (h : c.Descends) : c.Kept := by
  -- the induction is on both together
  refine @Descends.rec α _ (fun {_} _ c _ => c.Kept)
    (fun s _ => ∀ p ∈ s.panels, p.Proper) ?_ ?_ ?_ β _ c h
  · intro β _ settings backend moment
    exact kept_ofSettings settings backend moment
  · intro β _ c h moment command own kept saved
    exact kept.perform moment command saved
  · intro β _ c h s accepted filed kept
    exact kept.saved s (mem_written.mpr ⟨accepted, filed⟩)

/-- **Placement decides the rest of the record.** Where only such snapshots are restored as were
saved by such coordinators, a panel that does not float has no geometry, no stacking value and
nothing mounted, and is visible exactly if it is docked; a panel that floats has position, size and
a stacking value in the layer of windows. The same holds in every snapshot that is handed to the
backend. -/
theorem placement_decides (h : c.Descends) : (∀ id p, c.store.get? id = some p → p.Proper) ∧
    ∀ s accepted, Effect.write s accepted ∈ c.journal → ∀ p ∈ s.panels, p.Proper := by
  have hkept := h.kept
  refine ⟨fun id p hp => proper_of_tidy hkept.reachable hkept.tidy hp, ?_⟩
  intro s accepted filed
  exact hkept.saved s (mem_written.mpr ⟨accepted, filed⟩)

open SmallRun in
/-- Two panels in windows are restored from what was saved meanwhile. -/
theorem restored_log_is_proper :
    let c := ((sideBySide.during clock).perform (.request .restore)).2
    c.Descends ∧ (∃ p, c.store.get? log = some p ∧ p.Proper) ∧
      ∀ s accepted, Effect.write s accepted ∈ c.journal → ∀ p ∈ s.panels, p.Proper := by
  intro c
  have hbefore : sideBySide.Descends := by
    refine .step (.step (.step (.step (.start _ _ _) _ _ ?_) _ _ ?_) _ _ ?_) _ _ ?_
    all_goals exact fun he => by cases he
  have hown : sideBySide.restorable.all
      (fun s => decide (Effect.write s true ∈ sideBySide.journal)) = true := by decide
  have hdescends : c.Descends := by
    refine .step hbefore clock (.request .restore) (fun _ s found => ?_)
    rw [found, Option.all_some, decide_eq_true_iff] at hown
    exact .saved hbefore hown
  obtain ⟨hrecords, hsaved⟩ := placement_decides hdescends
  obtain ⟨snapshot, found⟩ : ∃ snapshot, sideBySide.restorable = some snapshot :=
    Option.isSome_iff_exists.mp (by decide)
  have hmerges := restore_merges reachable_sideBySide clock found
  have hknown : c.store.get? log ≠ none := by
    intro hnone
    have hmerged := (hmerges.known log).mp hnone
    rw [Store.merged, Option.or_eq_none_iff] at hmerged
    exact absurd hmerged.2 (by decide)
  obtain ⟨p, hp⟩ := Option.ne_none_iff_exists'.mp hknown
  exact ⟨hdescends, ⟨p, hp, hrecords log p hp⟩, hsaved⟩

end Coordinator

end PanelDock
