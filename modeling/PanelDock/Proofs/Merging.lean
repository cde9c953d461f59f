import PanelDock.Proofs.Ranking
/-!
# Restoring rebuilds the merged layout

A snapshot is put over the records, entry by entry, so the last entry of a panel is the one that
counts. `Store.merged` is what the records are then. Of the panels that do not float nothing else is
touched, and whatever windows they had are gone. For each panel that floats a window is opened anew,
in the order in which panels are listed, and its record is told where.

A record may have come without a geometry, and then the window opens where a new one would: a step
further for each window that is shown at that moment. These are the windows that were opened anew
before it, and of the windows still to be rebuilt those that are on the screen from before. So the
loop cannot be read one panel at a time; `Reopening done rest` is what holds between two turns of
it.
-/

namespace PanelDock

variable {α β : Type}

/-! ## The merged records -/

/-- The record of a panel when a snapshot is put over the store: the last one in the snapshot, but
for those without a dock, and if there is none the one in the store. -/
def Store.merged (s : Store α) (snapshot : Snapshot α) (id : PanelId) : Option (Panel α) :=
  ((snapshot.panels.filter Restorable).reverse.find? (fun p => decide (p.id = id))).or (s.get? id)

/-- Of panels that are filed one after the other, the last of a name is found. -/
theorem Store.foldl_insert_get? (ps : List (Panel α)) (panels : Catalog PanelId (Panel α))
    (id : PanelId) :
    (ps.foldl (fun panels p => panels.insert p.id p) panels).get? id =
      (ps.reverse.find? (fun p => decide (p.id = id))).or (panels.get? id) := by
  induction ps generalizing panels with
  | nil => rfl
  | cons q rest ih =>
      rw [List.foldl_cons, ih, List.reverse_cons, List.find?_append, Option.or_assoc,
        Catalog.get?_insert]
      congr 1
      by_cases hid : q.id = id
      · simp [hid]
      · simp [hid, Ne.symm hid]

theorem Store.import?_get? {snapshot : Snapshot α} (h : snapshot.version = Snapshot.currentVersion)
    (s : Store α) (id : PanelId) : (s.import? snapshot).state.get? id = s.merged snapshot id := by
  rw [import?, if_neg (not_not_intro h)]
  exact foldl_insert_get? _ _ _

/-! ## One window -/

variable [Coordinate α]

/-- Where a window opens when so many are shown. -/
def FlyoutSettings.cascade (settings : FlyoutSettings α) (shown : Nat) : Point α where
  x := settings.defaultX + settings.cascadeOffset * Coordinate.ofNat shown
  y := settings.defaultY + settings.cascadeOffset * Coordinate.ofNat shown

/-- The window `w` and the record `q` are rebuilt from the record `p` of a panel that floats, at a
moment when so many windows are shown. -/
structure Reopens (settings : FlyoutSettings α) (shown : Nat) (p : Panel α) (w : Chrome α)
    (q : Panel α) :
    Prop where
  named : w.panel = p.id
  title : w.title = p.title
  displayed : w.displayed = p.visible
  returns : w.returnPlacement = .docked
  position : w.position = p.position.getD (settings.cascade shown)
  size : w.size = p.size.getD settings.defaultSize
  name : q.id = p.id
  layout : p.SameLayout q
  placed : q.position = some w.position
  sized : q.size = some w.size

namespace Coordinator

section OneWindow

variable {c : Coordinator α β} {p : Panel α}

/-- To open a window anew shows in its panel only. -/
theorem reopen_elsewhere (c : Coordinator α β) (p : Panel α) {i : PanelId} (hi : i ≠ p.id) :
    (c.reopen p).flyouts.get? i = c.flyouts.get? i ∧
    (c.reopen p).store.get? i = c.store.get? i := by
  obtain ⟨slot, content, journal, hr⟩ := reopen_eq c p
  rw [hr]
  refine ⟨?_, record_elsewhere rfl hi⟩
  show ((c.flyouts.erase p.id).insert p.id _).get? i = _
  rw [window_elsewhere rfl hi, Catalog.get?_erase, if_neg hi]

theorem reopen_settings (c : Coordinator α β) (p : Panel α) :
    (c.reopen p).settings = c.settings := by
  obtain ⟨slot, content, journal, hr⟩ := reopen_eq c p
  rw [hr]
  rfl

/-- A window that is opened anew has what its record says, and rises above the others. -/
theorem reopen_here (h : c.Racked) (hp : c.store.get? p.id = some p)
    (hfl : p.placement = .floating) :
    ∃ w q z, (c.reopen p).flyouts.get? p.id = some w ∧ (c.reopen p).store.get? p.id = some q ∧
      Reopens c.settings (c.discarded p.id).displayedCount p w q ∧ w.zIndex = some z ∧
      Rises (c.discarded p.id).flyouts (c.discarded p.id).stack p.id z := by
  obtain ⟨slot, content, journal, hr⟩ := reopen_eq c p
  have hs : Stacked (c.discarded p.id).flyouts (c.discarded p.id).stack := stacked_released h.1 p.id
  have hranked : Ranked (c.discarded p.id).flyouts (c.discarded p.id).stack :=
    ranked_released h.2 h.1 p.id
  have hrises := rises_stacking hranked hs ((c.discarded p.id).recreated p) p.id
  rw [hr]
  refine ⟨_, _, _, window_here rfl, record_here hp rfl, ?_, rfl, hrises⟩
  let stacked := (c.discarded p.id).handled.stacking ((c.discarded p.id).recreated p)
  have hlayout : p.SameLayout (p.revised (openPatch
      { (c.discarded p.id).recreated p with toOverlay := stacked.state.2, slot }
      stacked.result) c.moment.now) :=
    ⟨rfl, (settled_some _ _).trans hfl.symm, rfl, settled_some _ _, rfl, rfl⟩
  exact ⟨rfl, rfl, rfl, rfl, rfl, rfl, rfl, hlayout, settled_getD _ _, settled_getD _ _⟩

end OneWindow

/-! ## The loop -/

/-- How many windows are shown when that of a panel is opened anew: those of the panels before it
that can be seen, and of the panels after it the ones whose old window is still shown. -/
def shownBeside (c : Coordinator α β) (before after : List (Panel α)) : Nat :=
  before.countP (·.visible) + after.countP (fun r => (c.flyouts.get? r.id).any (·.displayed))

/-- The windows of these panels have values that rise, until there is no room left. -/
def Rising (c : Coordinator α β) (ps : List (Panel α)) : Prop :=
  ps.Pairwise (fun p q => ∀ v w y z, c.flyouts.get? p.id = some v → c.flyouts.get? q.id = some w →
    v.zIndex = some y → w.zIndex = some z → y < z ∨ (y = 9999 ∧ z = 9999))

/-- Of the panels that float in `c`, the windows of some are done and those of the rest are still
the old ones; no other windows are left. -/
structure Reopening (c : Coordinator α β) (done rest : List (Panel α))
    (e : Coordinator α β) : Prop where
  settings : e.settings = c.settings
  records : ∀ id, id ∉ done.map (·.id) → e.store.get? id = c.store.get? id
  pending : ∀ r ∈ rest, e.flyouts.get? r.id = c.flyouts.get? r.id
  gone : ∀ id, id ∉ (done ++ rest).map (·.id) → e.flyouts.get? id = none
  opened : ∀ before p after, done = before ++ p :: after → ∃ w q, e.flyouts.get? p.id = some w ∧
    e.store.get? p.id = some q ∧ Reopens c.settings (c.shownBeside before (after ++ rest)) p w q
  rising : Rising e done
  racked : e.Racked

section Loop

variable {c e : Coordinator α β} {done rest : List (Panel α)} {p : Panel α}

omit [Coordinate α] in
/-- Whose turn it is has another name than the rest. -/
theorem turn_apart (nodup : ((done ++ p :: rest).map (·.id)).Nodup) :
    (∀ q ∈ done, q.id ≠ p.id) ∧ (∀ r ∈ rest, r.id ≠ p.id ∧ ∀ q ∈ done, r.id ≠ q.id) ∧
      ((done ++ rest).map (·.id)).Nodup := by
  rw [List.map_append, List.map_cons, List.nodup_append, List.nodup_cons] at nodup
  obtain ⟨hdone, ⟨hp, hrest⟩, hcross⟩ := nodup
  refine ⟨fun q hq => hcross _ (List.mem_map_of_mem hq) _ List.mem_cons_self,
    fun r hr => ⟨?_, ?_⟩, ?_⟩
  · exact fun he => hp (he ▸ List.mem_map_of_mem hr)
  · exact fun q hq he => hcross _ (List.mem_map_of_mem hq) _
      (List.mem_cons_of_mem _ (List.mem_map_of_mem hr)) he.symm
  · rw [List.map_append, List.nodup_append]
    exact ⟨hdone, hrest, fun a ha b hb => hcross a ha b (List.mem_cons_of_mem _ hb)⟩

/-- The windows that are shown when it is the turn of a panel. -/
theorem Reopening.displayedCount (h : Reopening c done (p :: rest) e)
    (nodup : ((done ++ p :: rest).map (·.id)).Nodup) :
    (e.discarded p.id).displayedCount = c.shownBeside done rest := by
  obtain ⟨hdone, hrest, hothers⟩ := turn_apart nodup
  have hcovers : ∀ id w, (e.flyouts.erase p.id).get? id = some w →
      id ∈ (done ++ rest).map (·.id) := by
    intro id w hw
    obtain ⟨hid, hw⟩ := Catalog.get?_erase_eq_some hw
    by_cases hmem : id ∈ (done ++ p :: rest).map (·.id)
    · simp only [List.map_append, List.map_cons, List.mem_append, List.mem_cons] at hmem ⊢
      exact hmem.imp_right (fun h => h.resolve_left hid)
    · exact absurd ((h.gone id hmem).symm.trans hw) (by simp)
  show (e.flyouts.erase p.id).values.countP (·.displayed) = _
  rw [Catalog.countP_values _ _ hothers hcovers, List.countP_map, List.countP_append, shownBeside]
  congr 1
  · refine List.countP_congr (fun q hq => ?_)
    obtain ⟨before, after, hsplit⟩ := List.append_of_mem hq
    obtain ⟨w, _, hw, _, hreopens⟩ := h.opened before q after hsplit
    simp [Catalog.get?_erase, hdone q hq, hw, hreopens.displayed]
  · refine List.countP_congr (fun r hr => ?_)
    simp [Catalog.get?_erase, (hrest r hr).1, h.pending r (List.mem_cons_of_mem _ hr)]

/-- One turn of the loop. -/
theorem Reopening.step (h : Reopening c done (p :: rest) e)
    (nodup : ((done ++ p :: rest).map (·.id)).Nodup) (hp : c.store.get? p.id = some p)
    (hfl : p.placement = .floating) : Reopening c (done ++ [p]) rest (e.reopen p) := by
  obtain ⟨hdone, hrest, _⟩ := turn_apart nodup
  have hrecord : e.store.get? p.id = some p := by
    rw [h.records p.id, hp]
    intro hmem
    obtain ⟨q, hq, he⟩ := List.mem_map.mp hmem
    exact hdone q hq he
  obtain ⟨w, q, z, hw, hq, hreopens, hz, rises⟩ := reopen_here h.racked hrecord hfl
  rw [h.settings, h.displayedCount nodup] at hreopens
  refine ⟨(reopen_settings e p).trans h.settings, ?_, ?_, ?_, ?_, ?_, h.racked.reopen p⟩
  · intro id hid
    rw [List.map_append, List.mem_append, not_or] at hid
    have hne : id ≠ p.id := fun he => hid.2 (he ▸ List.mem_singleton_self _)
    exact (reopen_elsewhere e p hne).2.trans (h.records id hid.1)
  · intro r hr
    exact (reopen_elsewhere e p (hrest r hr).1).1.trans (h.pending r (List.mem_cons_of_mem _ hr))
  · intro id hid
    rw [List.append_assoc, List.singleton_append] at hid
    have hne : id ≠ p.id := by
      rintro rfl
      exact hid (List.mem_map_of_mem (List.mem_append_right _ List.mem_cons_self))
    exact (reopen_elsewhere e p hne).1.trans (h.gone id hid)
  · -- the panel is the last of those that are done, or one of those before
    intro before r after hsplit
    rcases List.eq_nil_or_concat after with rfl | ⟨after, last, rfl⟩
    · obtain ⟨rfl, hlast⟩ := List.append_inj' hsplit rfl
      obtain rfl := List.singleton_inj.mp hlast
      exact ⟨w, q, hw, hq, hreopens⟩
    · rw [List.concat_eq_append, ← List.cons_append, ← List.append_assoc] at hsplit
      obtain ⟨hbefore, hlast⟩ := List.append_inj' hsplit rfl
      obtain rfl := List.singleton_inj.mp hlast
      obtain ⟨v, s, hv, hs, hold⟩ := h.opened before r after hbefore
      have hne : r.id ≠ p.id := hdone r (by rw [hbefore]; simp)
      obtain ⟨hwindow, hstore⟩ := reopen_elsewhere e p hne
      refine ⟨v, s, hwindow.trans hv, hstore.trans hs, ?_⟩
      rw [List.concat_eq_append, List.append_assoc]
      exact hold
  · refine List.pairwise_append.mpr ⟨?_, List.pairwise_singleton _ _, ?_⟩
    · refine h.rising.imp_of_mem (fun {r s} hr hs hrs v w y z hv hw => ?_)
      rw [(reopen_elsewhere e p (hdone r hr)).1] at hv
      rw [(reopen_elsewhere e p (hdone s hs)).1] at hw
      exact hrs v w y z hv hw
    · intro r hr s hs v u y z' hv hu hy hz'
      obtain rfl := List.mem_singleton.mp hs
      rw [(reopen_elsewhere e s (hdone r hr)).1] at hv
      obtain rfl : w = u := Option.some.inj (hw.symm.trans hu)
      obtain rfl : z = z' := Option.some.inj (hz.symm.trans hz')
      have hold : (e.discarded s.id).flyouts.get? r.id = some v :=
        (Catalog.get?_erase _ _ _).trans ((if_neg (hdone r hr)).trans hv)
      rcases rises.above r.id v y (hdone r hr) hold hy with hlt | ⟨_, htop, hsame⟩
      · exact Or.inl hlt
      · exact Or.inr ⟨htop, hsame.trans htop⟩

/-- The whole loop. -/
theorem Reopening.foldl (rest : List (Panel α)) {done : List (Panel α)} {e : Coordinator α β}
    (h : Reopening c done rest e) (nodup : ((done ++ rest).map (·.id)).Nodup)
    (floating : ∀ p ∈ rest, c.store.get? p.id = some p ∧ p.placement = .floating) :
    Reopening c (done ++ rest) [] (rest.foldl Coordinator.reopen e) := by
  induction rest generalizing done e with
  | nil => rw [List.append_nil]; exact h
  | cons p rest ih =>
      obtain ⟨hp, hfl⟩ := floating p List.mem_cons_self
      have hstep := h.step nodup hp hfl
      rw [List.append_cons] at nodup ⊢
      exact ih hstep nodup (fun r hr => floating r (List.mem_cons_of_mem _ hr))

/-- Windows that are discarded are gone, and the others stay. -/
theorem foldl_discard_window (stale : List PanelId) (c : Coordinator α β) (id : PanelId) :
    (stale.foldl Coordinator.discard c).flyouts.get? id = if id ∈
      stale then none else c.flyouts.get? id := by
  induction stale generalizing c with
  | nil => rfl
  | cons i stale ih =>
      obtain ⟨content, journal, hd⟩ := discard_eq c i
      rw [List.foldl_cons, ih, hd]
      show (if id ∈ stale then none else (c.flyouts.erase i).get? id) = _
      rw [Catalog.get?_erase]
      by_cases hi : id = i
      · simp [hi]
      · simp [hi]

/-- Before the first turn the windows without a floating panel are gone. -/
theorem reopening_start (keyed : c.store.Keyed) (h : c.Racked) :
    Reopening c [] c.floating (c.stale.foldl Coordinator.discard c) := by
  have hkept : (c.stale.foldl Coordinator.discard c).Racked ∧
      (c.stale.foldl Coordinator.discard c).settings = c.settings := by
    refine List.foldlRecOn (motive := fun d : Coordinator α β => d.Racked ∧ d.settings = c.settings)
      _ _ ⟨h, rfl⟩ ?_
    rintro d ⟨hd, hsettings⟩ id _
    refine ⟨hd.discard id, ?_⟩
    obtain ⟨content, journal, he⟩ := discard_eq d id
    rw [he]
    exact hsettings
  refine ⟨hkept.2, fun id _ => by rw [foldl_discard_store], ?_, ?_, ?_, List.Pairwise.nil, hkept.1⟩
  · intro p hp
    obtain ⟨hrecord, hfl⟩ := (Store.mem_list_floating keyed p).mp hp
    rw [foldl_discard_window, if_neg]
    intro hmem
    have hnot := (List.mem_filter.mp hmem).2
    rw [hrecord, Option.any_some, p.isFloating_iff.mpr hfl] at hnot
    exact Bool.noConfusion hnot
  · intro id hid
    rw [foldl_discard_window]
    split
    · rfl
    · rename_i hstale
      cases hw : c.flyouts.get? id with
      | none => rfl
      | some w =>
          rcases List.mem_append.mp (mem_pending_of_window keyed hw) with hmem | hmem
          · exact absurd hmem hstale
          · exact absurd hmem hid
  · intro before p after hsplit
    exact absurd hsplit (by simp)

/-- When windows are rebuilt, those of all panels that float are opened anew, and no others are
left. -/
theorem rebuild_reopens (keyed : c.store.Keyed) (h : c.Racked) :
    Reopening c c.floating [] c.rebuild.2 := by
  rw [rebuild_eq]
  refine (reopening_start keyed h).foldl c.floating (Store.nodup_list keyed _) (fun p hp => ?_)
  exact (Store.mem_list_floating keyed p).mp hp

/-- What has become of the panels when the loop is over: those that do not float are what they were,
and only those that float have windows. -/
theorem Reopening.finished (h : Reopening c c.floating [] e) (keyed : c.store.Keyed) :
    (∀ id, e.store.get? id = none ↔ c.store.get? id = none) ∧
    (∀ id p, c.store.get? id = some p → p.placement ≠ .floating →
      e.store.get? id = some p ∧ e.flyouts.get? id = none) ∧
    ∀ id w, e.flyouts.get? id = some w → ∃ p, c.store.get? id = some p ∧
      p.placement = .floating := by
  have hgone : ∀ id, id ∉ c.floating.map (·.id) → e.flyouts.get? id = none := by
    intro id hid
    refine h.gone id ?_
    rw [List.append_nil]
    exact hid
  refine ⟨?_, ?_, ?_⟩
  · intro id
    by_cases hid : id ∈ c.floating.map (·.id)
    · obtain ⟨p, hp, rfl⟩ := List.mem_map.mp hid
      obtain ⟨before, after, hsplit⟩ := List.append_of_mem hp
      obtain ⟨w, q, _, hq, _⟩ := h.opened before p after hsplit
      rw [hq, ((Store.mem_list_floating keyed p).mp hp).1]
      simp
    · rw [h.records id hid]
  · intro id p hp rests
    have hid : id ∉ c.floating.map (·.id) := by
      intro hmem
      obtain ⟨q, hq, rfl⟩ := List.mem_map.mp hmem
      obtain ⟨hrecord, hfl⟩ := (Store.mem_list_floating keyed q).mp hq
      exact rests (Option.some.inj (hp.symm.trans hrecord) ▸ hfl)
    exact ⟨(h.records id hid).trans hp, hgone id hid⟩
  · intro id w hw
    by_cases hid : id ∈ c.floating.map (·.id)
    · obtain ⟨p, hp, rfl⟩ := List.mem_map.mp hid
      exact ⟨p, (Store.mem_list_floating keyed p).mp hp⟩
    · exact absurd ((hgone id hid).symm.trans hw) (by simp)

end Loop

/-! ## The operation -/

variable [Backend β α] {c : Coordinator α β}

/-- What restoring a snapshot comes to: how many entries of the snapshot were taken, and a
coordinator whose panels are those of the merged records, each as it is there, and whose windows are
those of the panels that float. -/
structure Merges (c : Coordinator α β) (snapshot : Snapshot α)
    (r : Nat × Coordinator α β) : Prop where
  count : r.1 = (snapshot.panels.filter Store.Restorable).length
  known : ∀ id, r.2.store.get? id = none ↔ c.store.merged snapshot id = none
  resting : ∀ id p, c.store.merged snapshot id = some p → p.placement ≠ .floating →
    r.2.store.get? id = some p ∧ r.2.flyouts.get? id = none
  floating : ∃ ps, ps.Pairwise Panel.Precedes ∧
    (∀ p, p ∈ ps ↔ c.store.merged snapshot p.id = some p ∧ p.placement = .floating) ∧
    (∀ before p after, ps = before ++ p :: after → ∃ w q, r.2.flyouts.get? p.id = some w ∧
      r.2.store.get? p.id = some q ∧ Reopens c.settings (c.shownBeside before after) p w q) ∧
    r.2.Rising ps
  windows : ∀ id w, r.2.flyouts.get? id = some w →
    ∃ p, c.store.merged snapshot id = some p ∧ p.placement = .floating
  idle : r.2.tracker.session = none
  shelved : r.2.Shelved

/-- **Restoring rebuilds the merged layout.** Whatever has been done before, and whatever the
snapshot of the backend is, the panels are afterwards those of the snapshot over those of the store,
and exactly the floating ones among them have windows. -/
theorem restore_merges (h : Reachable c) (moment : Moment) {snapshot : Snapshot α}
    (found : c.restorable = some snapshot) : c.Merges snapshot (c.during moment).restore := by
  have hc := h.coherent.during moment
  have hafter := h.step moment (.request .restore)
  have hidle := (restore_coherent hc found).2
  have hshelved : (c.during moment).restore.2.Shelved :=
    shelved_of_ranked hafter.coherent.stacked hafter.ranked
  obtain ⟨_, _, _, hversion⟩ := restorable_eq_some found
  obtain ⟨lines, e, journal, he, hrestore⟩ := restore_eq (c := c.during moment) found
  -- the records that are merged, over the windows that are still there
  have hkeyed := imported_keyed hc found lines
  have hmerged : ∀ id,
      ((c.during moment).imported snapshot lines).store.get? id = c.store.merged snapshot id :=
    Store.import?_get? hversion c.store
  have hracked : ((c.during moment).imported snapshot lines).Racked := ⟨hc.stacked, h.ranked⟩
  have hreopening := rebuild_reopens hkeyed hracked
  rw [← he] at hreopening
  obtain ⟨hknown, hresting, hwindows⟩ := hreopening.finished hkeyed
  simp only [hmerged] at hknown hresting hwindows
  rw [hrestore] at hidle hshelved ⊢
  refine ⟨rfl, hknown, hresting,
    ⟨_, Store.list_ascending hkeyed _, ?_, ?_, hreopening.rising⟩, hwindows, hidle, hshelved⟩
  · intro p
    rw [← hmerged]
    exact Store.mem_list_floating hkeyed p
  · intro before p after hsplit
    have hopened := hreopening.opened before p after hsplit
    rw [List.append_nil] at hopened
    exact hopened

open SmallRun in
/-- Restoring while both panels are in windows opens both windows anew. -/
theorem sideBySide_merges :
    Reachable sideBySide ∧ ∃ snapshot, sideBySide.restorable = some snapshot ∧
    sideBySide.Merges snapshot (sideBySide.during clock).restore ∧
    (sideBySide.during clock).restore.1 = 2 := by
  obtain ⟨snapshot, found⟩ : ∃ snapshot, sideBySide.restorable = some snapshot :=
    Option.isSome_iff_exists.mp (by decide)
  exact ⟨reachable_sideBySide, snapshot, found,
    restore_merges reachable_sideBySide clock found, by decide⟩

end Coordinator

end PanelDock
