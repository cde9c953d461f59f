import PanelDock.Proofs.Simulation
/-!
# Restoring leaves a coherent coordinator

A snapshot puts new records under windows that are open, so for a while windows and records
disagree. `Rebuilding pending` is what holds meanwhile: everything is as it should be except under
the names that are still pending. The windows that have no place any more are discarded and those of
the floating panels opened anew, each takes its name off the list, and when the list is empty the
coordinator is coherent again.
-/

namespace PanelDock.Coordinator

variable {α β : Type} [Coordinate α]

/-- All is coherent but the windows and records under these names; a gesture is on one of them. -/
structure Rebuilding (pending : List PanelId) (c : Coordinator α β) : Prop where
  keyed : c.store.Keyed
  settled : ∀ id, id ∉ pending → Pairs id (c.flyouts.get? id) (c.store.get? id)
  stacked : Stacked c.flyouts c.stack
  held : ∀ s, c.tracker.session = some s → s.panel ∈ pending
  measured : c.tracker.minSize = c.settings.minSize

variable {c : Coordinator α β} {id : PanelId} {rest : List PanelId}

/-- When nothing is pending, the coordinator is coherent, and nothing is held. -/
theorem Rebuilding.coherent (h : Rebuilding [] c) : c.Coherent ∧ c.tracker.session = none := by
  have hnone : c.tracker.session = none := by
    cases hs : c.tracker.session with
    | none => rfl
    | some s => exact absurd (h.held s hs) (List.not_mem_nil)
  refine ⟨⟨fun id => h.settled id List.not_mem_nil, h.stacked, ?_, h.measured⟩, hnone⟩
  intro s hs
  exact absurd (hnone.symm.trans hs) (by simp)

omit [Coordinate α] in
/-- A gesture that outlives the one that is dropped is on another of the panels. -/
theorem held_elsewhere (h : ∀ s, c.tracker.session = some s → s.panel ∈ id :: rest) {s : Session α}
    (hs : (c.tracker.dropTarget id).state.session = some s) : s.panel ∈ rest := by
  rw [dropTarget_session, Option.filter_eq_some_iff, decide_eq_true_iff] at hs
  exact (List.mem_cons.mp (h s hs.1)).resolve_left hs.2

/-- A window without a floating panel is discarded. -/
theorem Rebuilding.discard (h : Rebuilding (id :: rest) c)
    (stale : ∀ p, c.store.get? id = some p → p.placement ≠ .floating) :
    Rebuilding rest (c.discard id) := by
  obtain ⟨content, journal, hd⟩ := discard_eq c id
  rw [hd]
  refine ⟨h.keyed, ?_, stacked_released h.stacked id, ?_, ?_⟩
  · intro i hi
    show Pairs i ((c.flyouts.erase id).get? i) (c.store.get? i)
    rw [Catalog.get?_erase]
    by_cases hid : i = id
    · rw [if_pos hid, hid]
      cases hp : c.store.get? id with
      | none => exact Pairs.absent
      | some p => exact Pairs.resting (h.keyed id p hp) (stale p hp)
    · rw [if_neg hid]
      exact h.settled i (fun hm => (List.mem_cons.mp hm).elim hid hi)
  · intro s hs
    exact held_elsewhere h.held hs
  · exact (dropTarget_minSize _ _).trans h.measured

/-- The window of a panel that floats according to its record. What the record leaves open of the
geometry comes from the settings. -/
def recreated (c : Coordinator α β) (p : Panel α) : Chrome α :=
  c.freshWindow p.id p.title (p.position.getD c.defaultPosition)
    (p.size.getD c.settings.defaultSize)
    c.settings.resizeHandle p.visible .docked

/-- The window of a panel that floats according to its record opens where the next handle is free.
-/
theorem reopen_eq (c : Coordinator α β) (p : Panel α) :
    ∃ slot content journal, c.reopen p =
      { (c.discarded p.id).handled.floated ((c.discarded p.id).recreated p) slot with
        content, journal } := by
  obtain ⟨content, journal, hd⟩ := discard_eq c p.id
  rw [reopen, hd]
  obtain ⟨slot, content', journal', hfloat⟩ := float_eq
    { (c.discarded p.id).handled with content, journal }
    ((c.discarded p.id).recreated p)
  rw [recreated, freshWindow, handled, newWindow] at hfloat
  rw [newWindow, recreated, freshWindow]
  dsimp only at hfloat ⊢
  exact ⟨slot, content', _,
    congrArg (fun r => r.2.note (.flyoutRecreated p.id r.1 p.visible)) hfloat⟩

/-- The window of a floating panel is opened anew. -/
theorem Rebuilding.reopen {p q : Panel α} (h : Rebuilding (p.id :: rest) c)
    (hq : c.store.get? p.id = some q) : Rebuilding rest (c.reopen p) := by
  obtain ⟨slot, content, journal, hr⟩ := reopen_eq c p
  rw [hr]
  have name : q.id = p.id := h.keyed _ _ hq
  have hstacked : Stacked (c.discarded p.id).flyouts (c.discarded p.id).stack :=
    stacked_released h.stacked p.id
  refine ⟨h.keyed.update _ _ rfl, ?_, stacked_floated hstacked rfl rfl, ?_, ?_⟩
  · intro i hi
    show Pairs i (((c.flyouts.erase p.id).insert p.id _).get? i)
      ((c.store.update c.moment.now p.id _).state.get? i)
    by_cases hid : i = p.id
    · rw [hid, window_here rfl, record_here hq rfl]
      exact Pairs.floating rfl name (Mirrors.opened q _ (fun he => Placement.noConfusion he) rfl)
    · rw [window_elsewhere rfl hid, record_elsewhere rfl hid, Catalog.get?_erase, if_neg hid]
      exact h.settled i (fun hm => (List.mem_cons.mp hm).elim hid hi)
  · intro s hs
    exact held_elsewhere h.held hs
  · exact (dropTarget_minSize _ _).trans h.measured

/-! ## The two loops -/

/-- Discarding windows leaves the records alone. -/
theorem foldl_discard_store (stale : List PanelId) (c : Coordinator α β) :
    (stale.foldl Coordinator.discard c).store = c.store := by
  induction stale generalizing c with
  | nil => rfl
  | cons id stale ih =>
      obtain ⟨content, journal, hd⟩ := discard_eq c id
      rw [List.foldl_cons, ih, hd]
      rfl

theorem Rebuilding.foldl_discard (stale : List PanelId) {c : Coordinator α β}
    (h : Rebuilding (stale ++ rest) c)
    (hstale : ∀ id ∈ stale, ∀ p, c.store.get? id = some p → p.placement ≠ .floating) :
    Rebuilding rest (stale.foldl Coordinator.discard c) := by
  induction stale generalizing c with
  | nil => exact h
  | cons id stale ih =>
      rw [List.foldl_cons]
      have hstore : (c.discard id).store = c.store := foldl_discard_store [id] c
      refine ih (h.discard (hstale id List.mem_cons_self)) (fun i hi => ?_)
      rw [hstore]
      exact hstale i (List.mem_cons_of_mem _ hi)

theorem Rebuilding.foldl_reopen (ps : List (Panel α)) {c : Coordinator α β}
    (h : Rebuilding (ps.map (·.id)) c) (known : ∀ p ∈ ps, ∃ q, c.store.get? p.id = some q) :
    Rebuilding [] (ps.foldl Coordinator.reopen c) := by
  induction ps generalizing c with
  | nil => exact h
  | cons p ps ih =>
      rw [List.foldl_cons]
      obtain ⟨q, hq⟩ := known p List.mem_cons_self
      refine ih (h.reopen hq) (fun r hr => ?_)
      -- a record that is told of its window is still known
      obtain ⟨_, _, _, hopen⟩ := reopen_eq c p
      obtain ⟨q', hq'⟩ := known r (List.mem_cons_of_mem _ hr)
      rw [hopen]
      by_cases hid : r.id = p.id
      · rw [hid]
        exact ⟨_, record_here hq rfl⟩
      · exact ⟨q', (record_elsewhere rfl hid).trans hq'⟩

/-- The windows that have no place any more, before they are rebuilt. -/
def stale (c : Coordinator α β) : List PanelId :=
  c.flyouts.keys.filter (fun id => !(c.store.get? id).any Panel.isFloating)

/-- The panels that float, by their records. -/
def floating (c : Coordinator α β) : List (Panel α) := c.store.list { placement := some .floating }

omit [Coordinate α] in
theorem mem_floating_of_record (keyed : c.store.Keyed) {p : Panel α} (hp : c.store.get? id = some p)
    (hfl : p.placement = .floating) : id ∈ c.floating.map (·.id) := by
  have name := keyed id p hp
  rw [← name] at hp
  exact List.mem_map.mpr ⟨p, (Store.mem_list_floating keyed p).mpr ⟨hp, hfl⟩, name⟩

omit [Coordinate α] in
/-- Every window is discarded or opened anew. -/
theorem mem_pending_of_window (keyed : c.store.Keyed) {w : Chrome α}
    (hw : c.flyouts.get? id = some w) : id ∈ c.stale ++ c.floating.map (·.id) := by
  rw [List.mem_append]
  by_cases hfl : (c.store.get? id).any Panel.isFloating = true
  · obtain ⟨p, hp, hfl⟩ := (Option.any_eq_true _ _).mp hfl
    exact Or.inr (mem_floating_of_record keyed hp (p.isFloating_iff.mp hfl))
  · refine Or.inl (List.mem_filter.mpr ⟨(Catalog.mem_keys_iff _ _).mpr ?_, ?_⟩)
    · exact ⟨w, hw⟩
    · rw [Bool.eq_false_iff.mpr hfl]
      rfl

/-- Windows are rebuilt in two passes. -/
theorem rebuild_eq (c : Coordinator α β) :
    c.rebuild = (c.floating.length,
      c.floating.foldl Coordinator.reopen (c.stale.foldl Coordinator.discard c)) := by
  have hsame : (c.stale.foldl Coordinator.discard c).floating = c.floating := by
    rw [floating, foldl_discard_store, floating]
  rw [← hsame]
  rfl

/-- What is kept whenever a window is discarded or opened anew is kept when they are rebuilt. -/
theorem rebuild_keeps {P : Coordinator α β → Prop} (discard : ∀ d id, P d → P (d.discard id))
    (reopen : ∀ d p, P d → P (d.reopen p)) (h : P c) : P c.rebuild.2 := by
  rw [rebuild_eq]
  have hdiscarded : P (c.stale.foldl Coordinator.discard c) :=
    List.foldlRecOn _ _ h (fun d hd id _ => discard d id hd)
  exact List.foldlRecOn _ _ hdiscarded (fun d hd p _ => reopen d p hd)

/-- Once windows are rebuilt over whatever records there are, the coordinator is coherent. -/
theorem rebuild_coherent (keyed : c.store.Keyed) (stacked : Stacked c.flyouts c.stack)
    (attended : Attended c.flyouts c.tracker.session)
    (measured : c.tracker.minSize = c.settings.minSize) :
    c.rebuild.2.Coherent ∧ c.rebuild.2.tracker.session = none := by
  have hpending : Rebuilding (c.stale ++ c.floating.map (·.id)) c := by
    refine ⟨keyed, ?_, stacked, ?_, measured⟩
    -- what is not pending has no window and does not float
    · intro id hid
      have hw : c.flyouts.get? id = none := by
        cases hw : c.flyouts.get? id with
        | none => rfl
        | some w => exact absurd (mem_pending_of_window keyed hw) hid
      rw [hw]
      cases hp : c.store.get? id with
      | none => exact Pairs.absent
      | some p =>
          refine Pairs.resting (keyed id p hp) (fun hfl => hid ?_)
          exact List.mem_append_right _ (mem_floating_of_record keyed hp hfl)
    -- the panel of a gesture has a window, so it is pending
    · intro s hs
      obtain ⟨w, hw, _⟩ := attended s hs
      exact mem_pending_of_window keyed hw
  have hdiscarded := hpending.foldl_discard c.stale ?_
  have hreopened := hdiscarded.foldl_reopen c.floating ?_
  · rw [rebuild_eq]
    exact hreopened.coherent
  · intro p hp
    rw [foldl_discard_store]
    exact ⟨p, ((Store.mem_list_floating keyed p).mp hp).1⟩
  · intro id hid p hp hfl
    have hnot := (List.mem_filter.mp hid).2
    rw [hp, Option.any_some, p.isFloating_iff.mpr hfl] at hnot
    exact Bool.noConfusion hnot

/-! ## The operation -/

variable [Backend β α]

/-- The snapshot that the backend has for restoring, if it has one of the version that is read. -/
def restorable (c : Coordinator α β) : Option (Snapshot α) :=
  c.backend.bind (fun backend => match (Backend.restore backend).result with
    | .ok (some snapshot) => if snapshot.version =
        Snapshot.currentVersion then some snapshot else none
    | _ => none)

omit [Coordinate α] in
theorem notices_quiet {σ ρ : Type} (o : Outcome α σ ρ) : ∀ e ∈ o.notices, e.isNotice = true := by
  intro e he
  exact (List.mem_filter.mp he).2

/-- Without a snapshot to restore, the backend is asked and nothing else comes of it. -/
theorem restore_refused (h : c.restorable = none) : ∃ es, (∀ e ∈ es, e.isNotice = true) ∧
    c.restore = (0, { c with
      backend := c.backend.map (fun backend => (Backend.restore backend).state)
      journal := c.journal ++ es }) := by
  rw [restorable] at h
  rw [restore]
  cases hb : c.backend with
  | none =>
      refine ⟨[.notice .nothingToRestoreFrom], by simp [Effect.isNotice], ?_⟩
      show (0, c.note .nothingToRestoreFrom) = _
      rw [Option.map_none, ← hb]
      rfl
  | some backend =>
      rw [hb, Option.bind_some] at h
      have hquiet : ∀ n : Notice α, ∀ e ∈ (Backend.restore backend).notices ++ [.notice n],
          e.isNotice = true :=
        fun n => List.forall_mem_append.mpr ⟨notices_quiet _, quiet_notice n⟩
      dsimp only at h ⊢
      cases hr : (Backend.restore backend).result with
      | error cause =>
          refine ⟨_, hquiet (.restoreFailed (Backend.location backend) cause), ?_⟩
          rw [← List.append_assoc]
          rfl
      | ok found =>
          cases found with
          | none =>
              refine ⟨_, hquiet (.nothingSaved (Backend.location backend)), ?_⟩
              rw [← List.append_assoc]
              rfl
          | some snapshot =>
              rw [hr] at h
              have hversion : snapshot.version ≠ Snapshot.currentVersion := by
                intro he
                exact absurd ((if_pos he).symm.trans h) (by simp)
              refine ⟨_, hquiet (.snapshotRejected (Backend.location backend)
                (.unsupportedVersion snapshot.version)), ?_⟩
              dsimp only
              rw [Store.import?, if_pos hversion, ← List.append_assoc]
              rfl

omit [Coordinate α] in
theorem restorable_eq_some {snapshot : Snapshot α} (h : c.restorable = some snapshot) :
    ∃ backend, c.backend = some backend ∧ (Backend.restore backend).result = .ok (some snapshot) ∧
      snapshot.version = Snapshot.currentVersion := by
  rw [restorable, Option.bind_eq_some_iff] at h
  obtain ⟨backend, hb, h⟩ := h
  refine ⟨backend, hb, ?_⟩
  split at h
  · rename_i taken hr
    by_cases hversion : taken.version = Snapshot.currentVersion
    · rw [if_pos hversion] at h
      obtain rfl := Option.some.inj h
      exact ⟨hr, hversion⟩
    · rw [if_neg hversion] at h
      exact absurd h (by simp)
  · exact absurd h (by simp)

/-- The state with a snapshot of the backend put over the records. -/
def imported (c : Coordinator α β) (snapshot : Snapshot α)
    (journal : List (Effect α)) : Coordinator α β :=
  { c with
    store := (c.store.import? snapshot).state
    backend := c.backend.map (fun backend => (Backend.restore backend).state)
    journal }

/-- Restoring puts a snapshot over the records, rebuilds the windows, and saves what has come of it.
-/
theorem restore_eq {snapshot : Snapshot α} (h : c.restorable = some snapshot) :
    ∃ lines d journal, d = (c.imported snapshot lines).rebuild.2 ∧
      c.restore = ((snapshot.panels.filter Store.Restorable).length,
        { d with backend := filed d.backend (d.store.snapshot d.moment.now), journal }) := by
  obtain ⟨backend, hb, hr, hversion⟩ := restorable_eq_some h
  simp only [imported]
  rw [restore, hb]
  dsimp only
  rw [hr]
  dsimp only
  rw [Store.import?_result hversion]
  dsimp only
  generalize hd : Coordinator.rebuild (α := α) (β := β) _ = rebuilt
  let noted := rebuilt.2.note
    (.restored (Backend.location backend)
      (snapshot.panels.filter Store.Restorable).length rebuilt.1)
  obtain ⟨saved, journal, hs⟩ := save_eq noted .restore
  have hsaved := save_backend noted .restore
  rw [hs] at hsaved ⊢
  obtain rfl : saved = _ := hsaved
  exact ⟨_, rebuilt.2, journal, (congrArg Prod.snd hd).symm, rfl⟩

/-- Every panel stands under its own name in the records that a snapshot is put over. -/
theorem imported_keyed (hc : c.Coherent) {snapshot : Snapshot α} (h : c.restorable = some snapshot)
    (journal : List (Effect α)) : (c.imported snapshot journal).store.Keyed := by
  obtain ⟨_, _, _, hversion⟩ := restorable_eq_some h
  show (c.store.import? snapshot).state.Keyed
  rw [Store.import?, if_neg (not_not_intro hversion)]
  exact Store.foldl_insert_keyed _ _ (fun id p hp => hc.paired.record_named hp)

/-- Restoring a snapshot leaves a coherent coordinator, and nothing held. -/
theorem restore_coherent (hc : c.Coherent) {snapshot : Snapshot α}
    (h : c.restorable = some snapshot) :
    c.restore.2.Coherent ∧ c.restore.2.tracker.session = none := by
  obtain ⟨lines, d, journal, hd, hr⟩ := restore_eq h
  have hrebuilt := rebuild_coherent (imported_keyed hc h lines) hc.stacked hc.attended hc.measured
  rw [← hd] at hrebuilt
  rw [hr]
  exact ⟨hrebuilt.1.aside d.content _ d.moment journal, hrebuilt.2⟩

end PanelDock.Coordinator
