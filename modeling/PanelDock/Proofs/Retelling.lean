import PanelDock.Proofs.Reporting
/-!
# What observers see of restoring

Restoring tells first that everything may have changed. Then it opens the windows of all panels that
float, in the order in which panels are listed, and each window that opens is told in the record of
its panel. No two panels of that list have one name, and to open a window shows in one record only:
so of each panel it is told at most once, and what was told of it in its turn is what it is at the
end. `Retold` is what holds between two turns.
-/

namespace PanelDock

variable {α β : Type}

/-- Floats, and has all that a window needs. -/
structure Panel.InWindow (p : Panel α) : Prop where
  floats : p.placement = .floating
  placed : p.position.isSome = true
  sized : p.size.isSome = true
  stacked : p.zIndex.isSome = true

/-- Two records stand at the same place of the list. -/
def Panel.SamePlace (p q : Panel α) : Prop := q.id = p.id ∧ q.dock = p.dock ∧ q.order = p.order

theorem Panel.Precedes.same {p q p' q' : Panel α} (h : p.Precedes q) (hp : p.SamePlace p')
    (hq : q.SamePlace q') : p'.Precedes q' := by
  obtain ⟨hid, hdock, horder⟩ := hp
  obtain ⟨hid', hdock', horder'⟩ := hq
  rw [Panel.Precedes, hid, hdock, horder, hid', hdock', horder']
  exact h

theorem Panel.Precedes.ne {p q : Panel α} (h : p.Precedes q) : p ≠ q := by
  rintro rfl
  rcases h with hdock | ⟨_, horder | ⟨_, hid⟩⟩
  · exact String.lt_irrefl _ hdock
  · exact absurd horder (by simp)
  · exact String.lt_irrefl _ hid

variable [Coordinate α]

/-- What is told of a patch to a record that is known: the record as it is then, if anything
differs. -/
theorem Store.update_tells {s : Store α} {id : PanelId} {p : Panel α} (hp : s.get? id = some p)
    (now : Instant) (patch : Panel.Patch α) (hdock : patch.dock = none) :
    emitted (s.update now id patch).effects =
        (if p.changedBy patch then [p.revised patch now] else []).map .updated ∧
      written (s.update now id patch).effects = [] := by
  have hadmitted : admitted patch = patch := by
    rw [admitted, clearsDock, hdock]
    rfl
  obtain ⟨kept, quiet, hupdate⟩ := update_known hp now patch
  rw [hupdate, hadmitted]
  split
  · rename_i hchanged
    rw [emitted_append, emitted_quiet quiet, written_append, written_quiet quiet, Panel.revised,
      if_pos hchanged]
    exact ⟨rfl, rfl⟩
  · exact ⟨emitted_quiet quiet, written_quiet quiet⟩

theorem Panel.inWindow_revised (p : Panel α) (w : Chrome α) (z : Int) (now : Instant) :
    (p.revised (Coordinator.openPatch w z) now).InWindow := by
  obtain ⟨x, hx, _⟩ := agrees_settled p.position w.position
  obtain ⟨y, hy, _⟩ := agrees_settled p.size w.size
  have hz : (p.revised (Coordinator.openPatch w z) now).zIndex = some z := settled_some _ _
  refine ⟨settled_some _ _, ?_, ?_, ?_⟩
  · exact Option.isSome_iff_exists.mpr ⟨x, hx⟩
  · exact Option.isSome_iff_exists.mpr ⟨y, hy⟩
  · exact Option.isSome_iff_exists.mpr ⟨z, hz⟩

namespace Coordinator

/-- A window that is opened anew is told in the record of its panel, or not at all if nothing
differs. -/
theorem reopen_tells {c : Coordinator α β} {p : Panel α} (hp : c.store.get? p.id = some p) :
    ∃ told : List (Panel α), Grows c (c.reopen p) (told.map .updated) [] ∧ told.length ≤ 1 ∧
      ∀ q ∈ told, (c.reopen p).store.get? p.id = some q ∧ p.SamePlace q ∧ q.InWindow := by
  have hhandled : Mute c (c.discard p.id).handled := ((Mute.refl c).discard p.id).beside rfl rfl
  obtain ⟨d, v, z, hfilled, hfloat⟩ :=
    float_amends (c.discard p.id).handled ((c.discard p.id).recreated p)
  have hmute := hhandled.trans hfilled
  have hknown : d.store.get? p.id = some p := by
    rw [Store.get?, hmute.panels]
    exact hp
  have hreopen :
      c.reopen p = (d.amend p.id (openPatch v z)).note (.flyoutRecreated p.id z p.visible) := by
    rw [handled, recreated, freshWindow] at hfloat
    rw [reopen]
    dsimp only [newWindow] at hfloat ⊢
    rw [hfloat]
  obtain ⟨htold, hunsaved⟩ := Store.update_tells hknown d.moment.now (openPatch v z) rfl
  have hamended : Grows d (d.amend p.id (openPatch v z)) _ [] := ⟨_, rfl, htold, hunsaved⟩
  have hgrows := (hmute.grows.trans hamended).trans
    ((Mute.refl _).note (.flyoutRecreated p.id z p.visible)).grows
  rw [List.nil_append, List.append_nil, List.append_nil, ← hreopen] at hgrows
  refine ⟨_, hgrows, ?_, ?_⟩
  · split <;> simp
  · intro q hq
    obtain rfl : q = p.revised (openPatch v z) d.moment.now := by
      split at hq
      · exact List.mem_singleton.mp hq
      · exact absurd hq List.not_mem_nil
    refine ⟨?_, ⟨rfl, rfl, rfl⟩, p.inWindow_revised v z _⟩
    rw [hreopen]
    show (d.store.update d.moment.now p.id (openPatch v z)).state.get? p.id = _
    rw [Store.update_get? _ _ _ rfl, if_pos rfl, hknown, Option.map_some]

/-- Between two turns of the loop: of some of the panels that are done it was told that they were
updated, each as it still is, in the order of the list; the records of the rest are as they were. -/
structure Retold (c : Coordinator α β) (done rest told : List (Panel α))
    (e : Coordinator α β) : Prop where
  grows : Grows c e (told.map .updated) []
  current : ∀ q ∈ told, e.store.get? q.id = some q ∧ q.InWindow ∧ ∃ p ∈ done, p.SamePlace q
  ordered : told.Pairwise Panel.Precedes
  pending : ∀ r ∈ rest, e.store.get? r.id = some r

/-- One turn of the loop. -/
theorem Retold.step {c e : Coordinator α β} {done rest told : List (Panel α)} {p : Panel α}
    (h : Retold c done (p :: rest) told e) (nodup : ((done ++ p :: rest).map (·.id)).Nodup)
    (ascending : (done ++ p :: rest).Pairwise Panel.Precedes) :
    ∃ more, Retold c (done ++ [p]) rest (told ++ more) (e.reopen p) := by
  obtain ⟨hdone, hrest, _⟩ := turn_apart nodup
  obtain ⟨more, hgrows, hone, hmore⟩ := reopen_tells (h.pending p List.mem_cons_self)
  -- what was told before is about other panels
  have hother : ∀ q ∈ told, q.id ≠ p.id := by
    intro q hq
    obtain ⟨_, _, r, hr, hid, _⟩ := h.current q hq
    rw [hid]
    exact hdone r hr
  refine ⟨more, ⟨?_, ?_, ?_, ?_⟩⟩
  · rw [List.map_append]
    exact h.grows.trans hgrows
  · intro q hq
    rcases List.mem_append.mp hq with hq | hq
    · obtain ⟨hcurrent, hwindow, r, hr, hsame⟩ := h.current q hq
      exact ⟨(reopen_elsewhere e p (hother q hq)).2.trans hcurrent, hwindow, r,
        List.mem_append_left _ hr, hsame⟩
    · obtain ⟨hcurrent, hsame, hwindow⟩ := hmore q hq
      rw [← hsame.1] at hcurrent
      exact ⟨hcurrent, hwindow, p, by simp, hsame⟩
  · refine List.pairwise_append.mpr ⟨h.ordered, ?_, ?_⟩
    · rcases more with _ | ⟨q, _ | ⟨r, more⟩⟩
      · exact List.Pairwise.nil
      · exact List.pairwise_singleton _ _
      · exact absurd hone (by simp)
    · intro q hq q' hq'
      obtain ⟨_, _, r, hr, hsame⟩ := h.current q hq
      obtain ⟨_, hsame', _⟩ := hmore q' hq'
      have hprecedes := (List.pairwise_append.mp ascending).2.2 r hr p List.mem_cons_self
      exact hprecedes.same hsame hsame'
  · intro r hr
    exact (reopen_elsewhere e p (hrest r hr).1).2.trans (h.pending r (List.mem_cons_of_mem _ hr))

/-- The whole loop. -/
theorem Retold.foldl {c : Coordinator α β} (rest : List (Panel α)) {done told : List (Panel α)}
    {e : Coordinator α β} (h : Retold c done rest told e)
    (nodup : ((done ++ rest).map (·.id)).Nodup)
    (ascending : (done ++ rest).Pairwise Panel.Precedes) :
    ∃ told, Retold c (done ++ rest) [] told (rest.foldl Coordinator.reopen e) := by
  induction rest generalizing done told e with
  | nil =>
      rw [List.append_nil]
      exact ⟨told, h⟩
  | cons p rest ih =>
      obtain ⟨more, hstep⟩ := h.step nodup ascending
      rw [List.append_cons] at nodup ascending ⊢
      exact ih hstep nodup ascending

/-- When windows are rebuilt, it is told of panels in windows only, one after the other. -/
theorem rebuild_tells {c : Coordinator α β} (keyed : c.store.Keyed) :
    ∃ told, Retold c c.floating [] told c.rebuild.2 := by
  have hdiscarded : Mute c (c.stale.foldl Coordinator.discard c) :=
    List.foldlRecOn _ _ (Mute.refl c) (fun d hd id _ => hd.discard id)
  have hstart : Retold c [] c.floating [] (c.stale.foldl Coordinator.discard c) := by
    refine ⟨hdiscarded.grows, fun q hq => absurd hq List.not_mem_nil, List.Pairwise.nil,
      fun r hr => ?_⟩
    rw [foldl_discard_store]
    exact ((Store.mem_list_floating keyed r).mp hr).1
  rw [rebuild_eq]
  exact hstart.foldl c.floating (Store.nodup_list keyed _) (Store.list_ascending keyed _)

variable [Backend β α]

omit [Coordinate α] in
/-- What is told when a snapshot is put over the records. -/
theorem import?_tells {snapshot : Snapshot α} (h : snapshot.version = Snapshot.currentVersion)
    (store : Store α) : emitted (store.import? snapshot).effects = [.reset] ∧
      written (store.import? snapshot).effects = [] := by
  rw [Store.import?, if_neg (not_not_intro h)]
  dsimp only
  have hquiet : ∀ x ∈ (snapshot.panels.filter (fun p => !Store.Restorable p)).map
      (fun p => (Effect.notice (.savedPanelSkipped p.id) : Effect α)), x.isNotice = true := by
    intro x hx
    obtain ⟨p, _, rfl⟩ := List.mem_map.mp hx
    rfl
  rw [emitted_append, written_append, emitted_quiet hquiet, written_quiet hquiet]
  exact ⟨rfl, rfl⟩

/-- Restoring tells of the merged records first, then rebuilds the windows, and saves at the end. -/
theorem restore_steps {c : Coordinator α β} {snapshot : Snapshot α}
    (found : c.restorable = some snapshot) :
    ∃ es n, emitted es = [.reset] ∧ written es = [] ∧
      c.restore.2 =
        (((c.imported snapshot (c.journal ++ es)).rebuild.2.note n).save .restore).2 := by
  obtain ⟨backend, hb, hr, hversion⟩ := restorable_eq_some found
  obtain ⟨hreset, hunsaved⟩ := import?_tells hversion c.store
  refine ⟨(Backend.restore backend).notices ++ (c.store.import? snapshot).effects,
    .restored (Backend.location backend) (snapshot.panels.filter Store.Restorable).length
      (c.imported snapshot (c.journal ++ ((Backend.restore backend).notices ++
        (c.store.import? snapshot).effects))).rebuild.1, ?_, ?_, ?_⟩
  · rw [emitted_append, emitted_quiet (notices_quiet _), hreset]
    rfl
  · rw [written_append, written_quiet (notices_quiet _), hunsaved]
    rfl
  · rw [restore, imported, hb]
    dsimp only
    rw [hr]
    dsimp only
    rw [Store.import?_result hversion, Option.map_some, ← List.append_assoc]
    rfl

/-- What is told and saved when a snapshot is restored. -/
theorem restore_tells {c : Coordinator α β} (hc : c.Coherent) {snapshot : Snapshot α}
    (found : c.restorable = some snapshot) :
    ∃ (told : List (Panel α)) (saved : List (Snapshot α)),
      Grows c c.restore.2 (.reset :: told.map .updated) saved ∧ told.Pairwise Panel.Precedes ∧
      (∀ q ∈ told, c.restore.2.store.get? q.id = some q ∧ q.InWindow) ∧
      ∀ s ∈ saved, s.panels = c.restore.2.store.panels.values := by
  obtain ⟨es, n, hreset, hunsaved, hrestore⟩ := restore_steps found
  have himported : Grows c (c.imported snapshot (c.journal ++ es)) [.reset] [] :=
    ⟨es, rfl, hreset, hunsaved⟩
  obtain ⟨told, hretold⟩ := rebuild_tells (imported_keyed hc found (c.journal ++ es))
  generalize (c.imported snapshot (c.journal ++ es)).rebuild.2 = d at hrestore hretold
  obtain ⟨saved, hsaves, hpanels, hnow⟩ := save_grows (d.note n) .restore
  rw [← hrestore] at hsaves hpanels hnow
  have hgrown := ((himported.trans hretold.grows).trans ((Mute.refl d).note n).grows).trans hsaves
  simp only [List.append_nil, List.nil_append] at hgrown
  refine ⟨told, saved, hgrown, hretold.ordered, fun q hq => ?_, hnow⟩
  obtain ⟨hcurrent, hwindow, _⟩ := hretold.current q hq
  rw [Store.get?, hpanels]
  exact ⟨hcurrent, hwindow⟩

/-- Without a snapshot to restore, nothing is told or saved. -/
theorem refused_tells {c : Coordinator α β} (refused : c.restorable = none) :
    Mute c c.restore.2 := by
  obtain ⟨es, quiet, hrestore⟩ := restore_refused refused
  rw [hrestore]
  exact ((Mute.refl c).record quiet).beside rfl rfl

/-! ## What observers see -/

omit [Coordinate α] in
/-- Panels that stand one before the other, each as it is in the store, have names of their own. -/
theorem nodup_of_precedes {store : Store α} {told : List (Panel α)}
    (ordered : told.Pairwise Panel.Precedes) (current : ∀ p ∈ told, store.get? p.id = some p) :
    (told.map (·.id)).Nodup := by
  refine List.pairwise_map.mpr (ordered.imp_of_mem (fun {p q} hp hq hprecedes hid => ?_))
  have hq' := current q hq
  rw [← hid, current p hp] at hq'
  exact hprecedes.ne (Option.some.inj hq')

/-- **Observers never see half of a transition.** Every command but that to restore tells one event
at most, of the panels as they are when it returns. A restore that finds a snapshot first tells that
everything may have changed, and then of panels in windows, each at most once and as it is when the
restore returns, in the order in which panels are listed; one that finds none tells nothing. -/
theorem transitions_are_whole {c : Coordinator α β} (h : c.Reachable) (moment : Moment)
    (command : Command α β) :
    let d := ((c.during moment).perform command).2
    ∃ es, d.journal = c.journal ++ es ∧
      (command ≠ .request .restore →
        (emitted es).length ≤ 1 ∧ ∀ e ∈ emitted es, e.TrueOf d.store.panels) ∧
      (command = .request .restore → ∀ snapshot, c.restorable = some snapshot →
        ∃ told : List (Panel α), emitted es = .reset :: told.map .updated ∧
          (told.map (·.id)).Nodup ∧ told.Pairwise Panel.Precedes ∧
          ∀ p ∈ told, p.InWindow ∧ d.store.get? p.id = some p) ∧
      (command = .request .restore → c.restorable = none → emitted es = []) := by
  intro d
  have hc := h.coherent.during moment
  by_cases hrestore : command = .request .restore
  · subst hrestore
    cases hfound : c.restorable with
    | none =>
        obtain ⟨⟨es, hjournal, htold, _⟩, _⟩ := refused_tells (c := c.during moment) hfound
        exact ⟨es, hjournal, fun hother => absurd rfl hother, fun _ _ he => (by cases he),
          fun _ _ => htold⟩
    | some snapshot =>
        obtain ⟨told, saved, ⟨es, hjournal, htold, _⟩, hordered, hcurrent, _⟩ :=
          restore_tells (c := c.during moment) hc hfound
        have hnodup := nodup_of_precedes hordered (fun p hp => (hcurrent p hp).1)
        exact ⟨es, hjournal, fun hother => absurd rfl hother,
          fun _ _ _ => ⟨told, htold, hnodup, hordered,
          fun p hp => (hcurrent p hp).symm⟩, fun _ he => by cases he⟩
  · have hkeyed : (c.during moment).store.Keyed := fun _ _ hp => hc.paired.record_named hp
    obtain ⟨told, saved, ⟨es, hjournal, htold, _⟩, hone, _⟩ := Reports.perform hkeyed hrestore
    refine ⟨es, hjournal, fun _ => ?_, fun he => absurd he hrestore, fun he => absurd he hrestore⟩
    rw [htold]
    rcases hone with ⟨rfl, _⟩ | ⟨e, rfl, htrue⟩
    · exact ⟨Nat.zero_le 1, fun e he => absurd he List.not_mem_nil⟩
    · exact ⟨Nat.le_refl 1, fun f hf => List.mem_singleton.mp hf ▸ htrue⟩

open SmallRun in
/-- To let a panel float is told by one event, and to restore with two panels in windows by one that
everything may have changed and then of panels in windows. -/
theorem small_run_is_whole :
    (Reachable docked ∧ ∃ es, ((docked.during clock).perform flyOutLog).2.journal =
      docked.journal ++ es ∧
      (emitted es).length = 1 ∧ ∀ e ∈ emitted es, e.TrueOf afloat.store.panels) ∧
    Reachable sideBySide ∧ ∃ es, ((sideBySide.during clock).perform (.request .restore)).2.journal =
        sideBySide.journal ++ es ∧ ∃ told : List (Panel Int), emitted es =
          .reset :: told.map .updated ∧
      (told.map (·.id)).Nodup := by
  constructor
  · obtain ⟨es, hjournal, hother, _⟩ := transitions_are_whole reachable_docked clock flyOutLog
    have hlength : (emitted ((docked.during clock).perform flyOutLog).2.journal).length =
        (emitted docked.journal).length + 1 := by decide
    rw [hjournal, emitted_append, List.length_append] at hlength
    exact ⟨reachable_docked, es, hjournal, by omega, (hother (by simp [flyOutLog])).2⟩
  · obtain ⟨es, hjournal, _, haccepted, _⟩ :=
      transitions_are_whole reachable_sideBySide clock (.request .restore)
    obtain ⟨snapshot, found⟩ : ∃ snapshot, sideBySide.restorable = some snapshot :=
      Option.isSome_iff_exists.mp (by decide)
    obtain ⟨told, htold, hnodup, _⟩ := haccepted rfl snapshot found
    exact ⟨reachable_sideBySide, es, hjournal, told, htold, hnodup⟩

end Coordinator

end PanelDock
