import PanelDock.Proofs.Gestures
/-!
# No committed change is left unsaved

Panels are saved after every change of place, but not after every change: a panel that is
registered, content that is exchanged, a window that is raised, a gesture that begins or goes on are
left for the next save. So the store runs ahead of what is saved, and the question is how far.
`Reflects` is the answer: of a panel that was saved, only the stacking value, the content and the
time of the last change may be newer, and the geometry while a gesture is on it; a panel that was
not saved lies in its dock as it was put there.

A gesture that is dropped could lose its way of being caught up with. It does not: whatever drops it
commits.
-/

namespace PanelDock

variable {α β : Type}

/-! ## What is saved -/

/-- The snapshot that a backend would restore. -/
def latest [Backend β α] (backend : β) : Option (Snapshot α) :=
  match (Backend.restore backend).result with
  | .ok found => found
  | .error _ => none

/-- A backend that never fails: it takes every snapshot, and has the last one whenever it is asked.
-/
structure Dependable (β : Type) [Backend β α] : Prop where
  saves : ∀ (backend : β) (snapshot : Snapshot α), (Backend.save backend snapshot).result = .ok () ∧
    (Backend.restore (Backend.save backend snapshot).state).result = .ok (some snapshot)
  restores : ∀ backend : β, ∃ found, (Backend.restore backend).result = .ok found ∧
    (Backend.restore (Backend.restore backend).state).result = .ok found

theorem Dependable.latest_save [Backend β α] (h : Dependable β) (backend : β)
    (snapshot : Snapshot α) : latest (Backend.save backend snapshot).state = some snapshot := by
  rw [latest, (h.saves backend snapshot).2]

theorem Dependable.latest_restore [Backend β α] (h : Dependable β) (backend : β) :
    latest (Backend.restore backend).state = latest backend := by
  obtain ⟨found, hbefore, hafter⟩ := h.restores backend
  rw [latest, hafter, latest, hbefore]

theorem dependable_memory : Dependable (Memory α) where
  saves _ _ := ⟨rfl, rfl⟩
  restores backend := ⟨backend.snapshot, rfl, rfl⟩

namespace Coordinator

/-- A gesture is on this panel. -/
def Engaged (c : Coordinator α β) (id : PanelId) : Prop :=
  ∃ s, c.tracker.session = some s ∧ s.panel = id

/-- A panel that was saved is there as it was, but for the geometry while a gesture is on it, and
one that was not saved is untouched. -/
structure Reflects (saved : List (Panel α)) (c : Coordinator α β) : Prop where
  kept : ∀ p ∈ saved, ∃ q, c.store.get? p.id = some q ∧ p.SameLayout q ∧
    (¬ c.Engaged p.id → q.position = p.position ∧ q.size = p.size)
  fresh : ∀ id q, c.store.get? id = some q → (∀ p ∈ saved, p.id ≠ id) → q.Untouched

/-- What has just been saved is all there. -/
theorem reflects_values {c : Coordinator α β} (keyed : c.store.Keyed) :
    Reflects c.store.panels.values c where
  kept := by
    intro p hp
    obtain ⟨k, hk⟩ := (Catalog.mem_values_iff _ _).mp hp
    have hname : p.id = k := keyed k p hk
    exact ⟨p, hname ▸ hk, .refl p, fun _ => ⟨rfl, rfl⟩⟩
  fresh := by
    intro id q hq hnone
    exact absurd (keyed id q hq) (hnone q ((Catalog.mem_values_iff _ _).mpr ⟨id, hq⟩))

/-! ## Changes that commit nothing -/

/-- A change that leaves the saved part of the records alone: it adds untouched records, and changes
geometry only where a gesture is. -/
structure Light (c d : Coordinator α β) : Prop where
  kept : ∀ id p, c.store.get? id = some p → ∃ q, d.store.get? id = some q ∧ p.SameLayout q ∧
    (¬ d.Engaged id → q.position = p.position ∧ q.size = p.size)
  fresh : ∀ id q, d.store.get? id = some q → c.store.get? id = none → q.Untouched
  engaged : ∀ id, c.Engaged id → d.Engaged id

variable [Coordinate α]

/-- A change of the stacking value or the content of one panel, or of its geometry while a gesture
is on it, is light. -/
theorem light_of_update {c d : Coordinator α β} {id : PanelId} {z : Option (Option Int)}
    {mounted : Option Bool} {position : Option (Option (Point α))} {size : Option (Option (Size α))}
    (hstore : d.store =
      (c.store.update c.moment.now id { zIndex := z, mounted, position, size }).state)
    (geometry : d.Engaged id ∨ (position = none ∧ size = none))
    (engaged : ∀ i, c.Engaged i → d.Engaged i) :
    Light c d where
  kept := by
    intro i p hp
    rw [hstore]
    by_cases hi : i = id
    · subst hi
      refine ⟨_, record_here hp rfl, p.sameLayout_revised _ _ _ _ _, fun hfree => ?_⟩
      obtain ⟨rfl, rfl⟩ := geometry.resolve_left hfree
      exact ⟨rfl, rfl⟩
    · exact ⟨p, (record_elsewhere rfl hi).trans hp, .refl p, fun _ => ⟨rfl, rfl⟩⟩
  fresh := by
    intro i q hq hnone
    rw [hstore, Store.update_get? _ _ _ rfl] at hq
    by_cases hi : i = id
    · rw [if_pos hi, ← hi, hnone] at hq
      cases hq
    · rw [if_neg hi, hnone] at hq
      cases hq
  engaged := engaged

/-- A move that commits nothing changes nothing that was saved. -/
theorem Change.light {c d : Coordinator α β} {m : Move} (h : Change c m d)
    (commits : m.commits = false) : Light c d := by
  have hsame : ∀ e : Coordinator α β, e.tracker = c.tracker → ∀ i, c.Engaged i → e.Engaged i := by
    intro e he i hi
    rw [Engaged, he]
    exact hi
  cases h with
  | @registered id p new name fresh content journal =>
      refine ⟨?_, ?_, hsame _ rfl⟩
      · intro i q hq
        have hi : i ≠ id := by
          rintro rfl
          exact absurd (new.symm.trans hq) (by simp)
        exact ⟨q, (Catalog.get?_insert_of_ne _ _ hi).trans hq, .refl q, fun _ => ⟨rfl, rfl⟩⟩
      · intro i q hq hnone
        rcases Catalog.get?_insert_eq_some hq with ⟨_, rfl⟩ | ⟨_, hold⟩
        · exact fresh
        · exact absurd (hnone.symm.trans hold) (by simp)
  | refilledAside known bare content =>
      exact ⟨fun i q hq => ⟨q, hq, .refl q, fun _ => ⟨rfl, rfl⟩⟩,
        fun i q hq hnone => absurd (hnone.symm.trans hq) (by simp), hsame _ rfl⟩
  | refilled hw slot content journal => exact light_of_update rfl (Or.inr ⟨rfl, rfl⟩) (hsame _ rfl)
  | focused hw shown hz journal => exact light_of_update rfl (Or.inr ⟨rfl, rfl⟩) (hsame _ rfl)
  | grabbed hw hp shown handle idle opening hz name journal =>
      refine light_of_update rfl (Or.inr ⟨rfl, rfl⟩) ?_
      rintro i ⟨s, hs, _⟩
      exact absurd (idle.symm.trans hs) (by simp)
  | @sampled s w pointer release live mine hw backend journal =>
      obtain rfl : release = false := commits
      -- the session goes on, on the same panel
      have hstill : ∀ e : Coordinator α β, e.tracker = c.followed s pointer false →
          ∀ i, s.panel = i → e.Engaged i := by
        intro e he i hi
        exact ⟨c.advanced s pointer, by rw [he]; rfl, hi⟩
      have hengaged : ∀ e : Coordinator α β, e.tracker = c.followed s pointer false →
          ∀ i, c.Engaged i → e.Engaged i := by
        rintro e he i ⟨t, ht, hi⟩
        obtain rfl : s = t := Option.some.inj (live.symm.trans ht)
        exact hstill e he i hi
      cases hg : c.geometryAt s pointer with
      | moved i position => exact light_of_update rfl (Or.inl (hstill _ rfl _ rfl)) (hengaged _ rfl)
      | resized i size => exact light_of_update rfl (Or.inl (hstill _ rfl _ rfl)) (hengaged _ rfl)
  | _ => cases commits

/-- No gesture is on a panel that does not float. -/
theorem Coherent.not_engaged {c : Coordinator α β} (hc : c.Coherent) {id : PanelId} {p : Panel α}
    (hp : c.store.get? id = some p) (rests : p.placement ≠ .floating) : ¬ c.Engaged id := by
  rintro ⟨s, hs, rfl⟩
  obtain ⟨w, hw, _⟩ := hc.attended s hs
  obtain ⟨q, hq, _, _, same⟩ := hc.paired.record_of_window hw
  exact rests (Option.some.inj (hp.symm.trans hq) ▸ same.placement)

/-- What was saved still reflects the records after a light change. -/
theorem Reflects.light {saved : List (Panel α)} {c d : Coordinator α β} (h : Reflects saved c)
    (hl : Light c d) (hd : d.Coherent) : Reflects saved d where
  kept := by
    intro p hp
    obtain ⟨q, hq, hlayout, hgeometry⟩ := h.kept p hp
    obtain ⟨r, hr, hlayout', hgeometry'⟩ := hl.kept p.id q hq
    refine ⟨r, hr, hlayout.trans hlayout', fun hfree => ?_⟩
    obtain ⟨hposition, hsize⟩ := hgeometry (fun he => hfree (hl.engaged _ he))
    obtain ⟨hposition', hsize'⟩ := hgeometry' hfree
    exact ⟨hposition'.trans hposition, hsize'.trans hsize⟩
  fresh := by
    intro id q hq hnone
    cases hp : c.store.get? id with
    | none => exact hl.fresh id q hq hp
    | some p =>
        -- an untouched record keeps its layout, so no gesture is on it and it has no geometry
        -- either
        have huntouched := h.fresh id p hp hnone
        obtain ⟨r, hr, hlayout, hgeometry⟩ := hl.kept id p hp
        obtain rfl := Option.some.inj (hr.symm.trans hq)
        have hdocked : r.placement = .docked := hlayout.placement.trans huntouched.docked
        obtain ⟨hposition, hsize⟩ := hgeometry (hd.not_engaged hr (by rw [hdocked]; decide))
        exact ⟨hdocked, hlayout.visible.trans huntouched.visible,
          hposition.trans huntouched.unplaced, hsize.trans huntouched.unsized⟩

/-! ## Runs -/

variable [Backend β α] {c d : Coordinator α β}

/-- What a backend would restore, none if nothing was saved. -/
def savedPanels (backend : β) : List (Panel α) := (latest backend).elim [] (·.panels)

/-- Panels are saved after every change of place, and the backend has them. -/
structure Covered (c : Coordinator α β) : Prop where
  saving : c.saveOnTransition = true
  reflected : ∃ backend, c.backend = some backend ∧ Reflects (savedPanels backend) c

omit [Coordinate α] in
/-- Whenever the panels are saved, they are covered. -/
theorem covered_filed (hb : Dependable β) (saving : c.saveOnTransition = true)
    (keyed : c.store.Keyed) (backend : β) (now : Instant)
    (saved : c.backend = filed (some backend) (c.store.snapshot now)) : Covered c := by
  refine ⟨saving, (Backend.save backend (c.store.snapshot now)).state, saved, ?_⟩
  rw [savedPanels, hb.latest_save]
  exact reflects_values keyed

omit [Backend β α] in
theorem Change.saveOnTransition_eq {m : Move} (h : Change c m d) :
    d.saveOnTransition = c.saveOnTransition := by
  cases h <;> rfl

theorem Change.covered {es : List (Effect α)} {m : Move} (h : Change (c.record es) m d)
    (booked : Booked c m d) (hb : Dependable β) (hd : d.Coherent) (hcovered : c.Covered) :
    d.Covered := by
  obtain ⟨saving, backend, hbackend, hreflects⟩ := hcovered
  have hsaving : d.saveOnTransition = true := h.saveOnTransition_eq.trans saving
  rw [Booked, saving, hbackend] at booked
  cases hcommits : m.commits with
  | true =>
      rw [hcommits] at booked
      exact covered_filed hb hsaving (fun _ _ hp => hd.paired.record_named hp) backend _ booked
  | false =>
      rw [hcommits] at booked
      have hsame : Reflects (savedPanels backend) (c.record es) := ⟨hreflects.kept, hreflects.fresh⟩
      exact ⟨hsaving, backend, booked, hsame.light (h.light hcommits) hd⟩

omit [Backend β α] in
/-- Rebuilding windows saves nothing. -/
theorem rebuild_backend (c : Coordinator α β) :
    c.rebuild.2.backend = c.backend ∧ c.rebuild.2.saveOnTransition = c.saveOnTransition := by
  refine rebuild_keeps (P := fun e => e.backend = c.backend ∧
    e.saveOnTransition = c.saveOnTransition)
    ?_ ?_ ⟨rfl, rfl⟩
  · rintro e id he
    obtain ⟨content, journal, hd⟩ := discard_eq e id
    rw [hd]
    exact he
  · rintro e p he
    obtain ⟨slot, content, journal, hd⟩ := reopen_eq e p
    rw [hd]
    exact he

omit [Coordinate α] in
/-- A command that moves no panel leaves what is saved as it is, or saves everything. -/
theorem latest_backendBy {command : Command α β} (hb : Dependable β) {backend : β}
    (hbackend : c.backend = some backend) (own : ∀ other, command ≠ .request (.attach other)) :
    ∃ after, c.backendBy command = some after ∧
      (latest after = latest backend ∨ latest after = some (c.store.snapshot c.moment.now)) := by
  have hsaved : filed c.backend (c.store.snapshot c.moment.now) =
      some (Backend.save backend (c.store.snapshot c.moment.now)).state := by
    rw [filed, hbackend, Option.map_some]
  cases command with
  | request k =>
      cases k with
      | attach other => exact absurd rfl (own other)
      | restore =>
          refine ⟨(Backend.restore backend).state, ?_, Or.inl (hb.latest_restore backend)⟩
          rw [backendBy, hbackend, Option.map_some]
      | saveAll => exact ⟨_, hsaved, Or.inr (hb.latest_save backend _)⟩
      | _ => exact ⟨backend, hbackend, Or.inl rfl⟩
  | action a =>
      cases a with
      | saveAll => exact ⟨_, hsaved, Or.inr (hb.latest_save backend _)⟩
      | _ => exact ⟨backend, hbackend, Or.inl rfl⟩

/-- The panels stay covered through a command that attaches no other backend. -/
theorem Aftermath.covered {command : Command α β} (h : Aftermath c command d) (hc : c.Coherent)
    (hb : Dependable β) (own : ∀ other, command ≠ .request (.attach other)) (hcovered : c.Covered) :
    d.Covered := by
  obtain ⟨saving, backend, hbackend, hreflects⟩ := hcovered
  have hafter := h.coherent hc
  cases h with
  | aside stuck spent subscribers nextSubscriber journal =>
      obtain ⟨after, hby, hlatest⟩ := latest_backendBy hb hbackend own
      refine ⟨saving, after, hby, ?_⟩
      rcases hlatest with hlatest | hlatest
      · rw [savedPanels, hlatest]
        exact ⟨hreflects.kept, hreflects.fresh⟩
      · rw [savedPanels, hlatest]
        exact reflects_values (fun _ _ hp => hafter.paired.record_named hp)
  | changed asks es h booked =>
      exact h.covered booked hb hafter ⟨saving, backend, hbackend, hreflects⟩
  | @restored snapshot asks h =>
      have hkeyed : c.restore.2.store.Keyed := fun _ _ hp => hafter.paired.record_named hp
      obtain ⟨lines, e, journal, he, hrestore⟩ := restore_eq h
      obtain ⟨hrebuilt, hsaving⟩ := rebuild_backend (c.imported snapshot lines)
      rw [← he] at hrebuilt hsaving
      rw [hrestore] at hkeyed ⊢
      have hasked : e.backend = some (Backend.restore backend).state := by
        rw [hrebuilt]
        show c.backend.map _ = _
        rw [hbackend, Option.map_some]
      refine covered_filed hb (hsaving.trans saving) hkeyed
        (Backend.restore backend).state e.moment.now ?_
      rw [← hasked]

theorem Covered.run (hb : Dependable β) (steps : List (Moment × Command α β))
    (own : ∀ step ∈ steps, ∀ other, step.2 ≠ .request (.attach other)) {c : Coordinator α β}
    (hc : c.Coherent) (h : c.Covered) : (c.run steps).Covered := by
  induction steps generalizing c with
  | nil => exact h
  | cons step rest ih =>
      obtain ⟨moment, command⟩ := step
      obtain ⟨saving, backend, hbackend, hreflects⟩ := h
      have hduring := hc.during moment
      have hcovered : (c.during moment).Covered :=
        ⟨saving, backend, hbackend, hreflects.kept, hreflects.fresh⟩
      have ha := perform_aftermath hduring command
      exact ih (fun s hs => own s (List.mem_cons_of_mem _ hs)) (ha.coherent hduring)
        (ha.covered hduring hb (own _ List.mem_cons_self) hcovered)

/-- **No committed change is left unsaved.** A coordinator that saves after changes of place begins
with an empty backend that never fails. Then, whatever is done, the panels of the latest snapshot
are there as they were saved, but for the geometry of one that a gesture is on, and all others are
untouched; and if nothing was saved yet, all are untouched. -/
theorem saves_keep_up (hb : Dependable β) (h : Reachable c) (saving : c.saveOnTransition = true)
    {backend : β} (attached : c.backend = some backend) (empty : latest backend = none)
    (untouched : ∀ id p, c.store.get? id = some p → p.Untouched)
    (steps : List (Moment × Command α β))
    (own : ∀ step ∈ steps, ∀ other, step.2 ≠ .request (.attach other)) :
    ∃ after, (c.run steps).backend = some after ∧ match latest after with
      | none => ∀ id p, (c.run steps).store.get? id = some p → p.Untouched
      | some snapshot => Reflects snapshot.panels (c.run steps) := by
  have hcovered : c.Covered := by
    refine ⟨saving, backend, attached, ?_⟩
    rw [savedPanels, empty]
    exact ⟨fun p hp => absurd hp List.not_mem_nil, fun id p hp _ => untouched id p hp⟩
  obtain ⟨_, after, hafter, hreflects⟩ := hcovered.run hb steps own h.coherent
  refine ⟨after, hafter, ?_⟩
  rw [savedPanels] at hreflects
  cases hlatest : latest after with
  | none =>
      rw [hlatest] at hreflects
      exact fun id p hp => hreflects.fresh id p hp (fun _ hmem => absurd hmem List.not_mem_nil)
  | some snapshot =>
      rw [hlatest] at hreflects
      exact hreflects

open SmallRun in
/-- A panel flies out and is dragged about, and a second one is registered. -/
def halfway : List (Moment × Command Int (Memory Int)) :=
  [(clock, flyOutLog), (clock, .request (.beginDrag log (pointerAt 0 130 90))),
    (clock, .request (.pointerMove (pointerAt 0 150 80))), (clock, registerChart)]

open SmallRun in
/-- The snapshot from before the drag still reflects the panels in the middle of it. -/
theorem halfway_is_reflected : Reachable docked ∧
    (docked.run halfway).tracker.session.map (·.panel) = some log ∧
    ∃ after snapshot, (docked.run halfway).backend = some after ∧ latest after = some snapshot ∧
      snapshot.panels.map (·.id) = [log] ∧ Reflects snapshot.panels (docked.run halfway) := by
  have huntouched : ∀ id p, docked.store.get? id = some p → p.Untouched := by
    intro id p hp
    have hvalues := (Catalog.mem_values_iff _ _).mpr ⟨id, hp⟩
    have hall : ∀ p ∈ docked.store.panels.values, p.placement = .docked ∧ p.visible = true ∧
        p.position = none ∧ p.size = none := by decide
    obtain ⟨hdocked, hvisible, hposition, hsize⟩ := hall p hvalues
    exact ⟨hdocked, hvisible, hposition, hsize⟩
  obtain ⟨after, hafter, hreflects⟩ := saves_keep_up dependable_memory reachable_docked rfl
    (show docked.backend = some {} from rfl) rfl huntouched halfway (fun step hstep other he => by
      simp only [halfway, List.mem_cons, List.not_mem_nil, or_false] at hstep
      rcases hstep with rfl | rfl | rfl | rfl <;> cases he)
  have hsaved :
      (docked.run halfway).backend.map (fun m => m.snapshot.map (fun s => s.panels.map (·.id))) =
      some (some [log]) := by decide
  rw [hafter, Option.map_some, Option.some.injEq, Option.map_eq_some_iff] at hsaved
  obtain ⟨snapshot, hsnapshot, hids⟩ := hsaved
  have hlatest : latest after = some snapshot := hsnapshot
  rw [hlatest] at hreflects
  exact ⟨reachable_docked, by decide, after, snapshot, hafter, hlatest, hids, hreflects⟩

end Coordinator

end PanelDock
