import Mathlib.Data.List.Induction
import PanelDock.Proofs.Gestures
import PanelDock.Proofs.Ranking
import PanelDock.Settings.Validation
/-!
# A press finds the window that was raised

A press goes to the window with the greatest value under the pointer, and of several with one value
to that of the panel that is named last. A window that is raised gets a value above all others as
long as there is room in the layer. When there is none left it gets the top of the layer like every
window that is raised from then on, and the names decide between them. So a press finds the window
that was just raised, unless there is no room and a window of a later name stands at the top as
well.
-/

namespace PanelDock

variable {α β : Type}

/-- The window is shown, and covers the point. -/
def Chrome.Covers [Coordinate α] (w : Chrome α) (point : Point α) : Prop :=
  w.displayed = true ∧ w.bounds.contains point = true

/-- A part of the window is hit where it covers the point. -/
theorem Chrome.hitAt?_isSome [Coordinate α] (w : Chrome α) (point : Point α) :
    (∃ hit, w.hitAt? point = some hit) ↔ w.Covers point := by
  rw [hitAt?, Covers, ← Bool.and_eq_true]
  split
  · rename_i hcovers
    exact ⟨fun _ => hcovers, fun _ => ⟨_, rfl⟩⟩
  · rename_i hcovers
    exact ⟨fun ⟨hit, hhit⟩ => absurd hhit (by simp), fun h => absurd h hcovers⟩

namespace Coordinator

/-! ## The candidate on top -/

/-- The last candidate with the greatest value: none before it has a greater one, and all behind it
have a smaller one. -/
def LastGreatest (l : List Candidate) (top : Candidate) : Prop :=
  ∃ before after, l = before ++ top :: after ∧ (∀ x ∈ before, x.zIndex ≤ top.zIndex) ∧
    ∀ x ∈ after, x.zIndex < top.zIndex

theorem topmost?_concat (l : List Candidate) (x : Candidate) : topmost? (l ++ [x]) =
    match topmost? l with
    | none => some x
    | some best => if best.zIndex ≤ x.zIndex then some x else some best := by
  rw [topmost?, List.foldl_append]
  rfl

theorem LastGreatest.le {l : List Candidate} {top x : Candidate} (h : LastGreatest l top)
    (hx : x ∈ l) : x.zIndex ≤ top.zIndex := by
  obtain ⟨before, after, rfl, hbefore, hafter⟩ := h
  rcases List.mem_append.mp hx with hx | hx
  · exact hbefore x hx
  · rcases List.mem_cons.mp hx with rfl | hx
    · exact Int.le_refl _
    · exact Int.le_of_lt (hafter x hx)

theorem LastGreatest.mem {l : List Candidate} {top : Candidate} (h : LastGreatest l top) :
    top ∈ l := by
  obtain ⟨before, after, rfl, _, _⟩ := h
  exact List.mem_append_right _ List.mem_cons_self

/-- Of the candidates with the greatest value all others stand before the last. -/
theorem LastGreatest.before {l : List Candidate} {top x : Candidate} (h : LastGreatest l top)
    {R : Candidate → Candidate → Prop} (ordered : l.Pairwise R) (hx : x ∈ l)
    (same : x.zIndex = top.zIndex) : x = top ∨ R x top := by
  obtain ⟨before, after, rfl, _, hafter⟩ := h
  rcases List.mem_append.mp hx with hx | hx
  · exact Or.inr ((List.pairwise_append.mp ordered).2.2 x hx top List.mem_cons_self)
  · rcases List.mem_cons.mp hx with rfl | hx
    · exact Or.inl rfl
    · exact absurd same (Int.ne_of_lt (hafter x hx))

/-- What lies on top of the candidates is the last one with the greatest value. -/
theorem lastGreatest_of_topmost? (l : List Candidate) : match topmost? l with
    | none => l = []
    | some top => LastGreatest l top := by
  induction l using List.reverseRecOn with
  | nil => rfl
  | append_singleton l x ih =>
      rw [topmost?_concat]
      cases htop : topmost? l with
      | none =>
          rw [htop] at ih
          subst ih
          exact ⟨[], [], rfl, List.forall_mem_nil _, List.forall_mem_nil _⟩
      | some best =>
          rw [htop] at ih
          dsimp only
          by_cases hle : best.zIndex ≤ x.zIndex
          · rw [if_pos hle]
            exact ⟨l, [], rfl, fun y hy => Int.le_trans (ih.le hy) hle, List.forall_mem_nil _⟩
          · rw [if_neg hle]
            obtain ⟨before, after, rfl, hbefore, hafter⟩ := ih
            refine ⟨before, after ++ [x], by simp, hbefore, fun y hy => ?_⟩
            rcases List.mem_append.mp hy with hy | hy
            · exact hafter y hy
            · rw [List.mem_singleton.mp hy]
              exact Int.lt_of_not_ge hle

/-! ## The windows under a point -/

variable [Coordinate α] {c d : Coordinator α β} {id : PanelId} {w : Chrome α}

/-- The candidates are the windows that cover the point. -/
theorem mem_candidates {point : Point α} {x : Candidate} : x ∈ c.candidates point ↔
    ∃ i v hit, c.flyouts.get? i = some v ∧ v.hitAt? point = some hit ∧
      x = { zIndex := v.zIndex.getD (-2147483648), panel := v.panel, hit } := by
  rw [candidates, List.mem_filterMap]
  constructor
  · rintro ⟨v, hv, hx⟩
    obtain ⟨i, hi⟩ := (Catalog.mem_values_iff _ _).mp hv
    obtain ⟨hit, hhit, rfl⟩ := Option.map_eq_some_iff.mp hx
    exact ⟨i, v, hit, hi, hhit, rfl⟩
  · rintro ⟨i, v, hit, hi, hhit, rfl⟩
    exact ⟨v, (Catalog.mem_values_iff _ _).mpr ⟨i, hi⟩, by rw [hhit, Option.map_some]⟩

/-- They stand in the order of the names of their panels. -/
theorem candidates_ordered (hc : c.Paired) (point : Point α) :
    (c.candidates point).Pairwise (fun x y => compare x.panel y.panel = .lt) := by
  have hwindows : c.flyouts.values.Pairwise (fun v w => compare v.panel w.panel = .lt) := by
    refine List.pairwise_map.mpr (c.flyouts.ascending.imp_of_mem (fun {a b} ha hb hlt => ?_))
    have hnamed := hc.window_named ((Catalog.mem_entries_iff _ a.1 a.2).mp ha)
    have hnamed' := hc.window_named ((Catalog.mem_entries_iff _ b.1 b.2).mp hb)
    rw [hnamed, hnamed']
    exact hlt
  refine hwindows.filterMap _ (fun v w hlt x hx y hy => ?_)
  obtain ⟨_, _, rfl⟩ := Option.map_eq_some_iff.mp hx
  obtain ⟨_, _, rfl⟩ := Option.map_eq_some_iff.mp hy
  exact hlt

/-- A candidate is a window at the value that it shows. -/
theorem window_of_candidate (hc : c.Coherent) {point : Point α} {x : Candidate}
    (hx : x ∈ c.candidates point) :
    ∃ v, c.flyouts.get? x.panel = some v ∧ v.Covers point ∧ v.zIndex = some x.zIndex := by
  obtain ⟨i, v, hit, hv, hhit, rfl⟩ := mem_candidates.mp hx
  obtain ⟨r, _, hr⟩ := hc.stacked.registered i v hv
  refine ⟨v, ?_, (v.hitAt?_isSome point).mp ⟨hit, hhit⟩, ?_⟩
  · rw [hc.paired.window_named hv]
    exact hv
  · rw [hr]
    rfl

/-- Every window that covers the point is among them. -/
theorem candidate_of_window (hc : c.Coherent) {point : Point α} (hw : c.flyouts.get? id = some w)
    (covers : w.Covers point) :
    ∃ x ∈ c.candidates point, x.panel = id ∧ w.zIndex = some x.zIndex := by
  obtain ⟨hit, hhit⟩ := (w.hitAt?_isSome point).mpr covers
  obtain ⟨r, _, hr⟩ := hc.stacked.registered id w hw
  refine ⟨_, mem_candidates.mpr ⟨id, w, hit, hw, hhit, rfl⟩, hc.paired.window_named hw, ?_⟩
  rw [hr]
  rfl

variable [Backend β α]

theorem pointerDown_answer (c : Coordinator α β) (pointer : Pointer α) : (c.pointerDown pointer).1 =
    (topmost? (c.candidates pointer.position)).map (fun top => (top.panel, top.hit)) := by
  rw [pointerDown]
  cases topmost? (c.candidates pointer.position) <;> rfl

/-- Where no window has a greater value, a press finds this one, unless there is one of a later name
with the same value. -/
theorem pressed_iff (hc : c.Coherent) (hw : c.flyouts.get? id = some w) {z : Int}
    (hz : w.zIndex = some z)
    (greatest : ∀ i v y, c.flyouts.get? i = some v → v.zIndex = some y → y ≤ z)
    {pointer : Pointer α} (covers : w.Covers pointer.position) :
    (∃ hit, (c.pointerDown pointer).1 = some (id, hit)) ↔ ∀ i v, compare id i = .lt →
      c.flyouts.get? i = some v → v.Covers pointer.position → v.zIndex ≠ some z := by
  have hordered := candidates_ordered hc.paired pointer.position
  obtain ⟨x, hx, hpanel, hshows⟩ := candidate_of_window hc hw covers
  obtain rfl : x.zIndex = z := Option.some.inj (hshows.symm.trans hz)
  have htop := lastGreatest_of_topmost? (c.candidates pointer.position)
  rw [pointerDown_answer]
  cases hfound : topmost? (c.candidates pointer.position) with
  | none =>
      rw [hfound] at htop
      rw [htop] at hx
      exact absurd hx List.not_mem_nil
  | some top =>
      rw [hfound] at htop
      obtain ⟨v, hv, hcovers, hvalue⟩ := window_of_candidate hc htop.mem
      have hsame : x.zIndex = top.zIndex := Int.le_antisymm (htop.le hx) (greatest _ v _ hv hvalue)
      rw [Option.map_some]
      constructor
      · rintro ⟨hit, hanswer⟩ i u hlt hu hucovers htied
        obtain ⟨hid, _⟩ := Prod.mk.inj (Option.some.inj hanswer)
        -- a window of a later name with this value would be the one on top, or would stand before
        -- it
        obtain ⟨y, hy, hyname, hyvalue⟩ := candidate_of_window hc hu hucovers
        have hyz : y.zIndex = top.zIndex := (Option.some.inj (hyvalue.symm.trans htied)).trans hsame
        rw [← hid, ← hyname] at hlt
        rcases htop.before hordered hy hyz with rfl | hbefore
        · rw [Std.ReflOrd.compare_self] at hlt
          cases hlt
        · exact absurd (Std.TransCmp.lt_trans hlt hbefore)
            (by rw [Std.ReflOrd.compare_self]; decide)
      · intro hnone
        rcases htop.before hordered hx hsame with rfl | hbefore
        · exact ⟨x.hit, by rw [hpanel]⟩
        · rw [hpanel] at hbefore
          exact absurd (hvalue.trans (congrArg some hsame.symm)) (hnone _ v hbefore hv hcovers)

/-! ## After a raise -/

omit [Coordinate α] [Backend β α] in
/-- No other window has a greater value than one that rises, and the same only at the top of the
layer. -/
theorem rises_le {z y : Int} {i : PanelId} {v : Chrome α} (rises : Rises c.flyouts c.stack id z)
    (hi : i ≠ id) (hv : c.flyouts.get? i = some v) (hy : v.zIndex = some y) :
    y ≤ z ∧ (y = z ↔ y = Layer.popup.greatest) := by
  have htop := rises.top
  rcases rises.above i v y hi hv hy with hlt | ⟨_, hfull, hsame⟩
  · exact ⟨by omega, by omega⟩
  · exact ⟨by omega, by omega⟩

/-- To raise a window that is shown succeeds. The window is then the same but for its value, which
rises above the others, and these are left alone. -/
theorem focus_raises (hc : c.Coherent) (hr : Ranked c.flyouts c.stack)
    (hw : c.flyouts.get? id = some w) (shown : w.displayed = true) : (c.focusFlyout id).1 = true ∧
      ∃ v z, (c.focusFlyout id).2.flyouts.get? id = some v ∧ v.zIndex = some z ∧
        Rises c.flyouts c.stack id z ∧ v.displayed = true ∧ v.bounds = w.bounds ∧
        ∀ i, i ≠ id → (c.focusFlyout id).2.flyouts.get? i = c.flyouts.get? i := by
  have hverdict := Verdict.settle .focusFlyout (tryFocusFlyout_verdict hc id)
  rw [focusFlyout]
  generalize settle Operation.focusFlyout (c.tryFocusFlyout id) = r at hverdict
  cases hverdict with
  | refused es quiet stuck =>
      obtain ⟨p, hp, _, _, same⟩ := hc.paired.record_of_window hw
      have hst := station_of_window hw hp same.placement
      rw [shown] at hst
      rw [Layout.step_focus hst] at stuck
      cases stuck
  | done h booked =>
      have hframe : ∀ i, i ≠ id → _ := fun i hi =>
        (h.frame hc.paired (i := i) (fun he => hi (Option.some.inj he).symm)).1
      cases h with
      | @focused _ u hu hshown z hz journal =>
          obtain rfl : u = w := Option.some.inj (hu.symm.trans hw)
          refine ⟨rfl, _, z, window_here (hc.paired.window_named hu), ?_,
            rises_raising hr hc.stacked hu hz, shown, rfl, hframe⟩
          rw [raising_overlay hz]

/-- **A press finds the window that was raised.** Whatever has been done, and whatever the settings
are, to raise a window that is shown succeeds. A press at a point that it covers then finds it,
except if the top of the layer is reached: if a window of a later name that covers the point as well
stands there, this one cannot come above it. -/
theorem raised_is_pressed (h : Reachable c) (moment : Moment) (hw : c.flyouts.get? id = some w)
    (shown : w.displayed = true) :
    let r := (c.during moment).focusFlyout id
    r.1 = true ∧
    ∀ (later : Moment) (pointer : Pointer α), w.bounds.contains pointer.position = true →
      ((∃ hit, ((r.2.during later).pointerDown pointer).1 = some (id, hit)) ↔
        ∀ i v, compare id i = .lt → c.flyouts.get? i = some v → v.Covers pointer.position →
          v.zIndex ≠ some 9999) := by
  intro r
  have hafter := (h.step moment (.request (.focusFlyout id))).coherent
  obtain ⟨hdone, v, z, hv, hz, rises, hshown, hbounds, hothers⟩ :=
    focus_raises (c := c.during moment) (h.coherent.during moment) h.ranked hw shown
  refine ⟨hdone, fun later pointer hinside => ?_⟩
  have hgreatest : ∀ i u y, r.2.flyouts.get? i = some u → u.zIndex = some y → y ≤ z := by
    intro i u y hu hy
    by_cases hi : i = id
    · subst hi
      obtain rfl := Option.some.inj (hv.symm.trans hu)
      exact Int.le_of_eq (Option.some.inj (hy.symm.trans hz))
    · exact (rises_le rises hi ((hothers i hi).symm.trans hu) hy).1
  have hcovers : v.Covers pointer.position := ⟨hshown, by rw [hbounds]; exact hinside⟩
  rw [pressed_iff (c := r.2.during later) (hafter.during later) hv hz hgreatest hcovers]
  -- the other windows are what they were, and one that shares the new value stands at the top
  refine forall_congr' (fun i => forall_congr' (fun u => forall_congr' (fun hlt => ?_)))
  have hi : i ≠ id := by
    rintro rfl
    rw [Std.ReflOrd.compare_self] at hlt
    cases hlt
  have htied : c.flyouts.get? i = some u → (u.zIndex = some z ↔ u.zIndex = some 9999) := by
    intro hu
    obtain ⟨y, hy⟩ : ∃ y, u.zIndex = some y := by
      obtain ⟨s, _, hs⟩ := h.coherent.stacked.registered i u hu
      exact ⟨_, hs⟩
    rw [hy, Option.some.injEq, Option.some.injEq]
    exact (rises_le rises hi hu hy).2
  show (r.2.flyouts.get? i = some u → _ → _) ↔ _
  rw [hothers i hi]
  refine forall_congr' (fun hu => forall_congr' (fun _ => not_congr (htied hu)))

open SmallRun in
/-- The lower of two windows is raised, and then pressed where both lie. -/
theorem press_finds_log : Reachable sideBySide ∧
    ((sideBySide.pointerDown (pointerAt 0 200 200)).1.map (·.1)) = some chart ∧
    (∃ w, sideBySide.flyouts.get? log = some w ∧ w.displayed = true ∧
      w.bounds.contains (pointerAt 0 200 200).position = true) ∧
    (∀ v ∈ sideBySide.flyouts.values, v.zIndex ≠ some 9999) ∧
    ((sideBySide.during clock).focusFlyout log).1 = true ∧
    ∃ hit, ((((sideBySide.during clock).focusFlyout log).2.during clock).pointerDown
      (pointerAt 0 200 200)).1 = some (log, hit) := by
  obtain ⟨w, hw⟩ : ∃ w, sideBySide.flyouts.get? log = some w :=
    Option.isSome_iff_exists.mp (by decide)
  have hthere : (sideBySide.flyouts.get? log).map (fun w => (w.displayed,
      w.bounds.contains (pointerAt 0 200 200).position)) = some (true, true) := by decide
  rw [hw, Option.map_some, Option.some.injEq, Prod.mk.injEq] at hthere
  obtain ⟨hshown, hinside⟩ := hthere
  have hroom : ∀ v ∈ sideBySide.flyouts.values, v.zIndex ≠ some 9999 := by decide
  obtain ⟨hdone, hpress⟩ := raised_is_pressed reachable_sideBySide clock hw hshown
  refine ⟨reachable_sideBySide, by decide, ⟨w, hw, hshown, hinside⟩, hroom, hdone, ?_⟩
  refine (hpress clock (pointerAt 0 200 200) hinside).mpr (fun i v _ hv _ => ?_)
  exact hroom v ((Catalog.mem_values_iff _ _).mpr ⟨i, hv⟩)

open SmallRun in
/-- Two windows are raised in turn, until the one of the later name has come to the top of the
layer. -/
def crowded (settings : Settings Float) : Coordinator Float (Memory Float) :=
  let focus := fun id => (clock, Command.request (.focusFlyout id))
  (ofSettings settings (some {}) clock).run
    ([(clock, .request (.registerPanel log "Log" "left" none)),
      (clock, .request (.registerPanel chart "Chart" "left" none)),
      (clock, .request (.flyOut log {})), (clock, .request (.flyOut chart {}))] ++
    (List.replicate 4 [focus log, focus chart]).flatten ++ [focus log])

open SmallRun in
/-- The settings are accepted. But where both windows have come to the top of the layer, the one
that was just raised is not found. -/
theorem press_misses_chart :
    let settings : Settings Float := { Settings.standard with stack := { frontGap := 1000 } }
    let point : Point Float := { x := 200, y := 200 }
    settings.violations = [] ∧ Reachable (crowded settings) ∧
      ((crowded settings).flyouts.get? chart).any
        (fun w => w.displayed && w.bounds.contains point) = true ∧
      ((crowded settings).focusFlyout chart).1 = true ∧
      (((crowded settings).focusFlyout chart).2.pointerDown { position := point, number := 0 }).1 =
        some (log, .content) := by
  intro settings point
  refine ⟨by decide +kernel, (Reachable.start settings _ clock).run _, by decide +kernel, by
    decide +kernel,
    by decide +kernel⟩

end Coordinator

end PanelDock
