import PanelDock.Proofs.Gestures
import PanelDock.Proofs.Passages
/-!
# Where windows open that are told no place

A window that is told no place opens one step further for each window that is shown at that moment.
The step says how many windows are shown, and not where they are. So it keeps windows apart as long
as all that were opened are still shown; but when one that lies below has been taken away, there are
as many left as there were when the topmost was opened, and the next window covers it exactly.
`default_windows_coincide` is the shortest run to that effect.

What holds of every run is `default_windows_cascade`: each window stands where the count of its
opening puts it, so a new one covers another exactly if as many windows were shown when that one was
opened.
-/

namespace PanelDock

variable {α β : Type} [Coordinate α]

/-- A request that neither tells a window its place nor takes one from a pointer or a snapshot. -/
inductive Command.Placeless : Command α β → Prop where
  | registerPanel (id : PanelId) (title dock : String) (source : Option Source) :
      Placeless (.request (.registerPanel id title dock source))
  | flyOut (id : PanelId) {options : FlyoutOptions α} (untold : options.position = none) :
      Placeless (.request (.flyOut id options))
  | dock (id : PanelId) : Placeless (.request (.dock id))
  | toggleFlyout (id : PanelId) : Placeless (.request (.toggleFlyout id))
  | closeFlyout (id : PanelId) : Placeless (.request (.closeFlyout id))
  | showFlyout (id : PanelId) : Placeless (.request (.showFlyout id))
  | focusFlyout (id : PanelId) : Placeless (.request (.focusFlyout id))
  | hidePanel (id : PanelId) : Placeless (.request (.hidePanel id))
  | showPanel (id : PanelId) : Placeless (.request (.showPanel id))
  | destroyPanel (id : PanelId) : Placeless (.request (.destroyPanel id))

namespace Coordinator

/-! ## How many windows are shown -/

/-- The window of the panel is shown. -/
def Shows (c : Coordinator α β) (id : PanelId) : Prop :=
  ∃ w, c.flyouts.get? id = some w ∧ w.displayed = true

variable {c d : Coordinator α β} {id i : PanelId}

/-- The panels whose windows are shown. -/
def shownPanels (c : Coordinator α β) : List PanelId :=
  c.flyouts.keys.filter (fun i => (c.flyouts.get? i).any (·.displayed))

omit [Coordinate α] in
theorem mem_shownPanels : i ∈ c.shownPanels ↔ c.Shows i := by
  rw [shownPanels, List.mem_filter, Option.any_eq_true, Catalog.mem_keys_iff]
  constructor
  · rintro ⟨_, w, hw, shown⟩
    exact ⟨w, hw, shown⟩
  · rintro ⟨w, hw, shown⟩
    exact ⟨⟨w, hw⟩, w, hw, shown⟩

omit [Coordinate α] in
theorem displayedCount_eq (c : Coordinator α β) : c.displayedCount = c.shownPanels.length := by
  have hcovers : ∀ k v, c.flyouts.get? k = some v → k ∈ c.flyouts.keys :=
    fun k v hv => (c.flyouts.mem_keys_iff k).mpr ⟨v, hv⟩
  rw [displayedCount, c.flyouts.countP_values _ c.flyouts.nodup_keys hcovers,
    List.countP_eq_length_filter]
  rfl

omit [Coordinate α] in
theorem nodup_shownPanels (c : Coordinator α β) : c.shownPanels.Nodup :=
  c.flyouts.nodup_keys.sublist List.filter_sublist

omit [Coordinate α] in
/-- As long as no window is taken from the screen, their number does not go down. -/
theorem displayedCount_le (h : ∀ i, c.Shows i → d.Shows i) :
    c.displayedCount ≤ d.displayedCount := by
  rw [displayedCount_eq, displayedCount_eq]
  exact c.nodup_shownPanels.length_le_of_subset
    (fun i hi => mem_shownPanels.mpr (h i (mem_shownPanels.mp hi)))

omit [Coordinate α] in
/-- One more window, and no window less, are more windows. -/
theorem displayedCount_lt (h : ∀ i, c.Shows i → d.Shows i) (new : ¬ c.Shows id)
    (shown : d.Shows id) : c.displayedCount < d.displayedCount := by
  rw [displayedCount_eq, displayedCount_eq]
  have hnodup : (id :: c.shownPanels).Nodup :=
    List.nodup_cons.mpr ⟨fun hid => new (mem_shownPanels.mp hid), c.nodup_shownPanels⟩
  have hsubset : id :: c.shownPanels ⊆ d.shownPanels := by
    intro i hi
    rcases List.mem_cons.mp hi with rfl | hi
    · exact mem_shownPanels.mpr shown
    · exact mem_shownPanels.mpr (h i (mem_shownPanels.mp hi))
  exact hnodup.length_le_of_subset hsubset

/-! ## One command -/

/-- Every window of the second coordinator was where it is in the first, or is new and stands where
the first would open one. -/
def Adds (c d : Coordinator α β) : Prop :=
  ∀ i w, d.flyouts.get? i = some w →
    (∃ v, c.flyouts.get? i = some v ∧ w.position = v.position) ∨
    (c.flyouts.get? i = none ∧ w.displayed = true ∧
      w.position = c.settings.cascade c.displayedCount)

theorem Adds.of_eq (h : d.flyouts = c.flyouts) : c.Adds d :=
  fun _ w hw => Or.inl ⟨w, h ▸ hw, rfl⟩

/-- A window may change in all but its place. -/
theorem Adds.placed (hc : c.Paired) {v w : Chrome α} (hv : c.flyouts.get? id = some v)
    (h : d.flyouts = c.flyouts.insert v.panel w) (same : w.position = v.position) : c.Adds d := by
  intro i u hu
  rw [h] at hu
  rcases Catalog.get?_insert_eq_some hu with ⟨rfl, rfl⟩ | ⟨_, hold⟩
  · exact Or.inl ⟨v, by rw [hc.window_named hv]; exact hv, same⟩
  · exact Or.inl ⟨u, hold, rfl⟩

theorem Adds.erased (h : d.flyouts = c.flyouts.erase id) : c.Adds d := by
  intro i u hu
  rw [h] at hu
  exact Or.inl ⟨u, (Catalog.get?_erase_eq_some hu).2, rfl⟩

/-- Only opening a window and feeding a gesture give a window its place. -/
theorem Change.adds {m : Move} (h : Change c m d) (hc : c.Paired)
    (opens : ∀ id handle, m ≠ .flyOut id handle)
    (feeds : ∀ pointer somewhere release, m ≠ .sample pointer somewhere release) : c.Adds d := by
  cases h with
  | flownOut hp rests title position size handle slot content backend journal =>
      exact absurd rfl (opens _ _)
  | sampled live mine hw backend journal => exact absurd rfl (feeds _ _ _)
  | registered new name fresh content journal => exact Adds.of_eq rfl
  | refilledAside known bare content => exact Adds.of_eq rfl
  | hidden hp was backend journal => exact Adds.of_eq rfl
  | unhidden hp was backend journal => exact Adds.of_eq rfl
  | docked hw content backend journal => exact Adds.erased rfl
  | destroyed hp content backend journal => exact Adds.erased rfl
  | refilled hw slot content journal => exact Adds.placed hc hw rfl rfl
  | closed hw shown backend journal => exact Adds.placed hc hw rfl rfl
  | shown hw closed focus backend journal => exact Adds.placed hc hw rfl rfl
  | shownOnTop hw closed focus hz backend journal => exact Adds.placed hc hw rfl rfl
  | focused hw shown hz journal => exact Adds.placed hc hw rfl rfl
  | grabbed hw hp shown handle idle opening hz name journal => exact Adds.placed hc hw rfl rfl

variable [Backend β α]

/-- Flying a panel out is refused and no window moves, or a window opens as it is told. -/
theorem flyOut_cases (hc : c.Paired) (id : PanelId) (options : FlyoutOptions α) :
    ((c.flyOut id options).1 = false ∧ (c.flyOut id options).2.flyouts = c.flyouts) ∨
    ∃ p w, (c.flyOut id options).1 = true ∧ c.store.get? id = some p ∧ p.placement ≠ .floating ∧
      (c.flyOut id options).2.flyouts = c.flyouts.insert id w ∧ w.displayed = true ∧
      w.position = options.position.getD c.defaultPosition := by
  rcases hc.whereabouts id with ⟨_, hp⟩ | ⟨p, _, hp, _, rests⟩ | ⟨w, p, _, hp, _, _, same⟩
  · rw [flyOut, tryFlyOut, hp]
    exact Or.inl ⟨rfl, rfl⟩
  · obtain ⟨content, backend, journal, hflown⟩ := flyOut_eq hp rests options
    rw [hflown]
    exact Or.inr ⟨p, _, rfl, hp, rests, rfl, rfl, rfl⟩
  · rw [flyOut, tryFlyOut, hp]
    dsimp only
    rw [if_pos (p.isFloating_iff.mpr same.placement)]
    exact Or.inl ⟨rfl, rfl⟩

theorem Adds.flyOut (hc : c.Paired) (id : PanelId) {options : FlyoutOptions α}
    (untold : options.position = none) : c.Adds (c.flyOut id options).2 := by
  rcases flyOut_cases hc id options with
    ⟨_, hsame⟩ | ⟨p, w, _, hp, rests, hinsert, shown, hposition⟩
  · exact Adds.of_eq hsame
  · have bare : c.flyouts.get? id = none := hc.no_window_of_rests hp rests
    intro i u hu
    rw [hinsert] at hu
    rcases Catalog.get?_insert_eq_some hu with ⟨rfl, rfl⟩ | ⟨_, hold⟩
    · rw [untold, Option.getD_none, defaultPosition_eq] at hposition
      exact Or.inr ⟨bare, shown, hposition⟩
    · exact Or.inl ⟨u, hold, rfl⟩

/-- An operation that opens no window and feeds no gesture leaves every window where it is. -/
theorem Verdict.adds {m : Move} {r : Bool × Coordinator α β} (h : Verdict c m r) (hc : c.Paired)
    (opens : ∀ id handle, m ≠ .flyOut id handle)
    (feeds : ∀ pointer somewhere release, m ≠ .sample pointer somewhere release) : c.Adds r.2 := by
  cases h with
  | refused es quiet stuck => exact Adds.of_eq rfl
  | done h booked => exact h.adds hc opens feeds

/-- A command that tells no window its place adds windows at the next step of the cascade. -/
theorem Adds.perform (hc : c.Coherent) {command : Command α β} (placeless : command.Placeless) :
    c.Adds (c.perform command).2 := by
  have hstays : ∀ {k : Request α β} {m : Move}, k.move? c.settings c.layout = some m →
      (∀ id handle, m.shutIf (c.overfills (.request k)) ≠ .flyOut id handle) →
      (∀ pointer somewhere release,
        m.shutIf (c.overfills (.request k)) ≠ .sample pointer somewhere release) →
      c.Adds (c.request k).2 := fun hm => (request_verdict hc hm).adds hc.paired
  cases placeless with
  | flyOut id untold => exact Adds.flyOut hc.paired id untold
  | toggleFlyout id =>
      show c.Adds (c.toggleFlyout id).2
      rw [toggleFlyout]
      split
      · exact (Verdict.settle .dock (tryDock_verdict hc id)).adds hc.paired
          (fun _ _ he => by cases he)
          (fun _ _ _ he => by cases he)
      · exact Adds.flyOut hc.paired id rfl
  | _ => exact hstays rfl (fun _ _ he => by cases he) (fun _ _ _ he => by cases he)

theorem settings_of_placeless (hc : c.Coherent) {command : Command α β}
    (placeless : command.Placeless) :
    (c.perform command).2.settings = c.settings := by
  have hafter := perform_aftermath hc command
  generalize (c.perform command).2 = d at hafter
  cases hafter with
  | aside stuck spent subscribers nextSubscriber journal => rfl
  | changed asks es h booked => exact h.settings_eq.1
  | restored asks h =>
      subst asks
      cases placeless

/-! ## A run -/

omit [Backend β α] in
/-- Every window stands on its step of the cascade. -/
def Standing (c : Coordinator α β) (level : PanelId → Nat) : Prop :=
  ∀ i w, c.flyouts.get? i = some w → w.position = c.settings.cascade (level i)

/-- The steps for the next moment: a panel without a window is given the one on which it would open.
-/
def nextLevel (c : Coordinator α β) (level : PanelId → Nat) (i : PanelId) : Nat :=
  if c.flyouts.contains i then level i else c.displayedCount

omit [Backend β α] in
theorem Standing.adds {level : PanelId → Nat} (h : c.Standing level) (new : c.Adds d)
    (same : d.settings = c.settings) : d.Standing (c.nextLevel level) := by
  intro i w hw
  rw [same, nextLevel, Catalog.contains]
  rcases new i w hw with ⟨v, hv, hposition⟩ | ⟨bare, _, hposition⟩
  · rw [hv, Option.isSome_some, if_pos rfl, hposition]
    exact h i v hv
  · rw [bare, Option.isSome_none, if_neg Bool.false_ne_true]
    exact hposition

/-- All windows are shown, and each was opened when fewer were. -/
def Spread (c : Coordinator α β) (level : PanelId → Nat) : Prop :=
  ∀ i w, c.flyouts.get? i = some w → w.displayed = true ∧ level i < c.displayedCount

omit [Backend β α] in
theorem Spread.adds {level : PanelId → Nat} (h : c.Spread level) (new : c.Adds d)
    (stays : ∀ i, c.Shows i → d.Shows i) : d.Spread (c.nextLevel level) := by
  intro i w hw
  rw [nextLevel, Catalog.contains]
  rcases new i w hw with ⟨v, hv, _⟩ | ⟨bare, shown, _⟩
  · obtain ⟨hshown, hlevel⟩ := h i v hv
    obtain ⟨w', hw', hshown'⟩ := stays i ⟨v, hv, hshown⟩
    rw [hv, Option.isSome_some, if_pos rfl]
    exact ⟨Option.some.inj (hw'.symm.trans hw) ▸ hshown',
      Nat.lt_of_lt_of_le hlevel (displayedCount_le stays)⟩
  · -- the window is one more than there were when its step was taken
    have hnew : ¬ c.Shows i := by
      rintro ⟨v, hv, _⟩
      exact absurd (bare.symm.trans hv) (Option.some_ne_none v).symm
    rw [bare, Option.isSome_none, if_neg Bool.false_ne_true]
    exact ⟨shown, displayedCount_lt stays hnew ⟨w, hw, shown⟩⟩

/-- For every panel, how many windows were shown when it was last without one: a window that is
there now was opened at that count. -/
def levels (c : Coordinator α β) (level : PanelId → Nat) :
    List (Moment × Command α β) → PanelId → Nat
  | [] => level
  | (moment, command) :: rest =>
      ((c.during moment).perform command).2.levels (c.nextLevel level) rest

/-- No window that is shown is ever closed or taken away. -/
def Gathers (c : Coordinator α β) : List (Moment × Command α β) → Prop
  | [] => True
  | (moment, command) :: rest => (∀ i, c.Shows i → ((c.during moment).perform command).2.Shows i) ∧
    ((c.during moment).perform command).2.Gathers rest

/-- Along a run without places every window stays on its step. -/
theorem Standing.run (h : Reachable c) {level : PanelId → Nat} (standing : c.Standing level)
    {steps : List (Moment × Command α β)} (placeless : ∀ x ∈ steps, x.2.Placeless) :
    (c.run steps).Standing (c.levels level steps) ∧ (c.run steps).settings = c.settings := by
  induction steps generalizing c level with
  | nil => exact ⟨standing, rfl⟩
  | cons step rest ih =>
      obtain ⟨hstep, hrest⟩ := List.forall_mem_cons.mp placeless
      have hc := h.coherent.during step.1
      have hsame := settings_of_placeless hc hstep
      obtain ⟨hstanding, hsettings⟩ :=
        ih (h.step step.1 step.2) (standing.adds (Adds.perform hc hstep) hsame) hrest
      exact ⟨hstanding, hsettings.trans hsame⟩

/-- As long as no window is taken away, all stand on steps below the next. -/
theorem Spread.run (h : Reachable c) {level : PanelId → Nat} (spread : c.Spread level)
    {steps : List (Moment × Command α β)} (placeless : ∀ x ∈ steps, x.2.Placeless)
    (gathers : c.Gathers steps) :
    (c.run steps).Spread (c.levels level steps) := by
  induction steps generalizing c level with
  | nil => exact spread
  | cons step rest ih =>
      obtain ⟨hstep, hrest⟩ := List.forall_mem_cons.mp placeless
      have hc := h.coherent.during step.1
      exact ih (h.step step.1 step.2) (spread.adds (Adds.perform hc hstep) gathers.1)
        hrest gathers.2

end Coordinator

/-! ## Exact coordinates -/

instance : Coordinate Rat where
  ofNat n := n
  isFinite _ := true
  decidableLT := inferInstance
  decidableLE := inferInstance

/-- The steps of a cascade lie apart. -/
theorem FlyoutSettings.cascade_injective {settings : FlyoutSettings Rat}
    (offset : 0 < settings.cascadeOffset) {m n : Nat}
    (h : settings.cascade m = settings.cascade n) : m = n := by
  have hx : settings.defaultX + settings.cascadeOffset * (m : Rat) =
      settings.defaultX + settings.cascadeOffset * (n : Rat) := congrArg Point.x h
  have hne : settings.cascadeOffset ≠ 0 := (Rat.ne_of_lt offset).symm
  have hcast : (m : Rat) = n := by grind
  exact Rat.natCast_inj.mp hcast

namespace Coordinator

variable [Backend β Rat]

/-- **Windows that are told no place open along a cascade.** In every run that tells no window its
place, a window stands on the step that is given by how many windows were shown when it was opened.
A panel that is flown out without a place gets the step for the windows that are shown now. So its
window covers another exactly if as many were shown when that one was opened; and it covers none if
no window has been closed or taken away before. -/
theorem default_windows_cascade (settings : Settings Rat)
    (offset : 0 < settings.flyout.cascadeOffset) (backend : Option β) (moment : Moment)
    (steps : List (Moment × Command Rat β)) (placeless : ∀ x ∈ steps, x.2.Placeless) :
    let start := ofSettings settings backend moment
    let c := start.run steps
    let level := start.levels (fun _ => 0) steps
    (∀ i w, c.flyouts.get? i = some w → w.position = settings.flyout.cascade (level i)) ∧
    ∀ (now : Moment) (id : PanelId) (options : FlyoutOptions Rat), options.position = none →
      ((c.during now).flyOut id options).1 = true →
      ∃ v, ((c.during now).flyOut id options).2.flyouts.get? id = some v ∧
        v.position = settings.flyout.cascade c.displayedCount ∧
        (∀ i w, c.flyouts.get? i = some w →
          (v.position = w.position ↔ level i = c.displayedCount)) ∧
        (start.Gathers steps → ∀ i w, c.flyouts.get? i = some w → v.position ≠ w.position) := by
  intro start c level
  have hstart : Reachable start := .start settings backend moment
  have hempty : start.Standing (fun _ => 0) ∧ start.Spread (fun _ => 0) :=
    ⟨fun _ _ hw => (by cases hw), fun _ _ hw => (by cases hw)⟩
  obtain ⟨hstanding, hsettings⟩ := Standing.run hstart hempty.1 placeless
  have hstands : ∀ i w, c.flyouts.get? i = some w →
      w.position = settings.flyout.cascade (level i) := by
    intro i w hw
    rw [hstanding i w hw, hsettings]
    rfl
  refine ⟨hstands, fun now id options untold done => ?_⟩
  have hc := (hstart.run steps).coherent.during now
  rcases flyOut_cases hc.paired id options with
    ⟨hrefused, _⟩ | ⟨p, v, _, _, _, hinsert, _, hposition⟩
  · exact absurd (hrefused.symm.trans done) Bool.false_ne_true
  rw [untold, Option.getD_none, defaultPosition_eq] at hposition
  have hplace : v.position = settings.flyout.cascade c.displayedCount := by
    rw [hposition]
    exact congrArg (fun s : FlyoutSettings Rat => s.cascade c.displayedCount) hsettings
  have hcovers : ∀ i w, c.flyouts.get? i = some w →
      (v.position = w.position ↔ level i = c.displayedCount) := by
    intro i w hw
    rw [hplace, hstands i w hw]
    exact ⟨fun he => (FlyoutSettings.cascade_injective offset he).symm, fun he => by rw [he]⟩
  refine ⟨v, by rw [hinsert, Catalog.get?_insert_self], hplace, hcovers, fun gathers i w hw => ?_⟩
  have hspread := Spread.run hstart hempty.2 placeless gathers
  exact fun he => Nat.ne_of_lt (hspread i w hw).2 ((hcovers i w hw).mp he)

open SmallRun in
/-- Two panels are flown out, one beside the other, and the first is docked again. -/
def uncovering : List (Moment × Command Rat (Memory Rat)) :=
  [(clock, .request (.registerPanel log "Log" "left" none)),
    (clock, .request (.registerPanel chart "Chart" "left" none)),
    (clock, .request (.flyOut log {})), (clock, .request (.flyOut chart {})),
    (clock, .request (.dock log))]

open SmallRun in
theorem placeless_uncovering : ∀ x ∈ uncovering, x.2.Placeless := by
  intro x hx
  simp only [uncovering, List.mem_cons, List.not_mem_nil, or_false] at hx
  rcases hx with rfl | rfl | rfl | rfl | rfl
  · exact .registerPanel log "Log" "left" none
  · exact .registerPanel chart "Chart" "left" none
  · exact .flyOut log rfl
  · exact .flyOut chart rfl
  · exact .dock log

open SmallRun in
/-- One window is shown, as when the window of the second panel was opened. So when the first panel
is flown out again, its window stands on the same step. -/
theorem log_opens_over_chart :
    let start := ofSettings Settings.standard (some ({} : Memory Rat)) clock
    0 < (Settings.standard : Settings Rat).flyout.cascadeOffset ∧
    (∀ x ∈ uncovering, x.2.Placeless) ∧
      (((start.run uncovering).during clock).flyOut log {}).1 = true ∧
      start.levels (fun _ => 0) uncovering chart = 1 ∧ (start.run uncovering).displayedCount = 1 ∧
      ∃ v w, (((start.run uncovering).during clock).flyOut log {}).2.flyouts.get? log = some v ∧
        (start.run uncovering).flyouts.get? chart = some w ∧ v.position = w.position := by
  intro start
  have hoffset : 0 < (Settings.standard : Settings Rat).flyout.cascadeOffset := by decide +kernel
  have hdone : (((start.run uncovering).during clock).flyOut log {}).1 = true := by decide +kernel
  have hlevel : start.levels (fun _ => 0) uncovering chart = 1 := by decide +kernel
  have hshown : (start.run uncovering).displayedCount = 1 := by decide +kernel
  obtain ⟨w, hw⟩ : ∃ w, (start.run uncovering).flyouts.get? chart = some w :=
    Option.isSome_iff_exists.mp (by decide +kernel)
  subst start
  have hcascade :=
    default_windows_cascade .standard hoffset (some ({} : Memory Rat)) clock uncovering
    placeless_uncovering
  obtain ⟨v, hv, _, hcovers, _⟩ := hcascade.2 clock log {} rfl hdone
  exact ⟨hoffset, placeless_uncovering, hdone, hlevel, hshown, v, w, hv, hw,
    (hcovers chart w hw).mpr (hlevel.trans hshown.symm)⟩

open SmallRun in
/-- Nothing is told a place, and the step of the cascade is positive. But when the lower of two
windows is docked and its panel flown out again, it covers the other exactly. -/
theorem default_windows_coincide :
    let c := (ofSettings Settings.standard (some {}) clock).run uncovering
    let r := (c.during clock).flyOut log {}
    0 < (Settings.standard : Settings Rat).flyout.cascadeOffset ∧
    (∀ x ∈ uncovering, x.2.Placeless) ∧ r.1 = true ∧
      (c.flyouts.get? chart).any (·.displayed) = true ∧
      (c.flyouts.get? chart).map (·.position) = some { x := 144, y := 104 } ∧
      (r.2.flyouts.get? log).map (·.position) = some { x := 144, y := 104 } := by
  intro c r
  exact ⟨by decide +kernel, placeless_uncovering, by decide +kernel, by decide +kernel, by
    decide +kernel,
    by decide +kernel⟩

end Coordinator

end PanelDock
