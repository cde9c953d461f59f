import PanelDock.Proofs.Refinement
/-!
# Windows are ranked

The stack holds the windows and nothing else, each under the name of its panel, in the layer of
windows. The values that it has given out lie between the bottom of that layer and its counter, and
the counter never goes down, not even when windows are taken away. So a window that is opened or
raised is given a value above the counter and lies above all others, and no two windows share a
value, until the counter has come to the top of the layer; from then on there is no room above.

`Ranked` is what holds of windows and stack at every moment, also in the middle of restoring, and
`Rises` is what is given with every new value.
-/

namespace PanelDock

variable {α β : Type}

/-- The stack holds the windows and nothing else, at values between the bottom of their layer and
its counter. -/
structure Ranked (flyouts : Catalog PanelId (Chrome α)) (stack : Allocator) : Prop where
  named : ∀ k r, stack.registration? k = some r → r.handle = k ∧ r.layer = .popup ∧
    ∃ id w, flyouts.get? id = some w ∧ w.handle = k ∧ r.label = some id.text
  within : ∀ id w z, flyouts.get? id = some w → w.zIndex = some z →
    Layer.popup.least ≤ z ∧ z ≤ stack.counter .popup
  /-- Two windows have one value only when there is no room left. -/
  apart : stack.counter .popup < Layer.popup.greatest → ∀ i j v w,
    flyouts.get? i = some v → flyouts.get? j = some w → v.zIndex = w.zIndex → i = j
  bounded : Layer.popup.least ≤ stack.counter .popup ∧ stack.counter .popup ≤ Layer.popup.greatest
  /-- The other layers were never used. -/
  unused : ∀ layer, layer ≠ .popup → stack.counter layer = layer.least
  stepping : 0 < stack.frontGap

/-- A value for the window of a panel: it lies in the layer of windows, and above all other windows
unless there is no room left. -/
structure Rises (flyouts : Catalog PanelId (Chrome α)) (stack : Allocator) (id : PanelId)
    (z : Int) :
    Prop where
  least : Layer.popup.least ≤ z
  top : z ≤ Layer.popup.greatest
  above : ∀ i w y, i ≠ id → flyouts.get? i = some w → w.zIndex = some y →
    y < z ∨ (stack.counter .popup = Layer.popup.greatest ∧ y = Layer.popup.greatest ∧ z = y)

namespace Ranked

variable {flyouts : Catalog PanelId (Chrome α)} {stack after : Allocator} {id : PanelId}
  {v : Chrome α}

/-- A window may be put in its place at a value that rises above the others, registered under its
own handle. -/
theorem inserted (h : Ranked flyouts stack) {r : Registration}
    (rises : Rises flyouts stack id r.zIndex) (shows : v.zIndex = some r.zIndex)
    (here : r.handle = v.handle ∧ r.layer = .popup ∧ r.label = some id.text)
    (own : ∀ i w, flyouts.get? i = some w → (w.handle = v.handle ↔ i = id))
    (registrations : after.registrations = stack.registrations.insert v.handle r)
    (counter : after.counter = (stack.raiseCounter .popup r.zIndex).counter)
    (gap : after.frontGap = stack.frontGap) : Ranked (flyouts.insert id v) after := by
  have hpopup : after.counter .popup = max (stack.counter .popup) r.zIndex := by rw [counter]; rfl
  have hbounded := h.bounded
  have htop := rises.top
  have hleast := rises.least
  refine ⟨?_, ?_, ?_, by omega, ?_, by rw [gap]; exact h.stepping⟩
  · intro k s hs
    rw [Allocator.registration?, registrations] at hs
    rcases Catalog.get?_insert_eq_some hs with ⟨hk, rfl⟩ | ⟨hk, hold⟩
    · exact ⟨here.1.trans hk.symm, here.2.1, id, v, Catalog.get?_insert_self _ _ _,
        hk.symm, here.2.2⟩
    · obtain ⟨hhandle, hlayer, i, w, hw, hown, hlabel⟩ := h.named k s hold
      -- a window with another handle is the window of another panel
      have hi : i ≠ id := fun hi => hk (hown.symm.trans ((own i w hw).mpr hi))
      exact ⟨hhandle, hlayer, i, w, (Catalog.get?_insert_of_ne _ _ hi).trans hw, hown, hlabel⟩
  · intro i w z hw hz
    rcases Catalog.get?_insert_eq_some hw with ⟨_, rfl⟩ | ⟨_, hold⟩
    · obtain rfl : r.zIndex = z := Option.some.inj (shows.symm.trans hz)
      omega
    · have := h.within i w z hold hz
      omega
  · -- there was room before, so the new value lies above all others
    intro hroom i j w w' hw hw' he
    have habove : ∀ k u, k ≠ id → flyouts.get? k = some u → u.zIndex ≠ v.zIndex := by
      intro k u hk hu hsame
      have := rises.above k u r.zIndex hk hu (hsame.trans shows)
      omega
    rcases Catalog.get?_insert_eq_some hw with ⟨hi, rfl⟩ | ⟨hi, hold⟩
    · rcases Catalog.get?_insert_eq_some hw' with ⟨hj, rfl⟩ | ⟨hj, hold'⟩
      · exact hi.trans hj.symm
      · exact absurd he.symm (habove j w' hj hold')
    · rcases Catalog.get?_insert_eq_some hw' with ⟨hj, rfl⟩ | ⟨hj, hold'⟩
      · exact absurd he (habove i w hi hold)
      · exact h.apart (by omega) i j w w' hold hold' he
  · intro layer hlayer
    rw [counter]
    exact (if_neg hlayer).trans (h.unused layer hlayer)

/-- A window may be taken away together with its registration; the counters stay where they are. -/
theorem erased (h : Ranked flyouts stack)
    (gone : ∀ k r, after.registration? k = some r → stack.registration? k = some r ∧
      ∀ w, flyouts.get? id = some w → k ≠ w.handle)
    (counter : after.counter = stack.counter) (gap : after.frontGap = stack.frontGap) :
    Ranked (flyouts.erase id) after := by
  refine ⟨?_, ?_, ?_, by rw [counter]; exact h.bounded, by rw [counter]; exact h.unused,
    by rw [gap]; exact h.stepping⟩
  · intro k r hr
    obtain ⟨hold, hother⟩ := gone k r hr
    obtain ⟨hhandle, hlayer, i, w, hw, hown, hlabel⟩ := h.named k r hold
    have hi : i ≠ id := fun hi => hother w (hi ▸ hw) hown.symm
    exact ⟨hhandle, hlayer, i, w,
      (Catalog.get?_erase _ _ _).trans ((if_neg hi).trans hw), hown, hlabel⟩
  · intro i w z hw hz
    rw [counter]
    exact h.within i w z (Catalog.get?_erase_eq_some hw).2 hz
  · intro hroom i j w w' hw hw'
    rw [counter] at hroom
    exact h.apart hroom i j w w' (Catalog.get?_erase_eq_some hw).2
      (Catalog.get?_erase_eq_some hw').2

/-- What a window shows besides its value does not matter. -/
theorem reshaped (h : Ranked flyouts stack) {w : Chrome α} (hw : flyouts.get? id = some w)
    (same : v.toOverlay = w.toOverlay) : Ranked (flyouts.insert id v) stack := by
  -- whatever is found afterwards was there before, at the same value and under the same handle
  have hback : ∀ i u, (flyouts.insert id v).get? i = some u →
      ∃ u', flyouts.get? i = some u' ∧ u.zIndex = u'.zIndex := by
    intro i u hu
    rcases Catalog.get?_insert_eq_some hu with ⟨hi, rfl⟩ | ⟨_, hold⟩
    · exact ⟨w, hi ▸ hw, by rw [same]⟩
    · exact ⟨u, hold, rfl⟩
  refine ⟨?_, ?_, ?_, h.bounded, h.unused, h.stepping⟩
  · intro k r hr
    obtain ⟨hhandle, hlayer, i, u, hu, hown, hlabel⟩ := h.named k r hr
    by_cases hi : i = id
    · subst hi
      obtain rfl : u = w := Option.some.inj (hu.symm.trans hw)
      exact ⟨hhandle, hlayer, i, v, Catalog.get?_insert_self _ _ _, by
        rw [same]; exact hown, hlabel⟩
    · exact ⟨hhandle, hlayer, i, u, (Catalog.get?_insert_of_ne _ _ hi).trans hu, hown, hlabel⟩
  · intro i u z hu hz
    obtain ⟨u', hu', he⟩ := hback i u hu
    exact h.within i u' z hu' (he.symm.trans hz)
  · intro hroom i j u u' hu hu' he
    obtain ⟨t, ht, hte⟩ := hback i u hu
    obtain ⟨t', ht', hte'⟩ := hback j u' hu'
    exact h.apart hroom i j t t' ht ht' (hte.symm.trans (he.trans hte'))

end Ranked

/-! ## New values -/

namespace Coordinator

variable {c : Coordinator α β} {id : PanelId} {w v : Chrome α}

/-- A window that opens rises above the others. -/
theorem rises_stacking (h : Ranked c.flyouts c.stack) (hs : Stacked c.flyouts c.stack)
    (w : Chrome α) (id : PanelId) : Rises c.flyouts c.stack id (c.handled.stacking w).result := by
  have hz : (c.handled.stacking w).result =
      min Layer.popup.greatest (Layer.popup.least + (c.stack.nextPriority .popup : Nat)) :=
    Allocator.clamp_eq_min _ _
  have hbounded := h.bounded
  rw [Allocator.nextPriority] at hz
  refine ⟨by omega, by omega, ?_⟩
  intro i u y _ hu hy
  -- the other window is registered, so the layer is not empty and the next value lies above the
  -- counter
  obtain ⟨r, hr, _⟩ := hs.registered i u hu
  have hoccupied : c.stack.occupied .popup = true := by
    rw [Allocator.occupied, List.any_eq_true]
    exact ⟨r, (Catalog.mem_values_iff _ _).mpr ⟨_, hr⟩, beq_iff_eq.mpr (h.named _ _ hr).2.1⟩
  rw [hoccupied, if_pos rfl] at hz
  have := h.within i u y hu hy
  omega

theorem rises_raising (h : Ranked c.flyouts c.stack) (hs : Stacked c.flyouts c.stack)
    (hw : c.flyouts.get? id = some w) {z : Int} (hz : (c.raising w).result = some z) :
    Rises c.flyouts c.stack id z := by
  obtain ⟨r, hr, hshows⟩ := hs.registered id w hw
  obtain ⟨r', hresult, _, hvalue, _⟩ := Allocator.bringToFront_registered (α := α) hr
  obtain rfl : r'.zIndex = z := Option.some.inj (hresult.symm.trans hz)
  rw [Allocator.clamp_eq_min, (h.named _ _ hr).2.1] at hvalue
  have hgap := h.stepping
  have hbounded := h.bounded
  have hown := h.within id w r.zIndex hw hshows
  refine ⟨by omega, by omega, ?_⟩
  intro i u y _ hu hy
  have := h.within i u y hu hy
  omega

/-! ## One change -/

theorem ranked_raised (h : Ranked c.flyouts c.stack) (hs : Stacked c.flyouts c.stack)
    (hw : c.flyouts.get? id = some w) (same : v.toOverlay = (c.raising w).state.2) :
    Ranked (c.flyouts.insert id v) (c.raising w).state.1 := by
  obtain ⟨r, hr, _⟩ := hs.registered id w hw
  obtain ⟨r', hresult, hstate, _, hhandle, hlayer, hlabel, _⟩ :=
    Allocator.bringToFront_registered (α := α) hr
  have hrises := rises_raising h hs hw hresult
  obtain ⟨hkey, hpopup, i, u, hu, hown, hname⟩ := h.named _ _ hr
  -- the registration is in the name of this panel: another window would have another handle
  obtain rfl : i = id := hs.apart i id u w hu hw hown
  rw [raising, hstate] at same ⊢
  have hv : v.handle = w.handle := by rw [same]
  refine h.inserted hrises (by rw [same]) ⟨?_, hlayer.trans hpopup, hlabel.trans hname⟩ ?_ ?_ ?_ rfl
  · rw [hv, hhandle, hkey]
  · intro j t ht
    rw [hv]
    refine ⟨fun he => hs.apart j i t w ht hw he, ?_⟩
    rintro rfl
    rw [Option.some.inj (ht.symm.trans hw)]
  · rw [hv]
  · rw [← hpopup]

theorem ranked_floated (h : Ranked c.flyouts c.stack) (hs : Stacked c.flyouts c.stack)
    (hw : w.handle = c.stack.newHandle.1) (bare : c.flyouts.get? w.panel = none)
    (same : v.toOverlay = (c.handled.stacking w).state.2) :
    Ranked (c.flyouts.insert w.panel v) (c.handled.stacking w).state.1 := by
  have hrises := rises_stacking h hs w w.panel
  obtain ⟨r, hresult, hstate, hhandle, hlayer, hlabel⟩ := stacking_registered c.handled w
  rw [hresult] at hrises
  rw [hstate] at same ⊢
  have hv : v.handle = w.handle := by rw [same]
  refine h.inserted hrises (by rw [same]) ⟨hhandle.trans hv.symm, hlayer, hlabel⟩ ?_ ?_ rfl rfl
  · -- no window had the next handle before, and this panel had no window
    intro i u hu
    have hgiven := hs.given i u hu
    refine ⟨fun he => ?_, fun hi => absurd (bare.symm.trans (hi ▸ hu)) (by simp)⟩
    rw [he, hv, hw] at hgiven
    exact absurd hgiven (Nat.lt_irrefl _)
  · rw [hv]
    rfl

theorem ranked_released (h : Ranked c.flyouts c.stack) (hs : Stacked c.flyouts c.stack)
    (id : PanelId) : Ranked (c.flyouts.erase id) (c.released id) := by
  rw [released]
  cases hw : c.flyouts.get? id with
  | none =>
      exact h.erased (fun k r hr => ⟨hr, fun u hu => absurd (hw.symm.trans hu) (by simp)⟩) rfl rfl
  | some w =>
      obtain ⟨r, hr, _⟩ := hs.registered id w hw
      dsimp only
      rw [Allocator.unregister, hr]
      refine h.erased (fun k s hk => ?_) rfl rfl
      obtain ⟨hne, hold⟩ := Catalog.get?_erase_eq_some hk
      exact ⟨hold, fun u hu => by rwa [← Option.some.inj (hw.symm.trans hu)]⟩

variable [Coordinate α]

/-- Windows stay ranked through every change. -/
theorem Change.ranked {d : Coordinator α β} {m : Move} (h : Change c m d)
    (hr : Ranked c.flyouts c.stack) (hs : Stacked c.flyouts c.stack) (hc : c.Paired) :
    Ranked d.flyouts d.stack := by
  cases h with
  | registered new name fresh content journal => exact hr
  | refilledAside known bare content => exact hr
  | refilled hw slot content journal =>
      obtain rfl := hc.window_named hw
      exact hr.reshaped hw rfl
  | flownOut hp rests title position size handle slot content backend journal =>
      exact ranked_floated hr hs rfl (hc.no_window_of_rests hp rests) rfl
  | docked hw content backend journal => exact ranked_released hr hs _
  | closed hw shown backend journal =>
      obtain rfl := hc.window_named hw
      exact hr.reshaped hw rfl
  | shown hw closed focus backend journal =>
      obtain rfl := hc.window_named hw
      exact hr.reshaped hw rfl
  | @shownOnTop id w hw closed focus z hz backend journal =>
      obtain rfl := hc.window_named hw
      exact ranked_raised (w := w) hr hs hw rfl
  | focused hw shown hz journal =>
      obtain rfl := hc.window_named hw
      exact ranked_raised hr hs hw rfl
  | hidden hp was backend journal => exact hr
  | unhidden hp was backend journal => exact hr
  | destroyed hp content backend journal => exact ranked_released hr hs _
  | grabbed hw hp shown handle idle opening hz name journal =>
      obtain rfl := hc.window_named hw
      exact ranked_raised hr hs hw rfl
  | @sampled s w pointer release live mine hw backend journal =>
      rw [← hc.window_named hw] at hw
      show Ranked (c.flyouts.insert (reached w _).panel (reached w _)) c.stack
      rw [reached_panel]
      exact hr.reshaped hw (reached_toOverlay _ _)

end Coordinator

/-- The panel whose window a move raises above the others; a window that is shown again is raised if
the settings say so. -/
def Move.lifted (settings : FlyoutSettings α) : Move → Option PanelId
  | .flyOut id _ | .focus id | .grab id _ _ _ => some id
  | .reveal id => if settings.focusOnShow then some id else none
  | _ => none

/-- What is raised is the panel that the move is about. -/
theorem Move.panel_of_lifted {settings : FlyoutSettings α} {l : Layout} {m : Move} {id : PanelId}
    (h : m.lifted settings = some id) : m.panel l = some id := by
  cases m with
  | reveal i =>
      rw [lifted] at h
      split at h
      · exact h
      · cases h
  | flyOut i handle => exact h
  | focus i => exact h
  | grab i grip pointer somewhere => exact h
  | _ => cases h

namespace Coordinator

variable [Coordinate α] {c d : Coordinator α β} {id : PanelId} {m : Move}

/-- The window of a panel has got a value that rises above the windows before. -/
def Lifts (c d : Coordinator α β) (id : PanelId) : Prop :=
  ∃ w z, d.flyouts.get? id = some w ∧ w.zIndex = some z ∧ Rises c.flyouts c.stack id z

/-- A window that opens or is raised rises above the others. -/
theorem Change.lifts (h : Change c m d) (hr : Ranked c.flyouts c.stack)
    (hs : Stacked c.flyouts c.stack) (hc : c.Paired) (lifted : m.lifted c.settings = some id) :
    Lifts c d id := by
  have hraised : ∀ {w v : Chrome α} {z : Int}, c.flyouts.get? id = some w →
      (c.raising w).result = some z → v.toOverlay = (c.raising w).state.2 → v.zIndex = some z := by
    intro w v z _ hz same
    rw [same, raising_overlay hz]
  cases h with
  | @flownOut _ p hp rests title position size handle slot content backend journal =>
      cases lifted
      exact ⟨_, _, window_here rfl, rfl, rises_stacking hr hs
        (c.freshWindow id title position size handle true p.placement) id⟩
  | @shownOnTop _ w hw closed focus z hz backend journal =>
      rw [Move.lifted, if_pos focus] at lifted
      cases lifted
      have named := hc.window_named hw
      exact ⟨_, _, window_here named, hraised hw hz rfl, rises_raising (w := w) hr hs hw hz⟩
  | focused hw shown hz journal =>
      cases lifted
      exact ⟨_, _, window_here (hc.window_named hw), hraised hw hz rfl, rises_raising hr hs hw hz⟩
  | grabbed hw hp shown handle idle opening hz name journal =>
      cases lifted
      exact ⟨_, _, window_here (hc.window_named hw), hraised hw hz rfl, rises_raising hr hs hw hz⟩
  | shown hw closed focus backend journal =>
      rw [Move.lifted, focus] at lifted
      cases lifted
  | _ => cases lifted

/-! ## Whole runs -/

omit [Coordinate α] in
/-- The stack of a coordinator without panels holds nothing. -/
theorem ranked_ofSettings (settings : Settings α) (backend : Option β) (moment : Moment) :
    Ranked (ofSettings settings backend moment).flyouts
      (ofSettings settings backend moment).stack where
  named := by
    intro k r h; exact absurd h (by simp [ofSettings, Allocator.setFrontGap, Allocator.fresh,
    Allocator.registration?])
  within := by intro id w z h; exact absurd h (by simp [ofSettings])
  apart := by intro _ i j v w h; exact absurd h (by simp [ofSettings])
  bounded := ⟨Int.le_refl _, show Layer.popup.least ≤ Layer.popup.greatest by decide⟩
  unused := by intro layer _; rfl
  stepping :=
    Nat.lt_of_lt_of_le (by decide) (Nat.le_max_right settings.stack.frontGap.toNat leastFrontGap)

/-- Windows are stacked, and ranked as well. -/
def Racked (c : Coordinator α β) : Prop := Stacked c.flyouts c.stack ∧ Ranked c.flyouts c.stack

theorem Racked.discard (h : c.Racked) (id : PanelId) : (c.discard id).Racked := by
  obtain ⟨content, journal, hd⟩ := discard_eq c id
  rw [hd]
  exact ⟨stacked_released h.1 id, ranked_released h.2 h.1 id⟩

theorem Racked.reopen (h : c.Racked) (p : Panel α) : (c.reopen p).Racked := by
  obtain ⟨slot, content, journal, hr⟩ := reopen_eq c p
  rw [hr]
  have hs : Stacked (c.discarded p.id).flyouts (c.discarded p.id).stack := stacked_released h.1 p.id
  exact ⟨stacked_floated hs rfl rfl,
    ranked_floated (ranked_released h.2 h.1 p.id) hs rfl (window_gone _ _) rfl⟩

variable [Backend β α]

theorem Aftermath.ranked {command : Command α β} (h : Aftermath c command d) (hc : c.Coherent)
    (hr : Ranked c.flyouts c.stack) : Ranked d.flyouts d.stack := by
  cases h with
  | aside stuck spent subscribers nextSubscriber journal => exact hr
  | changed asks es h booked => exact h.ranked hr hc.stacked hc.paired
  | @restored snapshot asks h =>
      obtain ⟨lines, e, journal, he, hrestore⟩ := restore_eq h
      rw [hrestore, he]
      have hracked : (c.imported snapshot lines).Racked := ⟨hc.stacked, hr⟩
      exact (rebuild_keeps (P := Racked) (fun _ id h => h.discard id)
        (fun _ p h => h.reopen p) hracked).2

theorem Reachable.ranked (h : Reachable c) : Ranked c.flyouts c.stack :=
  h.invariant (P := fun c => Ranked c.flyouts c.stack) ranked_ofSettings (fun _ _ hr => hr)
    (fun _ _ _ ha hc hr => ha.ranked hc hr)

/-- How the windows of a coordinator stand in the stack. -/
structure Shelved (c : Coordinator α β) : Prop where
  handles : ∀ k, (∃ r, c.stack.registration? k = some r) ↔
    ∃ id w, c.flyouts.get? id = some w ∧ w.handle = k
  apart : ∀ i j v w, c.flyouts.get? i = some v → c.flyouts.get? j = some w →
      v.handle = w.handle → i = j
  given : ∀ id w, c.flyouts.get? id = some w → w.handle.number < c.stack.nextHandle
  registered : ∀ id w, c.flyouts.get? id = some w → ∃ r, c.stack.registration? w.handle = some r ∧
    r.handle = w.handle ∧ r.layer = .popup ∧ r.label = some id.text ∧ w.zIndex = some r.zIndex ∧
    1000 ≤ r.zIndex ∧ r.zIndex ≤ c.stack.counter .popup
  ceiling : c.stack.counter .popup ≤ 9999
  unused : c.stack.counter .base = 0 ∧ c.stack.counter .ui = 100 ∧ c.stack.counter .system = 10000
  distinct : c.stack.counter .popup < 9999 → ∀ i j v w,
    c.flyouts.get? i = some v → c.flyouts.get? j = some w → v.zIndex = w.zIndex → i = j

omit [Coordinate α] [Backend β α] in
/-- Windows that are stacked and ranked stand in the stack one by one. -/
theorem shelved_of_ranked (hs : Stacked c.flyouts c.stack) (hr : Ranked c.flyouts c.stack) :
    c.Shelved where
  handles := by
    intro k
    constructor
    · rintro ⟨r, hk⟩
      obtain ⟨_, _, id, w, hw, hown, _⟩ := hr.named k r hk
      exact ⟨id, w, hw, hown⟩
    · rintro ⟨id, w, hw, rfl⟩
      obtain ⟨r, hk, _⟩ := hs.registered id w hw
      exact ⟨r, hk⟩
  apart := hs.apart
  given := hs.given
  registered := by
    intro id w hw
    obtain ⟨r, hk, hz⟩ := hs.registered id w hw
    obtain ⟨hhandle, hlayer, i, v, hv, hown, hlabel⟩ := hr.named _ _ hk
    obtain rfl : i = id := hs.apart i id v w hv hw hown
    exact ⟨r, hk, hhandle, hlayer, hlabel, hz, hr.within i w r.zIndex hw hz⟩
  ceiling := hr.bounded.2
  unused := ⟨hr.unused .base (by decide), hr.unused .ui (by decide), hr.unused .system (by decide)⟩
  distinct := hr.apart

/-- **Windows are ranked.** Whatever has been done, the stack holds the windows and nothing else,
each under a handle of its own at the value that it shows, and no two share a value while there is
room above. While there is, a window that opens or is raised comes to lie above all others. -/
theorem windows_are_ranked (h : Reachable c) : c.Shelved ∧
    ∀ (moment : Moment) (command : Command α β) (m : Move) (id : PanelId),
      (c.during moment).Makes command m → m.lifted c.settings = some id →
      c.stack.counter .popup < 9999 →
      ∃ w z, ((c.during moment).perform command).2.flyouts.get? id = some w ∧ w.zIndex = some z ∧
        ∀ i v y, i ≠ id → ((c.during moment).perform command).2.flyouts.get? i = some v →
          v.zIndex = some y → y < z := by
  have hc := h.coherent
  refine ⟨shelved_of_ranked hc.stacked h.ranked, ?_⟩
  intro moment command m id hmakes lifted hroom
  have hduring := hc.during moment
  obtain ⟨es, hch⟩ := hmakes.change hduring
  obtain ⟨w, z, hw, hz, rises⟩ := hch.lifts h.ranked hc.stacked hc.paired lifted
  refine ⟨w, z, hw, hz, ?_⟩
  intro i v y hi hv hy
  -- the other window is what it was, so it lies below unless there was no room left
  have hpanel : m.panel c.layout = some id := Move.panel_of_lifted lifted
  have hframe :=
    (hch.frame hc.paired (i := i) (fun he => hi (Option.some.inj (he.symm.trans hpanel)))).1
  have habove := rises.above i v y hi (hframe.symm.trans hv) hy
  have hfull : Layer.popup.greatest = 9999 := rfl
  rw [hfull] at habove
  exact habove.resolve_right (fun hno => absurd hno.1 (Int.ne_of_lt hroom))

open SmallRun in
/-- Of two windows the lower is raised above the other. -/
theorem log_lies_above_chart : Reachable sideBySide ∧
    (sideBySide.flyouts.get? log).map (·.zIndex) = some (some 1000) ∧
    (sideBySide.flyouts.get? chart).map (·.zIndex) = some (some 1001) ∧
    ∃ w z, ((sideBySide.during clock).perform focusLog).2.flyouts.get? log = some w ∧
      w.zIndex = some z ∧
      ∀ i v y, i ≠ log → ((sideBySide.during clock).perform focusLog).2.flyouts.get? i = some v →
        v.zIndex = some y → y < z :=
  ⟨reachable_sideBySide, by decide, by decide,
    (windows_are_ranked reachable_sideBySide).2 clock focusLog (.focus log) log
      (Or.inl ⟨rfl, by decide⟩) rfl (by decide)⟩

end Coordinator

end PanelDock
