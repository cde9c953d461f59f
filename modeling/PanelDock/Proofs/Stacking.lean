import PanelDock.Proofs.Mirror
/-!
# Windows stay registered

Every window stands in the stack under a handle of its own, at the value that it shows. A window
that is raised is written over its own registration, one that is taken down takes only that with it,
and a new one gets a handle that no window had before.
-/

namespace PanelDock

variable {α β : Type}

namespace Stacked

variable {flyouts : Catalog PanelId (Chrome α)} {stack after : Allocator} {id : PanelId}
  {v : Chrome α}

/-- A window may be put in its place if it is registered there and no other window has its handle.
-/
theorem inserted (h : Stacked flyouts stack)
    (registered : ∃ r, after.registration? v.handle = some r ∧ v.zIndex = some r.zIndex)
    (others : ∀ k, k ≠ v.handle → after.registration? k = stack.registration? k)
    (own : ∀ i w, flyouts.get? i = some w → w.handle = v.handle → i = id)
    (given : v.handle.number < after.nextHandle) (next : stack.nextHandle ≤ after.nextHandle) :
    Stacked (flyouts.insert id v) after := by
  refine ⟨?_, ?_, ?_⟩
  · intro i w hw
    rcases Catalog.get?_insert_eq_some hw with ⟨_, rfl⟩ | ⟨hi, hold⟩
    · exact registered
    · rw [others w.handle (fun he => hi (own i w hold he))]
      exact h.registered i w hold
  · intro i j w w' hw hw' he
    -- of two windows with one handle, both are the new one or both are old
    rcases Catalog.get?_insert_eq_some hw with ⟨hi, rfl⟩ | ⟨hi, hold⟩
    · rcases Catalog.get?_insert_eq_some hw' with ⟨hj, rfl⟩ | ⟨hj, hold'⟩
      · rw [hi, hj]
      · exact hi.trans (own j w' hold' he.symm).symm
    · rcases Catalog.get?_insert_eq_some hw' with ⟨hj, rfl⟩ | ⟨hj, hold'⟩
      · exact (own i w hold he).trans hj.symm
      · exact h.apart i j w w' hold hold' he
  · intro i w hw
    rcases Catalog.get?_insert_eq_some hw with ⟨_, rfl⟩ | ⟨_, hold⟩
    · exact given
    · have := h.given i w hold
      omega

/-- A window may be taken away together with its own registration. -/
theorem erased (h : Stacked flyouts stack)
    (others : ∀ k, (∀ w, flyouts.get? id = some w → k ≠ w.handle) →
      after.registration? k = stack.registration? k)
    (next : stack.nextHandle ≤ after.nextHandle) : Stacked (flyouts.erase id) after := by
  refine ⟨?_, ?_, ?_⟩
  · intro i w hw
    obtain ⟨hi, hold⟩ := Catalog.get?_erase_eq_some hw
    rw [others w.handle (fun w' hw' he => hi (h.apart i id w w' hold hw' he))]
    exact h.registered i w hold
  · intro i j w w' hw hw' he
    obtain ⟨_, hold⟩ := Catalog.get?_erase_eq_some hw
    obtain ⟨_, hold'⟩ := Catalog.get?_erase_eq_some hw'
    exact h.apart i j w w' hold hold' he
  · intro i w hw
    obtain ⟨_, hold⟩ := Catalog.get?_erase_eq_some hw
    have := h.given i w hold
    omega

end Stacked

namespace Coordinator

variable {c : Coordinator α β} {id : PanelId} {w v : Chrome α}

/-- What a window shows besides its value does not matter to the stack. -/
theorem stacked_reshaped (h : Stacked c.flyouts c.stack) (hw : c.flyouts.get? id = some w)
    (same : v.toOverlay = w.toOverlay) :
    Stacked (c.flyouts.insert id v) c.stack := by
  have hhandle : v.handle = w.handle := by rw [same]
  refine h.inserted ?_ (fun _ _ => rfl) ?_ ?_ (Nat.le_refl _)
  · rw [same]
    exact h.registered id w hw
  · intro i u hu he
    exact h.apart i id u w hu hw (he.trans hhandle)
  · rw [hhandle]
    exact h.given id w hw

/-- A window that is raised is registered at its new value. -/
theorem stacked_raised (h : Stacked c.flyouts c.stack) (hw : c.flyouts.get? id = some w)
    (same : v.toOverlay = (c.raising w).state.2) :
    Stacked (c.flyouts.insert id v) (c.raising w).state.1 := by
  obtain ⟨r, hr, _⟩ := h.registered id w hw
  obtain ⟨r', _, hstate, _⟩ := Allocator.bringToFront_registered (α := α) hr
  rw [raising, hstate] at same ⊢
  have hhandle : v.handle = w.handle := by rw [same]
  refine h.inserted ⟨r', ?_, by rw [same]⟩ ?_ ?_ ?_ (Nat.le_refl _)
  · rw [hhandle]
    exact Catalog.get?_insert_self _ _ _
  · intro k hk
    rw [hhandle] at hk
    exact Catalog.get?_insert_of_ne _ _ hk
  · intro i u hu he
    exact h.apart i id u w hu hw (he.trans hhandle)
  · rw [hhandle]
    exact h.given id w hw

/-- A window that opens with the next handle is registered apart from all others. -/
theorem stacked_floated (h : Stacked c.flyouts c.stack) (hw : w.handle = c.stack.newHandle.1)
    (same : v.toOverlay = (c.handled.stacking w).state.2) :
    Stacked (c.flyouts.insert id v) (c.handled.stacking w).state.1 := by
  have hhandle : v.handle = c.stack.newHandle.1 := by rw [same, ← hw]; rfl
  have hreg : ∃ r, (c.handled.stacking w).state.1.registration? v.handle = some r ∧
      v.zIndex = some r.zIndex := by
    rw [same]
    exact ⟨_, Catalog.get?_insert_self _ _ _, rfl⟩
  refine h.inserted hreg ?_ ?_ ?_ (Nat.le_succ _)
  · intro k hk
    rw [hhandle, ← hw] at hk
    exact Catalog.get?_insert_of_ne _ _ hk
  · intro i u hu he
    -- no window had the next handle before
    have hgiven := h.given i u hu
    rw [he, hhandle] at hgiven
    exact absurd hgiven (Nat.lt_irrefl _)
  · rw [hhandle]
    exact Nat.lt_succ_self _

/-- A window that is taken down is released. -/
theorem stacked_released (h : Stacked c.flyouts c.stack) (id : PanelId) :
    Stacked (c.flyouts.erase id) (c.released id) := by
  refine h.erased ?_ ?_
  · intro k hk
    rw [released]
    cases hw : c.flyouts.get? id with
    | none => rfl
    | some w =>
        obtain ⟨r, hr, _⟩ := h.registered id w hw
        dsimp only
        rw [Allocator.unregister, hr]
        exact (Catalog.get?_erase _ _ _).trans (if_neg (hk w hw))
  · rw [released]
    cases hw : c.flyouts.get? id with
    | none => exact Nat.le_refl _
    | some w =>
        obtain ⟨r, hr, _⟩ := h.registered id w hw
        have kept : (c.stack.unregister (α := α) w.toOverlay).state.1.nextHandle
            = c.stack.nextHandle := by rw [Allocator.unregister, hr]
        exact Nat.le_of_eq kept.symm

/-- Windows stay registered through every change. -/
theorem Change.stacked [Coordinate α] {d : Coordinator α β} {m : Move} (h : Change c m d)
    (hs : Stacked c.flyouts c.stack) (hc : c.Paired) : Stacked d.flyouts d.stack := by
  cases h with
  | registered new name fresh content journal => exact hs
  | refilledAside known bare content => exact hs
  | refilled hw slot content journal =>
      obtain rfl := hc.window_named hw
      exact stacked_reshaped hs hw rfl
  | flownOut hp rests title position size handle slot content backend journal =>
      exact stacked_floated hs rfl rfl
  | docked hw content backend journal => exact stacked_released hs _
  | closed hw shown backend journal =>
      obtain rfl := hc.window_named hw
      exact stacked_reshaped hs hw rfl
  | shown hw closed focus backend journal =>
      obtain rfl := hc.window_named hw
      exact stacked_reshaped hs hw rfl
  | @shownOnTop id w hw closed focus z hz backend journal =>
      obtain rfl := hc.window_named hw
      exact stacked_raised (w := w) hs hw rfl
  | focused hw shown hz journal =>
      obtain rfl := hc.window_named hw
      exact stacked_raised hs hw rfl
  | hidden hp was backend journal => exact hs
  | unhidden hp was backend journal => exact hs
  | destroyed hp content backend journal => exact stacked_released hs _
  | grabbed hw hp shown handle idle opening hz name journal =>
      obtain rfl := hc.window_named hw
      exact stacked_raised hs hw rfl
  | @sampled s w pointer release live mine hw backend journal =>
      rw [← hc.window_named hw] at hw
      show Stacked (c.flyouts.insert (reached w _).panel (reached w _)) c.stack
      rw [reached_panel]
      exact stacked_reshaped hs hw (reached_toOverlay _ _)

end Coordinator

end PanelDock
