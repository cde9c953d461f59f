import PanelDock.Proofs.Catalog
import PanelDock.Store
/-!
# What changes leave of a record

A patch goes into a record field by field, and a new value that equals the old one leaves the old
one. For most fields equality is identity, and the record then holds exactly what the patch says.
Coordinates are compared as floats are, so of a position or a size one can only say that the record
*agrees* with the patch: it holds that value, or one that passes for equal.

`update_get?` puts the whole of `Store.update` into one equation of `get?`, for the patches that
leave the dock alone; a coordinator makes no others.
-/

namespace PanelDock

/-- What is stored is this value, or one that passes for equal to it. -/
def Agrees {τ : Type} [BEq τ] (stored : Option τ) (value : τ) : Prop :=
  ∃ s, stored = some s ∧ (s = value ∨ (s == value) = true)

theorem Agrees.rfl {τ : Type} [BEq τ] {value : τ} : Agrees (some value) value :=
  ⟨value, Eq.refl _, Or.inl (Eq.refl _)⟩

/-! ## Lines for the log -/

section Quiet

variable {α : Type}

theorem Effect.isNotice_iff {x : Effect α} : x.isNotice = true ↔ ∃ n, x = .notice n := by
  cases x <;> simp [isNotice]

theorem quiet_nil : ∀ x ∈ ([] : List (Effect α)), x.isNotice = true :=
  List.forall_mem_nil _

theorem quiet_notice (n : Notice α) : ∀ x ∈ [Effect.notice n], x.isNotice = true :=
  List.forall_mem_singleton.mpr rfl

/-- A line that is only written where there is a reason for it. -/
theorem quiet_ite (reason : Prop) [Decidable reason] (n : Notice α) :
    ∀ x ∈ (if reason then [Effect.notice n] else []), x.isNotice = true := by
  split
  · exact quiet_notice n
  · exact quiet_nil

end Quiet

/-! ## One field -/

section Fields

variable {τ : Type} [BEq τ]

theorem settled_of_not_differs {old : τ} {new : Option τ} (h : differs old new = false) :
    settled old new = old := by
  cases new with
  | none => rfl
  | some v =>
      have hv : (old == v) = true := by simpa [differs, bne] using h
      rw [settled, if_pos hv]

/-- Where equality is identity, the field holds what the patch says. -/
@[simp] theorem settled_some [LawfulBEq τ] (old new : τ) : settled old (some new) = new := by
  rw [settled]
  split
  · exact eq_of_beq ‹_›
  · rfl

/-- A field that is cleared is empty. -/
theorem settled_clear (old : Option τ) : settled old (some none) = none := by
  cases old <;> rfl

/-- A field that is filled in where it is empty, and otherwise told what it holds. -/
theorem settled_getD (old : Option τ) (v : τ) :
    settled old (some (some (old.getD v))) = some (old.getD v) := by
  cases old with
  | none => rfl
  | some w => exact ite_self _

/-- Whatever the field held, it agrees with what the patch says. -/
theorem agrees_settled (old : Option τ) (v : τ) : Agrees (settled old (some (some v))) v := by
  rw [settled]
  split
  · rename_i heq
    cases old with
    | none => exact absurd heq (by simp)
    | some w => exact ⟨w, rfl, Or.inr (by simpa using heq)⟩
  · exact Agrees.rfl

end Fields

/-! ## One record -/

namespace Panel

variable {α : Type} [Coordinate α]

theorem patched_of_not_changedBy {p : Panel α} {patch : Panel.Patch α}
    (h : p.changedBy patch = false) : p.patched patch = p := by
  simp only [changedBy, Bool.or_eq_false_iff] at h
  obtain ⟨⟨⟨⟨⟨⟨⟨⟨h1, h2⟩, h3⟩, h4⟩, h5⟩, h6⟩, h7⟩, h8⟩, h9⟩ := h
  rw [patched, settled_of_not_differs h1, settled_of_not_differs h2, settled_of_not_differs h3,
    settled_of_not_differs h4, settled_of_not_differs h5, settled_of_not_differs h6,
    settled_of_not_differs h7, settled_of_not_differs h8, settled_of_not_differs h9]

/-- The record after a patch: the changes made, and the time noted if there were any. -/
def revised (p : Panel α) (patch : Panel.Patch α) (now : Instant) : Panel α :=
  { p.patched patch with lastUpdated := if p.changedBy patch then now else p.lastUpdated }

@[simp] theorem revised_id (p : Panel α) (patch : Panel.Patch α) (now : Instant) :
    (p.revised patch now).id = p.id := rfl

@[simp] theorem revised_placement (p : Panel α) (patch : Panel.Patch α) (now : Instant) :
    (p.revised patch now).placement = settled p.placement patch.placement := rfl

/-- Two records say the same of where the panel belongs and is, but for its geometry. -/
structure SameLayout {α : Type} (p q : Panel α) : Prop where
  title : q.title = p.title
  placement : q.placement = p.placement
  dock : q.dock = p.dock
  visible : q.visible = p.visible
  order : q.order = p.order
  createdAt : q.createdAt = p.createdAt

theorem SameLayout.refl {α : Type} (p : Panel α) : p.SameLayout p := ⟨rfl, rfl, rfl, rfl, rfl, rfl⟩

theorem SameLayout.trans {α : Type} {p q r : Panel α} (h : p.SameLayout q) (h' : q.SameLayout r) :
    p.SameLayout r :=
  ⟨h'.title.trans h.title, h'.placement.trans h.placement, h'.dock.trans h.dock,
    h'.visible.trans h.visible, h'.order.trans h.order, h'.createdAt.trans h.createdAt⟩

/-- A patch to stacking value, content or geometry leaves the layout alone. -/
theorem sameLayout_revised (p : Panel α) (now : Instant) (z : Option (Option Int))
    (mounted : Option Bool) (position : Option (Option (Point α)))
    (size : Option (Option (Size α))) :
    p.SameLayout (p.revised { zIndex := z, mounted, position, size } now) :=
      ⟨rfl, rfl, rfl, rfl, rfl, rfl⟩

theorem isFloating_iff {α : Type} (p : Panel α) :
    p.isFloating = true ↔ p.placement = .floating := by
  rw [isFloating, beq_iff_eq]

end Panel

/-! ## The store -/

namespace Store

variable {α : Type}

theorem contains_eq (s : Store α) (id : PanelId) : s.contains id = (s.get? id).isSome := rfl

/-- No panel can be put behind those of the dock: one of them has the greatest order that there is.
-/
def isFull (s : Store α) (dock : String) : Bool := (s.nextOrder? dock).isNone

theorem hasNext_eq_false_iff (p : Panel α) :
    hasNext p = false ↔ p.order.toNat + 1 = UInt32.size := by
  have hword : p.order.toNat < UInt32.size := p.order.toNat_lt
  rw [hasNext, decide_eq_false_iff_not]
  omega

theorem isFull_iff (s : Store α) (dock : String) :
    s.isFull dock = true ↔ ∃ id p, s.get? id = some p ∧ p.dock = dock ∧ hasNext p = false := by
  have hfull : s.isFull dock = !(s.panels.values.filter (·.dock == dock)).all hasNext := by
    rw [isFull, nextOrder?]
    cases (s.panels.values.filter (·.dock == dock)).all hasNext <;> rfl
  rw [hfull, Bool.not_eq_true', List.all_eq_false]
  constructor
  · rintro ⟨p, hp, hlast⟩
    obtain ⟨hp, hdock⟩ := List.mem_filter.mp hp
    obtain ⟨id, hp⟩ := (Catalog.mem_values_iff _ _).mp hp
    exact ⟨id, p, hp, beq_iff_eq.mp hdock, Bool.eq_false_iff.mpr hlast⟩
  · rintro ⟨id, p, hp, hdock, hlast⟩
    refine ⟨p, List.mem_filter.mpr
      ⟨(Catalog.mem_values_iff _ _).mpr ⟨id, hp⟩, beq_iff_eq.mpr hdock⟩, ?_⟩
    rw [hlast]
    exact Bool.false_ne_true

/-- What can come of creating a panel: a refusal, a break-off where no order is left, or a new
record that is told to the subscribers. All else is a line for the log. -/
inductive Creation (s : Store α) (now : Instant) (id : PanelId) (dock : String)
    (defaults : Panel.Defaults) : Outcome α (Store α) Attempt → Prop where
  | refused (n : Notice α) (why : Text.isBlankText dock = true ∨ s.get? id ≠ none) :
      Creation s now id dock defaults ⟨.refused, s, [.notice n]⟩
  | brokenOff {es : List (Effect α)} (quiet : ∀ e ∈ es, e.isNotice = true)
      (named : Text.isBlankText dock = false) (new : s.get? id = none)
      (unordered : defaults.order = none) (full : s.nextOrder? dock = none) :
      Creation s now id dock defaults ⟨.brokenOff, s, es⟩
  | done {es : List (Effect α)} {order : UInt32} (quiet : ∀ e ∈ es, e.isNotice = true)
      (named : Text.isBlankText dock = false) (new : s.get? id = none)
      (behind : defaults.order.or (s.nextOrder? dock) = some order) :
      Creation s now id dock defaults
        ⟨.done, { s with panels := s.panels.insert id (newPanel now id dock order defaults) },
          es ++ [s.tell (.created (newPanel now id dock order defaults))]⟩

theorem creation (s : Store α) (now : Instant) (id : PanelId) (dock : String)
    (defaults : Panel.Defaults) :
    Creation s now id dock defaults (s.create now id dock defaults) := by
  rw [create]
  split
  · rename_i hblank
    exact .refused _ (Or.inl hblank)
  · rename_i hnamed
    rw [Bool.not_eq_true] at hnamed
    split
    · rename_i hknown
      exact .refused _ (Or.inr (Option.isSome_iff_ne_none.mp hknown))
    · rename_i hnew
      rw [contains_eq, Bool.not_eq_true, Option.isSome_eq_false_iff,
        Option.isNone_iff_eq_none] at hnew
      dsimp only
      split
      · rename_i hnone
        obtain ⟨hunordered, hfull⟩ := Option.or_eq_none_iff.mp hnone
        exact .brokenOff (quiet_ite _ _) hnamed hnew hunordered hfull
      · rename_i order hbehind
        rw [List.append_cons]
        refine .done (List.forall_mem_append.mpr ⟨quiet_ite _ _, quiet_notice _⟩)
          hnamed hnew hbehind

/-- What is taken of a patch: all of it, but that a panel loses its dock. -/
def admitted (patch : Panel.Patch α) : Panel.Patch α :=
  if clearsDock patch then { patch with dock := none } else patch

/-- A record that is known is patched and stamped, if that makes a difference. -/
theorem update_known [Coordinate α] {s : Store α} {id : PanelId} {p : Panel α}
    (hp : s.get? id = some p) (now : Instant) (patch : Panel.Patch α) :
    ∃ kept, (∀ x ∈ kept, x.isNotice = true) ∧ s.update now id patch =
      if p.changedBy (admitted patch) then
        let panel := { p.patched (admitted patch) with lastUpdated := now }
        ⟨true, { s with panels := s.panels.insert id panel }, kept ++ [s.tell (.updated panel)]⟩
      else ⟨true, s, kept⟩ := by
  refine ⟨if clearsDock patch then [.notice (.dockKept p.id)] else [], quiet_ite _ _, ?_⟩
  rw [update, hp]
  rfl

/-- A change of a record shows in that record only. -/
theorem update_get? [Coordinate α] (s : Store α) (now : Instant) (id : PanelId)
    {patch : Panel.Patch α} (hdock : patch.dock = none) (i : PanelId) :
    (s.update now id patch).state.get? i =
      if i = id then (s.get? id).map (fun p => p.revised patch now) else s.get? i := by
  have hclears : clearsDock patch = false := by rw [clearsDock, hdock]; rfl
  rw [update]
  cases hp : s.get? id with
  | none =>
      by_cases hi : i = id
      · rw [if_pos hi, hi]; exact hp
      · rw [if_neg hi]
  | some p =>
      simp only [hclears, Bool.false_eq_true, if_false]
      split
      · rename_i hch
        show (s.panels.insert id _).get? i = _
        rw [Catalog.get?_insert]
        simp only [Option.map_some, Panel.revised, hch, if_true]
        rfl
      · rename_i hch
        -- nothing differs: the record is not even stamped
        have hsame : p.revised patch now = p := by
          have hpatched := Panel.patched_of_not_changedBy (Bool.eq_false_iff.mpr hch)
          rw [Panel.revised, if_neg hch, hpatched]
        by_cases hi : i = id
        · rw [if_pos hi, hi, Option.map_some, hsame]; exact hp
        · rw [if_neg hi]

/-- A panel that is removed is no longer known, and the others are. -/
theorem remove_get? (s : Store α) (id i : PanelId) :
    (s.remove id).state.get? i = if i = id then none else s.get? i := by
  rw [remove]
  cases hp : s.get? id with
  | none =>
      by_cases hi : i = id
      · rw [if_pos hi, hi]; exact hp
      · rw [if_neg hi]
  | some p => exact Catalog.get?_erase _ _ _

/-- A panel stands under its own name. -/
def Keyed (s : Store α) : Prop := ∀ id p, s.get? id = some p → p.id = id

theorem Keyed.update [Coordinate α] {s : Store α} (hs : s.Keyed) (now : Instant) (id : PanelId)
    {patch : Panel.Patch α} (hdock : patch.dock = none) : (s.update now id patch).state.Keyed := by
  intro i p hp
  rw [update_get? _ _ _ hdock] at hp
  by_cases hi : i = id
  · rw [if_pos hi, Option.map_eq_some_iff] at hp
    obtain ⟨q, hq, rfl⟩ := hp
    rw [Panel.revised_id, hi]
    exact hs id q hq
  · rw [if_neg hi] at hp
    exact hs i p hp

/-- Panels that are filed one after the other under their own names stand there. -/
theorem foldl_insert_keyed (ps : List (Panel α)) (panels : Catalog PanelId (Panel α))
    (h : ∀ id p, panels.get? id = some p → p.id = id) :
    ∀ id p, (ps.foldl (fun panels p => panels.insert p.id p) panels).get? id = some p →
      p.id = id := by
  induction ps generalizing panels with
  | nil => exact h
  | cons q rest ih =>
      rw [List.foldl_cons]
      refine ih (panels.insert q.id q) (fun id p hp => ?_)
      rcases Catalog.get?_insert_eq_some hp with ⟨hid, rfl⟩ | ⟨_, hold⟩
      · exact hid.symm
      · exact h id p hold

/-- A snapshot of the version that is read is taken, but for the panels without a dock. -/
theorem import?_result {snapshot : Snapshot α} (h : snapshot.version = Snapshot.currentVersion)
    (s : Store α) :
    (s.import? snapshot).result = .ok (snapshot.panels.filter Restorable).length := by
  rw [import?, if_neg (not_not_intro h)]

/-- The panels that are listed are those that the filter admits. -/
theorem mem_list {s : Store α} (hs : s.Keyed) (filter : Panel.Filter) (p : Panel α) :
    p ∈ s.list filter ↔ s.get? p.id = some p ∧ filter.admits p = true := by
  rw [list, List.mem_mergeSort, List.mem_filter, Catalog.mem_values_iff]
  constructor
  · rintro ⟨⟨k, hk⟩, hadmit⟩
    refine ⟨?_, hadmit⟩
    rw [hs k p hk]
    exact hk
  · rintro ⟨hp, hadmit⟩
    exact ⟨⟨p.id, hp⟩, hadmit⟩

/-- The list of the floating panels. -/
theorem mem_list_floating {s : Store α} (hs : s.Keyed) (p : Panel α) :
    p ∈ s.list { placement := some .floating } ↔ s.get? p.id = some p ∧
    p.placement = .floating := by
  rw [mem_list hs]
  simp [Panel.Filter.admits]

/-! ## Lists -/

/-- No two panels have one name. -/
theorem nodup_values {s : Store α} (hs : s.Keyed) : (s.panels.values.map (·.id)).Nodup := by
  have hkeys : s.panels.values.map (·.id) = s.panels.keys := by
    rw [Catalog.values, Catalog.keys, List.map_map]
    refine List.map_congr_left (fun e he => ?_)
    exact hs e.1 e.2 ((Catalog.mem_entries_iff _ e.1 e.2).mp he)
  rw [hkeys]
  exact s.panels.nodup_keys

theorem nodup_list {s : Store α} (hs : s.Keyed) (filter : Panel.Filter) :
    ((s.list filter).map (·.id)).Nodup :=
  (((List.mergeSort_perm _ _).map _).nodup_iff).mpr
    ((nodup_values hs).sublist (List.filter_sublist.map _))

end Store

/-- A panel comes before another: by its dock, then by its place in the dock, then by its name. -/
def Panel.Precedes {α : Type} (p q : Panel α) : Prop :=
  p.dock < q.dock ∨
  (p.dock = q.dock ∧ (p.order < q.order ∨ (p.order = q.order ∧ p.id.text < q.id.text)))

namespace Store

variable {α : Type}

/-- Of two panels, one that is listed before the other comes before it. -/
theorem precedes_of_listedBefore {p q : Panel α} (h : listedBefore p q = true) (hne : p.id ≠ q.id) :
    p.Precedes q := by
  rw [listedBefore, Ordering.isLE_iff_eq_lt_or_eq_eq] at h
  simp only [Ordering.then_eq_lt, Ordering.then_eq_eq] at h
  rcases h with (hdock | ⟨hdock, horder | ⟨horder, hid⟩⟩) | ⟨_, _, hid⟩
  · exact Or.inl (compareOfLessAndEq_eq_lt.mp hdock)
  · exact Or.inr ⟨Std.LawfulEqCmp.eq_of_compare hdock, Or.inl (compareOfLessAndEq_eq_lt.mp horder)⟩
  · exact Or.inr ⟨Std.LawfulEqCmp.eq_of_compare hdock, Or.inr ⟨Std.LawfulEqCmp.eq_of_compare horder,
      compareOfLessAndEq_eq_lt.mp hid⟩⟩
  · exact absurd (Std.LawfulEqCmp.eq_of_compare hid) hne

/-- The panels of a list stand one before the other. -/
theorem list_ascending {s : Store α} (hs : s.Keyed) (filter : Panel.Filter) :
    (s.list filter).Pairwise Panel.Precedes := by
  let order : Panel α → Panel α → Ordering :=
    compareLex (compareOn Panel.dock) (compareLex (compareOn Panel.order) (compareOn Panel.id))
  have horder : ∀ p q : Panel α, listedBefore p q = (order p q).isLE := fun _ _ => rfl
  have hlisted : (s.list filter).Pairwise (fun p q => listedBefore p q = true) := by
    refine List.pairwise_mergeSort (fun p q r => ?_) (fun p q => ?_) _
    · rw [horder, horder, horder]
      exact Std.TransCmp.isLE_trans
    · have hswap : order q p = (order p q).swap := Std.OrientedCmp.eq_swap
      rw [horder, horder, hswap]
      cases order p q <;> rfl
  have hnodup : (s.list filter).Pairwise (fun p q => p.id ≠ q.id) :=
    List.pairwise_map.mp (nodup_list hs filter)
  exact hlisted.imp₂ (fun _ _ hle hne => precedes_of_listedBefore hle hne) hnodup

end Store

end PanelDock
