import PanelDock.Proofs.Gestures
import PanelDock.Proofs.Merging
import PanelDock.Settings.Validation
/-!
# How far geometry stays finite

Positions and sizes come into a coordinator in four ways: with an option, from the settings, with a
snapshot, and from a gesture. What is handed in may be required to be finite, and the settings are
checked. But two kinds of geometry are worked out: where a window opens when nothing is said, which
is a sum of settings, and where a gesture takes a window, which is the sum of a position and a
difference. Finite numbers can have a sum that is not finite, and nothing looks at the sums.

So geometry stays finite exactly as long as these sums do.
-/

namespace PanelDock

variable {α β : Type} [Coordinate α]

/-! ## Finite geometry -/

/-- So far as there is a position and a size, they are finite. -/
def FiniteGeometry (position : Option (Point α)) (size : Option (Size α)) : Prop :=
  (∀ x, position = some x → x.isFinite = true) ∧ ∀ x, size = some x → x.isFinite = true

def Panel.Finite (p : Panel α) : Prop := FiniteGeometry p.position p.size

def Chrome.Finite (w : Chrome α) : Prop := FiniteGeometry (some w.position) (some w.size)

def Snapshot.Finite (s : Snapshot α) : Prop := ∀ p ∈ s.panels, p.Finite

/-- The geometry that a sample gives is finite. -/
def GeometryUpdate.Finite : GeometryUpdate α → Prop
  | .moved _ position => position.isFinite = true
  | .resized _ size => size.isFinite = true

instance (update : GeometryUpdate α) : Decidable update.Finite :=
  match update with
  | .moved _ _ => inferInstanceAs (Decidable (_ = true))
  | .resized _ _ => inferInstanceAs (Decidable (_ = true))

theorem Chrome.finite_iff {w : Chrome α} :
    w.Finite ↔ w.position.isFinite = true ∧ w.size.isFinite = true :=
  ⟨fun h => ⟨h.1 _ rfl, h.2 _ rfl⟩,
    fun h => ⟨fun _ hx => Option.some.inj hx ▸ h.1, fun _ hx => Option.some.inj hx ▸ h.2⟩⟩

/-- A patch brings no geometry that is not finite. -/
def Panel.Patch.Finite (patch : Panel.Patch α) : Prop :=
  (∀ x, patch.position = some (some x) → x.isFinite = true) ∧
    ∀ x, patch.size = some (some x) → x.isFinite = true

omit [Coordinate α] in
/-- A field holds what it held or what it was told. -/
theorem settled_holds {τ : Type} [BEq (Option τ)] {P : τ → Prop} {old : Option τ}
    {new : Option (Option τ)} (held : ∀ x, old = some x → P x)
    (told : ∀ x, new = some (some x) → P x) : ∀ x, settled old new = some x → P x := by
  intro x hx
  cases new with
  | none => exact held x hx
  | some v =>
      rw [settled] at hx
      split at hx
      · exact held x hx
      · exact told x (congrArg some hx)

theorem Panel.Finite.revised {p : Panel α} {patch : Panel.Patch α} (h : p.Finite)
    (hpatch : patch.Finite) (now : Instant) : (p.revised patch now).Finite :=
  ⟨settled_holds h.1 hpatch.1, settled_holds h.2 hpatch.2⟩

namespace Coordinator

/-- All positions and sizes, in the store and on windows, are finite. -/
structure Finite (c : Coordinator α β) : Prop where
  records : ∀ id p, c.store.get? id = some p → p.Finite
  windows : ∀ id w, c.flyouts.get? id = some w → w.Finite

section Writes

variable {c d : Coordinator α β}

theorem finite_insert {flyouts : Catalog PanelId (Chrome α)} {key : PanelId} {w : Chrome α}
    (h : ∀ id v, flyouts.get? id = some v → v.Finite) (hw : w.Finite) :
    ∀ id v, (flyouts.insert key w).get? id = some v → v.Finite := by
  intro id v hv
  rcases Catalog.get?_insert_eq_some hv with ⟨_, rfl⟩ | ⟨_, hold⟩
  · exact hw
  · exact h id v hold

theorem finite_erase {flyouts : Catalog PanelId (Chrome α)} (key : PanelId)
    (h : ∀ id v, flyouts.get? id = some v → v.Finite) :
    ∀ id v, (flyouts.erase key).get? id = some v → v.Finite :=
  fun id v hv => h id v (Catalog.get?_erase_eq_some hv).2

theorem finite_update {s : Store α} (h : ∀ id p, s.get? id = some p → p.Finite)
    {patch : Panel.Patch α} (hpatch : patch.Finite) (hdock : patch.dock = none) (now : Instant)
    (key : PanelId) : ∀ id p, (s.update now key patch).state.get? id = some p → p.Finite := by
  intro id p hp
  rw [Store.update_get? _ _ _ hdock] at hp
  by_cases hid : id = key
  · rw [if_pos hid, Option.map_eq_some_iff] at hp
    obtain ⟨q, hq, rfl⟩ := hp
    exact (h key q hq).revised hpatch now
  · rw [if_neg hid] at hp
    exact h id p hp

/-- A patch that says nothing of the geometry, or that there is none. -/
theorem finite_patch {patch : Panel.Patch α} (position : ∀ x, patch.position ≠ some (some x))
    (size : ∀ x, patch.size ≠ some (some x)) : patch.Finite :=
  ⟨fun x hx => absurd hx (position x), fun x hx => absurd hx (size x)⟩

end Writes

end Coordinator

/-! ## Changes that work nothing out -/

/-- No window opens or is taken somewhere by the move. -/
def Move.leavesGeometry : Move → Bool
  | .flyOut _ _ | .sample _ _ _ => false
  | _ => true

namespace Coordinator

/-- A move by which no window opens or is taken somewhere brings no new geometry. -/
theorem Change.finite {c d : Coordinator α β} {m : Move} (h : Change c m d)
    (leaves : m.leavesGeometry = true) (hc : c.Finite) : d.Finite := by
  have hunsaid :
      ∀ (z : Option (Option Int)) (placement : Option Placement) (visible mounted : Option Bool),
      Panel.Patch.Finite (α := α) { zIndex := z, placement, visible, mounted } :=
    fun _ _ _ _ => finite_patch nofun nofun
  have hplaced : ∀ {key : PanelId} {w v : Chrome α}, c.flyouts.get? key = some w →
      v.position = w.position →
      v.size = w.size → ∀ id u, (c.flyouts.insert v.panel v).get? id = some u → u.Finite := by
    intro key w v hw hposition hsize
    refine finite_insert hc.windows ?_
    rw [Chrome.Finite, hposition, hsize]
    exact hc.windows key w hw
  have hraised : ∀ {key : PanelId} {w v : Chrome α}, c.flyouts.get? key = some w →
      v.position = w.position →
      v.size = w.size → ∀ id u, (c.raised v).flyouts.get? id = some u → u.Finite := by
    intro key w v hw hposition hsize
    exact hplaced (v := { v with toOverlay := (c.raising v).state.2 }) hw hposition hsize
  cases h with
  | @registered id p new name fresh content journal =>
      refine ⟨fun i q hq => ?_, hc.windows⟩
      rcases Catalog.get?_insert_eq_some hq with ⟨_, rfl⟩ | ⟨_, hold⟩
      · rw [Panel.Finite, fresh.unplaced, fresh.unsized]
        exact ⟨nofun, nofun⟩
      · exact hc.records i q hold
  | refilledAside known bare content => exact ⟨hc.records, hc.windows⟩
  | refilled hw slot content journal =>
      exact ⟨finite_update hc.records (hunsaid _ _ _ _) rfl _ _, hplaced hw rfl rfl⟩
  | @docked id w hw content backend journal =>
      have hcleared : Panel.Patch.Finite (α := α) (dockPatch w.returnPlacement) :=
        finite_patch (fun _ hx => nomatch Option.some.inj hx)
          (fun _ hx => nomatch Option.some.inj hx)
      exact ⟨finite_update hc.records hcleared rfl _ _, finite_erase _ hc.windows⟩
  | closed hw shown backend journal =>
      exact ⟨finite_update hc.records (hunsaid _ _ _ _) rfl _ _, hplaced hw rfl rfl⟩
  | shown hw closed focus backend journal =>
      exact ⟨finite_update hc.records (hunsaid _ _ _ _) rfl _ _, hplaced hw rfl rfl⟩
  | shownOnTop hw closed focus hz backend journal =>
      exact ⟨finite_update hc.records (hunsaid _ _ _ _) rfl _ _, hraised hw rfl rfl⟩
  | focused hw shown hz journal =>
      exact ⟨finite_update hc.records (hunsaid _ _ _ _) rfl _ _, hraised hw rfl rfl⟩
  | hidden hp was backend journal =>
      exact ⟨finite_update hc.records (hunsaid _ _ _ _) rfl _ _, hc.windows⟩
  | unhidden hp was backend journal =>
      exact ⟨finite_update hc.records (hunsaid _ _ _ _) rfl _ _, hc.windows⟩
  | @destroyed id p hp content backend journal =>
      refine ⟨fun i q hq => ?_, finite_erase _ hc.windows⟩
      have hq' : (c.store.remove id).state.get? i = some q := hq
      rw [Store.remove_get?] at hq'
      split at hq'
      · cases hq'
      · exact hc.records i q hq'
  | grabbed hw hp shown handle idle opening hz name journal =>
      exact ⟨finite_update hc.records (hunsaid _ _ _ _) rfl _ _, hraised hw rfl rfl⟩
  | flownOut hp rests title position size handle slot content backend journal => cases leaves
  | sampled live mine hw backend journal => cases leaves

/-! ## What is worked out -/

variable [Backend β α] {c d : Coordinator α β}

theorem Finite.persist (h : c.Finite) (occasion : Occasion) : (c.persist occasion).Finite := by
  obtain ⟨backend, journal, hs⟩ := persist_eq c occasion
  rw [hs]
  exact ⟨h.records, h.windows⟩

omit [Backend β α] in
theorem Finite.settle {ρ : Type} {operation : Operation} {r : Except Refusal ρ × Coordinator α β}
    (h : r.2.Finite) : (Coordinator.settle operation r).2.Finite := by
  obtain ⟨result, e⟩ := r
  cases result with
  | ok v => exact h
  | error cause => exact ⟨h.records, h.windows⟩

/-- A window opens where it is told to, or where the settings say. -/
theorem Finite.flyOut (h : c.Finite) (id : PanelId) {options : FlyoutOptions α}
    (position : (options.position.getD c.defaultPosition).isFinite = true)
    (size : (options.size.getD c.settings.defaultSize).isFinite = true) :
    (c.tryFlyOut id options).2.Finite := by
  rw [tryFlyOut]
  split
  · exact h
  · rename_i p hp
    split
    · exact h
    · let w := c.freshWindow id (options.title.getD p.title)
        (options.position.getD c.defaultPosition) (options.size.getD c.settings.defaultSize)
        (options.resizeHandle.getD c.settings.resizeHandle) true p.placement
      have hw : w.Finite := Chrome.finite_iff.mpr ⟨position, size⟩
      obtain ⟨slot, content, journal, hfloat⟩ := float_eq c.handled w
      have hfloated : (c.handled.floated w slot).Finite :=
        ⟨finite_update h.records
          ⟨fun _ hx => hw.1 _ (Option.some.inj hx), fun _ hx => hw.2 _ (Option.some.inj hx)⟩
          rfl _ _, finite_insert h.windows hw⟩
      show (Coordinator.persist
        ((c.handled.float w).2.note (.flownOut id (options.position.getD c.defaultPosition)
        (options.size.getD c.settings.defaultSize) (c.handled.float w).1 p.placement))
          .flyOut).Finite
      rw [hfloat]
      refine Finite.persist ?_ .flyOut
      exact ⟨hfloated.records, hfloated.windows⟩

omit [Backend β α] in
/-- A sample takes a window where its gesture says. -/
theorem Finite.feed (h : c.Finite) (hc : c.Coherent) (pointer : Pointer α) (release : Bool)
    (reaches : ∀ s, c.tracker.session = some s → s.pointer = pointer.number →
      (c.geometryAt s pointer).Finite) :
    (c.feed pointer release).2.Finite := by
  rcases hc.feed_cases pointer release with
    ⟨es, _, hr, _⟩ | ⟨s, w, journal, hlive, hmine, _, hw, hr⟩
  · rw [hr]
    exact ⟨h.records, h.windows⟩
  · rw [hr]
    have hreaches := reaches s hlive hmine
    have hold := Chrome.finite_iff.mp (h.windows _ w hw)
    have hdock : (c.geometryAt s pointer).patch.dock = none := GeometryUpdate.patch_dock _
    cases hg : c.geometryAt s pointer with
    | moved id position =>
        rw [hg] at hreaches hdock
        have hpatch : (GeometryUpdate.moved id position).patch.Finite :=
          ⟨fun _ hx => Option.some.inj (Option.some.inj hx) ▸ hreaches, nofun⟩
        exact ⟨finite_update h.records hpatch hdock _ _,
          finite_insert h.windows (Chrome.finite_iff.mpr ⟨hreaches, hold.2⟩)⟩
    | resized id size =>
        rw [hg] at hreaches hdock
        have hpatch : (GeometryUpdate.resized id size).patch.Finite :=
          ⟨nofun, fun _ hx => Option.some.inj (Option.some.inj hx) ▸ hreaches⟩
        exact ⟨finite_update h.records hpatch hdock _ _,
          finite_insert h.windows (Chrome.finite_iff.mpr ⟨hold.1, hreaches⟩)⟩

/-- The panels that float once a snapshot is put over the records. -/
def reopenedBy (c : Coordinator α β) (snapshot : Snapshot α) : List (Panel α) :=
  (c.store.import? snapshot).state.list { placement := some .floating }

omit [Coordinate α] [Backend β α] in
theorem shownBeside_le (c : Coordinator α β) (before after : List (Panel α)) :
    c.shownBeside before after ≤ before.length + after.length :=
  Nat.add_le_add List.countP_le_length List.countP_le_length

/-- Windows are opened anew where the records say, or where the settings say. -/
theorem Finite.restore (h : c.Finite) (hc : c.Coherent) (hr : Ranked c.flyouts c.stack)
    {snapshot : Snapshot α} (found : c.restorable = some snapshot) (saved : snapshot.Finite)
    (size : c.settings.defaultSize.isFinite = true)
    (room : ∀ k, k < (c.reopenedBy snapshot).length → (c.settings.cascade k).isFinite = true) :
    c.restore.2.Finite := by
  obtain ⟨_, _, _, hversion⟩ := restorable_eq_some found
  obtain ⟨lines, e, journal, he, hrestore⟩ := restore_eq found
  have hkeyed := imported_keyed hc found lines
  have hreopening :=
    rebuild_reopens hkeyed (show (c.imported snapshot lines).Racked from ⟨hc.stacked, hr⟩)
  rw [← he] at hreopening
  have himported : ∀ id p, (c.imported snapshot lines).store.get? id = some p → p.Finite := by
    intro id p hp
    have hmerged : c.store.merged snapshot id = some p :=
      (Store.import?_get? hversion c.store id).symm.trans hp
    rw [Store.merged, Option.or_eq_some_iff] at hmerged
    rcases hmerged with hsaved | ⟨_, hold⟩
    · have hmem := List.mem_reverse.mp (List.mem_of_find?_eq_some hsaved)
      exact saved p (List.mem_filter.mp hmem).1
    · exact h.records id p hold
  -- what stands under the name of a panel that floats was opened anew
  have hopened : ∀ p ∈ (c.imported snapshot lines).floating, ∃ w q, e.flyouts.get? p.id = some w ∧
      e.store.get? p.id = some q ∧ w.Finite ∧ q.Finite := by
    intro p hp
    obtain ⟨before, after, hsplit⟩ := List.append_of_mem hp
    obtain ⟨w, q, hw, hq, hreopens⟩ := hreopening.opened before p after hsplit
    have hrecord := himported p.id p ((Store.mem_list_floating hkeyed p).mp hp).1
    have hshown := shownBeside_le (c.imported snapshot lines) before after
    have hcount : (c.reopenedBy snapshot).length = before.length + (after.length + 1) := by
      show (c.imported snapshot lines).floating.length = _
      rw [hsplit, List.length_append, List.length_cons]
    have hposition : w.position.isFinite = true := by
      rw [hreopens.position, List.append_nil]
      cases hx : p.position with
      | some x => exact hrecord.1 x hx
      | none => exact room _ (by omega)
    have hsize : w.size.isFinite = true := by
      rw [hreopens.size]
      cases hx : p.size with
      | some x => exact hrecord.2 x hx
      | none => exact size
    refine ⟨w, q, hw, hq, Chrome.finite_iff.mpr ⟨hposition, hsize⟩, fun x hx => ?_, fun x hx => ?_⟩
    · exact Option.some.inj (hreopens.placed.symm.trans hx) ▸ hposition
    · exact Option.some.inj (hreopens.sized.symm.trans hx) ▸ hsize
  rw [hrestore]
  refine ⟨fun id p hp => ?_, fun id w hw => ?_⟩
  · by_cases hid : id ∈ (c.imported snapshot lines).floating.map (·.id)
    · obtain ⟨r, hmem, rfl⟩ := List.mem_map.mp hid
      obtain ⟨_, q, _, hq, _, hfinite⟩ := hopened r hmem
      exact Option.some.inj (hq.symm.trans hp) ▸ hfinite
    · exact himported id p ((hreopening.records id hid).symm.trans hp)
  · by_cases hid : id ∈ (c.imported snapshot lines).floating.map (·.id)
    · obtain ⟨r, hmem, rfl⟩ := List.mem_map.mp hid
      obtain ⟨v, _, hv, _, hfinite, _⟩ := hopened r hmem
      exact Option.some.inj (hv.symm.trans hw) ▸ hfinite
    · have hgone := hreopening.gone id (by rw [List.append_nil]; exact hid)
      exact absurd (hgone.symm.trans hw) (by simp)

end Coordinator

/-! ## Commands and runs -/

/-- The request that a command comes down to. -/
def Command.request? : Command α β → Option (Request α β)
  | .request k => some k
  | .action a => a.request?

/-- The geometry that is handed in with a request is finite: that of an option, or of the snapshot
that is to be restored. -/
def Request.Finite [Backend β α] (c : Coordinator α β) : Request α β → Prop
  | .flyOut _ options | .tryFlyOut _ options => FiniteGeometry options.position options.size
  | .restore => ∀ snapshot, c.restorable = some snapshot → snapshot.Finite
  | _ => True

/-- The geometry that is worked out for a request is finite: where a window opens when nothing is
said, and where a sample takes the window that is held. -/
def Request.WithinRange [Backend β α] (c : Coordinator α β) : Request α β → Prop
  | .flyOut _ options | .tryFlyOut _ options =>
      options.position = none → c.defaultPosition.isFinite = true
  | .toggleFlyout id => c.isFlyingOut id = false → c.defaultPosition.isFinite = true
  | .pointerMove pointer | .pointerUp pointer =>
    ∀ s, c.tracker.session = some s → s.pointer = pointer.number → (c.geometryAt s pointer).Finite
  | .restore => ∀ snapshot, c.restorable = some snapshot →
    ∀ k, k < (c.reopenedBy snapshot).length → (c.settings.cascade k).isFinite = true
  | _ => True

namespace Coordinator

variable [Backend β α] {c d : Coordinator α β}

theorem request_finite_of_leaves (hc : c.Coherent) (h : c.Finite) (k : Request α β)
    (other : k ≠ .restore) (leaves : ∀ m, c.asked (.request k) = some m → m.leavesGeometry = true) :
    (c.request k).2.Finite := by
  have hafter := request_aftermath hc k
  generalize (c.request k).2 = d at hafter ⊢
  cases hafter with
  | aside stuck spent subscribers nextSubscriber journal => exact ⟨h.records, h.windows⟩
  | changed asks es hchange booked =>
      exact hchange.finite (leaves _ asks) (show (c.record es).Finite from ⟨h.records, h.windows⟩)
  | restored asks found => cases asks; exact absurd rfl other

/-- **A request keeps geometry finite** if the geometry that comes with it is finite, and so is what
is worked out for it. -/
theorem request_finite (hc : c.Coherent) (hr : Ranked c.flyouts c.stack)
    (size : c.settings.defaultSize.isFinite = true) (h : c.Finite) (k : Request α β)
    (given : k.Finite c) (within : k.WithinRange c) : (c.request k).2.Finite := by
  have hopens : ∀ options : FlyoutOptions α, FiniteGeometry options.position options.size →
      (options.position = none → c.defaultPosition.isFinite = true) →
      (options.position.getD c.defaultPosition).isFinite = true ∧
        (options.size.getD c.settings.defaultSize).isFinite = true := by
    intro options hgiven hdefault
    constructor
    · cases hx : options.position with
      | some x => exact hgiven.1 x hx
      | none => exact hdefault hx
    · cases hx : options.size with
      | some x => exact hgiven.2 x hx
      | none => exact size
  -- all but opening, sampling and restoring can be settled by the moves they come down to
  have hleaves : ∀ k' : Request α β, k' ≠ .restore →
      (∀ m, c.asked (.request k') = some m → m.leavesGeometry = true) → (c.request k').2.Finite :=
    fun k' => request_finite_of_leaves hc h k'
  cases k with
  | flyOut id options =>
      obtain ⟨hposition, hsize⟩ := hopens options given within
      exact (h.flyOut id hposition hsize).settle
  | tryFlyOut id options =>
      obtain ⟨hposition, hsize⟩ := hopens options given within
      exact h.flyOut id hposition hsize
  | toggleFlyout id =>
      show (c.toggleFlyout id).2.Finite
      rw [toggleFlyout]
      split
      · exact hleaves (.dock id) (fun he => by cases he) (fun m hm => by cases hm; rfl)
      · rename_i hout
        have hopen : FiniteGeometry (α := α) none none :=
          ⟨fun x hx => (by cases hx), fun x hx => (by cases hx)⟩
        obtain ⟨hposition, hsize⟩ := hopens {} hopen (fun _ => within (Bool.eq_false_iff.mpr hout))
        exact (h.flyOut id hposition hsize).settle
  | pointerMove pointer => exact h.feed hc pointer false within
  | pointerUp pointer =>
      have hfed := h.feed hc pointer true within
      show (c.pointerUp pointer).2.Finite
      rw [pointerUp]
      split
      · rename_i e he
        rw [he] at hfed
        exact hfed
      · rename_i update e he
        rw [he] at hfed
        exact hfed.persist .pointerUp
  | restore =>
      show c.restore.2.Finite
      cases hfound : c.restorable with
      | none =>
          obtain ⟨es, _, hrefused⟩ := restore_refused hfound
          rw [hrefused]
          exact ⟨h.records, h.windows⟩
      | some snapshot =>
          exact h.restore hc hr hfound (given snapshot hfound) size (within snapshot hfound)
  | pointerDown pointer =>
      refine hleaves _ (fun he => by cases he) (fun m hm => ?_)
      rw [asked, Option.map_eq_some_iff] at hm
      obtain ⟨top, _, rfl⟩ := hm
      cases top.hit <;> rfl
  | _ => exact hleaves _ (fun he => by cases he) (fun m hm => by cases hm; try rfl)

omit [Coordinate α] in
theorem Request.finite_note [Coordinate α] (c : Coordinator α β) (n : Notice α) (k : Request α β) :
    (k.Finite (c.note n) ↔ k.Finite c) ∧ (k.WithinRange (c.note n) ↔ k.WithinRange c) := by
  cases k <;> exact ⟨Iff.rfl, Iff.rfl⟩

/-- All geometry that comes with a command or is worked out for it is finite. -/
def Sound (c : Coordinator α β) (command : Command α β) : Prop :=
  ∀ k, command.request? = some k → k.Finite c ∧ k.WithinRange c

theorem perform_finite (hc : c.Coherent) (hr : Ranked c.flyouts c.stack)
    (size : c.settings.defaultSize.isFinite = true) (h : c.Finite) (command : Command α β)
    (sound : c.Sound command) : (c.perform command).2.Finite := by
  cases command with
  | request k => exact request_finite hc hr size h k (sound k rfl).1 (sound k rfl).2
  | action a =>
      have hnoted : (c.note (.executing a.label)).Coherent :=
        hc.aside c.content c.backend c.moment _
      show (c.execute a).2.Finite
      rw [execute_eq]
      cases hk : (a.request? : Option (Request α β)) with
      | none => exact ⟨h.records, h.windows⟩
      | some k =>
          obtain ⟨hgiven, hwithin⟩ := sound k hk
          obtain ⟨hgiven', hwithin'⟩ := Request.finite_note c (.executing a.label) k
          exact request_finite hnoted hr size ⟨h.records, h.windows⟩ k (hgiven'.mpr hgiven)
            (hwithin'.mpr hwithin)

theorem perform_settings (hc : c.Coherent) (command : Command α β) :
    (c.perform command).2.settings = c.settings := by
  have hafter := perform_aftermath hc command
  generalize (c.perform command).2 = d at hafter ⊢
  cases hafter with
  | aside stuck spent subscribers nextSubscriber journal => rfl
  | changed asks es hchange booked => exact hchange.settings_eq.1
  | @restored snapshot asks found =>
      obtain ⟨lines, e, journal, he, hrestore⟩ := restore_eq found
      have hrebuilt : (c.imported snapshot lines).rebuild.2.settings = c.settings := by
        refine rebuild_keeps (P := fun e => e.settings = c.settings) (fun e id he => ?_)
          (fun e p he => (reopen_settings e p).trans he) rfl
        obtain ⟨content, journal, hd⟩ := discard_eq e id
        rw [hd]
        exact he
      rw [hrestore, he]
      exact hrebuilt

/-- All commands of a run are sound where they are performed. -/
def StaysSound (c : Coordinator α β) : List (Moment × Command α β) → Prop
  | [] => True
  | (moment, command) :: rest =>
    (c.during moment).Sound command ∧ StaysSound ((c.during moment).perform command).2 rest

theorem staysSound_append (xs ys : List (Moment × Command α β)) (c : Coordinator α β) :
    c.StaysSound (xs ++ ys) ↔ c.StaysSound xs ∧ (c.run xs).StaysSound ys := by
  induction xs generalizing c with
  | nil => exact ⟨fun h => ⟨trivial, h⟩, fun h => h.2⟩
  | cons x xs ih =>
      rw [List.cons_append, StaysSound, StaysSound, ih, and_assoc]
      rfl

omit [Backend β α] in
theorem finite_ofSettings (settings : Settings α) (backend : Option β) (moment : Moment) :
    (ofSettings settings backend moment).Finite where
  records := fun id p hp => by cases hp
  windows := fun id w hw => by cases hw

theorem Finite.run (steps : List (Moment × Command α β)) {c : Coordinator α β} (h : Reachable c)
    (size : c.settings.defaultSize.isFinite = true) (finite : c.Finite)
    (sound : c.StaysSound steps) :
    (c.run steps).Finite := by
  induction steps generalizing c with
  | nil => exact finite
  | cons step rest ih =>
      obtain ⟨moment, command⟩ := step
      have hduring := h.coherent.during moment
      refine ih (h.step moment command) ?_ ?_ sound.2
      · rw [perform_settings hduring command]
        exact size
      · exact perform_finite hduring h.ranked size ⟨finite.records, finite.windows⟩ command sound.1

omit [Backend β α] in
/-- A sample that takes its window out of range shows at once. -/
theorem feed_finite_iff (hc : c.Coherent) (h : c.Finite) {s : Session α} {pointer : Pointer α}
    (live : c.tracker.session = some s) (mine : s.pointer = pointer.number)
    (somewhere : pointer.position.isFinite = true) (release : Bool) :
    (c.feed pointer release).2.Finite ↔ (c.geometryAt s pointer).Finite := by
  refine ⟨fun hfinite => ?_, fun hreaches => h.feed hc pointer release (fun t ht _ =>
    Option.some.inj (live.symm.trans ht) ▸ hreaches)⟩
  rcases hc.feed_cases pointer release with
    ⟨es, _, hr, stuck⟩ | ⟨t, w, journal, hlive, hmine, _, hw, hr⟩
  · -- the sample belongs to the gesture, so it is not passed over
    have hheld :
        c.layout.hold = some { panel := s.panel, grip := s.grip, pointer := s.pointer } := by
      rw [layout_hold, live]
      rfl
    have hstep := Layout.step_sample hheld release
    rw [mine, ← somewhere] at hstep
    exact absurd (stuck.symm.trans hstep) (by simp)
  · obtain rfl : s = t := Option.some.inj (live.symm.trans hlive)
    rw [hr] at hfinite
    have hwindow := Chrome.finite_iff.mp (hfinite.windows _ _ (Catalog.get?_insert_self _ _ _))
    cases hg : c.geometryAt s pointer with
    | moved id position => rw [hg] at hwindow; exact hwindow.1
    | resized id size => rw [hg] at hwindow; exact hwindow.2

end Coordinator

/-! ## Floats -/

theorem isFinite_of_between {a v b : Float} (least : a.isFinite = true)
    (greatest : b.isFinite = true) (above : a ≤ v) (below : v ≤ b) : v.isFinite = true := by
  have habove : a.toModel.unpack.le v.toModel.unpack = true := of_decide_eq_true above
  have hbelow : v.toModel.unpack.le b.toModel.unpack = true := of_decide_eq_true below
  have hleast : a.toModel.unpack.isFinite = true := least
  have hgreatest : b.toModel.unpack.isFinite = true := greatest
  show v.toModel.unpack.isFinite = true
  generalize v.toModel.unpack = u at *
  generalize a.toModel.unpack = l at *
  generalize b.toModel.unpack = g at *
  cases u with
  | zero s => rfl
  | finite s m e hm => rfl
  | notANumber => cases l <;> cases habove
  | infinity s =>
      cases s with
      | positive =>
          cases g with
          | zero s => cases hbelow
          | finite s m e hm => cases hbelow
          | _ => cases hgreatest
      | negative =>
          cases l with
          | zero s => cases habove
          | finite s m e hm => cases habove
          | _ => cases hleast

theorem Settings.defaultSize_finite {settings : Settings Float}
    (accepted : settings.violations = []) : settings.flyout.defaultSize.isFinite = true := by
  have hrange : ∀ {name value least greatest}, (Float.ofNat least).isFinite = true →
      (Float.ofNat greatest).isFinite = true →
      rangeViolation (α := Float) name value least greatest = [] →
      value.isFinite = true := by
    intro name value least greatest hleast hgreatest hnone
    rw [rangeViolation] at hnone
    split at hnone
    · rename_i hbetween
      exact isFinite_of_between hleast hgreatest hbetween.1 hbetween.2
    · cases hnone
  simp only [violations, List.append_eq_nil_iff] at accepted
  obtain ⟨⟨⟨⟨⟨⟨⟨⟨_, hwidth⟩, hheight⟩, _⟩, _⟩, _⟩, _⟩, _⟩, _⟩ := accepted
  rw [Size.isFinite, Bool.and_eq_true]
  exact ⟨hrange (by decide) (by decide) hwidth, hrange (by decide) (by decide) hheight⟩

namespace Coordinator

variable {β : Type} [Backend β Float]

/-- **Geometry stays finite as long as the sums do.** The settings are accepted. Then all geometry
stays finite as long as the geometry that comes with the commands is finite, and so is what is
worked out for them: where windows open when nothing is said, and where gestures take them. And for
gestures this is needed: a sample leaves all geometry finite exactly if the place or size that it
gives the window is finite. -/
theorem geometry_finite_while_sound {settings : Settings Float}
    (accepted : settings.violations = []) (backend : Option β) (moment : Moment)
    (steps : List (Moment × Command Float β))
    (sound : (ofSettings settings backend moment).StaysSound steps) :
    let c := (ofSettings settings backend moment).run steps
    c.Finite ∧ ∀ s pointer release, c.tracker.session = some s → s.pointer = pointer.number →
      pointer.position.isFinite = true →
      ((c.feed pointer release).2.Finite ↔ (c.geometryAt s pointer).Finite) := by
  intro c
  have hstart : Reachable (ofSettings settings backend moment) := .start settings backend moment
  have hfinite : c.Finite := Finite.run steps hstart (Settings.defaultSize_finite accepted)
    (finite_ofSettings settings backend moment) sound
  have hc : c.Coherent := (hstart.run steps).coherent
  exact ⟨hfinite, fun s pointer release live mine somewhere =>
    feed_finite_iff hc hfinite live mine somewhere release⟩

open SmallRun in
/-- A panel in a window at the origin, with the pointer on its title bar. -/
def grabAt (start : Float) : List (Moment × Command Float (Memory Float)) :=
  [(clock, .request (.registerPanel log "Log" "left" none)),
    (clock, .request (.flyOut log { position := some { x := 0, y := 0 } })),
    (clock, .request (.beginDrag log { position := { x := start, y := 0 }, number := 0 }))]

/-- The pointer goes there. -/
def moveTo (target : Float) : Pointer Float := { position := { x := target, y := 0 }, number := 0 }

open SmallRun in
/-- The window is dragged from one place to the other. -/
def dragAcross (start target : Float) : List (Moment × Command Float (Memory Float)) :=
  grabAt start ++ [(clock, .request (.pointerMove (moveTo target)))]

theorem sound_request {k : Request Float β} {c : Coordinator Float β} (given : k.Finite c)
    (within : k.WithinRange c) : c.Sound (.request k) := by
  intro k' hk
  obtain rfl : k = k' := Option.some.inj hk
  exact ⟨given, within⟩

theorem grabAt_sound (c : Coordinator Float (Memory Float)) (start : Float) :
    c.StaysSound (grabAt start) := by
  have horigin : ({ x := 0, y := 0 } : Point Float).isFinite = true := by decide +kernel
  exact ⟨sound_request trivial trivial,
    sound_request ⟨fun x hx => Option.some.inj hx ▸ horigin, nofun⟩ nofun,
    sound_request trivial trivial, trivial⟩

open SmallRun in
/-- A short drag keeps all geometry finite. -/
theorem short_drag_is_finite :
    (Settings.standard : Settings Float).violations = [] ∧
    (ofSettings .standard (some {}) clock).StaysSound (dragAcross 10 30) ∧
    ((ofSettings .standard (some {}) clock).run (dragAcross 10 30)).Finite := by
  have haccepted : (Settings.standard : Settings Float).violations = [] := by decide +kernel
  have hreaches :
      ((ofSettings .standard (some {}) clock).run (grabAt 10)).tracker.session.all (fun s =>
      decide (((ofSettings .standard (some {}) clock).run (grabAt 10)).geometryAt s
        (moveTo 30)).Finite) = true := by
    decide +kernel
  have hsound : (ofSettings .standard (some {}) clock).StaysSound (dragAcross 10 30) := by
    refine (staysSound_append _ _ _).mpr
      ⟨grabAt_sound _ _, sound_request trivial (fun s hs _ => ?_), trivial⟩
    exact of_decide_eq_true ((Option.all_eq_true _ _).mp hreaches s hs)
  have hfinite :=
    (geometry_finite_while_sound (β := Memory Float) haccepted (some {}) clock _ hsound).1
  exact ⟨haccepted, hsound, hfinite⟩

open SmallRun in
/-- The settings are accepted, and every number that comes in is finite. But the pointer goes from
one end of the range of floats to the other, and takes the window out of it. -/
theorem drag_leaves_range :
    (Settings.standard : Settings Float).violations = [] ∧
    (0 : Float).isFinite = true ∧ (1e308 : Float).isFinite = true ∧
    (-1e308 : Float).isFinite = true ∧
    let c := (ofSettings .standard (some {}) clock).run (dragAcross (-1e308) 1e308)
    (c.flyouts.get? log).any (fun w => !w.position.isFinite) = true ∧
      (c.store.get? log).any (fun p => p.position.any (fun x => !x.isFinite)) = true := by
  refine ⟨by decide +kernel, by decide +kernel, by decide +kernel, by decide +kernel, ?_, ?_⟩
  · decide +kernel
  · decide +kernel

end Coordinator

end PanelDock
