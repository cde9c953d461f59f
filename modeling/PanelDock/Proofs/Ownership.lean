import Mathlib.Data.List.TakeWhile
import PanelDock.Proofs.Merging
import PanelDock.Proofs.Retelling
import PanelDock.Proofs.Subscribers
/-!
# Every panel has a dock, so nothing is lost on the way out and in

A snapshot is taken back without the panels that have no dock, and files each panel under the name
that its record has. Neither loses anything that a store has saved: whatever was done with the
store, each of its panels stands under its own name (`Keyed`) and has a dock (`Housed`). A panel
comes into the store, or gets another dock, in three ways only: it is created, its record is
changed, or it is taken from a snapshot. Each asks for a dock with a name, and a change that would
clear the dock is made without that part.
-/

namespace PanelDock

variable {α : Type}

/-- Of a text that is not blank something is left when it is trimmed. -/
theorem Text.trim_ne_nil {s : String} (h : isBlankText s = false) : trim s.toList ≠ [] := by
  intro hnil
  -- what is dropped on the left is blank, and so is all that is behind it, as it is dropped on the
  -- right
  have hright : trimLeft (trimLeft s.toList).reverse = [] := List.reverse_eq_nil_iff.mp hnil
  have hrest : ∀ c ∈ trimLeft s.toList, isBlank c = true :=
    fun c hc => List.dropWhile_eq_nil_iff.mp hright c (List.mem_reverse.mpr hc)
  have hall : isBlankText s = true := by
    refine List.all_eq_true.mpr (fun c hc => ?_)
    rw [← List.takeWhile_append_dropWhile (p := isBlank) (l := s.toList)] at hc
    rcases List.mem_append.mp hc with hc | hc
    · exact List.mem_takeWhile_imp hc
    · exact hrest c hc
  rw [hall] at h
  cases h

namespace Store

/-! ## Every panel has a dock -/

/-- Each panel belongs to a dock whose name is not blank. -/
def Housed (s : Store α) : Prop := ∀ id p, s.get? id = some p → Text.isBlankText p.dock = false

theorem housed_empty : Housed (empty : Store α) := by
  intro id p hp
  cases hp

theorem Housed.insert {s : Store α} (hs : s.Housed) (id : PanelId) {p : Panel α}
    (dock : Text.isBlankText p.dock = false) :
    Housed { s with panels := s.panels.insert id p } := by
  intro i q hq
  rcases Catalog.get?_insert_eq_some hq with ⟨_, rfl⟩ | ⟨_, hold⟩
  · exact dock
  · exact hs i q hold

theorem Housed.erase {s : Store α} (hs : s.Housed) (id : PanelId) :
    Housed { s with panels := s.panels.erase id } :=
  fun i q hq => hs i q (Catalog.get?_erase_eq_some hq).2

/-- What is taken of a patch leaves a dock, whatever else the patch says. -/
theorem admitted_housed [Coordinate α] {p : Panel α} (dock : Text.isBlankText p.dock = false)
    (patch : Panel.Patch α) : Text.isBlankText (p.patched (admitted patch)).dock = false := by
  show Text.isBlankText (settled p.dock (admitted patch).dock) = false
  rw [admitted]
  split
  · exact dock
  · rename_i hclears
    rw [clearsDock] at hclears
    cases hpatch : patch.dock with
    | none => exact dock
    | some home =>
        rw [hpatch, Option.any_some, Bool.not_eq_true] at hclears
        rw [settled_some]
        exact hclears

theorem Housed.create {s : Store α} (hs : s.Housed) (now : Instant) (id : PanelId) (dock : String)
    (defaults : Panel.Defaults) : (s.create now id dock defaults).state.Housed := by
  have hcreate := s.creation now id dock defaults
  generalize s.create now id dock defaults = o at hcreate ⊢
  cases hcreate with
  | refused n why => exact hs
  | brokenOff quiet named new unordered full => exact hs
  | done quiet named new behind => exact hs.insert id named

theorem Housed.update [Coordinate α] {s : Store α} (hs : s.Housed) (now : Instant) (id : PanelId)
    (patch : Panel.Patch α) : (s.update now id patch).state.Housed := by
  cases hp : s.get? id with
  | none => rw [Store.update, hp]; exact hs
  | some p =>
      obtain ⟨kept, _, hupdate⟩ := update_known hp now patch
      rw [hupdate]
      split
      · exact hs.insert id (admitted_housed (hs id p hp) patch)
      · exact hs

theorem Housed.remove {s : Store α} (hs : s.Housed) (id : PanelId) :
    (s.remove id).state.Housed := by
  rw [Store.remove]
  split
  · exact hs
  · exact hs.erase id

/-- A snapshot may hold panels without a dock; they are not taken. -/
theorem Housed.import? {s : Store α} (hs : s.Housed) (snapshot : Snapshot α) :
    (s.import? snapshot).state.Housed := by
  by_cases hversion : snapshot.version = Snapshot.currentVersion
  · intro id p hp
    rw [import?_get? hversion, merged, Option.or_eq_some_iff] at hp
    -- a panel either is among those that are taken, or was there before
    rcases hp with hnew | ⟨_, hold⟩
    · have htaken := List.mem_reverse.mp (List.mem_of_find?_eq_some hnew)
      simpa [Restorable] using (List.mem_filter.mp htaken).2
    · exact hs id p hold
  · rw [Store.import?, if_pos hversion]
    exact hs

variable [Coordinate α]

theorem Housed.perform {s : Store α} (hs : s.Housed) (now : Instant) (deed : Deed α) :
    (s.perform now deed).1.Housed := by
  cases deed with
  | create id dock defaults => exact hs.create now id dock defaults
  | update id patch => exact hs.update now id patch
  | remove id => exact hs.remove id
  | dispatch change =>
      cases change with
      | create id dock defaults => exact hs.create now id dock defaults
      | update id patch => exact hs.update now id patch
      | remove id => exact hs.remove id
  | take snapshot => exact hs.import? snapshot
  | subscribe => exact hs
  | unsubscribe n => exact hs

theorem Housed.run {s : Store α} (hs : s.Housed) (deeds : List (Instant × Deed α)) :
    (s.run deeds).1.Housed := by
  induction deeds generalizing s with
  | nil => exact hs
  | cons d rest ih => exact ih (hs.perform d.1 d.2)

/-! ## Out and in again -/

omit [Coordinate α] in
/-- All that is saved of a store whose panels have docks is taken back. -/
theorem Housed.snapshot_restorable {s : Store α} (hs : s.Housed) (now : Instant) :
    (s.snapshot now).panels.filter Restorable = s.panels.values := by
  refine List.filter_eq_self.mpr (fun p hp => ?_)
  obtain ⟨id, hid⟩ := (Catalog.mem_values_iff _ _).mp hp
  rw [Restorable, hs id p hid]
  rfl

omit [Coordinate α] in
/-- Among the panels that are listed, the one of a name is found under that name. -/
theorem Keyed.find?_values {s : Store α} (hs : s.Keyed) (id : PanelId) :
    s.panels.values.reverse.find? (fun p => decide (p.id = id)) = s.get? id := by
  cases hfound : s.panels.values.reverse.find? (fun p => decide (p.id = id)) with
  | none =>
      cases hp : s.get? id with
      | none => rfl
      | some p =>
          have hlisted : p ∈ s.panels.values.reverse :=
            List.mem_reverse.mpr ((Catalog.mem_values_iff _ _).mpr ⟨id, hp⟩)
          have hother := List.find?_eq_none.mp hfound p hlisted
          exact absurd (hs id p hp) (by simpa using hother)
  | some p =>
      -- it is filed under some name; its own name is that one, and the one that is looked for
      obtain ⟨k, hk⟩ := (Catalog.mem_values_iff _ _).mp
        (List.mem_reverse.mp (List.mem_of_find?_eq_some hfound))
      have hname : p.id = id := by simpa using List.find?_some hfound
      have hown : p.id = k := hs k p hk
      rw [← hname, hown]
      exact hk.symm

omit [Coordinate α] in
/-- A store that takes what another one has saved has the panels of that one, and besides them its
own. -/
theorem import?_snapshot {a : Store α} (keyed : a.Keyed) (housed : a.Housed) (b : Store α)
    (now : Instant) :
    (b.import? (a.snapshot now)).result = .ok a.size ∧
      ∀ id, (b.import? (a.snapshot now)).state.get? id = (a.get? id).or (b.get? id) := by
  have hversion : (a.snapshot now).version = Snapshot.currentVersion := rfl
  constructor
  · rw [import?_result hversion, housed.snapshot_restorable, Catalog.values, List.length_map]
    rfl
  · intro id
    rw [import?_get? hversion, merged, housed.snapshot_restorable, keyed.find?_values]

/-- **A store loses nothing on the way out and in again.** Whatever has been done with two stores,
each panel of the first stands under its own name and has a dock of which something is left when it
is trimmed. If the second takes what the first has saved, it takes every panel; it then has the
records of the first where that one has any, and its own everywhere else; and the one thing that is
told, to each of its subscribers once, is that everything may have changed. A snapshot of another
version is refused, and nothing else happens. -/
theorem exports_are_taken_whole (first second : List (Instant × Deed α)) (now : Instant) :
    let a := ((empty : Store α).run first).1
    let b := ((empty : Store α).run second).1
    let o := b.import? (a.snapshot now)
    (∀ id p, a.get? id = some p → p.id = id ∧ Text.trim p.dock.toList ≠ []) ∧
    o.result = .ok a.size ∧
    (∀ id, o.state.get? id = (a.get? id).or (b.get? id)) ∧
    emitted o.effects = [.reset] ∧ (∀ n ∈ b.subscribers, heard n o.effects = [.reset]) ∧
    ∀ snapshot : Snapshot α, snapshot.version ≠ Snapshot.currentVersion →
      b.import? snapshot = ⟨.error (.unsupportedVersion snapshot.version), b, []⟩ := by
  intro a b o
  have hkeyed : a.Keyed := (orderly_empty.run first).keyed
  have hhoused : a.Housed := housed_empty.run first
  have hb : b.Orderly := orderly_empty.run second
  obtain ⟨hresult, hpanels⟩ := import?_snapshot hkeyed hhoused b now
  have htold : emitted o.effects = [.reset] := (Coordinator.import?_tells rfl b).1
  refine ⟨fun id p hp => ⟨hkeyed id p hp, Text.trim_ne_nil (hhoused id p hp)⟩, hresult,
    hpanels, htold,
    fun n hn => ?_, fun snapshot hversion => ?_⟩
  · have hheard := hb.heard_perform now (.take (a.snapshot now)) n
    rw [if_pos hn] at hheard
    exact hheard.trans htold
  · rw [Store.import?, if_pos hversion]

open SmallRun in
/-- A panel is renamed by a patch that would also clear its dock, and one without a dock is offered
in a snapshot; another store has a panel of the same name in another dock. It takes the one panel
and its new name, and of a later version it takes nothing. -/
theorem renamed_panel_is_taken :
    let homeless : Panel Int :=
      { id := chart, title := "Chart", placement := .docked, dock := " ",
        position := none, size := none,
        zIndex := none, visible := true, mounted := false, order := 0, createdAt := clock.now,
        lastUpdated := clock.now }
    let first : List (Instant × Deed Int) := [(clock.now, .create log "left" {}),
      (clock.now, .update log { title := some "Log", dock := some "\t" }),
      (clock.now, .take ⟨Snapshot.currentVersion, clock.now, [homeless]⟩)]
    let second : List (Instant × Deed Int) :=
      [(clock.now, .create log "right" {}), (clock.now, .subscribe)]
    let a := ((empty : Store Int).run first).1
    let b := ((empty : Store Int).run second).1
    a.size = 1 ∧ (b.import? (a.snapshot clock.now)).result = .ok 1 ∧
    ((b.import? (a.snapshot clock.now)).state.get? log).map (fun p => (p.title, p.dock)) =
      some ("Log", "left") ∧
    heard 1 (b.import? (a.snapshot clock.now)).effects = [.reset] ∧
    (2 : UInt32) ≠ Snapshot.currentVersion ∧
    b.import? ⟨2, clock.now, [homeless]⟩ = ⟨.error (.unsupportedVersion 2), b, []⟩ := by
  intro homeless first second a b
  obtain ⟨_, hresult, hpanels, _, hheard, hrefused⟩ :=
    exports_are_taken_whole first second clock.now
  have hsize : a.size = 1 := by decide
  have hversion : (2 : UInt32) ≠ Snapshot.currentVersion := by decide
  refine ⟨hsize, ?_, ?_, hheard 1 (by decide), hversion, hrefused _ hversion⟩
  · rw [hresult]
    exact congrArg Except.ok hsize
  · rw [hpanels]
    decide

end Store

end PanelDock
