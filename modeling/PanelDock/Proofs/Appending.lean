import PanelDock.Proofs.Subscribers
/-!
# A new panel goes behind the others of its dock

A panel that is created without an order gets the next one of its dock: one more than the greatest
that is there. The panels of a dock are listed by their orders, so it is listed last. That is the
whole of it as long as there is a next order. Orders are words, and they come from anywhere: from
the host, from patches, from saved files. Behind the greatest word there is none, and the program
breaks off when it is asked for it.

`placeBehind` is the next order as a whole number, and the order that is computed is `placeBehind`
of the panels of the dock (`nextOrder?_toNat`).
-/

namespace PanelDock

variable {α : Type}

/-- Two panels do not come before each other. -/
theorem Panel.Precedes.asymm {p q : Panel α} (h : p.Precedes q) : ¬ q.Precedes p := by
  rintro (hdock' | ⟨hdock', horder' | ⟨horder', hid'⟩⟩)
  all_goals rcases h with hdock | ⟨hdock, horder | ⟨horder, hid⟩⟩
  · exact String.lt_asymm hdock hdock'
  · exact String.lt_irrefl _ (hdock ▸ hdock')
  · exact String.lt_irrefl _ (hdock ▸ hdock')
  · exact String.lt_irrefl _ (hdock' ▸ hdock)
  · exact UInt32.lt_asymm horder horder'
  · exact UInt32.lt_irrefl _ (horder ▸ horder')
  · exact String.lt_irrefl _ (hdock' ▸ hdock)
  · exact UInt32.lt_irrefl _ (horder' ▸ horder)
  · exact String.lt_asymm hid hid'

/-- Two lists with the same panels, each in the order of the panels, are the same list. -/
theorem eq_of_precedes {ps qs : List (Panel α)} (hp : ps.Pairwise Panel.Precedes)
    (hq : qs.Pairwise Panel.Precedes) (hperm : ps.Perm qs) : ps = qs :=
  hperm.eq_of_pairwise (fun _ _ _ _ h h' => absurd h' h.asymm) hp hq

/-! ## The next order -/

/-- The place behind all of these panels: one more than the greatest of their orders, or zero if
there is none. -/
def placeBehind (ps : List (Panel α)) : Nat := (ps.map (fun p => p.order.toNat + 1)).foldl max 0

theorem placeBehind_perm {ps qs : List (Panel α)} (h : ps.Perm qs) :
    placeBehind ps = placeBehind qs :=
  (h.map _).foldl_eq' (fun _ _ _ _ _ => Nat.max_right_comm _ _ _) 0

/-- The place behind lies behind each of the panels. -/
theorem order_lt_placeBehind {ps : List (Panel α)} {p : Panel α} (hp : p ∈ ps) :
    p.order.toNat < placeBehind ps := by
  have hmem : p.order.toNat + 1 ∈ ps.map (fun p => p.order.toNat + 1) := List.mem_map_of_mem hp
  rw [placeBehind, List.foldl_max, Nat.zero_max]
  exact List.le_max?_getD_of_mem hmem

/-- If all orders lie below a bound, the place behind them is at most there. -/
theorem placeBehind_le {ps : List (Panel α)} {bound : Nat} (h : ∀ p ∈ ps, p.order.toNat < bound) :
    placeBehind ps ≤ bound := by
  rw [placeBehind, List.foldl_max, Nat.zero_max]
  cases hmax : (ps.map (fun p => p.order.toNat + 1)).max? with
  | none => exact Nat.zero_le bound
  | some greatest =>
      refine (List.max?_le_iff hmax).mpr (fun place hplace => ?_)
      obtain ⟨p, hp, rfl⟩ := List.mem_map.mp hplace
      exact h p hp

theorem toNat_max (a b : UInt32) : (max a b).toNat = max a.toNat b.toNat := by
  have hmax : max a b = if a ≤ b then b else a := rfl
  rw [hmax]
  split
  · next hle => rw [UInt32.le_iff_toNat_le] at hle; omega
  · next hle => rw [UInt32.le_iff_toNat_le] at hle; omega

namespace Store

/-- Counting up in words is counting up, where every panel has a next order. -/
theorem foldl_next {ps : List (Panel α)} (h : ∀ p ∈ ps, hasNext p = true) (a : UInt32) :
    ((ps.map (fun p => p.order + 1)).foldl max a).toNat =
      (ps.map (fun p => p.order.toNat + 1)).foldl max a.toNat := by
  induction ps generalizing a with
  | nil => rfl
  | cons p ps ih =>
      have hword : p.order.toNat + 1 < UInt32.size := of_decide_eq_true (h p List.mem_cons_self)
      have hnext : (p.order + 1).toNat = p.order.toNat + 1 := by
        rw [UInt32.toNat_add]
        exact Nat.mod_eq_of_lt hword
      rw [List.map_cons, List.foldl_cons, ih (fun q hq => h q (List.mem_cons_of_mem p hq)),
        toNat_max, hnext]
      rfl

theorem list_dock_perm (s : Store α) (dock : String) :
    (s.panels.values.filter (·.dock == dock)).Perm (s.list { dock := some dock }) := by
  have hadmits : ∀ p : Panel α, ({ dock := some dock } : Panel.Filter).admits p =
    (p.dock == dock) :=
    fun p => by simp [Panel.Filter.admits]
  rw [list, funext hadmits]
  exact (List.mergeSort_perm _ _).symm

/-- Where every panel of the dock has a next order, there is one behind them. -/
theorem nextOrder?_of_room {s : Store α} {dock : String}
    (room : ∀ p ∈ s.list { dock := some dock }, hasNext p = true) :
    ∃ order, s.nextOrder? dock = some order ∧
      order.toNat = placeBehind (s.list { dock := some dock }) := by
  have hlisted := list_dock_perm s dock
  have hnext : ∀ p ∈ s.panels.values.filter (·.dock == dock), hasNext p = true :=
    fun p hp => room p (hlisted.mem_iff.mp hp)
  rw [nextOrder?, if_pos (List.all_eq_true.mpr hnext)]
  exact ⟨_, rfl, (foldl_next hnext 0).trans (placeBehind_perm hlisted)⟩

theorem nextOrder?_of_no_room {s : Store α} {dock : String}
    (full : ¬ ∀ p ∈ s.list { dock := some dock }, hasNext p = true) : s.nextOrder? dock = none := by
  rw [nextOrder?, if_neg]
  intro hall
  exact full (fun p hp => List.all_eq_true.mp hall p ((list_dock_perm s dock).mem_iff.mpr hp))

/-! ## The list of the dock -/

variable {s : Store α} {p : Panel α}

theorem mem_list_dock (hs : s.Keyed) (dock : String) (q : Panel α) :
    q ∈ s.list { dock := some dock } ↔ s.get? q.id = some q ∧ q.dock = dock := by
  rw [mem_list hs]
  simp [Panel.Filter.admits]

/-- When a panel is filed that was not there, the list of its dock gets that panel. -/
theorem list_insert_perm (hs : s.Keyed) (new : s.get? p.id = none) :
    (list { s with panels := s.panels.insert p.id p } { dock := some p.dock }).Perm
      (p :: s.list { dock := some p.dock }) := by
  have hkeyed : Keyed { s with panels := s.panels.insert p.id p } := hs.insert rfl
  have hout : p ∉ s.list { dock := some p.dock } := fun hp =>
    Option.some_ne_none p (((mem_list_dock hs _ _).mp hp).1.symm.trans new)
  have hnodup : ∀ {t : Store α}, t.Keyed → (t.list { dock := some p.dock }).Nodup := fun ht =>
    (List.pairwise_map.mp (nodup_list ht _)).imp (fun hne he => hne (congrArg Panel.id he))
  refine (List.perm_ext_iff_of_nodup (hnodup hkeyed) (List.nodup_cons.mpr ⟨hout, hnodup hs⟩)).mpr
    (fun q => ?_)
  rw [mem_list_dock hkeyed, List.mem_cons, mem_list_dock hs]
  show (s.panels.insert p.id p).get? q.id = some q ∧ q.dock = p.dock ↔ _
  rw [Catalog.get?_insert]
  by_cases hid : q.id = p.id
  · rw [if_pos hid]
    constructor
    · rintro ⟨hq, _⟩
      exact Or.inl (Option.some.inj hq).symm
    · rintro (rfl | ⟨hq, _⟩)
      · exact ⟨rfl, rfl⟩
      · rw [hid, new] at hq
        cases hq
  · rw [if_neg hid]
    exact ⟨Or.inr, fun h => h.resolve_left (fun he => hid (congrArg Panel.id he))⟩

/-- A panel that every other panel of the dock precedes is listed last. -/
theorem list_insert_eq_append (hs : s.Keyed) (new : s.get? p.id = none)
    (last : ∀ q ∈ s.list { dock := some p.dock }, q.Precedes p) :
    list { s with panels := s.panels.insert p.id p } { dock := some p.dock } =
      s.list { dock := some p.dock } ++ [p] := by
  have hascending : (s.list { dock := some p.dock } ++ [p]).Pairwise Panel.Precedes :=
    List.pairwise_append.mpr ⟨list_ascending hs _, List.pairwise_singleton _ _,
      fun q hq r hr => List.mem_singleton.mp hr ▸ last q hq⟩
  exact eq_of_precedes (list_ascending (hs.insert rfl) _) hascending
    ((list_insert_perm hs new).trans (List.perm_append_singleton _ _).symm)

/-- Every panel of a dock precedes one at the place behind them. -/
theorem precedes_behind {q : Panel α} (hs : s.Keyed) (hq : q ∈ s.list { dock := some p.dock })
    (behind : p.order.toNat = placeBehind (s.list { dock := some p.dock })) : q.Precedes p := by
  have horder : q.order.toNat < p.order.toNat := behind ▸ order_lt_placeBehind hq
  exact Or.inr ⟨((mem_list_dock hs _ _).mp hq).2, Or.inl (UInt32.lt_iff_toNat_lt.mpr horder)⟩

/-! ## The operation -/

/-- A new panel that is not told its order is put at the next one of its dock. Without one, the
program breaks off. -/
theorem create_unordered {s : Store α} {id : PanelId} {dock : String} {defaults : Panel.Defaults}
    (now : Instant) (new : s.get? id = none) (named : Text.isBlankText dock = false)
    (unordered : defaults.order = none) :
    ∃ es, s.create now id dock defaults = match s.nextOrder? dock with
      | some order =>
        ⟨.done, { s with panels := s.panels.insert id (newPanel now id dock order defaults) }, es⟩
      | none => ⟨.brokenOff, s, es⟩ := by
  have hcreate := s.creation now id dock defaults
  generalize s.create now id dock defaults = o at hcreate ⊢
  cases hcreate with
  | refused n why => simp [named, new] at why
  | brokenOff quiet named new unordered full =>
      rw [full]
      exact ⟨_, rfl⟩
  | done quiet named new behind =>
      rw [unordered, Option.none_or] at behind
      rw [behind]
      exact ⟨_, rfl⟩

/-! ## Orders that are given out one after the other -/

/-- The orders of all panels lie below a bound. -/
def OrdersBelow (s : Store α) (bound : Nat) : Prop :=
  ∀ id p, s.get? id = some p → p.order.toNat < bound

theorem ordersBelow_empty : (empty : Store α).OrdersBelow 0 := fun id p hp => by cases hp

/-- Where orders are given out one after the other, a dock is full only when all words have been
given out. -/
theorem OrdersBelow.size_le {s : Store α} {bound : Nat} (h : s.OrdersBelow bound) {dock : String}
    (full : s.isFull dock = true) : UInt32.size ≤ bound := by
  obtain ⟨id, p, hp, _, hlast⟩ := (isFull_iff s dock).mp full
  have horder := h id p hp
  have hgreatest := (hasNext_eq_false_iff p).mp hlast
  omega

/-- A new panel that is not told its order raises the bound by no more than one. -/
theorem OrdersBelow.create {s : Store α} {bound : Nat} (h : s.OrdersBelow bound) (hs : s.Keyed)
    (now : Instant) (id : PanelId) (dock : String) {defaults : Panel.Defaults}
    (unordered : defaults.order = none) :
    (s.create now id dock defaults).state.OrdersBelow (bound + 1) := by
  have hmore : s.OrdersBelow (bound + 1) := fun i p hp => Nat.lt_succ_of_lt (h i p hp)
  have hcreate := s.creation now id dock defaults
  generalize s.create now id dock defaults = o at hcreate ⊢
  cases hcreate with
  | refused n why => exact hmore
  | brokenOff quiet named new unordered full => exact hmore
  | @done es order quiet named new behind =>
      rw [unordered, Option.none_or] at behind
      have hplace : order.toNat ≤ bound := by
        by_cases room : ∀ p ∈ s.list { dock := some dock }, hasNext p = true
        · obtain ⟨next, hnext, hbehind⟩ := nextOrder?_of_room room
          obtain rfl : next = order := Option.some.inj (hnext.symm.trans behind)
          rw [hbehind]
          exact placeBehind_le (fun p hp => h p.id p ((mem_list_dock hs dock p).mp hp).1)
        · rw [nextOrder?_of_no_room room] at behind
          cases behind
      intro i p hp
      rcases Catalog.get?_insert_eq_some hp with ⟨_, rfl⟩ | ⟨_, hold⟩
      · exact Nat.lt_succ_of_le hplace
      · exact hmore i p hold

/-! ## The list after the operation -/

variable [Coordinate α]

/-- **A new panel goes behind the others of its dock, unless the program breaks off.** Whatever has
been done with the store, creating a panel that it does not know, in a dock that has a name,
succeeds exactly if every panel of the dock has a next order. Then the order of the new one is the
place behind all of them, and it is listed last. Otherwise the program breaks off, and nothing has
changed. In any case the panels of the dock stand one before the other, each once. -/
theorem new_panel_goes_last (deeds : List (Instant × Deed α)) (now : Instant) (id : PanelId)
    (dock : String) (defaults : Panel.Defaults)
    (new : ((empty : Store α).run deeds).1.get? id = none) (named : Text.isBlankText dock = false)
    (unordered : defaults.order = none) :
    let s := ((empty : Store α).run deeds).1
    let o := s.create now id dock defaults
    let listed := s.list { dock := some dock }
    let after := o.state.list { dock := some dock }
    (o.result = .done ↔ ∀ q ∈ listed, q.order.toNat + 1 < UInt32.size) ∧
    (o.result = .done → ∃ p, o.state.get? id = some p ∧ p.dock = dock ∧
      p.order.toNat = placeBehind listed ∧ after = listed ++ [p]) ∧
    (o.result ≠ .done → o.result = .brokenOff ∧ o.state = s) ∧
    after.Pairwise Panel.Precedes ∧
    ∀ q, q ∈ after ↔ o.state.get? q.id = some q ∧ q.dock = dock := by
  intro s o listed after
  have hs : s.Keyed := (orderly_empty.run deeds).keyed
  have hkeyed : o.state.Keyed := (create_turn hs now id dock defaults).keyed hs
  have hroom : (∀ q ∈ listed, q.order.toNat + 1 < UInt32.size) ↔
      ∀ q ∈ listed, hasNext q = true := by
    simp only [hasNext, decide_eq_true_iff]
  rw [hroom, ← and_assoc, ← and_assoc]
  refine ⟨?_, list_ascending hkeyed _, fun q => mem_list_dock hkeyed _ _⟩
  obtain ⟨es, ho⟩ := create_unordered now new named unordered
  by_cases room : ∀ q ∈ listed, hasNext q = true
  · obtain ⟨order, hnext, hplace⟩ := nextOrder?_of_room room
    rw [hnext] at ho
    let p : Panel α := newPanel now id dock order defaults
    have hresult : o.result = .done := congrArg Outcome.result ho
    have hstate : o.state = { s with panels := s.panels.insert p.id p } := congrArg Outcome.state ho
    refine ⟨⟨iff_of_true hresult room, fun _ => ⟨p, ?_, rfl, hplace, ?_⟩⟩,
      fun h => absurd hresult h⟩
    · rw [hstate]
      exact Catalog.get?_insert_self _ _ _
    · show o.state.list _ = _
      rw [hstate]
      exact list_insert_eq_append hs new (fun q hq => precedes_behind hs hq hplace)
  · rw [nextOrder?_of_no_room room] at ho
    have hresult : o.result = .brokenOff := congrArg Outcome.result ho
    have hnot : o.result ≠ .done := by simp [hresult]
    exact ⟨⟨iff_of_false hnot room, fun h => absurd h hnot⟩,
      fun _ => ⟨hresult, congrArg Outcome.state ho⟩⟩

open SmallRun in
/-- A panel stands at the last order that has a next one, and another behind it has gone to another
dock. The new one gets the greatest order there is. -/
theorem log_goes_behind_chart :
    let deeds : List (Instant × Deed Int) :=
      [(clock.now, .create chart "left" { order := some 4294967294 }),
        (clock.now, .create ⟨"map"⟩ "left" {}),
        (clock.now, .update ⟨"map"⟩ { dock := some "right" })]
    let s := ((empty : Store Int).run deeds).1
    let o := s.create clock.now log "left" {}
    s.get? log = none ∧ Text.isBlankText "left" = false ∧ ({} : Panel.Defaults).order = none ∧
    o.result = .done ∧ ∃ p, o.state.get? log = some p ∧ p.order = 4294967295 ∧
      o.state.list { dock := some "left" } = s.list { dock := some "left" } ++ [p] := by
  intro deeds s o
  have hnew : s.get? log = none := by decide
  have hroom : ∀ q ∈ s.list { dock := some "left" }, q.order.toNat + 1 < UInt32.size := by
    decide +kernel
  obtain ⟨hiff, hdone, _⟩ := new_panel_goes_last deeds clock.now log "left" {} hnew (by decide) rfl
  obtain ⟨p, hp, _, hplace, hlisted⟩ := hdone (hiff.mpr hroom)
  have hbehind : placeBehind (s.list { dock := some "left" }) = 4294967295 := by decide +kernel
  exact ⟨hnew, by decide, rfl, hiff.mpr hroom, p, hp,
    UInt32.toNat_inj.mp (hplace.trans hbehind), hlisted⟩

open SmallRun in
/-- A panel has the greatest order that there is, so the place behind it is no word, and the program
breaks off over the next panel of the dock. -/
theorem log_has_no_place_behind_chart :
    let s :=
      ((empty : Store Int).run [(clock.now, .create chart "left" { order := some 4294967295 })]).1
    let o := s.create clock.now log "left" {}
    s.get? log = none ∧ Text.isBlankText "left" = false ∧ ({} : Panel.Defaults).order = none ∧
    placeBehind (s.list { dock := some "left" }) = UInt32.size ∧ o.result = .brokenOff ∧
    (o.state.list { dock := some "left" }).map Panel.id = [chart] := by
  refine ⟨by decide, by decide, rfl, ?_, ?_, ?_⟩
  · decide +kernel
  · decide +kernel
  · decide +kernel

end Store

end PanelDock
