import PanelDock.Proofs.Sessions
import PanelDock.Proofs.Subscribers
import PanelDock.Proofs.Passages
/-!
# A gesture among other hands

A coordinator sees to it that nothing happens to the panel of a gesture behind the back of the
tracker. Here nobody does: between any two samples the store may be written by others, who remove
the panel, dock it, make another one of the same name or let it float again somewhere else. So
nothing that the tracker found at one sample can be relied on at the next, and all that it may
assume is what it looks up again.

What holds nevertheless takes no more than that: the listeners go with the session, and a sample
writes the position of a panel that is dragged, or the size of one that is resized, if that panel
floats at this moment. The least size needs some care, since floats are compared that may not equal
themselves.
-/

namespace PanelDock

/-! ## The larger of two floats -/

section Comparing

open Float.Model (UnpackedFloat)

/-- Compared the other way round, two floats come out the other way round. -/
theorem compare_swap (u v : UnpackedFloat) : v.compare u = (u.compare v).map Ordering.swap := by
  cases u with
  | zero s =>
      cases v with
      | finite s' m' e' h' => cases s' <;> rfl
      | infinity s' => cases s' <;> rfl
      | _ => rfl
  | infinity s =>
      cases v with
      | infinity s' => cases s <;> cases s' <;> rfl
      | _ => cases s <;> rfl
  | notANumber => cases v <;> rfl
  | finite s m e h =>
      cases v with
      | zero s' => cases s <;> rfl
      | infinity s' => cases s' <;> rfl
      | notANumber => rfl
      | finite s' m' e' h' =>
          have hsizes : (compare e' e).then (compare m' m) =
              ((compare e e').then (compare m m')).swap := by
            rw [Ordering.swap_then, ← Std.OrientedCmp.eq_swap, ← Std.OrientedCmp.eq_swap]
          cases s <;> cases s'
          · exact congrArg (fun o => some (Ordering.swap o)) hsizes
          · rfl
          · rfl
          · exact congrArg some hsizes

/-- Floats that are equal are the same, or both are zero. -/
theorem eq_of_compare_eq {u v : UnpackedFloat} (h : u.compare v = some .eq) :
    u = v ∨ ∃ s s', u = .zero s ∧ v = .zero s' := by
  cases u with
  | notANumber => cases v <;> cases h
  | zero s =>
      cases v with
      | zero s' => exact Or.inr ⟨s, s', rfl, rfl⟩
      | finite s' m' e' h' => cases s' <;> cases h
      | infinity s' => cases s' <;> cases h
      | notANumber => cases h
  | infinity s =>
      cases v with
      | infinity s' => cases s <;> cases s' <;> first | exact Or.inl rfl | cases h
      | _ => cases s <;> cases h
  | finite s m e hm =>
      cases v with
      | zero s' => cases s <;> cases h
      | infinity s' => cases s' <;> cases h
      | notANumber => cases h
      | finite s' m' e' hm' =>
          have hsame : (compare e e').then (compare m m') = .eq → e = e' ∧ m = m' := by
            intro heq
            obtain ⟨he, hm⟩ := Ordering.then_eq_eq.mp heq
            exact ⟨Std.LawfulEqCmp.eq_of_compare he, Std.LawfulEqCmp.eq_of_compare hm⟩
          cases s <;> cases s'
          · have hswap : ((compare e e').then (compare m m')).swap = Ordering.eq.swap :=
              Option.some.inj h
            obtain ⟨rfl, rfl⟩ := hsame (Ordering.swap_inj.mp hswap)
            exact Or.inl rfl
          · cases h
          · cases h
          · obtain ⟨rfl, rfl⟩ := hsame (Option.some.inj h)
            exact Or.inl rfl

theorem compare_congr {u v : UnpackedFloat} (h : u.compare v = some .eq) (w : UnpackedFloat) :
    w.compare u = w.compare v := by
  rcases eq_of_compare_eq h with rfl | ⟨s, s', rfl, rfl⟩
  · rfl
  · cases w with
    | finite s m e h => cases s <;> rfl
    | infinity s => cases s <;> rfl
    | _ => rfl

/-- Floats that equal themselves can be compared. -/
theorem exists_compare {u v : UnpackedFloat} (hu : u.compare u = some .eq)
    (hv : v.compare v = some .eq) : ∃ o, u.compare v = some o := by
  cases u with
  | notANumber => cases hu
  | zero s =>
      cases v with
      | notANumber => cases hv
      | zero s' => exact ⟨_, rfl⟩
      | infinity s' => cases s' <;> exact ⟨_, rfl⟩
      | finite s' m' e' h' => cases s' <;> exact ⟨_, rfl⟩
  | infinity s =>
      cases v with
      | notANumber => cases hv
      | _ => cases s <;> exact ⟨_, rfl⟩
  | finite s m e h =>
      cases v with
      | notANumber => cases hv
      | zero s' => cases s <;> exact ⟨_, rfl⟩
      | infinity s' => cases s' <;> exact ⟨_, rfl⟩
      | finite s' m' e' h' => cases s <;> cases s' <;> exact ⟨_, rfl⟩

variable {a b c : Float}

theorem compare_of_beq (h : (a == b) = true) :
    a.toModel.unpack.compare b.toModel.unpack = some .eq :=
  beq_iff_eq.mp h

theorem le_of_le_of_beq (hc : c ≤ b) (h : (a == b) = true) : c ≤ a := by
  have hle : c.toModel.unpack.le b.toModel.unpack = true := of_decide_eq_true hc
  rw [UnpackedFloat.le, ← compare_congr (compare_of_beq h)] at hle
  exact decide_eq_true hle

theorem le_self_of_beq (h : (a == a) = true) : a ≤ a := by
  have hle : a.toModel.unpack.le a.toModel.unpack = true := by
    rw [UnpackedFloat.le, compare_of_beq h]; rfl
  exact decide_eq_true hle

theorem le_of_not_lt_of_beq (ha : (a == a) = true) (hb : (b == b) = true) (h : ¬ a < b) :
    b ≤ a := by
  obtain ⟨o, ho⟩ := exists_compare (compare_of_beq ha) (compare_of_beq hb)
  have hle : b.toModel.unpack.le a.toModel.unpack = true := by
    rw [UnpackedFloat.le, compare_swap, ho]
    cases o with
    | lt =>
        have hlt : a.toModel.unpack.lt b.toModel.unpack = true := by rw [UnpackedFloat.lt, ho]; rfl
        exact absurd (decide_eq_true hlt) h
    | _ => rfl
  exact decide_eq_true hle

/-- The larger of two floats is at least as large as the second, whatever the first is. -/
theorem le_larger (hb : (b == b) = true) : b ≤ Coordinate.larger a b := by
  rw [Coordinate.larger]
  split
  · exact le_self_of_beq hb
  · rename_i hlt
    split
    · rename_i ha
      exact le_of_not_lt_of_beq ha hb hlt
    · exact le_self_of_beq hb

end Comparing

/-- One size is at least another on both axes. -/
def Size.Covers (s floor : Size Float) : Prop := floor.width ≤ s.width ∧ floor.height ≤ s.height

/-- Sizes are equal when their sides are. -/
theorem Size.beq_iff {s t : Size Float} :
    (s == t) = true ↔ (s.width == t.width) = true ∧ (s.height == t.height) = true :=
  Bool.and_eq_true_iff

theorem Size.covers_atLeast (s : Size Float) {floor : Size Float}
    (regular : (floor == floor) = true) :
    (s.atLeast floor).Covers floor :=
  ⟨le_larger (Size.beq_iff.mp regular).1, le_larger (Size.beq_iff.mp regular).2⟩

theorem Size.Covers.of_beq {s t floor : Size Float} (h : t.Covers floor) (same : (s == t) = true) :
    s.Covers floor :=
  ⟨le_of_le_of_beq h.1 (Size.beq_iff.mp same).1, le_of_le_of_beq h.2 (Size.beq_iff.mp same).2⟩

/-- What stands in the record after a size was written is that size, or one that is equal. -/
theorem Size.Covers.of_agrees {stored : Option (Size Float)} {s floor : Size Float}
    (h : s.Covers floor) (agrees : Agrees stored s) : ∃ t, stored = some t ∧ t.Covers floor := by
  obtain ⟨t, ht, rfl | hsame⟩ := agrees
  · exact ⟨t, ht, h⟩
  · exact ⟨t, ht, h.of_beq hsame⟩

/-! ## What a gesture may write -/

variable {α : Type}

/-- What becomes of a panel whose position may be written if it is dragged, and whose size if it is
resized. The moment of the last change goes with it. -/
def Grip.Writes (p q : Panel α) : Grip → Prop
  | .drag => q = { p with position := q.position, lastUpdated := q.lastUpdated }
  | .resize => q = { p with size := q.size, lastUpdated := q.lastUpdated }

theorem Gesture.writes_update [Coordinate α] (g : Gesture α) (id : PanelId) (p : Panel α)
    (now : Instant) : g.grip.Writes p (p.revised (g.update id).patch now) := by
  cases g <;> rfl

namespace Tracker

variable [Coordinate α] {t : Tracker α} {store : Store α} {pointer : Pointer α}
  {session : Session α}

/-- A gesture begins only when there is none, and is then the one that was asked for; otherwise
nothing happens. -/
theorem start_cases (t : Tracker α) (store : Store α) (token : UInt32) (id : PanelId)
    (pointer : Pointer α) (grip : Grip) :
    (∃ cause, t.start store token id pointer grip = ⟨.error cause, t, []⟩) ∨
    (t.session = none ∧ ∃ name session es, t.start store token id pointer grip =
        ⟨.ok name, { t with session := some session, listeners := t.listeners.attach }, es⟩ ∧
      session.panel = id ∧ session.pointer = pointer.number ∧ session.grip = grip) := by
  rw [start]
  cases htarget : t.startTarget store id pointer grip with
  | error cause => exact Or.inl ⟨cause, rfl⟩
  | ok panel =>
      dsimp only
      cases hopening : openingGesture panel id grip with
      | error cause => exact Or.inl ⟨cause, rfl⟩
      | ok gesture =>
          refine Or.inr ⟨?_, _, _, _, rfl, rfl, rfl, Coordinator.openingGesture_grip hopening⟩
          rw [startTarget] at htarget
          split at htarget
          · cases htarget
          · cases hs : t.session with
            | none => rfl
            | some active => rw [hs] at htarget; cases htarget

/-- The sample is one of the gesture in progress: it comes from the pointer of its session, and lies
somewhere. -/
structure Accepts (t : Tracker α) (pointer : Pointer α) (session : Session α) : Prop where
  live : t.session = some session
  mine : session.pointer = pointer.number
  somewhere : pointer.position.isFinite = true

/-- The session when its gesture has followed the pointer to here. -/
def advanced (t : Tracker α) (session : Session α) (pointer : Pointer α) : Session α :=
  { session with
    gesture := session.gesture.moved t.minSize (pointer.position.x - session.origin.x)
      (pointer.position.y - session.origin.y) }

theorem advanced_grip (t : Tracker α) (session : Session α) (pointer : Pointer α) :
    (t.advanced session pointer).gesture.grip = session.grip := by
  rw [advanced, Session.grip]
  cases session.gesture <;> rfl

/-- The tracker after an accepted sample: it follows the gesture, or is done with it. -/
def followed (t : Tracker α) (session : Session α) (pointer : Pointer α)
    (release : Bool) : Tracker α :=
  let following := { t with session := some (t.advanced session pointer) }
  if release then following.ended else following

/-- What a sample can come to, as its result and the state after it: it is passed over; it is
accepted, but the panel is gone or floats no more, and so the gesture ends; or the panel floats, and
the geometry goes into its record. -/
inductive Feeding (t : Tracker α) (store : Store α) (now : Instant) (pointer : Pointer α)
    (release : Bool) :
    Option (GeometryUpdate α) → Tracker α × Store α → Prop where
  | passed (foreign : ∀ session, ¬ t.Accepts pointer session) :
      Feeding t store now pointer release none (t, store)
  | lost {session : Session α} (accepts : t.Accepts pointer session)
      (gone : (store.get? session.panel).any Panel.isFloating = false) :
      Feeding t store now pointer release none (t.ended, store)
  | written {session : Session α} {p : Panel α} {update : GeometryUpdate α}
      (accepts : t.Accepts pointer session)
      (known : store.get? session.panel = some p) (floats : p.isFloating = true)
      (reached : update = (t.advanced session pointer).gesture.update session.panel) :
      Feeding t store now pointer release (some update) (t.followed session pointer release,
        { store with panels := store.panels.insert session.panel (p.revised update.patch now) })

/-- A sample that is not accepted is passed over. -/
theorem read_foreign (h : ∀ session, ¬ t.Accepts pointer session) (store : Store α) :
    t.read store pointer = .ignored ∨ ∃ session, t.read store pointer = .nowhere session := by
  rw [read]
  cases hs : t.session with
  | none => exact Or.inl rfl
  | some session =>
      by_cases hmine : session.pointer = pointer.number
      · cases hfinite : pointer.position.isFinite with
        | true => exact absurd ⟨hs, hmine, hfinite⟩ (h session)
        | false => exact Or.inr ⟨session, by simp [hmine]⟩
      · exact Or.inl (by simp [hmine])

/-- A sample that is accepted is worth something if the panel floats. -/
theorem Accepts.read (h : t.Accepts pointer session) (store : Store α) :
    t.read store pointer =
      if (store.get? session.panel).any Panel.isFloating then .accepted (t.advanced session pointer)
      else .lost session := by
  rw [Tracker.read, h.live]
  dsimp only
  rw [if_neg (fun hother => hother h.mine), if_neg (by simp [h.somewhere])]
  rfl

theorem feeding (t : Tracker α) (store : Store α) (now : Instant) (pointer : Pointer α)
    (release : Bool) :
    t.Feeding store now pointer release (t.feed store now pointer release).result
      (t.feed store now pointer release).state := by
  by_cases haccepts : ∃ session, t.Accepts pointer session
  · obtain ⟨session, haccepts⟩ := haccepts
    cases hfloats : (store.get? session.panel).any Panel.isFloating with
    | false =>
        rw [feed, haccepts.read, hfloats]
        exact .lost haccepts hfloats
    | true =>
        obtain ⟨p, hp, floats⟩ := Option.any_eq_true _ _ |>.mp hfloats
        let update := (t.advanced session pointer).gesture.update session.panel
        have hwritten := Store.update_state hp now (GeometryUpdate.patch_dock update)
        have hfeeding : t.Feeding store now pointer release (some update)
            (t.followed session pointer release,
              (store.update now session.panel update.patch).state) := by
          rw [hwritten]
          exact .written haccepts hp floats rfl
        rw [feed, haccepts.read, hfloats]
        cases release with
        | true => exact hfeeding
        | false => exact hfeeding
  · have hforeign := not_exists.mp haccepts
    rw [feed]
    rcases read_foreign hforeign store with hread | ⟨session, hread⟩
    · rw [hread]
      exact .passed hforeign
    · rw [hread]
      exact .passed hforeign

theorem followed_session (t : Tracker α) (session : Session α) (pointer : Pointer α)
    (release : Bool) :
    (t.followed session pointer release).session =
      if release then none else some (t.advanced session pointer) := by
  cases release <;> rfl

/-! ## What a sample comes to -/

section Fed

variable {now : Instant} {release : Bool} {result : Option (GeometryUpdate α)}
  {after : Tracker α × Store α}

theorem Accepts.unique {other : Session α} (h : t.Accepts pointer session)
    (h' : t.Accepts pointer other) : other = session :=
  Option.some.inj (h'.live.symm.trans h.live)

theorem Feeding.of_foreign (h : t.Feeding store now pointer release result after)
    (foreign : ∀ session, ¬ t.Accepts pointer session) : result = none ∧ after = (t, store) := by
  cases h with
  | passed foreign => exact ⟨rfl, rfl⟩
  | lost accepts gone => exact absurd accepts (foreign _)
  | written accepts known floats reached => exact absurd accepts (foreign _)

theorem Feeding.of_gone (h : t.Feeding store now pointer release result after)
    (accepts : t.Accepts pointer session)
    (gone : (store.get? session.panel).any Panel.isFloating = false) :
    result = none ∧ after.2 = store ∧ after.1.session = none := by
  cases h with
  | passed foreign => exact absurd accepts (foreign _)
  | lost accepts' gone' => exact ⟨rfl, rfl, rfl⟩
  | written accepts' known floats reached =>
      obtain rfl := accepts.unique accepts'
      rw [known, Option.any_some, floats] at gone
      cases gone

theorem Feeding.of_floating (h : t.Feeding store now pointer release result after)
    (accepts : t.Accepts pointer session) {p : Panel α} (known : store.get? session.panel = some p)
    (floats : p.isFloating = true) :
    result = some ((t.advanced session pointer).gesture.update session.panel) ∧
    (∃ q, after.2 = { store with panels := store.panels.insert session.panel q } ∧
      session.grip.Writes p q) ∧
    after.1.session = (if release then none else some (t.advanced session pointer)) := by
  cases h with
  | passed foreign => exact absurd accepts (foreign _)
  | lost accepts' gone =>
      obtain rfl := accepts.unique accepts'
      rw [known, Option.any_some, floats] at gone
      cases gone
  | written accepts' known' floats' reached =>
      obtain rfl := accepts.unique accepts'
      obtain rfl := Option.some.inj (known.symm.trans known')
      refine ⟨congrArg some reached, ⟨_, rfl, ?_⟩, t.followed_session _ pointer release⟩
      rw [reached]
      exact t.advanced_grip _ pointer ▸ Gesture.writes_update _ _ p now

end Fed

/-- A size that a resize gives is at least the least size, and so is what stands in the record then.
-/
theorem Feeding.covers {t : Tracker Float} {store : Store Float} {now : Instant}
    {pointer : Pointer Float} {release : Bool} {id : PanelId} {size : Size Float}
    {after : Tracker Float × Store Float}
    (h : t.Feeding store now pointer release (some (.resized id size)) after)
    (regular : (t.minSize == t.minSize) = true) :
    size.Covers t.minSize ∧
      ∃ q stored, after.2.get? id = some q ∧ q.size = some stored ∧ stored.Covers t.minSize := by
  cases h with
  | @written session p _ accepts known floats reached =>
      cases hg : session.gesture with
      | drag start last =>
          rw [advanced, hg] at reached
          cases reached
      | resize start last =>
          rw [advanced, hg] at reached
          obtain ⟨rfl, rfl⟩ := GeometryUpdate.resized.inj reached
          have hcovers := Size.covers_atLeast
            { width := start.width + (pointer.position.x - session.origin.x),
              height := start.height + (pointer.position.y - session.origin.y) } regular
          obtain ⟨stored, hstored, hstands⟩ := hcovers.of_agrees (agrees_settled p.size _)
          exact ⟨hcovers, _, stored, Catalog.get?_insert_self _ _ _, hstored, hstands⟩

/-- The listeners go with the session, and the least size stays what it was. -/
structure Kept (minSize : Size α) (t : Tracker α) : Prop where
  listening : t.Listening
  floor : t.minSize = minSize

section Steps

variable {minSize : Size α}

theorem Kept.start (h : t.Kept minSize) (store : Store α) (token : UInt32) (id : PanelId)
    (pointer : Pointer α) (grip : Grip) :
    (t.start store token id pointer grip).state.Kept minSize := by
  rcases t.start_cases store token id pointer grip with
    ⟨cause, hstart⟩ | ⟨idle, name, session, es, hstart, _⟩
  · rw [hstart]
    exact h
  · have hlistening := h.listening
    rw [Listening, idle] at hlistening
    rw [hstart]
    exact ⟨hlistening.attach, h.floor⟩

theorem Kept.followed (h : t.Kept minSize) (live : t.session = some session) (pointer : Pointer α)
    (release : Bool) :
    (t.followed session pointer release).Kept minSize := by
  have hlistening := h.listening
  rw [Listening, live] at hlistening
  cases release with
  | true => exact ⟨hlistening.detach, h.floor⟩
  | false => exact ⟨hlistening, h.floor⟩

theorem Kept.feed (h : t.Kept minSize) (store : Store α) (now : Instant) (pointer : Pointer α)
    (release : Bool) :
    (t.feed store now pointer release).state.1.Kept minSize := by
  have hfeeding := t.feeding store now pointer release
  generalize (t.feed store now pointer release).state = after at hfeeding ⊢
  generalize (t.feed store now pointer release).result = result at hfeeding
  cases hfeeding with
  | passed foreign => exact h
  | lost accepts gone => exact ⟨h.listening.ended, h.floor⟩
  | written accepts known floats reached => exact h.followed accepts.live pointer release

omit [Coordinate α] in
theorem Kept.dropTarget (h : t.Kept minSize) (id : PanelId) :
    (t.dropTarget id).state.Kept minSize :=
  ⟨h.listening.dropTarget id, (Coordinator.dropTarget_minSize t id).trans h.floor⟩

end Steps

/-! ## A run -/

/-- A tracker, and a store that others write as well. -/
structure Scene (α : Type) where
  tracker : Tracker α
  store : Store α

namespace Scene

/-- Something that happens: a gesture begins, a pointer moves or is released, the gesture on a panel
is dropped, or others do something with the store. -/
inductive Act (α : Type) where
  | start (token : UInt32) (id : PanelId) (pointer : Pointer α) (grip : Grip)
  | sample (now : Instant) (pointer : Pointer α) (release : Bool)
  | drop (id : PanelId)
  | meddle (now : Instant) (deed : Store.Deed α)

/-- A tracker without a gesture beside any store. -/
def opening (minSize : Size α) (store : Store α) : Scene α := { tracker := .idle minSize, store }

def step (s : Scene α) : Act α → Scene α
  | .start token id pointer grip =>
      { s with tracker := (s.tracker.start s.store token id pointer grip).state }
  | .sample now pointer release =>
    let after := (s.tracker.feed s.store now pointer release).state
    { tracker := after.1, store := after.2 }
  | .drop id => { s with tracker := (s.tracker.dropTarget id).state }
  | .meddle now deed => { s with store := (s.store.perform now deed).1 }

/-- Does one act after the other. -/
def run (s : Scene α) (acts : List (Act α)) : Scene α := acts.foldl step s

/-- What a sample gives the caller. -/
def given (s : Scene α) (now : Instant) (pointer : Pointer α)
    (release : Bool) : Option (GeometryUpdate α) :=
  (s.tracker.feed s.store now pointer release).result

theorem kept_step {s : Scene α} {minSize : Size α} (h : s.tracker.Kept minSize) (a : Act α) :
    (s.step a).tracker.Kept minSize := by
  cases a with
  | start token id pointer grip => exact h.start s.store token id pointer grip
  | sample now pointer release => exact h.feed s.store now pointer release
  | drop id => exact h.dropTarget id
  | meddle now deed => exact h

theorem kept_run {s : Scene α} {minSize : Size α} (h : s.tracker.Kept minSize)
    (acts : List (Act α)) :
    (s.run acts).tracker.Kept minSize := by
  induction acts generalizing s with
  | nil => exact h
  | cons a rest ih => exact ih (kept_step h a)

omit [Coordinate α] in
theorem kept_opening (minSize : Size α) (store : Store α) :
    (opening minSize store).tracker.Kept minSize :=
  ⟨⟨rfl, rfl⟩, rfl⟩

/-- **A gesture writes only its own.** Samples come in among beginnings, drops and whatever others
do with the store. Still the listeners are installed exactly while there is a session, and were
attached once more than detached just then; no gesture begins while there is one, and one that
begins is the one that was asked for. A sample that is not one of the session does nothing. One that
is changes the position of the panel if it is dragged, or its size if it is resized, if the panel is
there and floats at this moment; otherwise it writes nothing, gives nothing, and ends the session. A
size that is given or written is at least the least size on both axes, if that equals itself. -/
theorem writes_only_its_own (minSize : Size Float) (store : Store Float) (acts : List (Act Float)) :
    let s := (opening minSize store).run acts
    (s.tracker.listeners.installed = s.tracker.session.isSome ∧
      s.tracker.listeners.attachCount =
        s.tracker.listeners.detachCount + (if s.tracker.session.isSome then 1 else 0)) ∧
    (∀ token id pointer grip,
      let started := s.tracker.start s.store token id pointer grip
      (s.tracker.session ≠ none → ∃ cause, started = ⟨.error cause, s.tracker, []⟩) ∧
      ∀ name, started.result = .ok name → ∃ session, started.state.session = some session ∧
        session.panel = id ∧ session.pointer = pointer.number ∧ session.grip = grip) ∧
    ∀ now pointer release,
      let after := s.step (.sample now pointer release)
      ((∀ session, ¬ s.tracker.Accepts pointer session) →
        s.given now pointer release = none ∧ after = s) ∧
      (∀ session, s.tracker.Accepts pointer session →
        ((s.store.get? session.panel).any Panel.isFloating = false →
          s.given now pointer release = none ∧ after.store = s.store ∧
          after.tracker.session = none) ∧
        ∀ p, s.store.get? session.panel = some p → p.isFloating = true →
          s.given now pointer release =
            some ((s.tracker.advanced session pointer).gesture.update session.panel) ∧
          (∃ q, after.store = { s.store with panels := s.store.panels.insert session.panel q } ∧
            session.grip.Writes p q) ∧
          after.tracker.session =
            if release then none else some (s.tracker.advanced session pointer)) ∧
      ((minSize == minSize) = true →
        ∀ id size, s.given now pointer release = some (.resized id size) →
          size.Covers minSize ∧ ∃ q stored, after.store.get? id = some q ∧
            q.size = some stored ∧ stored.Covers minSize) := by
  intro s
  have hkept := kept_run (kept_opening minSize store) acts
  refine ⟨hkept.listening, fun token id pointer grip => ?_, fun now pointer release => ?_⟩
  · rcases s.tracker.start_cases s.store token id pointer grip with
      ⟨cause, hstart⟩ | ⟨idle, name, session, es, hstart, hasked⟩
    · rw [hstart]
      exact ⟨fun _ => ⟨cause, rfl⟩, nofun⟩
    · rw [hstart]
      exact ⟨fun live => absurd idle live, fun _ _ => ⟨session, rfl, hasked⟩⟩
  · intro after
    have hfeeding : s.tracker.Feeding s.store now pointer release (s.given now pointer release)
        (after.tracker, after.store) := s.tracker.feeding s.store now pointer release
    refine ⟨fun foreign => ?_,
      fun session accepts => ⟨hfeeding.of_gone accepts, fun p => hfeeding.of_floating accepts⟩,
      fun regular id size given => ?_⟩
    · obtain ⟨hgiven, hafter⟩ := hfeeding.of_foreign foreign
      exact ⟨hgiven, congrArg (fun x => ({ tracker := x.1, store := x.2 } : Scene Float)) hafter⟩
    · rw [given] at hfeeding
      have hcovers := hfeeding.covers (hkept.floor.symm ▸ regular)
      rw [hkept.floor] at hcovers
      exact hcovers

open SmallRun in
/-- A resize begins; then others dock the panel, remove it, and let another one of the same name
float. -/
def scuffle : List (Act Float) :=
  [.meddle clock.now (.create log "left" {}),
    .meddle clock.now
      (.update log { placement := some .floating,
                     size := some (some { width := 400, height := 300 }) }),
    .start 7 log { position := { x := 0, y := 0 }, number := 1 } .resize,
    .meddle clock.now (.update log { placement := some .docked }), .meddle clock.now (.remove log),
    .meddle clock.now (.create log "right" {}),
    .meddle clock.now (.update log { placement := some .floating })]

open SmallRun in
/-- The panel that floats now is resized, but not below the least size; and no other gesture begins
meanwhile. When it is removed once more, the next sample ends the gesture. -/
theorem resizes_stand_in :
    let minSize : Size Float := { width := 320, height := 240 }
    let pull : Pointer Float := { position := { x := -1000, y := 10 }, number := 1 }
    let s := (opening minSize .empty).run scuffle
    let t := (opening minSize .empty).run (scuffle ++ [.meddle clock.now (.remove log)])
    let size : Size Float := { width := 320, height := 310 }
    (minSize == minSize) = true ∧ s.given clock.now pull false = some (.resized log size) ∧
    size.Covers minSize ∧
    s.tracker.session ≠ none ∧
    (∃ cause, s.tracker.start s.store 8 log pull .drag = ⟨.error cause, s.tracker, []⟩) ∧
    ∃ session, t.tracker.Accepts pull session ∧
      (t.store.get? session.panel).any Panel.isFloating = false ∧
      t.given clock.now pull false = none ∧
      (t.step (.sample clock.now pull false)).tracker.session = none := by
  intro minSize pull s t size
  obtain ⟨_, hbusy, hsample⟩ := writes_only_its_own minSize .empty scuffle
  obtain ⟨_, _, hsample'⟩ :=
    writes_only_its_own minSize .empty (scuffle ++ [.meddle clock.now (.remove log)])
  have hregular : (minSize == minSize) = true := by decide +kernel
  have hgiven : s.given clock.now pull false = some (.resized log size) := by decide +kernel
  have hlive : s.tracker.session ≠ none := by decide +kernel
  obtain ⟨session, hsession⟩ : ∃ session, t.tracker.session = some session :=
    Option.isSome_iff_exists.mp (by decide +kernel)
  have hpanel : t.tracker.session.map (fun x => (x.panel, x.pointer)) = some (log, 1) := by
    decide +kernel
  rw [hsession, Option.map_some, Option.some.injEq, Prod.mk.injEq] at hpanel
  have haccepts : t.tracker.Accepts pull session := ⟨hsession, hpanel.2, by decide +kernel⟩
  have hgone : (t.store.get? session.panel).any Panel.isFloating = false := by
    rw [hpanel.1]
    decide +kernel
  obtain ⟨hnone, _, hended⟩ := ((hsample' clock.now pull false).2.1 session haccepts).1 hgone
  obtain ⟨hcovers, _⟩ := (hsample clock.now pull false).2.2 hregular log size hgiven
  exact ⟨hregular, hgiven, hcovers, hlive, (hbusy 8 log pull .drag).1 hlive, session, haccepts,
    hgone, hnone, hended⟩

end Scene

end Tracker

end PanelDock
