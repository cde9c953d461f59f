import PanelDock.Proofs.Subscribers
/-!
# What is done with content, step by step

A component is asked for its content when the window of its panel opens, and told when the content
is taken out again. Many operations do the one or the other, and some do both. They all go about it
in a few ways, which `Staging` lists: a window is emptied or filled, and a source comes or goes
while nothing of it stands in a window. In between, operations are `Calm`: no provider is called,
and in no window anything comes or goes.

So what is said of the calls to a component needs to be looked at for these few steps only, and that
an operation is made of them does not depend on what is to be said.
-/

namespace PanelDock

variable {α β : Type}

/-! ## The calls to a provider -/

/-- The call, if it is one to a provider of this name. -/
def Effect.callTo? (name : String) : Effect α → Option Call
  | .call provider c => if provider = name then some c else none
  | _ => none

/-- The calls that providers of this name have had, oldest first. -/
def callsTo (name : String) (journal : List (Effect α)) : List Call :=
  journal.filterMap (Effect.callTo? name)

/-- Whether content is mounted after a call, if it was or was not before. Content is mounted only if
it is not yet, and unmounted only if it is. -/
def Call.turn (mounted : Bool) : Call → Option Bool
  | .mount _ _ accepted => if mounted then none else some accepted
  | .unmount _ => if mounted then some false else none

/-- Whether content is mounted after all these calls; none if one of them came out of turn. -/
def balance (calls : List Call) : Option Bool := calls.foldlM Call.turn false

@[simp] theorem callsTo_append (name : String) (es fs : List (Effect α)) :
    callsTo name (es ++ fs) = callsTo name es ++ callsTo name fs :=
  List.filterMap_append

theorem callsTo_call (name provider : String) (call : Call) :
    callsTo name [(.call provider call : Effect α)] = if provider = name then [call] else [] := by
  by_cases h : provider = name
  · rw [if_pos h]
    exact List.filterMap_cons_some (if_pos h)
  · rw [if_neg h]
    exact List.filterMap_cons_none (if_neg h)

theorem balance_concat {calls : List Call} {mounted : Bool} (h : balance calls = some mounted)
    (call : Call) : balance (calls ++ [call]) = call.turn mounted := by
  rw [balance, List.foldlM_append]
  show (balance calls).bind _ = _
  rw [h, Option.bind_some, List.foldlM_cons]
  exact bind_pure _

/-- Lines for the log are no calls. -/
theorem callsTo_quiet (name : String) {es : List (Effect α)} (quiet : ∀ x ∈ es, x.isNotice = true) :
    callsTo name es = [] := by
  refine List.filterMap_eq_nil_iff.mpr (fun x hx => ?_)
  obtain ⟨n, rfl⟩ := Effect.isNotice_iff.mp (quiet x hx)
  rfl

/-- A store calls no provider. -/
theorem Store.Turn.no_calls [Coordinate α] {s s' : Store α} {taken : Bool} {es : List (Effect α)}
    (h : s.Turn taken s' es) (name : String) : callsTo name es = [] := by
  cases h with
  | silent quiet => exact callsTo_quiet name quiet
  | telling e quiet fits makes keyed alters =>
      rw [callsTo_append, callsTo_quiet name quiet]
      rfl

theorem Store.update_no_calls [Coordinate α] (s : Store α) (now : Instant) (id : PanelId)
    (patch : Panel.Patch α) (name : String) :
    callsTo name (s.update now id patch).effects = [] := by
  cases hp : s.get? id with
  | none => rw [update, hp]; rfl
  | some p =>
      obtain ⟨kept, quiet, hupdate⟩ := update_known hp now patch
      rw [hupdate]
      split
      · rw [callsTo_append, callsTo_quiet name quiet]
        rfl
      · exact callsTo_quiet name quiet

theorem Store.update_contains [Coordinate α] (s : Store α) (now : Instant) (id : PanelId)
    {patch : Panel.Patch α} (hdock : patch.dock = none) (i : PanelId) :
    (s.update now id patch).state.contains i = s.contains i := by
  rw [contains_eq, contains_eq, update_get? _ _ _ hdock]
  by_cases hi : i = id
  · rw [if_pos hi, Option.isSome_map, hi]
  · rw [if_neg hi]

/-! ## What a gesture reports -/

namespace Tracker

variable [Coordinate α]

theorem start_quiet (t : Tracker α) (store : Store α) (token : UInt32) (id : PanelId)
    (pointer : Pointer α) (grip : Grip) :
    ∀ x ∈ (t.start store token id pointer grip).effects, x.isNotice = true := by
  rw [start]
  split
  · exact quiet_nil
  · split
    · exact quiet_nil
    · exact quiet_notice _

omit [Coordinate α] in
theorem dropTarget_quiet (t : Tracker α) (id : PanelId) :
    ∀ x ∈ (t.dropTarget id).effects, x.isNotice = true := by
  rw [dropTarget]
  split
  · exact quiet_nil
  · split
    · exact quiet_notice _
    · exact quiet_nil

theorem feed_no_calls (t : Tracker α) (store : Store α) (now : Instant) (pointer : Pointer α)
    (release : Bool) (name : String) :
    callsTo name (t.feed store now pointer release).effects = [] := by
  rw [feed]
  split
  · rfl
  · rfl
  · rfl
  · dsimp only
    split
    · rw [callsTo_append, store.update_no_calls]
      rfl
    · exact store.update_no_calls _ _ _ name

theorem feed_contains (t : Tracker α) (store : Store α) (now : Instant) (pointer : Pointer α)
    (release : Bool) (id : PanelId) :
    (t.feed store now pointer release).state.2.contains id = store.contains id := by
  rw [feed]
  split
  · rfl
  · rfl
  · rfl
  · rename_i session _
    have hcontains := store.update_contains now session.panel
      (GeometryUpdate.patch_dock (session.gesture.update session.panel)) id
    dsimp only
    split
    · exact hcontains
    · exact hcontains

end Tracker

/-! ## What the stack reports -/

namespace Allocator

theorem clampNotices_quiet (a : Allocator) (layer : Layer) (requested : Int) :
    ∀ x ∈ (a.clampNotices layer requested : List (Effect α)), x.isNotice = true :=
  quiet_ite _ _

theorem setFrontGap_quiet (a : Allocator) (gap : Nat) :
    ∀ x ∈ (a.setFrontGap (α := α) gap).effects, x.isNotice = true :=
  quiet_ite _ _

theorem register_quiet (a : Allocator) (now : Instant) (overlay : Overlay) (layer : Layer)
    (priority : Nat) (options : RegisterOptions) :
    ∀ x ∈ (a.register (α := α) now overlay layer priority options).effects, x.isNotice = true :=
  List.forall_mem_append.mpr ⟨clampNotices_quiet _ _ _, quiet_notice _⟩

theorem bringToFront_quiet (a : Allocator) (overlay : Overlay) :
    ∀ x ∈ (a.bringToFront (α := α) overlay).effects, x.isNotice = true := by
  rw [bringToFront]
  split
  · exact quiet_notice _
  · refine List.forall_mem_append.mpr ⟨List.forall_mem_append.mpr ⟨?_, ?_⟩, quiet_notice _⟩
    · exact clampNotices_quiet _ _ _
    · exact quiet_ite _ _

theorem unregister_quiet (a : Allocator) (overlay : Overlay) :
    ∀ x ∈ (a.unregister (α := α) overlay).effects, x.isNotice = true := by
  rw [unregister]
  split
  · exact quiet_notice _
  · exact quiet_notice _

end Allocator

/-! ## Sources and windows -/

/-- What a source is to its provider. -/
inductive Role where
  | static
  | component (name : String)
  | renderer (name : String)
deriving DecidableEq

def Source.role : Source → Role
  | .component p => .component p.name
  | .renderer p => .renderer p.name
  | .static _ => .static

theorem Source.mount_role (id : PanelId) (source : Source) :
    (source.mount id).2.1.role = source.role := by
  cases source <;> rfl

theorem Source.unmount_role (id : PanelId) (source : Source) :
    (source.unmount id).1.role = source.role := by
  cases source <;> rfl

namespace Coordinator

/-- What the source of a panel is, if it has one. -/
def role? (c : Coordinator α β) (id : PanelId) : Option Role := (c.content.get? id).map Source.role

/-- Content stands in the window of a panel. -/
def shows (c : Coordinator α β) (id : PanelId) : Bool := (c.flyouts.get? id).any (·.slot.isMounted)

/-- No provider is called, and in no window anything comes or goes. A panel that has a source stays
known. -/
structure Calm (c d : Coordinator α β) : Prop where
  role : ∀ id, d.role? id = c.role? id
  shows : ∀ id, d.shows id = c.shows id
  calls : ∀ name, callsTo name d.journal = callsTo name c.journal
  known : ∀ id, c.role? id ≠ none → c.store.contains id = true → d.store.contains id = true

/-- The source of one panel is called, and its content comes or goes. -/
structure Served (id : PanelId) (c d : Coordinator α β) : Prop where
  role : ∀ i, d.role? i = c.role? i
  elsewhere : ∀ i, i ≠ id → d.shows i = c.shows i
  /-- A component is called in turn. -/
  turn : ∀ name, c.role? id = some (.component name) → ∃ call,
    callsTo name d.journal = callsTo name c.journal ++ [call] ∧
    call.turn (c.shows id) = some (d.shows id)
  /-- Nobody else is called. -/
  silent : ∀ name, c.role? id ≠ some (.component name) → c.role? id ≠ some (.renderer name) →
    callsTo name d.journal = callsTo name c.journal
  known : d.store = c.store

/-- What is done with content, step by step. The sources that come are among those that are `given`.
-/
inductive Staging (given : PanelId → Source → Prop) (c : Coordinator α β) :
    Coordinator α β → Prop where
  | idle : Staging given c c
  | calm {d e : Coordinator α β} (h : Staging given c d) (calm : Calm d e) : Staging given c e
  | served {d e : Coordinator α β} {id : PanelId} (h : Staging given c d) (served : Served id d e) :
      Staging given c e
  | assigned {d : Coordinator α β} {id : PanelId} {source : Source} (h : Staging given c d)
      (known : d.store.contains id = true) (bare : d.shows id = false) (comes : given id source) :
      Staging given c { d with content := d.content.insert id source }
  | deprived {d : Coordinator α β} {id : PanelId} (h : Staging given c d)
      (bare : d.shows id = false) :
      Staging given c { d with content := d.content.erase id }

/-! ## What such steps keep -/

/-- Every source belongs to a panel that is known. -/
def Housed (c : Coordinator α β) : Prop := ∀ id, c.role? id ≠ none → c.store.contains id = true

theorem role?_eq_component {c : Coordinator α β} {id : PanelId} {name : String} :
    c.role? id = some (.component name) ↔ ∃ p, c.content.get? id = some (.component p) ∧
      p.name = name := by
  rw [role?, Option.map_eq_some_iff]
  constructor
  · rintro ⟨source, hs, hrole⟩
    cases source with
    | static body => cases hrole
    | component p => exact ⟨p, hs, Role.component.inj hrole⟩
    | renderer p => cases hrole
  · rintro ⟨p, hs, rfl⟩
    exact ⟨_, hs, rfl⟩

theorem role?_insert (c : Coordinator α β) (id : PanelId) (source : Source) (i : PanelId) :
    role? { c with content := c.content.insert id source } i = if i =
      id then some source.role else c.role? i := by
  rw [role?, Catalog.get?_insert]
  split <;> rfl

theorem role?_erase (c : Coordinator α β) (id i : PanelId) :
    role? { c with content := c.content.erase id } i = if i = id then none else c.role? i := by
  rw [role?, Catalog.get?_erase]
  split <;> rfl

theorem Staging.housed {given : PanelId → Source → Prop} {c d : Coordinator α β}
    (h : Staging given c d) (hc : c.Housed) : d.Housed := by
  induction h with
  | idle => exact hc
  | calm h calm ih =>
      intro id hid
      rw [calm.role] at hid
      exact calm.known id hid (ih id hid)
  | served h served ih =>
      intro id hid
      rw [served.role] at hid
      rw [served.known]
      exact ih id hid
  | @assigned d id source h known bare comes ih =>
      intro i hi
      rw [role?_insert] at hi
      by_cases hid : i = id
      · rw [hid]
        exact known
      · rw [if_neg hid] at hi
        exact ih i hi
  | @deprived d id h bare ih =>
      intro i hi
      rw [role?_erase] at hi
      by_cases hid : i = id
      · exact absurd (if_pos hid) hi
      · rw [if_neg hid] at hi
        exact ih i hi

/-- Providers of this name are components for this panel. -/
def Devoted (name : String) (id : PanelId) (i : PanelId) (role : Role) : Prop :=
  role ≠ .renderer name ∧ (role = .component name → i = id)

/-- A component has been called in turn, and is mounted exactly if it is the source of the panel and
content stands in the window. -/
structure Balanced (name : String) (id : PanelId) (c : Coordinator α β) : Prop where
  devoted : ∀ i role, c.role? i = some role → Devoted name id i role
  even : balance (callsTo name c.journal) =
      some (decide (c.role? id = some (.component name)) && c.shows id)

/-- Where nothing stands in the window it does not matter whether the component is the source. -/
theorem Balanced.bare {name : String} {id : PanelId} {c : Coordinator α β} (h : Balanced name id c)
    (bare : c.shows id = false) : balance (callsTo name c.journal) = some false := by
  rw [h.even, bare, Bool.and_false]

theorem Balanced.calm {name : String} {id : PanelId} {c d : Coordinator α β}
    (h : Balanced name id c) (calm : Calm c d) : Balanced name id d where
  devoted := fun i role hi => h.devoted i role (by rw [← calm.role, hi])
  even := by rw [calm.calls, calm.role, calm.shows, h.even]

theorem Balanced.served {name : String} {id i : PanelId} {c d : Coordinator α β}
    (h : Balanced name id c) (served : Served i c d) : Balanced name id d where
  devoted := fun j role hj => h.devoted j role (by rw [← served.role, hj])
  even := by
    rw [served.role]
    by_cases hcomponent : c.role? i = some (.component name)
    · -- the component itself is called, so this is its panel
      obtain rfl : i = id := (h.devoted i _ hcomponent).2 rfl
      obtain ⟨call, hcalls, hturn⟩ := served.turn name hcomponent
      have heven := h.even
      rw [hcomponent, decide_eq_true rfl, Bool.true_and] at heven ⊢
      rw [hcalls, balance_concat heven, hturn]
    · have hrenderer : c.role? i ≠ some (.renderer name) := fun hr => (h.devoted i _ hr).1 rfl
      rw [served.silent name hcomponent hrenderer, h.even]
      by_cases hid : id = i
      · rw [hid, decide_eq_false hcomponent, Bool.false_and, Bool.false_and]
      · rw [served.elsewhere id hid]

/-- The source of a panel is exchanged while nothing stands in its window. -/
theorem Balanced.exchanged {name : String} {id i : PanelId} {c : Coordinator α β}
    {content : Catalog PanelId Source} (h : Balanced name id c) (bare : c.shows i = false)
    (elsewhere : ∀ j, j ≠ i → role? { c with content } j = c.role? j)
    (devoted : ∀ role, role? { c with content } i = some role → Devoted name id i role) :
    Balanced name id { c with content } where
  devoted := fun j role hj => by
    by_cases hji : j = i
    · subst hji
      exact devoted role hj
    · rw [elsewhere j hji] at hj
      exact h.devoted j role hj
  even := by
    by_cases hid : id = i
    · subst hid
      show _ = some (_ && c.shows id)
      rw [bare, Bool.and_false]
      exact h.bare bare
    · rw [elsewhere id hid]
      exact h.even

theorem Staging.balanced {given : PanelId → Source → Prop} {c d : Coordinator α β} {name : String}
    {id : PanelId} (h : Staging given c d)
    (devoted : ∀ i source, given i source → Devoted name id i source.role)
    (hc : Balanced name id c) : Balanced name id d := by
  -- a source only comes or goes where nothing stands in the window, so only calls can upset the
  -- balance
  induction h with
  | idle => exact hc
  | calm h calm ih => exact ih.calm calm
  | served h served ih => exact ih.served served
  | @assigned d i source h known bare comes ih =>
      refine ih.exchanged bare (fun j hj => ?_) (fun role hi => ?_)
      · rw [role?_insert, if_neg hj]
      · rw [role?_insert, if_pos rfl, Option.some.injEq] at hi
        exact hi ▸ devoted i source comes
  | @deprived d i h bare ih =>
      refine ih.exchanged bare (fun j hj => ?_) (fun role hi => ?_)
      · rw [role?_erase, if_neg hj]
      · rw [role?_erase, if_pos rfl] at hi
        cases hi

/-! ## Steps that call nobody -/

theorem shows_of_window {c : Coordinator α β} {id : PanelId} {w : Chrome α}
    (hw : c.flyouts.get? id = some w) : c.shows id = w.slot.isMounted := by
  rw [shows, hw]
  rfl

theorem shows_of_no_window {c : Coordinator α β} {id : PanelId} (hw : c.flyouts.get? id = none) :
    c.shows id = false := by
  rw [shows, hw]
  rfl

theorem Calm.refl (c : Coordinator α β) :
    Calm c c := ⟨fun _ => rfl, fun _ => rfl, fun _ => rfl, fun _ _ => id⟩

section Calm

variable {c d : Coordinator α β}

/-- Whatever is written into the journal, but calls, and done elsewhere does not matter. -/
theorem Calm.aside (h : Calm c d) (stack : Allocator) (tracker : Tracker α) (backend : Option β)
    (moment : Moment) (es : List (Effect α)) (silent : ∀ name, callsTo name es = []) :
    Calm c { d with stack, tracker, backend, moment, journal := d.journal ++ es } where
  role := h.role
  shows := h.shows
  calls := fun name => by rw [callsTo_append, silent, List.append_nil, h.calls]
  known := h.known

theorem Calm.record (h : Calm c d) {es : List (Effect α)} (silent : ∀ name, callsTo name es = []) :
    Calm c (d.record es) := h.aside d.stack d.tracker d.backend d.moment es silent

theorem Calm.note (h : Calm c d) (n : Notice α) : Calm c (d.note n) := h.record (fun _ => rfl)

/-- The records may change, as long as no panel is lost. -/
theorem Calm.store (h : Calm c d) {store : Store α} {es : List (Effect α)}
    (silent : ∀ name, callsTo name es = [])
    (known : ∀ id, d.role? id ≠ none → d.store.contains id = true → store.contains id = true) :
    Calm c ({ d with store }.record es) where
  role := h.role
  shows := h.shows
  calls := (h.record silent).calls
  known := fun id hid hc => known id (by rw [h.role]; exact hid) (h.known id hid hc)

/-- A window is put in the place of one with as much in it. -/
theorem Calm.place (h : Calm c d) {w : Chrome α} (same : d.shows w.panel = w.slot.isMounted) :
    Calm c (d.place w) where
  role := h.role
  shows := fun i => by
    rw [← h.shows, Coordinator.shows, Coordinator.place, Catalog.get?_insert]
    by_cases hi : i = w.panel
    · rw [if_pos hi, hi, same]
      rfl
    · rw [if_neg hi]
      rfl
  calls := h.calls
  known := h.known

theorem Calm.dropGesture (h : Calm c d) (id : PanelId) : Calm c (d.dropGesture id) := by
  exact h.aside d.stack _ d.backend d.moment _
    (fun name => callsTo_quiet name (d.tracker.dropTarget_quiet id))

theorem Calm.save [Backend β α] (h : Calm c d) (occasion : Occasion) :
    Calm c (d.save occasion).2 := by
  rw [Coordinator.save]
  split
  · exact h
  · rename_i backend hb
    have hfiled :=
      h.aside d.stack d.tracker (some (Backend.save backend (d.store.snapshot d.moment.now)).state)
      d.moment ((Backend.save backend (d.store.snapshot d.moment.now)).notices ++
        [Effect.write (d.store.snapshot d.moment.now)
          (Backend.save backend (d.store.snapshot d.moment.now)).result.isOk])
      (fun name => by
        rw [callsTo_append, callsTo_quiet name (notices_quiet _)]
        rfl)
    dsimp only
    split
    · exact hfiled.note _
    · exact hfiled.note _

theorem Calm.persist [Backend β α] (h : Calm c d) (occasion : Occasion) :
    Calm c (d.persist occasion) := by
  rw [Coordinator.persist]
  split
  · exact h.save occasion
  · exact h

theorem Calm.amend [Coordinate α] (h : Calm c d) (id : PanelId) {patch : Panel.Patch α}
    (hdock : patch.dock = none) : Calm c (d.amend id patch) :=
  h.store (fun name => Store.update_no_calls _ _ _ _ name)
    (fun i _ hi => (Store.update_contains _ _ _ hdock i).trans hi)

theorem Calm.follow [Coordinate α] (h : Calm c d) {update : GeometryUpdate α}
    (named : ∀ w, d.flyouts.get? update.panel = some w → w.panel = update.panel) :
    Calm c (d.follow update) := by
  rw [Coordinator.follow]
  split
  · exact h
  · rename_i w hw
    have hpanel := named w hw
    have hshows : d.shows w.panel = w.slot.isMounted := by
      rw [hpanel]
      exact shows_of_window hw
    split
    · rename_i position
      exact h.place (w := { w with position }) hshows
    · rename_i size
      exact h.place (w := { w with size }) hshows

theorem Calm.raise (h : Calm c d) {w : Chrome α} (same : d.shows w.panel = w.slot.isMounted) :
    Calm c (d.raise w).2 := by
  have hplaced : Calm c (d.place { w with toOverlay := (d.raising w).state.2 }) := h.place same
  exact hplaced.aside (d.raising w).state.1 d.tracker d.backend d.moment _
    (fun name => callsTo_quiet name (Allocator.bringToFront_quiet d.stack w.toOverlay))

end Calm

/-! ## Windows are emptied and filled -/

theorem callsTo_recordCall (c : Coordinator α β) (source : Source) (call : Option Call)
    (name : String) :
    callsTo name (c.recordCall source call).journal = callsTo name c.journal ++
      if source.role = .component name ∨ source.role = .renderer name then call.toList else [] := by
  cases call with
  | none => simp [recordCall]
  | some call =>
      cases source with
      | static body => simp [recordCall, record, Source.provider?, Source.role]
      | component p => simp [recordCall, record, Source.provider?, Source.role, callsTo_call]
      | renderer p => simp [recordCall, record, Source.provider?, Source.role, callsTo_call]

/-- A source is called, and what has become of the window is put in its place. -/
theorem served_of_call {c : Coordinator α β} {w : Chrome α} {source after : Source}
    (call : Option Call) (es : List (Effect α)) (hs : c.content.get? w.panel = some source)
    (same : after.role = source.role)
    (turn : ∀ name, source.role = .component name → ∃ k, call = some k ∧
      k.turn (c.shows w.panel) = some w.slot.isMounted)
    (silent : ∀ name, callsTo name es = []) :
    Served w.panel c
      ((({ c with content := c.content.insert w.panel after }.recordCall after call).record
      es).place w) := by
  have hrole : c.role? w.panel = some source.role := by rw [role?, hs, Option.map_some]
  obtain ⟨journal, hrecord⟩ :=
    recordCall_eq { c with content := c.content.insert w.panel after } after call
  have hcalls := callsTo_recordCall { c with content := c.content.insert w.panel after } after call
  rw [hrecord] at hcalls ⊢
  refine ⟨fun i => ?_, fun i hi => ?_, fun name hname => ?_,
    fun name hcomponent hrenderer => ?_, rfl⟩
  · show role? { c with content := c.content.insert w.panel after } i = _
    rw [role?_insert]
    split
    · rename_i hi
      rw [same, hi, hrole]
    · rfl
  · show ((c.flyouts.insert w.panel w).get? i).any _ = _
    rw [Catalog.get?_insert_of_ne _ _ hi]
    rfl
  · rw [hrole, Option.some.injEq] at hname
    obtain ⟨k, rfl, hturn⟩ := turn name hname
    refine ⟨k, ?_, ?_⟩
    · show callsTo name (journal ++ es) = _
      rw [callsTo_append, silent, List.append_nil, hcalls, same, if_pos (Or.inl hname)]
      rfl
    · rw [hturn]
      show _ = some (((c.flyouts.insert w.panel w).get? w.panel).any _)
      rw [Catalog.get?_insert_self]
      rfl
  · rw [hrole, Ne, Option.some.injEq] at hcomponent hrenderer
    show callsTo name (journal ++ es) = _
    rw [callsTo_append, silent, List.append_nil, hcalls, same,
      if_neg (not_or.mpr ⟨hcomponent, hrenderer⟩), List.append_nil]

section Windows

variable {given : PanelId → Source → Prop} {c d : Coordinator α β}

theorem Staging.emptied (h : Staging given c d) {w : Chrome α}
    (hw : d.flyouts.get? w.panel = some w) :
    Staging given c ((d.unmountFrom w).2.place { w with slot := .empty }) := by
  have hshows := shows_of_window hw
  rw [unmountFrom]
  by_cases hmounted : w.slot.isMounted = true
  · rw [if_pos hmounted]
    rw [hmounted] at hshows
    split
    · -- nobody is there to be told
      rename_i hs
      have hrole : d.role? w.panel = none := by rw [role?, hs]; rfl
      refine h.served (show Served w.panel d _ from
        ⟨fun _ => rfl, fun i hi => ?_, fun name hname => ?_, fun _ _ _ => rfl, rfl⟩)
      · rw [shows, place, Catalog.get?_insert_of_ne _ _ hi]
        rfl
      · rw [hrole] at hname
        cases hname
    · rename_i source hs
      have hserved :=
        served_of_call (w := { w with slot := .empty }) (source.unmount w.panel).2 [] hs
        (source.unmount_role w.panel) (fun name hname => ?_) (fun _ => rfl)
      · rw [record_nil] at hserved
        exact h.served hserved
      · -- a component is told, and it was mounted
        show ∃ k : Call, _ ∧ k.turn (d.shows w.panel) = some false
        rw [hshows]
        cases source with
        | component p => exact ⟨.unmount w.panel, rfl, rfl⟩
        | renderer p => cases hname
        | static body => cases hname
  · rw [if_neg hmounted]
    rw [Bool.eq_false_iff.mpr hmounted] at hshows
    exact h.calm ((Calm.refl d).place hshows)

theorem Staging.filled (h : Staging given c d) {w : Chrome α} (bare : d.shows w.panel = false) :
    Staging given c ((d.mountInto w).2.place (d.mountInto w).1) := by
  rw [mountInto]
  split
  · exact h.calm (((Calm.refl d).note _).place bare)
  · rename_i source hs
    dsimp only
    have hturn : ∀ name, source.role = .component name → ∃ k, (source.mount w.panel).2.2 = some k ∧
        k.turn (d.shows w.panel) = some (source.mount w.panel).1.isOk := by
      intro name hname
      rw [bare]
      cases source with
      | component p => exact ⟨_, rfl, rfl⟩
      | renderer p => cases hname
      | static body => cases hname
    cases hanswer : (source.mount w.panel).1 with
    | ok element =>
        rw [hanswer] at hturn
        have hserved := served_of_call (w := { w with slot := .mounted element })
          (source.mount w.panel).2.2 [] hs (source.mount_role w.panel) hturn (fun _ => rfl)
        rw [record_nil] at hserved
        exact h.served hserved
    | error reason =>
        rw [hanswer] at hturn
        exact h.served
          (served_of_call (w := { w with slot := .failed _ }) (source.mount w.panel).2.2
          [.notice (.mountFailed w.panel (.mountFailed w.panel reason))] hs
            (source.mount_role w.panel)
          hturn (fun _ => rfl))

omit d in
/-- For what is taken out of a window it does not matter which windows there are. -/
theorem unmountFrom_windows (d : Coordinator α β) (w : Chrome α)
    (flyouts : Catalog PanelId (Chrome α)) :
    unmountFrom { d with flyouts } w =
      ({ w with slot := .empty }, { (d.unmountFrom w).2 with flyouts }) := by
  rw [unmountFrom, unmountFrom]
  by_cases hmounted : w.slot.isMounted = true
  · rw [if_pos hmounted, if_pos hmounted]
    dsimp only
    split
    · rfl
    · rename_i source _
      cases hcall : (source.unmount w.panel).2 <;> rfl
  · rw [if_neg hmounted, if_neg hmounted]

theorem Staging.tearDown (h : Staging given c d) (id : PanelId)
    (named : ∀ w, d.flyouts.get? id = some w → w.panel = id) : Staging given c (d.tearDown id) := by
  rw [Coordinator.tearDown]
  cases hw : d.flyouts.get? id with
  | none => exact h
  | some w =>
      obtain rfl := named w hw
      dsimp only
      -- an empty window that is taken away shows as much as one that stays
      rw [unmountFrom_windows]
      refine (h.emptied hw).calm ⟨fun _ => rfl, fun i => ?_, fun name => ?_, fun _ _ known => known⟩
      · show ((d.flyouts.erase w.panel).get? i).any _ =
          (((d.unmountFrom w).2.flyouts.insert w.panel _).get? i).any _
        obtain ⟨content, journal, hu⟩ := unmountFrom_eq d w
        rw [hu, Catalog.get?_erase, Catalog.get?_insert]
        split <;> rfl
      · show callsTo name ((d.unmountFrom w).2.journal ++ _) =
          callsTo name (d.unmountFrom w).2.journal
        rw [callsTo_append, callsTo_quiet name (Allocator.unregister_quiet _ _), List.append_nil]

/-- A window opens where none stood, or one with nothing in it. -/
theorem Staging.float [Coordinate α] (h : Staging given c d) {w : Chrome α}
    (bare : d.shows w.panel = false) : Staging given c (d.float w).2 := by
  have hstacked := h.calm ((Calm.refl d).aside (d.stacking w).state.1 d.tracker d.backend d.moment
    (d.stacking w).effects (fun name => callsTo_quiet name (Allocator.register_quiet _ _ _ _ _ _)))
  have hfilled := hstacked.filled (w := { w with toOverlay := (d.stacking w).state.2 }) bare
  exact hfilled.calm ((Calm.refl _).amend w.panel rfl)

end Windows

end Coordinator

end PanelDock
