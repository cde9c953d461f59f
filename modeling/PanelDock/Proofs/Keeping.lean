import PanelDock.Proofs.Merging
import PanelDock.Proofs.Saving
/-!
# What stays of a panel

A panel moves, is stacked and filled, but what it is called and where it belongs stays with it until
it is destroyed: `Panel.SameOrigin` is what is kept, and `Coordinator.Keeps` says so of one change.
A snapshot that is put over the records is kept in the same way, panel by panel, whatever records of
the same names were there.

Every panel has a dock (`Store.Homed`), so a snapshot that is saved can be taken back whole. Panels
without one are refused when they are introduced, and left out when they are restored.
-/

namespace PanelDock

variable {α β : Type}

/-! ## What stays of a record -/

/-- Two records are of one panel, and say the same of what it is called and where it belongs. -/
structure Panel.SameOrigin (p q : Panel α) : Prop where
  name : q.id = p.id
  title : q.title = p.title
  dock : q.dock = p.dock
  order : q.order = p.order
  createdAt : q.createdAt = p.createdAt

theorem Panel.SameOrigin.refl (p : Panel α) : p.SameOrigin p := ⟨rfl, rfl, rfl, rfl, rfl⟩

theorem Panel.SameOrigin.trans {p q r : Panel α} (h : p.SameOrigin q) (h' : q.SameOrigin r) :
    p.SameOrigin r :=
  ⟨h'.name.trans h.name, h'.title.trans h.title, h'.dock.trans h.dock, h'.order.trans h.order,
    h'.createdAt.trans h.createdAt⟩

/-- A snapshot as it is saved: of the version that is read, with one panel of each name, each in a
dock. -/
structure Snapshot.Sound (s : Snapshot α) : Prop where
  version : s.version = Snapshot.currentVersion
  homed : ∀ p ∈ s.panels, Store.Restorable p = true
  apart : (s.panels.map (·.id)).Nodup

theorem Snapshot.Sound.eq_of_id_eq {s : Snapshot α} (h : s.Sound) {p q : Panel α}
    (hp : p ∈ s.panels) (hq : q ∈ s.panels) (hid : q.id = p.id) : q = p := by
  obtain ⟨before, after, hsplit⟩ := List.append_of_mem hp
  have happart := h.apart
  rw [hsplit, List.map_append, List.map_cons, List.nodup_append, List.nodup_cons] at happart
  obtain ⟨_, ⟨hafter, _⟩, hbefore⟩ := happart
  rw [hsplit] at hq
  rcases List.mem_append.mp hq with hq | hq
  · exact absurd hid (hbefore _ (List.mem_map_of_mem hq) _ List.mem_cons_self)
  · rcases List.mem_cons.mp hq with rfl | hq
    · rfl
    · exact absurd (hid ▸ List.mem_map_of_mem hq) hafter

namespace Store

theorem merged_of_mem (s : Store α) {snapshot : Snapshot α} (sound : snapshot.Sound) {p : Panel α}
    (hp : p ∈ snapshot.panels) : s.merged snapshot p.id = some p := by
  have hrestorable : p ∈ (snapshot.panels.filter Restorable).reverse :=
    List.mem_reverse.mpr (List.mem_filter.mpr ⟨hp, sound.homed p hp⟩)
  rw [merged]
  cases hfind :
    (snapshot.panels.filter Restorable).reverse.find? (fun q => decide (q.id = p.id)) with
  | none =>
      rw [List.find?_eq_none] at hfind
      exact absurd (decide_eq_true rfl) (hfind p hrestorable)
  | some q =>
      have hmem := List.mem_of_find?_eq_some hfind
      rw [List.mem_reverse, List.mem_filter] at hmem
      have hid : q.id = p.id := by simpa using List.find?_some hfind
      rw [sound.eq_of_id_eq hp hmem.1 hid, Option.some_or]

theorem mem_list_all {s : Store α} {id : PanelId} {p : Panel α} (hp : s.get? id = some p) :
    p ∈ s.list {} := by
  rw [list, List.mem_mergeSort, List.mem_filter]
  exact ⟨(Catalog.mem_values_iff _ _).mpr ⟨id, hp⟩, rfl⟩

/-- Every panel has a dock. -/
def Homed (s : Store α) : Prop := ∀ id p, s.get? id = some p → Restorable p = true

theorem homed_empty : (empty : Store α).Homed := fun id p hp => by cases hp

theorem Homed.create {s : Store α} (h : s.Homed) (now : Instant) (id : PanelId) (dock : String)
    (defaults : Panel.Defaults) : (s.create now id dock defaults).state.Homed := by
  have hcreate := s.creation now id dock defaults
  generalize s.create now id dock defaults = o at hcreate ⊢
  cases hcreate with
  | refused n why => exact h
  | brokenOff quiet named new unordered full => exact h
  | done quiet named new behind =>
      intro i p hp
      rcases Catalog.get?_insert_eq_some hp with ⟨_, rfl⟩ | ⟨_, hold⟩
      · rw [Restorable, newPanel, named]
        rfl
      · exact h i p hold

theorem Homed.update [Coordinate α] {s : Store α} (h : s.Homed) (now : Instant) (id : PanelId)
    {patch : Panel.Patch α} (hdock : patch.dock = none) : (s.update now id patch).state.Homed := by
  intro i p hp
  rw [update_get? _ _ _ hdock] at hp
  split at hp
  · obtain ⟨q, hq, rfl⟩ := Option.map_eq_some_iff.mp hp
    have hsame : (q.revised patch now).dock = q.dock := by
      show settled q.dock patch.dock = q.dock
      rw [hdock]
      rfl
    rw [Restorable, hsame]
    exact h id q hq
  · exact h i p hp

theorem Homed.remove {s : Store α} (h : s.Homed) (id : PanelId) : (s.remove id).state.Homed := by
  intro i p hp
  rw [remove_get?] at hp
  split at hp
  · cases hp
  · exact h i p hp

theorem Homed.import? {s : Store α} (h : s.Homed) {snapshot : Snapshot α}
    (version : snapshot.version = Snapshot.currentVersion) : (s.import? snapshot).state.Homed := by
  intro i p hp
  rw [import?_get? version, merged, Option.or_eq_some_iff] at hp
  rcases hp with hp | ⟨_, hp⟩
  · have hmem := List.mem_of_find?_eq_some hp
    rw [List.mem_reverse, List.mem_filter] at hmem
    exact hmem.2
  · exact h i p hp

theorem sound_snapshot {s : Store α} (keyed : s.Keyed) (homed : s.Homed) (now : Instant) :
    (s.snapshot now).Sound where
  version := rfl
  homed := by
    intro p hp
    obtain ⟨id, hget⟩ := (Catalog.mem_values_iff _ _).mp hp
    exact homed id p hget
  apart := nodup_values keyed

end Store

namespace Coordinator

/-- A panel that is known stays known, under what it is called and where it belongs. -/
def Keeps (c d : Coordinator α β) (id : PanelId) : Prop :=
  ∀ p, c.store.get? id = some p → ∃ q, d.store.get? id = some q ∧ p.SameOrigin q

section Keeping

variable {c d e : Coordinator α β} {id : PanelId}

theorem Keeps.of_store (h : d.store.get? id = c.store.get? id) : c.Keeps d id :=
  fun p hp => ⟨p, h.trans hp, .refl p⟩

theorem Keeps.trans (h : c.Keeps d id) (h' : d.Keeps e id) : c.Keeps e id := by
  intro p hp
  obtain ⟨q, hq, hpq⟩ := h p hp
  obtain ⟨r, hr, hqr⟩ := h' q hq
  exact ⟨r, hr, hpq.trans hqr⟩

variable [Coordinate α]

/-- A patch that names neither title nor dock nor order keeps every panel. -/
theorem keeps_of_update {other : PanelId} {patch : Panel.Patch α}
    (hstore : d.store = (c.store.update c.moment.now other patch).state)
    (title : patch.title = none) (dock : patch.dock = none) (order : patch.order = none) :
    c.Keeps d id := by
  intro p hp
  rw [hstore]
  by_cases hid : id = other
  · subst hid
    refine ⟨_, record_here hp dock, rfl, ?_, ?_, ?_, rfl⟩
    · show settled p.title patch.title = p.title
      rw [title]
      rfl
    · show settled p.dock patch.dock = p.dock
      rw [dock]
      rfl
    · show settled p.order patch.order = p.order
      rw [order]
      rfl
  · exact ⟨p, (record_elsewhere dock hid).trans hp, .refl p⟩

/-- Only to destroy a panel does not keep it. -/
theorem Change.keeps {m : Move} (h : Change c m d) (spared : m ≠ .destroy id) : c.Keeps d id := by
  cases h with
  | @registered other p new name fresh content journal =>
      -- who is known is not introduced
      intro q hq
      have hid : id ≠ other := by
        rintro rfl
        exact absurd (new.symm.trans hq) (by simp)
      exact ⟨q, (Catalog.get?_insert_of_ne _ _ hid).trans hq, .refl q⟩
  | refilledAside known bare content => exact .of_store rfl
  | @destroyed other p hp content backend journal =>
      refine .of_store ?_
      show (c.store.remove other).state.get? id = _
      rw [Store.remove_get?, if_neg]
      rintro rfl
      exact spared rfl
  | @sampled s w pointer release live mine hw backend journal =>
      cases hg : c.geometryAt s pointer with
      | moved i position => exact keeps_of_update rfl rfl rfl rfl
      | resized i size => exact keeps_of_update rfl rfl rfl rfl
  | _ => exact keeps_of_update rfl rfl rfl rfl

/-- Only to introduce a panel can bring one without a dock. -/
theorem Change.homed {m : Move} (h : Change c m d) (known : ∀ id blank, m ≠ .register id blank)
    (homed : c.store.Homed) : d.store.Homed := by
  cases h with
  | registered new name fresh content journal => exact absurd rfl (known _ _)
  | refilledAside known bare content => exact homed
  | destroyed hp content backend journal => exact homed.remove _
  | @sampled s w pointer release live mine hw backend journal =>
      cases hg : c.geometryAt s pointer with
      | moved i position => exact homed.update _ _ rfl
      | resized i size => exact homed.update _ _ rfl
  | _ => exact homed.update _ _ rfl

theorem rebuild_homed (homed : c.store.Homed) : c.rebuild.2.store.Homed := by
  refine rebuild_keeps (P := fun e => e.store.Homed) ?_ ?_ homed
  · intro e i he
    obtain ⟨content, journal, hd⟩ := discard_eq e i
    rw [hd]
    exact he
  · intro e p he
    obtain ⟨slot, content, journal, hr⟩ := reopen_eq e p
    rw [hr]
    exact he.update _ _ rfl

theorem rebuild_keeps_origin (c : Coordinator α β) (id : PanelId) : c.Keeps c.rebuild.2 id := by
  refine rebuild_keeps (P := fun e => c.Keeps e id) ?_ ?_ (.of_store rfl)
  · intro e i he
    obtain ⟨content, journal, hd⟩ := discard_eq e i
    rw [hd]
    exact he
  · intro e p he
    obtain ⟨slot, content, journal, hr⟩ := reopen_eq e p
    rw [hr]
    exact he.trans (keeps_of_update rfl rfl rfl rfl)

end Keeping

/-! ## Actions -/

section Actions

variable [Coordinate α] [Backend β α] {c : Coordinator α β}

theorem restore_keeps {snapshot : Snapshot α} (found : c.restorable = some snapshot)
    (sound : snapshot.Sound) {p : Panel α} (hp : p ∈ snapshot.panels) :
    ∃ q, c.restore.2.store.get? p.id = some q ∧ p.SameOrigin q := by
  obtain ⟨lines, d, journal, rfl, hr⟩ := restore_eq found
  rw [hr]
  refine rebuild_keeps_origin (c.imported snapshot lines) p.id p ?_
  show (c.store.import? snapshot).state.get? p.id = some p
  rw [Store.import?_get? sound.version, Store.merged_of_mem _ sound hp]

theorem restore_homed {snapshot : Snapshot α} (found : c.restorable = some snapshot)
    (homed : c.store.Homed) : c.restore.2.store.Homed := by
  obtain ⟨_, _, _, hversion⟩ := restorable_eq_some found
  obtain ⟨lines, d, journal, rfl, hr⟩ := restore_eq found
  rw [hr]
  exact rebuild_homed (c := c.imported snapshot lines) (homed.import? hversion)

/-- When panels are restored, they are saved as they are then. -/
theorem restore_backend {snapshot : Snapshot α} (found : c.restorable = some snapshot) :
    c.restore.2.backend = filed (c.backend.map (fun backend => (Backend.restore backend).state))
      (c.restore.2.store.snapshot c.restore.2.moment.now) := by
  obtain ⟨lines, d, journal, rfl, hr⟩ := restore_eq found
  obtain ⟨hbackend, _⟩ := rebuild_backend (c.imported snapshot lines)
  rw [hr]
  dsimp only
  rw [hbackend]
  rfl

omit [Backend β α] in
/-- The move that destroys a panel comes of one action only. -/
theorem eq_destroyPanel_of_asked {a : Action α} {id : PanelId}
    (h : c.asked (.action a) = some (.destroy id)) : a = .destroyPanel id := by
  cases a with
  | destroyPanel other =>
      obtain rfl : other = id := Move.destroy.inj (Option.some.inj h)
      rfl
  | toggleFlyout other =>
      have hmove := Option.some.inj h
      split at hmove <;> cases hmove
  | _ => cases h

/-- An action keeps every panel but the one it destroys. -/
theorem execute_keeps (hc : c.Coherent) {a : Action α} {id : PanelId}
    (spared : a ≠ .destroyPanel id) : c.Keeps (c.execute a).2 id := by
  have h : Aftermath c (.action a) (c.execute a).2 := perform_aftermath hc (.action a)
  generalize (c.execute a).2 = d at h
  cases h with
  | aside stuck spent subscribers nextSubscriber journal => exact .of_store rfl
  | changed asks es h booked =>
      refine Keeps.trans (.of_store rfl) (h.keeps ?_)
      rintro rfl
      exact spared (eq_destroyPanel_of_asked asks)
  | restored asks h => cases asks

omit [Backend β α] in
theorem isRegistration_of_asked {a : Action α} {id : PanelId} {blank : Bool}
    (h : c.asked (.action a) = some (.register id blank)) : a.isRegistration = true := by
  cases a with
  | registerPanel id title dock content => rfl
  | toggleFlyout other =>
      have hmove := Option.some.inj h
      split at hmove <;> cases hmove
  | _ => cases h

omit [Coordinate α] [Backend β α] in
theorem write_not_mem_create (s : Store α) (now : Instant) (id : PanelId) (dock : String)
    (defaults : Panel.Defaults) (snapshot : Snapshot α) (accepted : Bool) :
    Effect.write snapshot accepted ∉ (s.create now id dock defaults).effects := by
  have hcreate := s.creation now id dock defaults
  generalize s.create now id dock defaults = o at hcreate ⊢
  cases hcreate with
  | refused n why => simp
  | brokenOff quiet named new unordered full => exact fun hw => Bool.noConfusion (quiet _ hw)
  | done quiet named new behind =>
      intro hw
      rcases List.mem_append.mp hw with hw | hw
      · exact Bool.noConfusion (quiet _ hw)
      · exact absurd (List.mem_singleton.mp hw) (by simp [Store.tell])

omit [Coordinate α] [Backend β α] in
/-- To introduce a panel is to create it; the backend is not touched, and nothing is written. -/
theorem registerPanel_eq (c : Coordinator α β) (id : PanelId) (title dock : String)
    (source : Option Source) :
    ∃ content es, (c.registerPanel id title dock source).2 =
        { c with
          store := (c.store.create c.moment.now id dock (.titled title)).state
          content
          journal := c.journal ++ es } ∧
      ∀ snapshot accepted, Effect.write snapshot accepted ∉ es := by
  have hcreate := write_not_mem_create c.store c.moment.now id dock (.titled title)
  unfold registerPanel
  generalize c.store.create c.moment.now id dock (.titled title) = o at hcreate ⊢
  dsimp only
  split
  · cases source with
    | none => exact ⟨c.content, o.effects, rfl, hcreate⟩
    | some source =>
        let line : Effect α := .notice (.contentRegistered id source.kind)
        refine ⟨c.content.insert id source, o.effects ++ [line], ?_, ?_⟩
        · rw [← List.append_assoc]
          rfl
        · intro snapshot accepted hmem
          rcases List.mem_append.mp hmem with hmem | hmem
          · exact hcreate snapshot accepted hmem
          · exact absurd (List.mem_singleton.mp hmem) (by simp [line])
  · exact ⟨c.content, o.effects, rfl, hcreate⟩

/-- An action that introduces a panel does the same, and says so first. -/
theorem execute_registerPanel_eq (c : Coordinator α β) (id : PanelId) (title dock : String)
    (content : Option String) : ∃ filled es, (c.execute (.registerPanel id title dock content)).2 =
        { c with
          store := (c.store.create c.moment.now id dock (.titled title)).state
          content := filled
          journal := c.journal ++ es } ∧
      ∀ snapshot accepted, Effect.write snapshot accepted ∉ es := by
  obtain ⟨filled, es, hregister, hes⟩ :=
    registerPanel_eq (c.note (.executing "Register Panel")) id title dock (content.map .static)
  have hexecute : (c.execute (.registerPanel id title dock content)).2 = _ := hregister
  refine ⟨filled, .notice (.executing "Register Panel") :: es, ?_, fun snapshot accepted hmem => ?_⟩
  · rw [hexecute, List.append_cons]
    rfl
  · rcases List.mem_cons.mp hmem with he | hmem
    · cases he
    · exact hes snapshot accepted hmem

/-- To introduce a panel by an action is nothing to the backend either. -/
theorem execute_registration {a : Action α} (h : a.isRegistration = true) :
    (c.execute a).2.backend = c.backend ∧ ∃ es, (c.execute a).2.journal = c.journal ++ es ∧
      ∀ snapshot accepted, Effect.write snapshot accepted ∉ es := by
  cases a with
  | registerPanel id title dock content =>
      obtain ⟨filled, es, hexecute, hes⟩ := c.execute_registerPanel_eq id title dock content
      rw [hexecute]
      exact ⟨rfl, es, rfl, hes⟩
  | _ => cases h

/-- No other action breaks the program off. -/
theorem isRegistration_of_brokenOff {a : Action α} (h : (c.execute a).1 = .brokenOff) :
    a.isRegistration = true := by
  cases a with
  | registerPanel id title dock content => rfl
  | none => cases h
  | _ => exact absurd h (Attempt.of_ne_brokenOff _)

theorem execute_homed (hc : c.Coherent) (homed : c.store.Homed) (a : Action α) :
    (c.execute a).2.store.Homed := by
  -- of what is introduced the move says too little: that it has a dock is seen in the store
  by_cases hr : a.isRegistration = true
  · cases a with
    | registerPanel id title dock content =>
        obtain ⟨filled, es, hexecute, _⟩ := c.execute_registerPanel_eq id title dock content
        rw [hexecute]
        exact homed.create _ _ _ _
    | _ => cases hr
  · have h : Aftermath c (.action a) (c.execute a).2 := perform_aftermath hc (.action a)
    generalize (c.execute a).2 = d at h
    cases h with
    | aside stuck spent subscribers nextSubscriber journal => exact homed
    | @changed d m asks es h booked =>
        refine h.homed (fun id blank hm => hr ?_) homed
        exact isRegistration_of_asked (hm ▸ asks)
    | restored asks h => cases asks

/-- An action leaves the backend alone, or has the panels saved as they are afterwards. -/
theorem execute_backend (hc : c.Coherent) (a : Action α) :
    (c.execute a).2.backend = c.backend ∨
      (c.execute a).2.backend = filed c.backend ((c.execute a).2.store.snapshot c.moment.now) := by
  have h : Aftermath c (.action a) (c.execute a).2 := perform_aftermath hc (.action a)
  generalize (c.execute a).2 = d at h
  cases h with
  | aside stuck spent subscribers nextSubscriber journal =>
      cases a with
      | saveAll => exact Or.inr rfl
      | _ => exact Or.inl rfl
  | changed asks es h booked =>
      rw [Booked] at booked
      split at booked
      · exact Or.inr booked
      · exact Or.inl booked
  | restored asks h => cases asks

end Actions

end Coordinator

end PanelDock
