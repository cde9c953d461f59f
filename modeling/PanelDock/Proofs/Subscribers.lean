import PanelDock.Proofs.Commands
/-!
# Subscribers keep up with the store

A store tells its subscribers of every change by an event. A subscriber that starts from the panels
as they are when it comes, and from then on files, replaces and deletes panels as it is told, has
the panels of the store after everything that is done with it, whoever else comes and goes
meanwhile.

Two things carry this. `Turn` says how what is told fits what is changed: at most one event, about a
panel that is there if it is to be replaced or deleted and is not there if it is to be filed. And
the number of a subscriber is never given again, so it has every event once from when it is given
until it is taken out.
-/

namespace PanelDock

variable {α : Type}

/-! ## What is told, and what is heard -/

/-- The event that is told, if any is. -/
def Effect.event? : Effect α → Option (Event α)
  | .event _ e => some e
  | _ => none

/-- The event as often as a subscriber hears it. -/
def Effect.heardBy (n : Nat) : Effect α → List (Event α)
  | .event subscribers e => List.replicate (subscribers.count n) e
  | _ => []

/-- The events that are told, in order. -/
def emitted (effects : List (Effect α)) : List (Event α) := effects.filterMap Effect.event?

/-- The events that a subscriber hears, in order. -/
def heard (n : Nat) (effects : List (Effect α)) : List (Event α) :=
  effects.flatMap (Effect.heardBy n)

@[simp] theorem emitted_append (es fs : List (Effect α)) :
    emitted (es ++ fs) = emitted es ++ emitted fs :=
  List.filterMap_append

@[simp] theorem heard_append (n : Nat) (es fs : List (Effect α)) :
    heard n (es ++ fs) = heard n es ++ heard n fs :=
  List.flatMap_append

/-- Lines for the log are no events. -/
theorem emitted_quiet {es : List (Effect α)} (quiet : ∀ x ∈ es, x.isNotice = true) :
    emitted es = [] := by
  refine List.filterMap_eq_nil_iff.mpr (fun x hx => ?_)
  obtain ⟨n, rfl⟩ := Effect.isNotice_iff.mp (quiet x hx)
  rfl

theorem heard_quiet (n : Nat) {es : List (Effect α)} (quiet : ∀ x ∈ es, x.isNotice = true) :
    heard n es = [] := by
  refine List.flatMap_eq_nil_iff.mpr (fun x hx => ?_)
  obtain ⟨n, rfl⟩ := Effect.isNotice_iff.mp (quiet x hx)
  rfl

/-- What a subscriber that holds some panels makes of an event. When it is told that all may have
changed, it takes the panels of the store. -/
def Event.applied (store held : Catalog PanelId (Panel α)) : Event α → Catalog PanelId (Panel α)
  | .created p => held.insert p.id p
  | .updated p => held.insert p.id p
  | .removed id => held.erase id
  | .reset => store

/-- The event can be about these panels: a panel that is created is not among them, and one that is
changed or removed is. -/
def Event.Fits (held : Catalog PanelId (Panel α)) : Event α → Prop
  | .created p => held.get? p.id = none
  | .updated p => held.get? p.id ≠ none
  | .removed id => held.get? id ≠ none
  | .reset => True

/-! ## A change that is none -/

/-- A field that is told a different value does not keep its own, if that equals itself. -/
theorem settled_ne {τ : Type} [BEq τ] {old : τ} {new : Option τ} (regular : (old == old) = true)
    (h : differs old new = true) : settled old new ≠ old := by
  cases new with
  | none => cases h
  | some v =>
      intro hsame
      rw [differs, bne, Bool.not_eq_true'] at h
      rw [settled, if_neg (by rw [h]; exact Bool.false_ne_true)] at hsame
      rw [hsame, regular] at h
      cases h

/-- The geometry of the panel equals itself, as that of ordinary numbers does. -/
def Panel.Regular [Coordinate α] (p : Panel α) : Prop :=
  (p.position == p.position) = true ∧ (p.size == p.size) = true

theorem Panel.patched_ne [Coordinate α] {p : Panel α} {patch : Panel.Patch α} (regular : p.Regular)
    (h : p.changedBy patch = true) (now : Instant) :
    { p.patched patch with lastUpdated := now } ≠ p := by
  intro hsame
  simp only [changedBy, Bool.or_eq_true] at h
  rcases h with (((((((h | h) | h) | h) | h) | h) | h) | h) | h
  · exact settled_ne BEq.rfl h (congrArg title hsame)
  · exact settled_ne BEq.rfl h (congrArg placement hsame)
  · exact settled_ne BEq.rfl h (congrArg dock hsame)
  · exact settled_ne regular.1 h (congrArg position hsame)
  · exact settled_ne regular.2 h (congrArg Panel.size hsame)
  · exact settled_ne BEq.rfl h (congrArg zIndex hsame)
  · exact settled_ne BEq.rfl h (congrArg visible hsame)
  · exact settled_ne BEq.rfl h (congrArg mounted hsame)
  · exact settled_ne BEq.rfl h (congrArg order hsame)

/-! ## One deed -/

namespace Store

/-- The geometry of every panel equals itself. -/
def Regular [Coordinate α] (s : Store α) : Prop := ∀ id p, s.get? id = some p → p.Regular

/-- Something that is done with a store. -/
inductive Deed (α : Type) where
  | create (id : PanelId) (dock : String) (defaults : Panel.Defaults)
  | update (id : PanelId) (patch : Panel.Patch α)
  | remove (id : PanelId)
  | dispatch (change : Change α)
  | take (snapshot : Snapshot α)
  | subscribe
  | unsubscribe (subscriber : Nat)

/-- Whether a deed takes a subscriber out. -/
def Deed.removes (n : Nat) : Deed α → Bool
  | .unsubscribe m => m == n
  | _ => false

/-- Whether a deed puts the panels of a snapshot over those of the store. -/
def Deed.takes : Deed α → Bool
  | .take _ => true
  | _ => false

variable [Coordinate α]

/-- What a deed does with the panels, where `taken` says whether it takes those of a snapshot: it
leaves them and tells nothing, or it tells one event that fits the panels before and makes those
after. Then some panel is another one, unless panels were taken. -/
inductive Turn (s : Store α) (taken : Bool) : Store α → List (Effect α) → Prop where
  | silent {es : List (Effect α)} (quiet : ∀ x ∈ es, x.isNotice = true) : Turn s taken s es
  | telling {es : List (Effect α)} {panels : Catalog PanelId (Panel α)} (e : Event α)
      (quiet : ∀ x ∈ es, x.isNotice = true) (fits : e.Fits s.panels)
      (makes : e.applied panels s.panels = panels) (keyed : Keyed { s with panels })
      (alters : taken = true ∨ (s.Regular → ∃ id, panels.get? id ≠ s.get? id)) :
      Turn s taken { s with panels } (es ++ [s.tell e])

section Turns

variable {s s' : Store α} {taken : Bool} {es : List (Effect α)}

theorem Turn.subscribers (h : s.Turn taken s' es) :
    s'.subscribers = s.subscribers ∧ s'.nextSubscriber = s.nextSubscriber := by
  cases h <;> exact ⟨rfl, rfl⟩

theorem Turn.keyed (h : s.Turn taken s' es) (hs : s.Keyed) : s'.Keyed := by
  cases h with
  | silent quiet => exact hs
  | telling e quiet fits makes keyed alters => exact keyed

theorem Turn.told (h : s.Turn taken s' es) :
    (emitted es).length ≤ 1 ∧ ∀ e ∈ emitted es, e.Fits s.panels := by
  cases h with
  | silent quiet => simp [emitted_quiet quiet]
  | telling e quiet fits makes keyed alters =>
      rw [emitted_append, emitted_quiet quiet]
      exact ⟨Nat.le_refl 1, fun f hf => List.mem_singleton.mp hf ▸ fits⟩

/-- Who makes of the panels what is told has those after it. -/
theorem Turn.applied (h : s.Turn taken s' es) :
    (emitted es).foldl (fun held e => e.applied s'.panels held) s.panels = s'.panels := by
  cases h with
  | silent quiet => rw [emitted_quiet quiet]; rfl
  | telling e quiet fits makes keyed alters =>
      rw [emitted_append, emitted_quiet quiet]
      exact makes

/-- A subscriber hears what is told as often as it is among the subscribers. -/
theorem Turn.heard_eq (h : s.Turn taken s' es) (n : Nat) :
    heard n es = (emitted es).flatMap (List.replicate (s.subscribers.count n)) := by
  cases h with
  | silent quiet => rw [heard_quiet n quiet, emitted_quiet quiet]; rfl
  | telling e quiet fits makes keyed alters =>
      rw [heard_append, emitted_append, heard_quiet n quiet, emitted_quiet quiet]
      rfl

theorem Turn.untold (h : s.Turn false s' es) (regular : s.Regular)
    (kept : ∀ id, s'.get? id = s.get? id) : emitted es = [] := by
  cases h with
  | silent quiet => exact emitted_quiet quiet
  | telling e quiet fits makes keyed alters =>
      obtain ⟨id, hid⟩ := alters.resolve_left Bool.false_ne_true regular
      exact absurd (kept id) hid

omit [Coordinate α] in
theorem Keyed.insert (hs : s.Keyed) {id : PanelId} {p : Panel α} (name : p.id = id) :
    Keyed { s with panels := s.panels.insert id p } := by
  intro i q hq
  rcases Catalog.get?_insert_eq_some hq with ⟨hid, rfl⟩ | ⟨_, hold⟩
  · exact name.trans hid.symm
  · exact hs i q hold

omit [Coordinate α] in
theorem Keyed.erase (hs : s.Keyed) (id : PanelId) : Keyed { s with panels := s.panels.erase id } :=
  fun i q hq => hs i q (Catalog.get?_erase_eq_some hq).2

theorem create_turn (hs : s.Keyed) (now : Instant) (id : PanelId) (dock : String)
    (defaults : Panel.Defaults) :
    s.Turn false (s.create now id dock defaults).state (s.create now id dock defaults).effects := by
  have hcreate := s.creation now id dock defaults
  generalize s.create now id dock defaults = o at hcreate ⊢
  cases hcreate with
  | refused n why => exact .silent (quiet_notice n)
  | brokenOff quiet named new unordered full => exact .silent quiet
  | done quiet named new behind =>
      refine .telling (.created _) quiet new rfl (hs.insert rfl) (Or.inr (fun _ => ⟨id, ?_⟩))
      rw [Catalog.get?_insert, if_pos rfl, new]
      exact Option.some_ne_none _

theorem update_turn (hs : s.Keyed) (now : Instant) (id : PanelId) (patch : Panel.Patch α) :
    s.Turn false (s.update now id patch).state (s.update now id patch).effects := by
  cases hp : s.get? id with
  | none => rw [update, hp]; exact .silent (quiet_notice _)
  | some p =>
      obtain ⟨kept, quiet, hupdate⟩ := update_known hp now patch
      obtain rfl : p.id = id := hs id p hp
      rw [hupdate]
      split
      · rename_i hchanged
        refine .telling (.updated _) quiet ?_ rfl (hs.insert rfl)
          (Or.inr (fun regular => ⟨p.id, ?_⟩))
        · exact fun hnone => Option.some_ne_none p (hp.symm.trans hnone)
        · rw [Catalog.get?_insert, if_pos rfl, hp]
          exact fun he => Panel.patched_ne (regular _ p hp) hchanged now (Option.some.inj he)
      · exact .silent quiet

theorem remove_turn (hs : s.Keyed) (id : PanelId) :
    s.Turn false (s.remove id).state (s.remove id).effects := by
  rw [remove]
  split
  · exact .silent quiet_nil
  · rename_i p hp
    show s.Turn false _ ([.notice (.panelRemoved id)] ++ [s.tell (.removed id)])
    refine .telling (.removed id) (quiet_notice _) ?_ rfl (hs.erase id)
      (Or.inr (fun _ => ⟨id, ?_⟩))
    · exact fun hnone => Option.some_ne_none p (hp.symm.trans hnone)
    · rw [Catalog.get?_erase, if_pos rfl, hp]
      exact (Option.some_ne_none p).symm

theorem import?_turn (hs : s.Keyed) (snapshot : Snapshot α) :
    s.Turn true (s.import? snapshot).state (s.import? snapshot).effects := by
  rw [import?]
  split
  · exact .silent quiet_nil
  · dsimp only
    rw [List.append_cons]
    refine .telling .reset (List.forall_mem_append.mpr ⟨fun x hx => ?_, quiet_notice _⟩) trivial rfl
      (foldl_insert_keyed _ _ hs) (Or.inl rfl)
    obtain ⟨p, _, rfl⟩ := List.mem_map.mp hx
    rfl

end Turns

/-- Does a deed. Gives the store after it, and what happened meanwhile. -/
def perform (s : Store α) (now : Instant) : Deed α → Store α × List (Effect α)
  | .create id dock defaults =>
      ((s.create now id dock defaults).state, (s.create now id dock defaults).effects)
  | .update id patch => ((s.update now id patch).state, (s.update now id patch).effects)
  | .remove id => ((s.remove id).state, (s.remove id).effects)
  | .dispatch change => ((s.dispatch now change).state, (s.dispatch now change).effects)
  | .take snapshot => ((s.import? snapshot).state, (s.import? snapshot).effects)
  | .subscribe => (s.subscribe.2, [])
  | .unsubscribe n => ((s.unsubscribe n).2, [])

/-- A deed is a turn, or only changes who subscribes. -/
theorem perform_cases {s : Store α} (hs : s.Keyed) (now : Instant) (deed : Deed α) :
    (s.Turn deed.takes (s.perform now deed).1 (s.perform now deed).2 ∧
      ∀ n, deed.removes n = false) ∨
    (deed = .subscribe ∧ s.perform now deed = (s.subscribe.2, [])) ∨
    ∃ n, deed = .unsubscribe n ∧ s.perform now deed = ((s.unsubscribe n).2, []) := by
  cases deed with
  | create id dock defaults => exact Or.inl ⟨create_turn hs now id dock defaults, fun _ => rfl⟩
  | update id patch => exact Or.inl ⟨update_turn hs now id patch, fun _ => rfl⟩
  | remove id => exact Or.inl ⟨remove_turn hs id, fun _ => rfl⟩
  | dispatch change =>
      cases change with
      | create id dock defaults => exact Or.inl ⟨create_turn hs now id dock defaults, fun _ => rfl⟩
      | update id patch => exact Or.inl ⟨update_turn hs now id patch, fun _ => rfl⟩
      | remove id => exact Or.inl ⟨remove_turn hs id, fun _ => rfl⟩
  | take snapshot => exact Or.inl ⟨import?_turn hs snapshot, fun _ => rfl⟩
  | subscribe => exact Or.inr (Or.inl ⟨rfl, rfl⟩)
  | unsubscribe n => exact Or.inr (Or.inr ⟨n, rfl, rfl⟩)

theorem perform_removes {s : Store α} {now : Instant} {deed : Deed α} {n : Nat}
    (h : deed.removes n = true) : (s.perform now deed).2 = [] := by
  cases deed with
  | unsubscribe m => rfl
  | _ => cases h

/-- Panels stand under their own names, and the numbers of the subscribers are apart and were given
before. -/
structure Orderly (s : Store α) : Prop where
  keyed : s.Keyed
  apart : s.subscribers.Nodup
  given : ∀ n ∈ s.subscribers, n < s.nextSubscriber

omit [Coordinate α] in
theorem orderly_empty : Orderly (empty : Store α) where
  keyed := fun id p hp => by cases hp
  apart := List.nodup_nil
  given := fun n hn => by cases hn

omit [Coordinate α] in
/-- The number that is given is greater than all that are in use. -/
theorem Orderly.subscribe {s : Store α} (h : s.Orderly) : s.subscribe.2.Orderly := by
  have hnew : s.nextSubscriber ∉ s.subscribers := fun hm => Nat.lt_irrefl _ (h.given _ hm)
  refine ⟨h.keyed, List.nodup_append.mpr ⟨h.apart, by simp, fun m hm k hk => ?_⟩, fun m hm => ?_⟩
  · rw [List.mem_singleton.mp hk]
    exact fun he => hnew (he ▸ hm)
  · rcases List.mem_append.mp hm with hm | hm
    · exact Nat.lt_succ_of_lt (h.given m hm)
    · rw [List.mem_singleton.mp hm]
      exact Nat.lt_succ_self _

theorem Orderly.perform {s : Store α} (h : s.Orderly) (now : Instant) (deed : Deed α) :
    (s.perform now deed).1.Orderly := by
  rcases perform_cases h.keyed now deed with ⟨hturn, _⟩ | ⟨rfl, hs⟩ | ⟨n, rfl, hs⟩
  · obtain ⟨hsubscribers, hnext⟩ := hturn.subscribers
    refine ⟨hturn.keyed h.keyed, ?_, ?_⟩
    · rw [hsubscribers]
      exact h.apart
    · rw [hsubscribers, hnext]
      exact h.given
  · exact h.subscribe
  · exact ⟨h.keyed, h.apart.sublist List.filter_sublist,
      fun m hm => h.given m (List.mem_filter.mp hm).1⟩

theorem Orderly.nextSubscriber_le {s : Store α} (h : s.Orderly) (now : Instant) (deed : Deed α) :
    s.nextSubscriber ≤ (s.perform now deed).1.nextSubscriber := by
  rcases perform_cases h.keyed now deed with ⟨hturn, _⟩ | ⟨rfl, hs⟩ | ⟨n, rfl, hs⟩
  · exact Nat.le_of_eq hturn.subscribers.2.symm
  · exact Nat.le_succ _
  · exact Nat.le_refl _

/-- Who has a number goes on subscribing until it is taken out, and never begins again. -/
theorem Orderly.mem_perform {s : Store α} (h : s.Orderly) (now : Instant) (deed : Deed α) {n : Nat}
    (old : n < s.nextSubscriber) :
    n ∈ (s.perform now deed).1.subscribers ↔ n ∈ s.subscribers ∧ deed.removes n = false := by
  rcases perform_cases h.keyed now deed with ⟨hturn, hstays⟩ | ⟨rfl, hs⟩ | ⟨m, rfl, hs⟩
  · rw [hturn.subscribers.1]
    exact (and_iff_left (hstays n)).symm
  · have hne : n ≠ s.nextSubscriber := Nat.ne_of_lt old
    rw [hs]
    simp [Store.subscribe, Deed.removes, hne]
  · rw [hs]
    show n ∈ s.subscribers.filter (· != m) ↔ n ∈ s.subscribers ∧ (m == n) = false
    rw [List.mem_filter, bne_iff_ne, beq_eq_false_iff_ne, ne_comm]

/-- Who subscribes hears each event once, and who does not hears none. -/
theorem Orderly.heard_perform {s : Store α} (h : s.Orderly) (now : Instant) (deed : Deed α)
    (n : Nat) :
    heard n (s.perform now deed).2 = if n ∈
      s.subscribers then emitted (s.perform now deed).2 else [] := by
  rcases perform_cases h.keyed now deed with ⟨hturn, _⟩ | ⟨rfl, hs⟩ | ⟨m, rfl, hs⟩
  · rw [hturn.heard_eq]
    split
    · rename_i hn
      rw [h.apart.count, if_pos hn]
      exact List.flatMap_singleton' _
    · rename_i hn
      rw [h.apart.count, if_neg hn]
      exact List.flatMap_eq_nil_iff.mpr (fun _ _ => rfl)
  · rw [hs]
    exact (ite_self _).symm
  · rw [hs]
    exact (ite_self _).symm

/-! ## A run -/

/-- Does one deed after the other, each at its instant. -/
def run (s : Store α) : List (Instant × Deed α) → Store α × List (Effect α)
  | [] => (s, [])
  | (now, deed) :: rest =>
    let (next, effects) := s.perform now deed
    let (last, later) := next.run rest
    (last, effects ++ later)

theorem run_cons (s : Store α) (d : Instant × Deed α) (rest : List (Instant × Deed α)) :
    (s.run (d :: rest)).2 = (s.perform d.1 d.2).2 ++ ((s.perform d.1 d.2).1.run rest).2 := rfl

theorem Orderly.run {s : Store α} (h : s.Orderly) (deeds : List (Instant × Deed α)) :
    (s.run deeds).1.Orderly := by
  induction deeds generalizing s with
  | nil => exact h
  | cons d rest ih => exact ih (h.perform d.1 d.2)

/-- A number that was not given yet is heard by nobody. -/
theorem Orderly.heard_before {s : Store α} (h : s.Orderly) (deeds : List (Instant × Deed α))
    {n : Nat} (new : (s.run deeds).1.nextSubscriber ≤ n) :
    s.nextSubscriber ≤ n ∧ heard n (s.run deeds).2 = [] := by
  induction deeds generalizing s with
  | nil => exact ⟨new, rfl⟩
  | cons d rest ih =>
      -- numbers only grow: what is not given in the end was not given here
      obtain ⟨hnext, hrest⟩ := ih (h.perform d.1 d.2) new
      have hold : s.nextSubscriber ≤ n := Nat.le_trans (h.nextSubscriber_le d.1 d.2) hnext
      have hout : n ∉ s.subscribers := fun hn => Nat.not_lt.mpr hold (h.given n hn)
      refine ⟨hold, ?_⟩
      rw [run_cons, heard_append, h.heard_perform, if_neg hout, hrest]
      rfl

theorem Orderly.heard_after {s : Store α} (h : s.Orderly) (deeds : List (Instant × Deed α))
    {n : Nat} (old : n < s.nextSubscriber) (out : n ∉ s.subscribers) :
    heard n (s.run deeds).2 = [] := by
  induction deeds generalizing s with
  | nil => rfl
  | cons d rest ih =>
      have hout : n ∉ (s.perform d.1 d.2).1.subscribers :=
        fun hn => out ((h.mem_perform d.1 d.2 old).mp hn).1
      have hrest :=
        ih (h.perform d.1 d.2) (Nat.lt_of_lt_of_le old (h.nextSubscriber_le d.1 d.2)) hout
      rw [run_cons, heard_append, h.heard_perform, if_neg out, hrest]
      rfl

/-- A subscriber hears all that is told until it is taken out. -/
theorem Orderly.heard_run {s : Store α} (h : s.Orderly) (deeds : List (Instant × Deed α)) {n : Nat}
    (hn : n ∈ s.subscribers) :
    heard n (s.run deeds).2 = emitted (s.run (deeds.takeWhile (fun d => !d.2.removes n))).2 := by
  induction deeds generalizing s with
  | nil => rfl
  | cons d rest ih =>
      have hold := h.given n hn
      have hnext := Nat.lt_of_lt_of_le hold (h.nextSubscriber_le d.1 d.2)
      have hstays := h.mem_perform d.1 d.2 hold
      rw [run_cons, heard_append, h.heard_perform, if_pos hn, List.takeWhile_cons]
      cases hremoves : d.2.removes n with
      | true =>
          -- the deed takes it out, and its number is never given again
          have hout : n ∉ (s.perform d.1 d.2).1.subscribers := by
            rw [hstays, hremoves]
            exact fun he => Bool.noConfusion he.2
          rw [(h.perform d.1 d.2).heard_after rest hnext hout, perform_removes hremoves]
          rfl
      | false =>
          have hin : n ∈ (s.perform d.1 d.2).1.subscribers := hstays.mpr ⟨hn, hremoves⟩
          rw [ih (h.perform d.1 d.2) hin, ← emitted_append]
          rfl

/-! ## The copy -/

/-- What a subscriber makes of all that it hears during a deed. -/
def heeded (n : Nat) (store held : Catalog PanelId (Panel α)) (effects : List (Effect α)) :
    Catalog PanelId (Panel α) :=
  (heard n effects).foldl (fun held e => e.applied store held) held

/-- What a subscriber has made of what it heard, starting from the panels that it held. -/
def copy (n : Nat) (held : Catalog PanelId (Panel α)) (s : Store α) :
    List (Instant × Deed α) → Catalog PanelId (Panel α)
  | [] => held
  | (now, deed) :: rest =>
    let (next, effects) := s.perform now deed
    copy n (heeded n next.panels held effects) next rest

theorem copy_cons (n : Nat) (held : Catalog PanelId (Panel α)) (s : Store α) (d : Instant × Deed α)
    (rest : List (Instant × Deed α)) :
    copy n held s (d :: rest) =
      copy n (heeded n (s.perform d.1 d.2).1.panels held (s.perform d.1 d.2).2)
        (s.perform d.1 d.2).1 rest :=
  rfl

/-- Whoever holds the panels of the store, and heeds what it hears of a deed, holds those after it.
-/
theorem Orderly.heeded_perform {s : Store α} (h : s.Orderly) (now : Instant) (deed : Deed α)
    {n : Nat} (hn : n ∈ s.subscribers) :
    heeded n (s.perform now deed).1.panels s.panels (s.perform now deed).2 =
      (s.perform now deed).1.panels := by
  rw [heeded, h.heard_perform, if_pos hn]
  rcases perform_cases h.keyed now deed with ⟨hturn, _⟩ | ⟨rfl, hs⟩ | ⟨m, rfl, hs⟩
  · exact hturn.applied
  · rw [hs]
    rfl
  · rw [hs]
    rfl

theorem Orderly.copy_run {s : Store α} (h : s.Orderly) (deeds : List (Instant × Deed α)) {n : Nat}
    (hn : n ∈ s.subscribers) (stays : ∀ d ∈ deeds, d.2.removes n = false) :
    copy n s.panels s deeds = (s.run deeds).1.panels ∧ n ∈ (s.run deeds).1.subscribers := by
  induction deeds generalizing s with
  | nil => exact ⟨rfl, hn⟩
  | cons d rest ih =>
      have hin := (h.mem_perform d.1 d.2 (h.given n hn)).mpr ⟨hn, stays d List.mem_cons_self⟩
      rw [copy_cons, h.heeded_perform d.1 d.2 hn]
      exact ih (h.perform d.1 d.2) hin (fun e he => stays e (List.mem_cons_of_mem _ he))

theorem Orderly.emitted_perform {s : Store α} (h : s.Orderly) (now : Instant) (deed : Deed α) :
    (emitted (s.perform now deed).2).length ≤ 1 ∧
    (∀ e ∈ emitted (s.perform now deed).2, e.Fits s.panels) ∧
      (deed.takes = false → s.Regular → (∀ id, (s.perform now deed).1.get? id = s.get? id) →
        emitted (s.perform now deed).2 = []) := by
  rcases perform_cases h.keyed now deed with ⟨hturn, _⟩ | ⟨rfl, hs⟩ | ⟨m, rfl, hs⟩
  · refine ⟨hturn.told.1, hturn.told.2, fun htakes regular kept => ?_⟩
    rw [htakes] at hturn
    exact hturn.untold regular kept
  · rw [hs]
    exact ⟨Nat.zero_le _, fun e he => (nomatch he), fun _ _ _ => rfl⟩
  · rw [hs]
    exact ⟨Nat.zero_le _, fun e he => (nomatch he), fun _ _ _ => rfl⟩

/-- Whatever is done with a store first, one that subscribes then has heard nothing before. It hears
from then on all that is told until it is taken out, in order. What it has made of it, starting from
the panels at that moment, are at every later moment the panels of the store; and the next event it
hears files a panel that it has not, or replaces or deletes one that it has. At every moment a deed
tells one event at most, and none if it takes no snapshot and leaves every panel as it was. -/
theorem subscribers_keep_up (before : List (Instant × Deed α)) :
    let s := ((empty : Store α).run before).1
    let n := s.subscribe.1
    heard n ((empty : Store α).run before).2 = [] ∧
    (∀ later, heard n (s.subscribe.2.run later).2 =
      emitted (s.subscribe.2.run (later.takeWhile (fun d => !d.2.removes n))).2) ∧
    (∀ done, (∀ d ∈ done, d.2.removes n = false) →
      let t := (s.subscribe.2.run done).1
      copy n s.panels s.subscribe.2 done = t.panels ∧
      ∀ now deed, ∀ e ∈ heard n (t.perform now deed).2,
        e.Fits (copy n s.panels s.subscribe.2 done)) ∧
    ∀ now deed, (emitted (s.perform now deed).2).length ≤ 1 ∧
      (deed.takes = false → s.Regular → (∀ id, (s.perform now deed).1.get? id = s.get? id) →
        emitted (s.perform now deed).2 = []) := by
  intro s n
  have hs : s.Orderly := orderly_empty.run before
  have hsub : s.subscribe.2.Orderly := hs.subscribe
  have hn : n ∈ s.subscribe.2.subscribers := List.mem_append_right _ List.mem_cons_self
  refine ⟨(orderly_empty.heard_before before (Nat.le_refl _)).2,
    fun later => hsub.heard_run later hn,
    fun done stays => ?_, fun now deed => ?_⟩
  · obtain ⟨hcopy, hstill⟩ := hsub.copy_run done hn stays
    have ht := hsub.run done
    refine ⟨hcopy, fun now deed e he => ?_⟩
    rw [ht.heard_perform, if_pos hstill] at he
    show e.Fits (copy n s.subscribe.2.panels s.subscribe.2 done)
    rw [hcopy]
    exact (ht.emitted_perform now deed).2.1 e he
  · have hdeed := hs.emitted_perform now deed
    exact ⟨hdeed.1, hdeed.2.2⟩

open SmallRun in
/-- A panel is there when somebody subscribes. It is renamed twice in the same way, the subscriber
goes, and so does the panel: the one thing that is heard is the first new name, and it makes the
panels of that moment. -/
theorem renaming_is_heard :
    let s := ((empty : Store Int).run [(clock.now, .create log "left" {})]).1
    let renamed : List (Instant × Deed Int) := [(clock.now, .update log { title := some "Log" }),
      (clock.now, .dispatch (.update log { title := some "Log" }))]
    s.Regular ∧
    (heard 1 (s.subscribe.2.run
      (renamed ++ [(clock.now, .unsubscribe 1), (clock.now, .remove log)])).2).map
      Event.panelId? = [some log] ∧
    copy 1 s.panels s.subscribe.2 renamed = (s.subscribe.2.run renamed).1.panels := by
  intro s renamed
  obtain ⟨_, hheard, hcopy, _⟩ :=
    subscribers_keep_up (α := Int) [(clock.now, .create log "left" {})]
  refine ⟨fun id p hp => ?_, ?_, (hcopy renamed (by decide)).1⟩
  · have hregular : ∀ p ∈ s.panels.values, p.position = none ∧ p.size = none := by decide
    obtain ⟨hposition, hsize⟩ := hregular p ((Catalog.mem_values_iff _ _).mpr ⟨id, hp⟩)
    rw [Panel.Regular, hposition, hsize]
    exact ⟨rfl, rfl⟩
  · have hall := hheard (renamed ++ [(clock.now, .unsubscribe 1), (clock.now, .remove log)])
    exact (congrArg (List.map Event.panelId?) hall).trans (by decide)

end Store

end PanelDock
