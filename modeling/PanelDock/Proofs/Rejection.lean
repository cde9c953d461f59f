import PanelDock.Proofs.Refinement
/-!
# A rejected command leaves everything as it was

Operations check before they act, but not all checks come first: a gesture is under way before its
window is looked up to be raised, a window is marked as shown before the stack is asked. On a
coherent coordinator the late checks cannot fail, so whatever fails has failed before anything was
done. What is left of it are lines in the journal; only a save that the backend turns down has
reached the backend.
-/

namespace PanelDock

variable {α β : Type}

/-- Whether a command is to save all panels, and does nothing else. -/
def Command.savesAll : Command α β → Bool
  | .request .saveAll => true
  | .action .saveAll => true
  | _ => false

/-- Whether a command is to restore. -/
def Command.restores : Command α β → Bool
  | .request .restore => true
  | _ => false

theorem Command.eq_of_restores {command : Command α β} (h : command.restores = true) :
    command = .request .restore := by
  cases command with
  | request k => cases k with | restore => rfl | _ => cases h
  | action a => cases h

theorem Command.restores_of_savesAll {command : Command α β} (h : command.savesAll = true) :
    command.restores = false := by
  refine Bool.eq_false_iff.mpr (fun hrestores => ?_)
  rw [eq_of_restores hrestores] at h
  cases h

namespace Coordinator

variable [Coordinate α] [Backend β α] {c : Coordinator α β}

/-- A command is rejected if its answer says so, or if there is nothing to restore. -/
def Rejects (c : Coordinator α β) (command : Command α β) : Prop :=
  (c.perform command).1.accepted = false ∨ (command.restores = true ∧ c.restorable = none)

/-- Nothing is left of what was done but lines, and maybe a save that the backend has turned down.
-/
def Untouched (saves : Bool) (c d : Coordinator α β) : Prop :=
  ∃ es, d = { c with backend := d.backend, journal := c.journal ++ es } ∧
    ∀ e ∈ es, e.isNotice = true ∨ (saves = true ∧ ∃ snapshot, e = .write snapshot false)

omit [Coordinate α] [Backend β α] in
theorem untouched_of_quiet (saves : Bool) (es : List (Effect α))
    (quiet : ∀ e ∈ es, e.isNotice = true) : Untouched saves c (c.record es) :=
  ⟨es, rfl, fun e he => Or.inl (quiet e he)⟩

omit [Coordinate α] [Backend β α] in
/-- A line before makes no difference. -/
theorem Untouched.before_note {saves : Bool} {d : Coordinator α β} {n : Notice α}
    (h : Untouched saves (c.note n) d) : Untouched saves c d := by
  obtain ⟨es, hd, hes⟩ := h
  refine ⟨.notice n :: es, ?_, ?_⟩
  · rw [hd]
    simp [note, record]
  · intro e he
    rcases List.mem_cons.mp he with rfl | he
    · exact Or.inl rfl
    · exact hes e he

omit [Coordinate α] in
/-- A save that fails is known to the backend and in the journal only. -/
theorem save_failed {occasion : Occasion} (h : (c.save occasion).1 = false) :
    Untouched true c (c.save occasion).2 := by
  rw [save] at h ⊢
  cases hb : c.backend with
  | none =>
      have hnothing := untouched_of_quiet (c := c) true [] (by simp)
      rw [record_nil] at hnothing
      exact hnothing
  | some backend =>
      rw [hb] at h
      dsimp only at h ⊢
      cases hr : (Backend.save backend (c.store.snapshot c.moment.now)).result with
      | ok done =>
          rw [hr] at h
          exact Bool.noConfusion h
      | error cause =>
          refine ⟨((Backend.save backend (c.store.snapshot c.moment.now)).notices ++
            [.write (c.store.snapshot c.moment.now) false]) ++
              [.notice (.saveFailed occasion cause)], ?_, ?_⟩
          · rw [← List.append_assoc]
            rfl
          · intro e he
            rcases List.mem_append.mp he with he | he
            · rcases List.mem_append.mp he with he | he
              · exact Or.inl (notices_quiet _ e he)
              · exact Or.inr ⟨rfl, _, List.mem_singleton.mp he⟩
            · rw [List.mem_singleton.mp he]
              exact Or.inl rfl

omit [Coordinate α] in
theorem saveAll_failed (h : c.saveAll.1 = false) : Untouched true c c.saveAll.2 := by
  rw [saveAll] at h ⊢
  cases hb : c.backend with
  | none => exact untouched_of_quiet true [.notice .nowhereToSave] (by simp [Effect.isNotice])
  | some backend =>
      rw [hb] at h
      exact save_failed h

omit [Coordinate α] [Backend β α] in
/-- Who is not subscribed is not taken out. -/
theorem unsubscribe_failed {s : Store α} {n : Nat} (h : (s.unsubscribe n).1 = false) :
    (s.unsubscribe n).2 = s := by
  have hlength : (s.subscribers.filter (· != n)).length = s.subscribers.length := by
    simpa [Store.unsubscribe] using h
  have hsame : s.subscribers.filter (· != n) = s.subscribers :=
    List.filter_eq_self.mpr (List.length_filter_eq_length_iff.mp hlength)
  rw [Store.unsubscribe]
  dsimp only
  rw [hsame]

/-- What a command that fails may have done: nothing, but that a restore has asked the backend and a
save was turned down. -/
def Spared (command : Command α β) (c d : Coordinator α β) : Prop :=
  Untouched command.savesAll c d ∧ (command.savesAll = false → d.backend =
    if command.restores then c.backend.map (fun backend => (Backend.restore backend).state)
      else c.backend)

omit [Coordinate α] in
theorem spared_of_quiet {command : Command α β} (es : List (Effect α))
    (quiet : ∀ e ∈ es, e.isNotice = true) (other : command.restores = false) :
    Spared command c (c.record es) := by
  refine ⟨untouched_of_quiet _ es quiet, fun _ => ?_⟩
  rw [other]
  rfl

omit [Coordinate α] in
theorem spared_refl {command : Command α β} (other : command.restores = false) :
    Spared command c c := by
  have h := spared_of_quiet (c := c) [] (by simp) other
  rw [record_nil] at h
  exact h

theorem request_rejected (hc : c.Coherent) {k : Request α β} (h : c.Rejects (.request k)) :
    Spared (.request k) c (c.request k).2 := by
  cases hm : k.move? c.settings c.layout with
  | some m =>
      have hother : (Command.request k).restores = false := by
        cases k with
        | restore => cases hm
        | _ => rfl
      have hanswer : (c.request k).1.accepted = false :=
        h.resolve_right (fun hr => Bool.noConfusion (hother.symm.trans hr.1))
      -- a verdict with this answer is a refusal
      have hv := request_verdict hc hm
      rw [hanswer] at hv
      generalize (c.request k).2 = d at hv
      cases hv with
      | refused es quiet stuck => exact spared_of_quiet es quiet hother
  | none =>
      cases k with
      | subscribe =>
          exact absurd h (by simp [Rejects, perform, request, Answer.accepted, Command.restores])
      | attach backend =>
          exact absurd h (by simp [Rejects, perform, request, Answer.accepted, Command.restores])
      | unsubscribe n =>
          have hfailed : (c.store.unsubscribe n).1 = false :=
            h.resolve_right (fun hr => Bool.noConfusion hr.1)
          rw [request, unsubscribe_failed hfailed]
          exact spared_refl rfl
      -- a press that hits a window is no failure, whatever comes of it
      | pointerDown pointer =>
          have hnone : (c.pointerDown pointer).1.isSome = false :=
            h.resolve_right (fun hr => Bool.noConfusion hr.1)
          rcases pointerDown_cases hc pointer with ⟨_, hr⟩ | ⟨panel, hit, r, _, _, hr⟩
          · rw [request, hr]
            exact spared_refl rfl
          · rw [hr] at hnone
            exact Bool.noConfusion hnone
      | restore =>
          rcases h with h | ⟨_, h⟩
          · exact Bool.noConfusion h
          · obtain ⟨es, quiet, hr⟩ := restore_refused h
            rw [request, hr]
            exact ⟨⟨es, rfl, fun e he => Or.inl (quiet e he)⟩, fun _ => rfl⟩
      | saveAll =>
          have hfailed : c.saveAll.1 = false := h.resolve_right (fun hr => Bool.noConfusion hr.1)
          exact ⟨saveAll_failed hfailed, fun hs => Bool.noConfusion hs⟩
      | _ => cases hm

omit [Coordinate α] in
theorem Spared.before_note {command : Command α β} {d : Coordinator α β} {n : Notice α}
    (h : Spared command (c.note n) d) : Spared command c d :=
  ⟨h.1.before_note, h.2⟩

omit [Coordinate α] in
/-- The request behind an action saves or restores if the action does. -/
theorem spared_action {a : Action α} {k : Request α β} (hk : a.request? = some k)
    {d : Coordinator α β} (h : Spared (.request k) c d) : Spared (.action a) c d := by
  cases a <;> cases hk <;> exact h

/-- **A rejected command leaves everything as it was**: records, windows, stack, gesture and
content. Nobody is told of anything, no provider is called, and the backend is not written, unless
it is a save that it turns down. -/
theorem rejected_leaves_all (hreach : Reachable c) (moment : Moment) {command : Command α β}
    (h : (c.during moment).Rejects command) :
    Spared command (c.during moment) ((c.during moment).perform command).2 := by
  have hc : (c.during moment).Coherent := hreach.coherent.aside c.content c.backend moment c.journal
  cases command with
  | request k => exact request_rejected hc h
  | action a =>
      have hanswer : ((c.during moment).execute a).1.succeeded = false :=
        h.resolve_right (fun hr => Bool.noConfusion hr.1)
      show Spared _ _ ((c.during moment).execute a).2
      rw [execute_eq] at hanswer ⊢
      cases hk : (a.request? : Option (Request α β)) with
      | none =>
          exact spared_of_quiet [.notice (.executing a.label)] (by simp [Effect.isNotice]) rfl
      | some k =>
          rw [hk] at hanswer
          have hrefused := (Answer.succeeded_attempt _).symm.trans hanswer
          refine spared_action hk (Spared.before_note (request_rejected ?_ (Or.inl hrefused)))
          exact hc.aside c.content c.backend moment _

open SmallRun in
/-- A panel in its dock cannot be docked, and the attempt leaves one line. -/
theorem dock_rejected_leaves_all : Reachable docked ∧ (docked.during clock).Rejects dockLog ∧
    ((docked.during clock).perform dockLog).2.store = docked.store ∧
    ((docked.during clock).perform dockLog).2.backend.map (·.saves) = some 0 := by
  have hr : (docked.during clock).Rejects dockLog := Or.inl (by decide)
  obtain ⟨⟨es, hd, _⟩, hbackend⟩ := rejected_leaves_all reachable_docked clock hr
  refine ⟨reachable_docked, hr, ?_, ?_⟩
  · rw [hd]
    rfl
  · rw [hbackend rfl]
    rfl

end Coordinator

end PanelDock
