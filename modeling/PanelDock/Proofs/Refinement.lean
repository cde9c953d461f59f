import PanelDock.Proofs.Commands
/-!
# A coordinator refines its layout

A command that moves panels succeeds exactly when the layout allows the move, and leads to the
layout after it. So whoever knows the layout knows what the command will answer and what can be done
next, without a look at records, windows, stack or content.
-/

namespace PanelDock

/-- No panel rests in floating, and no window leads back there. -/
def Station.Proper : Station → Prop
  | .resting placement => placement ≠ .floating
  | .floating returns _ _ => returns ≠ .floating

namespace Coordinator

variable {α β : Type} [Coordinate α]

/-- A verdict goes by the layout. -/
theorem Verdict.follows_layout [Backend β α] {c : Coordinator α β} {m : Move}
    {r : Bool × Coordinator α β} (h : Verdict c m r) (hc : c.Paired) :
    r.1 = (c.layout.step m).isSome ∧ r.2.layout = (c.layout.step m).getD c.layout := by
  cases h with
  | refused es quiet stuck =>
      rw [stuck]
      exact ⟨rfl, rfl⟩
  | done h booked =>
      rw [h.layout_step hc]
      exact ⟨rfl, rfl⟩

/-- The layout of a coherent coordinator has no improper station. -/
theorem Paired.proper {c : Coordinator α β} (hc : c.Paired) {id : PanelId} {station : Station}
    (h : c.layout.station id = some station) : station.Proper := by
  rcases hc.whereabouts id with ⟨_, hp⟩ | ⟨p, _, hp, _, rests⟩ | ⟨w, p, hw, hp, _, _, same⟩
  · rw [show c.layout.station id = none from station_of_none hp] at h
    exact absurd h (by simp)
  · rw [show c.layout.station id = _ from station_of_resting hp rests] at h
    rw [← Option.some.inj h]
    exact rests
  · rw [show c.layout.station id = _ from station_of_window hw hp same.placement] at h
    rw [← Option.some.inj h]
    exact same.returns

variable [Backend β α] {c : Coordinator α β}

/-- A command for a move gets the verdict on that move, maybe after a line. -/
theorem perform_verdict (hc : c.Coherent) {command : Command α β} {m : Move}
    (hm : command.move? c.settings c.layout = some m) :
    ∃ es, Verdict (c.record es) (m.shutIf (c.overfills command))
      ((c.perform command).1.accepted, (c.perform command).2) := by
  cases command with
  | request k =>
      refine ⟨[], ?_⟩
      rw [record_nil]
      exact request_verdict hc hm
  | action a =>
      refine ⟨[.notice (.executing a.label)], ?_⟩
      rw [Command.move?, Option.bind_eq_some_iff] at hm
      obtain ⟨k, hk, hm⟩ := hm
      have hv := request_verdict (hc.aside c.content c.backend c.moment
        (c.journal ++ [.notice (.executing a.label)])) hm
      show Verdict _ _ ((c.execute a).1.succeeded, (c.execute a).2)
      rw [execute_eq, hk, overfills, Command.home?, hk, Option.bind_some]
      dsimp only [Prod.map]
      rw [Answer.succeeded_attempt]
      exact hv

/-! ## Where the program breaks off -/

omit [Coordinate α] [Backend β α] in
/-- To introduce a panel breaks the program off exactly if nothing is wrong but that its dock is
full. -/
theorem registerPanel_eq_brokenOff_iff (c : Coordinator α β) (id : PanelId) (title dock : String)
    (source : Option Source) : (c.registerPanel id title dock source).1 = .brokenOff ↔
      (c.layout.step (.register id (Text.isBlankText dock))).isSome = true ∧
        c.store.isFull dock = true := by
  unfold registerPanel
  have hcreate := c.store.creation c.moment.now id dock (.titled title)
  generalize c.store.create c.moment.now id dock (.titled title) = o at hcreate ⊢
  cases hcreate with
  | refused n why =>
      have hstuck : c.layout.step (.register id (Text.isBlankText dock)) = none := by
        rcases why with hblank | hknown
        · simp [Layout.step, hblank]
        · obtain ⟨p, hp⟩ := Option.ne_none_iff_exists'.mp hknown
          have hst : c.layout.station id ≠ none := station_ne_none hp
          simp [Layout.step, hst]
      simp [hstuck]
  | brokenOff quiet named new unordered full =>
      have hst : c.layout.station id = none := station_of_none new
      simp [Layout.step, hst, named, Store.isFull, full]
  | @done es order quiet named new behind =>
      have horder : c.store.nextOrder? dock = some order := behind
      cases source <;> simp [Store.isFull, horder]

/-- A command for a move breaks the program off exactly if its move is allowed but for a dock that
is full. -/
theorem perform_breaksOff_iff (c : Coordinator α β) {command : Command α β} {m : Move}
    (hm : command.move? c.settings c.layout = some m) :
    (c.perform command).1.breaksOff = true ↔
      (c.layout.step m).isSome = true ∧ c.overfills command = true := by
  have hrequest : ∀ {k : Request α β} {d : Coordinator α β}, k.move? d.settings d.layout = some m →
      ((d.request k).1.breaksOff = true ↔
        (d.layout.step m).isSome = true ∧ d.overfills (.request k) = true) := by
    intro k d hk
    cases k with
    | registerPanel id title dock source =>
        cases hk
        exact beq_iff_eq.trans (registerPanel_eq_brokenOff_iff d id title dock source)
    | _ => exact iff_of_false Bool.false_ne_true (fun h => Bool.false_ne_true h.2)
  cases command with
  | request k => exact hrequest hm
  | action a =>
      rw [Command.move?, Option.bind_eq_some_iff] at hm
      obtain ⟨k, hk, hm⟩ := hm
      show ((c.execute a).1 == .brokenOff) = true ↔ _
      rw [beq_iff_eq, execute_eq, hk, overfills, Command.home?, hk, Option.bind_some]
      exact (Answer.attempt_eq_brokenOff_iff _).trans
        (hrequest (d := c.note (.executing a.label)) hm)

/-- A command makes a move: it is for that move and says that it is done. A press only tells what
was hit; it makes the move of that part if the layout allows the move. -/
def Makes (c : Coordinator α β) (command : Command α β) (m : Move) : Prop :=
  (command.move? c.settings c.layout = some m ∧ (c.perform command).1.accepted = true) ∨
  (c.asked command = some m ∧ (c.layout.step m).isSome = true)

/-- Behind a command that makes a move is the change of that move. -/
theorem Makes.change (hc : c.Coherent) {command : Command α β} {m : Move} (h : c.Makes command m) :
    ∃ es, Change (c.record es) m (c.perform command).2 := by
  have hmove : c.asked command = some m ∧ (c.layout.step m).isSome = true := by
    rcases h with ⟨hm, haccepted⟩ | h
    · obtain ⟨es, hv⟩ := perform_verdict hc hm
      have hallowed : (c.layout.step (m.shutIf (c.overfills command))).isSome = true :=
        (hv.follows_layout hc.paired).1.symm.trans haccepted
      have hsame : m.shutIf (c.overfills command) = m := Layout.shutIf_eq_of_step hallowed
      have hasked := asked_of_move? command hm
      rw [hsame] at hallowed hasked
      exact ⟨hasked, hallowed⟩
    · exact h
  obtain ⟨hasked, hallowed⟩ := hmove
  have ha := perform_aftermath hc command
  generalize (c.perform command).2 = d at ha ⊢
  cases ha with
  | aside stuck spent subscribers nextSubscriber journal =>
      rw [stuck m hasked] at hallowed
      exact Bool.noConfusion hallowed
  | changed asks es hch booked => exact ⟨es, Option.some.inj (asks.symm.trans hasked) ▸ hch⟩
  | restored asks hsnapshot => exact absurd asks (backendBy_of_asked hasked).2

/-- **Commands follow the layout until the program breaks off.** A command for a move, whatever has
been done before, breaks the program off exactly if the layout allows the move but a new panel is to
go into a dock where another has the greatest order there is. If it does not, it reports success
exactly if the layout allows the move, and the layout afterwards is the one that the move leads to.
-/
theorem perform_follows_layout (h : Reachable c) (moment : Moment) {command : Command α β}
    {m : Move} (hm : command.move? c.settings c.layout = some m) :
    let r := (c.during moment).perform command
    (r.1.breaksOff = true ↔ (c.layout.step m).isSome = true ∧
      ∃ home id p, command.home? = some home ∧ c.store.get? id = some p ∧ p.dock = home ∧
        p.order.toNat + 1 = UInt32.size) ∧
    (r.1.breaksOff = false →
      r.1.accepted = (c.layout.step m).isSome ∧ r.2.layout = (c.layout.step m).getD c.layout ∧
      ∀ id station, r.2.layout.station id = some station → station.Proper) := by
  intro r
  have hc : (c.during moment).Coherent := h.coherent.aside c.content c.backend moment c.journal
  have hbreaks : r.1.breaksOff = true ↔ (c.layout.step m).isSome = true ∧
      c.overfills command = true :=
    perform_breaksOff_iff (c.during moment) hm
  refine ⟨?_, fun hsurvives => ?_⟩
  · rw [hbreaks, overfills, Option.any_eq_true]
    simp only [Store.isFull_iff, Store.hasNext_eq_false_iff]
    constructor
    · rintro ⟨hallowed, home, hhome, id, p, hp, hdock, hgreatest⟩
      exact ⟨hallowed, home, id, p, hhome, hp, hdock, hgreatest⟩
    · rintro ⟨hallowed, home, id, p, hhome, hp, hdock, hgreatest⟩
      exact ⟨hallowed, home, hhome, id, p, hp, hdock, hgreatest⟩
  · obtain ⟨es, hv⟩ := perform_verdict hc hm
    -- with nothing to break the program off, a full dock makes no difference to the move
    have hstep : c.layout.step (m.shutIf (c.overfills command)) = c.layout.step m := by
      cases hfull : c.overfills command with
      | false => rw [Move.shutIf_false]
      | true =>
          have hstuck : c.layout.step m = none := by
            rw [← Option.not_isSome_iff_eq_none]
            intro hallowed
            rw [hbreaks.mpr ⟨hallowed, hfull⟩] at hsurvives
            cases hsurvives
          cases hshut : c.layout.step (m.shutIf true) with
          | none => exact hstuck.symm
          | some l =>
              have hsame : m.shutIf true = m := Layout.shutIf_eq_of_step (by rw [hshut]; rfl)
              rw [← hshut, hsame]
    obtain ⟨hanswer, hlayout⟩ := hv.follows_layout hc.paired
    refine ⟨hanswer.trans (congrArg _ hstep), hlayout.trans (congrArg (Option.getD · _) hstep), ?_⟩
    intro id station hst
    exact (h.step moment command).coherent.paired.proper hst

open SmallRun in
/-- The one panel of the small run flies out, to return to its dock. -/
theorem flyOut_follows_layout : Reachable docked ∧
    flyOutLog.move? docked.settings docked.layout = some (.flyOut log true) ∧
    ((docked.during clock).perform flyOutLog).1.breaksOff = false ∧
    ((docked.during clock).perform flyOutLog).1.accepted = true ∧
    ((docked.during clock).perform flyOutLog).2.layout.station log =
      some (.floating .docked true true) := by
  have hm : flyOutLog.move? docked.settings docked.layout = some (.flyOut log true) := rfl
  have hsurvives : ((docked.during clock).perform flyOutLog).1.breaksOff = false := rfl
  obtain ⟨_, hfollows⟩ := perform_follows_layout reachable_docked clock hm
  obtain ⟨hanswer, hlayout, _⟩ := hfollows hsurvives
  refine ⟨reachable_docked, hm, hsurvives, ?_, ?_⟩
  · rw [hanswer]
    decide
  · rw [hlayout]
    decide

end Coordinator

namespace SmallRun

/-- A panel that was saved at the greatest order that there is. -/
def lastInLine : Panel Int := Store.newPanel clock.now chart "left" 4294967295 (.titled "Chart")

/-- The saved panel is restored. -/
def crowded : Coordinator Int (Memory Int) :=
  let saved : Snapshot Int := { version := 1, savedAt := clock.now, panels := [lastInLine] }
  (((Coordinator.ofSettings .standard (some { snapshot := some saved }) clock).during clock).perform
    (.request .restore)).2

theorem reachable_crowded : Coordinator.Reachable crowded := .step (.start _ _ _) _ _

end SmallRun

open SmallRun in
/-- The layout allows a second panel in the dock, but there is no order behind that of the first. -/
theorem Coordinator.registerLog_breaks_off : Reachable crowded ∧
    registerLog.move? crowded.settings crowded.layout = some (.register log false) ∧
    (crowded.layout.step (.register log false)).isSome = true ∧
    ((crowded.during clock).perform registerLog).1.breaksOff = true ∧
    ((crowded.during clock).perform registerLog).1.accepted = false := by
  refine ⟨reachable_crowded, rfl, ?_, ?_, ?_⟩
  · decide +kernel
  · decide +kernel
  · decide +kernel

end PanelDock
