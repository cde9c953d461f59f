import PanelDock.Proofs.Restoring
import PanelDock.Proofs.Verdicts
/-!
# Commands and runs

All that a host can do with a coordinator, as data: it requests an operation or has an action
carried out. `Coordinator.perform` does it, and a coordinator is `Reachable` if commands lead to it,
each at a moment of its own.

An action is nothing but a request with a line before it, so it is enough to look at requests.
-/

namespace PanelDock

variable {α β : Type}

/-- A request for an operation. -/
inductive Request (α β : Type) where
  | subscribe
  | unsubscribe (subscriber : Nat)
  | attach (backend : β)
  | registerPanel (id : PanelId) (title dock : String) (source : Option Source)
  | setContent (id : PanelId) (source : Source)
  | flyOut (id : PanelId) (options : FlyoutOptions α)
  | tryFlyOut (id : PanelId) (options : FlyoutOptions α)
  | dock (id : PanelId)
  | tryDock (id : PanelId)
  | closeFlyout (id : PanelId)
  | tryCloseFlyout (id : PanelId)
  | showFlyout (id : PanelId)
  | tryShowFlyout (id : PanelId)
  | focusFlyout (id : PanelId)
  | tryFocusFlyout (id : PanelId)
  | toggleFlyout (id : PanelId)
  | hidePanel (id : PanelId)
  | showPanel (id : PanelId)
  | destroyPanel (id : PanelId)
  | beginDrag (id : PanelId) (pointer : Pointer α)
  | beginResize (id : PanelId) (pointer : Pointer α)
  | pointerDown (pointer : Pointer α)
  | pointerMove (pointer : Pointer α)
  | pointerUp (pointer : Pointer α)
  | restore
  | saveAll

/-- A request, or an action to be carried out. -/
inductive Command (α β : Type) where
  | request (k : Request α β)
  | action (a : Action α)

/-- What an operation answers. -/
inductive Answer (α : Type) where
  | none
  | count (n : Nat)
  | flag (done : Bool)
  | attempted (a : Attempt)
  | tried (result : Except Refusal Unit)
  | raised (result : Except Refusal Int)
  | reached (update : Option (GeometryUpdate α))
  | pressed (target : Option (PanelId × Hit))

/-- Whether the answer reports no failure. -/
def Answer.accepted : Answer α → Bool
  | .none => true
  | .count _ => true
  | .flag done => done
  | .attempted a => a.succeeded
  | .tried result => result.isOk
  | .raised result => result.isOk
  | .reached update => update.isSome
  | .pressed target => target.isSome

/-- Whether the program breaks off instead of answering. -/
def Answer.breaksOff : Answer α → Bool
  | .attempted a => a == .brokenOff
  | _ => false

/-- What an answer says as the answer of an action. -/
def Answer.attempt : Answer α → Attempt
  | .attempted a => a
  | answer => .of answer.accepted

theorem Answer.succeeded_attempt (answer : Answer α) :
    answer.attempt.succeeded = answer.accepted := by
  cases answer with
  | attempted a => rfl
  | _ => exact Attempt.succeeded_of _

theorem Answer.attempt_eq_brokenOff_iff (answer : Answer α) :
    answer.attempt = .brokenOff ↔ answer.breaksOff = true := by
  cases answer with
  | attempted a => exact beq_iff_eq.symm
  | _ => exact iff_of_false (Attempt.of_ne_brokenOff _) Bool.false_ne_true

/-- An answer with the state that comes with it. -/
def Answer.of {ρ σ : Type} (answer : ρ → Answer α) (r : ρ × σ) : Answer α × σ := (answer r.1, r.2)

/-- The request that carries out an action. -/
def Action.request? : Action α → Option (Request α β)
  | .registerPanel id title home content =>
      some (.registerPanel id title home (content.map .static))
  | .destroyPanel id => some (.destroyPanel id)
  | .flyOut id position size => some (.flyOut id { position, size })
  | .dock id => some (.dock id)
  | .toggleFlyout id => some (.toggleFlyout id)
  | .closeFlyout id => some (.closeFlyout id)
  | .showFlyout id => some (.showFlyout id)
  | .focusFlyout id => some (.focusFlyout id)
  | .hidePanel id => some (.hidePanel id)
  | .showPanel id => some (.showPanel id)
  | .beginDrag id origin => some (.beginDrag id (Coordinator.firstPointer origin))
  | .beginResize id origin => some (.beginResize id (Coordinator.firstPointer origin))
  | .pointerMove position => some (.pointerMove (Coordinator.firstPointer position))
  | .pointerUp position => some (.pointerUp (Coordinator.firstPointer position))
  | .saveAll => some .saveAll
  | .none => Option.none

namespace Coordinator

variable [Coordinate α] [Backend β α]

/-- Does what is requested. -/
def request (c : Coordinator α β) : Request α β → Answer α × Coordinator α β
  | .subscribe => (.count c.store.subscribe.1, { c with store := c.store.subscribe.2 })
  | .unsubscribe n =>
      (.flag (c.store.unsubscribe n).1, { c with store := (c.store.unsubscribe n).2 })
  | .attach backend => (.none, { c with backend := some backend })
  | .registerPanel id title dock source =>
      Answer.of .attempted (c.registerPanel id title dock source)
  | .setContent id source => Answer.of .flag (c.setContent id source)
  | .flyOut id options => Answer.of .flag (c.flyOut id options)
  | .tryFlyOut id options => Answer.of .raised (c.tryFlyOut id options)
  | .dock id => Answer.of .flag (c.dock id)
  | .tryDock id => Answer.of .tried (c.tryDock id)
  | .closeFlyout id => Answer.of .flag (c.closeFlyout id)
  | .tryCloseFlyout id => Answer.of .tried (c.tryCloseFlyout id)
  | .showFlyout id => Answer.of .flag (c.showFlyout id)
  | .tryShowFlyout id => Answer.of .tried (c.tryShowFlyout id)
  | .focusFlyout id => Answer.of .flag (c.focusFlyout id)
  | .tryFocusFlyout id => Answer.of .raised (c.tryFocusFlyout id)
  | .toggleFlyout id => Answer.of .flag (c.toggleFlyout id)
  | .hidePanel id => Answer.of .flag (c.hidePanel id)
  | .showPanel id => Answer.of .flag (c.showPanel id)
  | .destroyPanel id => Answer.of .flag (c.destroyPanel id)
  | .beginDrag id pointer => Answer.of .flag (c.beginDrag id pointer)
  | .beginResize id pointer => Answer.of .flag (c.beginResize id pointer)
  | .pointerDown pointer => Answer.of .pressed (c.pointerDown pointer)
  | .pointerMove pointer => Answer.of .reached (c.pointerMove pointer)
  | .pointerUp pointer => Answer.of .reached (c.pointerUp pointer)
  | .restore => Answer.of .count c.restore
  | .saveAll => Answer.of .flag c.saveAll

/-- Does what is commanded. -/
def perform (c : Coordinator α β) : Command α β → Answer α × Coordinator α β
  | .request k => c.request k
  | .action a => Answer.of .attempted (c.execute a)

/-- The coordinator at another moment. -/
def during (c : Coordinator α β) (moment : Moment) : Coordinator α β := { c with moment }

omit [Backend β α] in
theorem Coherent.during {c : Coordinator α β} (h : c.Coherent) (moment : Moment) :
    (c.during moment).Coherent := h.aside c.content c.backend moment c.journal

/-- An action is its request, with a line before it. -/
theorem execute_eq (c : Coordinator α β) (a : Action α) :
    c.execute a = match a.request? with
      | none => (.refused, c.note (.executing a.label))
      | some k => ((c.note (.executing a.label)).request k).map Answer.attempt (fun d => d) := by
  cases a <;> rfl

/-! ## Requests that move panels -/

end Coordinator

/-- The move that a request asks for; whether a panel is toggled out or in depends on where it is.
-/
def Request.move? (settings : FlyoutSettings α) (l : Layout) [Coordinate α] :
    Request α β → Option Move
  | .registerPanel id _ home _ => some (.register id (Text.isBlankText home))
  | .setContent id _ => some (.refill id)
  | .flyOut id options | .tryFlyOut id options =>
    some (.flyOut id (options.resizeHandle.getD settings.resizeHandle))
  | .dock id | .tryDock id => some (.dock id)
  | .closeFlyout id | .tryCloseFlyout id => some (.close id)
  | .showFlyout id | .tryShowFlyout id => some (.reveal id)
  | .focusFlyout id | .tryFocusFlyout id => some (.focus id)
  | .toggleFlyout id =>
    some (if (l.station id).any Station.floats then .dock id else .flyOut id settings.resizeHandle)
  | .hidePanel id => some (.hide id)
  | .showPanel id => some (.unhide id)
  | .destroyPanel id => some (.destroy id)
  | .beginDrag id pointer => some (.grab id .drag pointer.number pointer.position.isFinite)
  | .beginResize id pointer => some (.grab id .resize pointer.number pointer.position.isFinite)
  | .pointerMove pointer => some (.sample pointer.number pointer.position.isFinite false)
  | .pointerUp pointer => some (.sample pointer.number pointer.position.isFinite true)
  | .subscribe | .unsubscribe _ | .attach _ | .pointerDown _ | .restore | .saveAll => none

/-- The dock that is to take a new panel, if a request introduces one. -/
def Request.home? : Request α β → Option String
  | .registerPanel _ _ home _ => some home
  | _ => none

/-- The move that a command asks for. -/
def Command.move? [Coordinate α] (settings : FlyoutSettings α) (l : Layout) :
    Command α β → Option Move
  | .request k => k.move? settings l
  | .action a => (a.request? : Option (Request α β)).bind (·.move? settings l)

/-- The dock that is to take a new panel, if a command introduces one. -/
def Command.home? : Command α β → Option String
  | .request k => k.home?
  | .action a => (a.request? : Option (Request α β)).bind Request.home?

/-- The move that pressing the pointer on a part of a window asks for. -/
def Hit.move (panel : PanelId) (pointer : Pointer α) [Coordinate α] : Hit → Move
  | .titleBar => .grab panel .drag pointer.number pointer.position.isFinite
  | .resizeHandle => .grab panel .resize pointer.number pointer.position.isFinite
  | .dockButton => .dock panel
  | .closeButton => .close panel
  | .content => .focus panel

namespace Coordinator

section Asking

variable [Coordinate α]

/-- A new panel is to be put into a dock that is full. -/
def overfills (c : Coordinator α β) (command : Command α β) : Bool :=
  command.home?.any c.store.isFull

/-- The move that a command comes down to. A press makes the move of what it hits, and a dock that
is full is as good as shut. -/
def asked (c : Coordinator α β) : Command α β → Option Move
  | .request (.pointerDown pointer) =>
    (topmost? (c.candidates pointer.position)).map (fun top => top.hit.move top.panel pointer)
  | command => (command.move? c.settings c.layout).map (·.shutIf (c.overfills command))

theorem asked_of_move? {c : Coordinator α β} (command : Command α β) {m : Move}
    (hm : command.move? c.settings c.layout = some m) :
    c.asked command = some (m.shutIf (c.overfills command)) := by
  cases command with
  | request k =>
      cases k with
      | pointerDown pointer => cases hm
      | _ => exact congrArg (Option.map _) hm
  | action a => exact congrArg (Option.map _) hm

/-- An action comes down to what its request comes down to. -/
theorem asked_action {c : Coordinator α β} {a : Action α} {k : Request α β}
    (hk : a.request? = some k) : c.asked (.action a) = c.asked (.request k) := by
  cases a <;> cases hk <;> rfl

end Asking

variable [Coordinate α] [Backend β α] {c : Coordinator α β}

/-- A request for a move gets the verdict on that move. -/
theorem request_verdict (hc : c.Coherent) {k : Request α β} {m : Move}
    (hm : k.move? c.settings c.layout = some m) :
    Verdict c (m.shutIf (c.overfills (.request k)))
      ((c.request k).1.accepted, (c.request k).2) := by
  cases k with
  | registerPanel id title dock source => cases hm; exact registerPanel_verdict id title dock source
  | setContent id source => cases hm; exact setContent_verdict hc id source
  | flyOut id options => cases hm; exact Verdict.settle .flyOut (tryFlyOut_verdict hc id options)
  | tryFlyOut id options => cases hm; exact tryFlyOut_verdict hc id options
  | dock id => cases hm; exact Verdict.settle .dock (tryDock_verdict hc id)
  | tryDock id => cases hm; exact tryDock_verdict hc id
  | closeFlyout id => cases hm; exact Verdict.settle .closeFlyout (tryCloseFlyout_verdict hc id)
  | tryCloseFlyout id => cases hm; exact tryCloseFlyout_verdict hc id
  | showFlyout id => cases hm; exact Verdict.settle .showFlyout (tryShowFlyout_verdict hc id)
  | tryShowFlyout id => cases hm; exact tryShowFlyout_verdict hc id
  | focusFlyout id => cases hm; exact Verdict.settle .focusFlyout (tryFocusFlyout_verdict hc id)
  | tryFocusFlyout id => cases hm; exact tryFocusFlyout_verdict hc id
  | toggleFlyout id =>
      cases hm
      rw [show c.overfills (.request (.toggleFlyout id)) = false from rfl, Move.shutIf_false]
      exact toggleFlyout_verdict hc id
  | hidePanel id => cases hm; exact hidePanel_verdict hc id
  | showPanel id => cases hm; exact showPanel_verdict hc id
  | destroyPanel id => cases hm; exact destroyPanel_verdict id
  | beginDrag id pointer =>
      cases hm; exact Verdict.settle .beginDrag (tryBegin_verdict hc id pointer .drag)
  | beginResize id pointer =>
      cases hm; exact Verdict.settle .beginResize (tryBegin_verdict hc id pointer .resize)
  | pointerMove pointer => cases hm; exact pointerMove_verdict hc pointer
  | pointerUp pointer => cases hm; exact pointerUp_verdict hc pointer
  | subscribe => cases hm
  | unsubscribe n => cases hm
  | attach backend => cases hm
  | pointerDown pointer => cases hm
  | restore => cases hm
  | saveAll => cases hm

/-- What is pressed is none of the windows, or a part of one; then the move of that part is tried.
-/
theorem pointerDown_cases (hc : c.Coherent) (pointer : Pointer α) :
    (c.asked (.request (.pointerDown pointer)) = none ∧ c.pointerDown pointer = (none, c)) ∨
    ∃ panel hit r, c.asked (.request (.pointerDown pointer)) = some (hit.move panel pointer) ∧
      Verdict (c.note (.pressed panel hit)) (hit.move panel pointer) r ∧
      c.pointerDown pointer = (some (panel, hit), r.2) := by
  rw [asked, pointerDown]
  split
  · rename_i hnone
    rw [hnone]
    exact Or.inl ⟨rfl, rfl⟩
  · rename_i zIndex panel hit htop
    rw [htop]
    refine Or.inr ⟨panel, hit, ?_⟩
    have hnoted : (c.note (.pressed panel hit)).Coherent := hc.aside c.content c.backend c.moment _
    cases hit with
    | titleBar =>
        exact ⟨_, rfl, Verdict.settle .beginDrag (tryBegin_verdict hnoted panel pointer .drag), rfl⟩
    | resizeHandle =>
        exact ⟨_, rfl, Verdict.settle .beginResize
          (tryBegin_verdict hnoted panel pointer .resize), rfl⟩
    | dockButton => exact ⟨_, rfl, Verdict.settle .dock (tryDock_verdict hnoted panel), rfl⟩
    | closeButton =>
        exact ⟨_, rfl, Verdict.settle .closeFlyout (tryCloseFlyout_verdict hnoted panel), rfl⟩
    | content =>
        exact ⟨_, rfl, Verdict.settle .focusFlyout (tryFocusFlyout_verdict hnoted panel), rfl⟩

/-! ## What a command leaves behind -/

/-- The backend after a command that moves no panel. -/
def backendBy (c : Coordinator α β) : Command α β → Option β
  | .request (.attach backend) => some backend
  | .request .restore => c.backend.map (fun backend => (Backend.restore backend).state)
  | .request .saveAll | .action .saveAll => filed c.backend (c.store.snapshot c.moment.now)
  | _ => c.backend

/-- What a coordinator may have become when a command is done. -/
inductive Aftermath (c : Coordinator α β) (command : Command α β) : Coordinator α β → Prop where
  | aside (stuck : ∀ m, c.asked command = some m → c.layout.step m = none)
      (spent : command = .request .restore → c.restorable = none)
        (subscribers nextSubscriber journal) :
      Aftermath c command
        { c with
          store := { c.store with subscribers, nextSubscriber }
          backend := c.backendBy command
          journal }
  | changed {d : Coordinator α β} {m : Move} (asks : c.asked command = some m)
      (es : List (Effect α))
      (h : Change (c.record es) m d) (booked : Booked c m d) : Aftermath c command d
  | restored {snapshot : Snapshot α} (asks : command = .request .restore)
      (h : c.restorable = some snapshot) : Aftermath c command c.restore.2

/-- A command for a move deals with the backend only as the move does. -/
theorem backendBy_of_asked {command : Command α β} {m : Move} (h : c.asked command = some m) :
    c.backendBy command = c.backend ∧ command ≠ .request .restore := by
  cases command with
  | request k =>
      cases k with
      | subscribe => cases h
      | unsubscribe n => cases h
      | attach backend => cases h
      | restore => cases h
      | saveAll => cases h
      | _ => exact ⟨rfl, fun he => by cases he⟩
  | action a =>
      cases a with
      | saveAll => cases h
      | _ => exact ⟨rfl, fun he => by cases he⟩

/-- An operation with a verdict makes its change or adds lines, maybe after some lines before it. -/
theorem Verdict.aftermath {command : Command α β} {m : Move} {r : Bool × Coordinator α β}
    (es : List (Effect α)) (h : Verdict (c.record es) m r) (asks : c.asked command = some m) :
    Aftermath c command r.2 := by
  cases h with
  | refused fs quiet stuck =>
      obtain ⟨hbackend, hother⟩ := backendBy_of_asked asks
      have haside : Aftermath c command _ := Aftermath.aside
        (fun m' hm' => Option.some.inj (asks.symm.trans hm') ▸ stuck) (fun he => absurd he hother)
        c.store.subscribers c.store.nextSubscriber ((c.journal ++ es) ++ fs)
      rw [hbackend] at haside
      exact haside
  | done h booked => exact Aftermath.changed asks es h booked

omit [Coordinate α] in
/-- Saving, whether it works or not, is aside. -/
theorem saveAll_eq (c : Coordinator α β) :
    ∃ journal, c.saveAll.2 =
      { c with backend := filed c.backend (c.store.snapshot c.moment.now), journal } := by
  rw [saveAll]
  split
  · rename_i hb
    rw [hb]
    exact ⟨_, congrArg (fun backend => { c.note .nowhereToSave with backend }) hb⟩
  · obtain ⟨backend, journal, hs⟩ := save_eq c .saveAll
    have hbackend := save_backend c .saveAll
    rw [hs] at hbackend ⊢
    obtain rfl : backend = _ := hbackend
    exact ⟨journal, rfl⟩

/-- A request changes a panel, restores, or only does things aside. -/
theorem request_aftermath (hc : c.Coherent) (k : Request α β) :
    Aftermath c (.request k) (c.request k).2 := by
  cases hm : k.move? c.settings c.layout with
  | some m =>
      have hv : Verdict (c.record []) (m.shutIf (c.overfills (.request k)))
          ((c.request k).1.accepted, (c.request k).2) := by
        rw [record_nil]
        exact request_verdict hc hm
      exact hv.aftermath [] (asked_of_move? (.request k) hm)
  | none =>
      -- what moves no panel: who listens, which backend there is, a press, the saved panels
      cases k with
      | subscribe =>
          exact Aftermath.aside (fun m h => by cases h) (fun h => by cases h) _ _ c.journal
      | unsubscribe n =>
          exact Aftermath.aside (fun m h => by cases h) (fun h => by cases h) _ _ c.journal
      | attach backend =>
          exact Aftermath.aside (fun m h => by cases h)
            (fun h => by cases h) c.store.subscribers c.store.nextSubscriber c.journal
      | pointerDown pointer =>
          rcases pointerDown_cases hc pointer with ⟨hnone, hr⟩ | ⟨panel, hit, r, hasked, hv, hr⟩
          · rw [request, hr]
            exact Aftermath.aside
              (fun m h => absurd (hnone.symm.trans h) (by simp)) (fun h => by cases h)
              c.store.subscribers c.store.nextSubscriber c.journal
          · rw [request, hr]
            exact hv.aftermath [.notice (.pressed panel hit)] hasked
      | restore =>
          rw [request]
          cases hrestore : c.restorable with
          | none =>
              obtain ⟨es, _, hr⟩ := restore_refused hrestore
              rw [hr]
              exact Aftermath.aside (fun m h => by cases h)
                (fun _ => hrestore) c.store.subscribers c.store.nextSubscriber _
          | some snapshot => exact Aftermath.restored rfl hrestore
      | saveAll =>
          obtain ⟨journal, hs⟩ := saveAll_eq c
          show Aftermath c _ c.saveAll.2
          rw [hs]
          exact Aftermath.aside (fun m h => by cases h)
            (fun h => by cases h) c.store.subscribers c.store.nextSubscriber journal
      | _ => cases hm

/-- What a request leaves behind is left behind by an action that comes down to it. -/
theorem Aftermath.of_request {d : Coordinator α β} {n : Notice α} {a : Action α} {k : Request α β}
    (hk : a.request? = some k) (h : Aftermath (c.note n) (.request k) d) :
    Aftermath c (.action a) d := by
  have hasked : (c.note n).asked (.request k) = c.asked (.action a) := (asked_action hk).symm
  cases h with
  | aside stuck spent subscribers nextSubscriber journal =>
      have hbackend : (c.note n).backendBy (.request k) = c.backendBy (.action a) := by
        cases a <;> cases hk <;> rfl
      rw [hbackend]
      rw [hasked] at stuck
      exact Aftermath.aside stuck (fun he => by cases he) subscribers
        nextSubscriber journal
  | changed asks es h booked =>
      rw [hasked] at asks
      rw [note, record_record] at h
      exact Aftermath.changed asks _ h booked
  | restored asks h => cases a <;> cases hk <;> cases asks

/-- A command changes a panel, restores, or only does things aside. -/
theorem perform_aftermath (hc : c.Coherent) (command : Command α β) :
    Aftermath c command (c.perform command).2 := by
  cases command with
  | request k => exact request_aftermath hc k
  | action a =>
      show Aftermath c _ (c.execute a).2
      rw [execute_eq]
      cases hk : (a.request? : Option (Request α β)) with
      | none =>
          cases a with
          | none =>
              exact Aftermath.aside (fun m h => by cases h)
                (fun h => by cases h) c.store.subscribers c.store.nextSubscriber _
          | _ => cases hk
      | some k =>
          have hnoted : (c.note (.executing a.label)).Coherent :=
            hc.aside c.content c.backend c.moment _
          exact (request_aftermath hnoted k).of_request hk

/-! ## Runs -/

/-- What commands lead to, from any settings and any backend. -/
inductive Reachable : Coordinator α β → Prop where
  | start (settings : Settings α) (backend : Option β) (moment : Moment) :
      Reachable (ofSettings settings backend moment)
  | step {c : Coordinator α β} (h : Reachable c) (moment : Moment) (command : Command α β) :
      Reachable ((c.during moment).perform command).2

end Coordinator

/-! ## A small run -/

/-- Exact coordinates, on which a run can be followed by hand. -/
instance : Coordinate Int where
  ofNat n := n
  isFinite _ := true
  decidableLT := inferInstance
  decidableLE := inferInstance

namespace SmallRun

open Coordinator

def clock : Moment where
  now := ⟨⟨2026, 1, 2⟩, ⟨3, 4, 5, 6⟩, by decide, by decide⟩
  token := 7

def log : PanelId := ⟨"log"⟩

def registerLog : Command Int (Memory Int) := .request (.registerPanel log "Log" "left" none)

def flyOutLog : Command Int (Memory Int) := .request (.flyOut log {})

def focusLog : Command Int (Memory Int) := .request (.focusFlyout log)

def dockLog : Command Int (Memory Int) := .request (.dock log)

def chart : PanelId := ⟨"chart"⟩

def registerChart : Command Int (Memory Int) := .request (.registerPanel chart "Chart" "left" none)

def flyOutChart : Command Int (Memory Int) := .request (.flyOut chart {})

/-- One panel in its dock. -/
def docked : Coordinator Int (Memory Int) :=
  (((ofSettings .standard (some {}) clock).during clock).perform registerLog).2

/-- The panel in a window. -/
def afloat : Coordinator Int (Memory Int) := ((docked.during clock).perform flyOutLog).2

/-- A second panel in a window, above the first. -/
def sideBySide : Coordinator Int (Memory Int) :=
  ((((afloat.during clock).perform registerChart).2.during clock).perform flyOutChart).2

/-- The pointer of this number at this place. -/
def pointerAt (number : Nat) (x y : Int) : Pointer Int := { position := { x, y }, number }

/-- The first panel while its window is dragged. -/
def dragging : Coordinator Int (Memory Int) :=
  ((afloat.during clock).perform (.request (.beginDrag log (pointerAt 0 130 90)))).2

theorem reachable_docked : Reachable docked := .step (.start _ _ _) _ _

theorem reachable_afloat : Reachable afloat := .step reachable_docked _ _

theorem reachable_dragging : Reachable dragging := .step reachable_afloat _ _

theorem reachable_sideBySide : Reachable sideBySide := .step (.step reachable_afloat _ _) _ _

end SmallRun

/-! ## What every run keeps -/

namespace Coordinator

variable [Coordinate α] [Backend β α] {c : Coordinator α β}

/-- What is done aside keeps a coordinator coherent, and so does the rest. -/
theorem Aftermath.coherent {d : Coordinator α β} {command : Command α β} (h : Aftermath c command d)
    (hc : c.Coherent) : d.Coherent := by
  cases h with
  | aside stuck spent subscribers nextSubscriber journal =>
      exact ⟨hc.paired, hc.stacked, hc.attended, hc.measured⟩
  | changed asks es h booked => exact h.coherent (hc.aside c.content c.backend c.moment _)
  | restored asks h => exact (restore_coherent hc h).1

/-- Whatever a host does, windows, records, stack and gesture tell the same story. -/
theorem Reachable.coherent (h : Reachable c) : c.Coherent := by
  induction h with
  | start settings backend moment => exact coherent_ofSettings settings backend moment
  | @step c h moment command ih =>
      exact (perform_aftermath (ih.during moment) command).coherent (ih.during moment)

/-- What holds at the start and is kept by every command holds always, if the moment does not
matter. -/
theorem Reachable.invariant {P : Coordinator α β → Prop}
    (start : ∀ settings backend moment, P (ofSettings settings backend moment))
    (timeless : ∀ c moment, P c → P (c.during moment))
    (kept : ∀ c command d, Aftermath c command d → c.Coherent → P c → P d) (h : Reachable c) :
    P c := by
  induction h with
  | start settings backend moment => exact start settings backend moment
  | @step c h moment command ih =>
      have hduring := h.coherent.during moment
      exact kept _ command _ (perform_aftermath hduring command) hduring (timeless c moment ih)

/-- **Windows and records never drift apart.** Whatever has been done, a panel has a window exactly
if its record says that it floats, and then the two say the same. -/
theorem windows_mirror_records (h : Reachable c) (id : PanelId) :
    ((∃ w, c.flyouts.get? id = some w) ↔ ∃ p, c.store.get? id = some p ∧ p.placement = .floating) ∧
    ∀ w, c.flyouts.get? id = some w →
      ∃ p, c.store.get? id = some p ∧ w.panel = id ∧ Mirrors w p := by
  have hc := h.coherent.paired
  refine ⟨⟨?_, ?_⟩, ?_⟩
  · rintro ⟨w, hw⟩
    obtain ⟨p, hp, _, _, same⟩ := hc.record_of_window hw
    exact ⟨p, hp, same.placement⟩
  · rintro ⟨p, hp, hfl⟩
    rcases hc.whereabouts id with ⟨_, hn⟩ | ⟨q, _, hq, _, rests⟩ | ⟨w, _, hw, _⟩
    · exact absurd (hn.symm.trans hp) (by simp)
    · exact absurd (Option.some.inj (hp.symm.trans hq) ▸ hfl) rests
    · exact ⟨w, hw⟩
  · intro w hw
    obtain ⟨p, hp, named, _, same⟩ := hc.record_of_window hw
    exact ⟨p, hp, named, same⟩

open SmallRun in
/-- The window of the small run mirrors the record. -/
theorem log_window_mirrors_record : Reachable afloat ∧ ∃ w p, afloat.flyouts.get? log = some w ∧
    afloat.store.get? log = some p ∧ w.panel = log ∧ Mirrors w p := by
  obtain ⟨hwindow, hmirror⟩ := windows_mirror_records reachable_afloat log
  obtain ⟨w, hw⟩ := hwindow.mpr ⟨_, rfl, by decide⟩
  obtain ⟨p, hp, named, same⟩ := hmirror w hw
  exact ⟨reachable_afloat, w, p, hw, hp, named, same⟩

end Coordinator

end PanelDock
