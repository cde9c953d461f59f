import Mathlib.Data.List.Induction
import Mathlib.Logic.Function.Basic
import PanelDock.Proofs.Commands
/-!
# Values are lent, and own values come back

An overlay has a value of its own, which its host may set. As long as it is registered it shows a
value that the allocator lends it. The allocator notes the own value when a registered period
begins, and gives it back when the period ends. In between the overlay may be registered anew in any
layer and raised any number of times: what it shows then is lent already, and must not be noted.

So every overlay has an own value at all times: the one that is noted while it is registered, and
otherwise the one that it shows (`Stage.own`). Only the host changes it, and the host leaves a
registered overlay alone (`own_step`). All that is done to one overlay in one step is one of four
things (`Turn`), and the rest follows from these.
-/

namespace PanelDock.Allocator

/-- Something that is done with an allocator and the overlays that it stacks. Priorities and steps
are numbers of 32 bits. -/
inductive Act where
  | registerNamed (now : Instant) (overlay : Handle) (layer : String) (priority : UInt32)
      (options : RegisterOptions)
  | register (now : Instant) (overlay : Handle) (layer : Layer) (priority : UInt32)
      (options : RegisterOptions)
  | bringToFront (overlay : Handle)
  | unregister (overlay : Handle)
  | setFrontGap (gap : UInt32)
  | newHandle
  /-- The host sets the own value of an overlay. -/
  | assign (overlay : Handle) (z : Option Int)

/-- An allocator, and the value that each overlay shows. -/
structure Stage where
  allocator : Allocator
  shown : Handle → Option Int

namespace Stage

/-- The overlay as the allocator gets it. -/
def overlay (s : Stage) (k : Handle) : Overlay := ⟨k, s.shown k⟩

/-- The stage when an allocator has written one overlay. -/
def written (s : Stage) (o : Allocator × Overlay) : Stage :=
  ⟨o.1, Function.update s.shown o.2.handle o.2.zIndex⟩

/-- The stage after an act. The host leaves an overlay alone while it is registered. -/
def step (s : Stage) : Act → Stage
  | .registerNamed now k name priority options =>
    let o : Outcome Int _ _ :=
      s.allocator.registerNamed now (s.overlay k) name priority.toNat options
    s.written o.state
  | .register now k layer priority options =>
    let o : Outcome Int _ _ := s.allocator.register now (s.overlay k) layer priority.toNat options
    s.written o.state
  | .bringToFront k =>
    let o : Outcome Int _ _ := s.allocator.bringToFront (s.overlay k)
    s.written o.state
  | .unregister k =>
    let o : Outcome Int _ _ := s.allocator.unregister (s.overlay k)
    s.written o.state
  | .setFrontGap gap =>
    let o : Outcome Int _ _ := s.allocator.setFrontGap gap.toNat
    { s with allocator := o.state }
  | .newHandle => { s with allocator := s.allocator.newHandle.2 }
  | .assign k z =>
    if s.allocator.isRegistered k then s else { s with shown := Function.update s.shown k z }

/-- The stage after these acts. -/
def run (s : Stage) (acts : List Act) : Stage := acts.foldl step s

/-- An allocator that gives warnings or does not, before anything is registered, and overlays with
these values. -/
def opening (warn : Bool) (natives : Handle → Option Int) : Stage :=
  ⟨{ fresh with warnOnClamp := warn }, natives⟩

/-- The value of its own that an overlay has, or had when it was registered. -/
def own (s : Stage) (k : Handle) : Option Int :=
  match s.allocator.registration? k with
  | some r => r.nativeZIndex
  | none => s.shown k

/-! ## One act -/

/-- What an act does to one overlay. -/
inductive Turn (s t : Stage) (k : Handle) : Act → Prop where
  | spared {a : Act} (entry : t.allocator.registration? k = s.allocator.registration? k)
      (shown : t.shown k = s.shown k) : Turn s t k a
  /-- It is registered or raised. -/
  | lent {a : Act} {r : Registration} (entry : t.allocator.registration? k = some r)
      (shown : t.shown k = some r.zIndex) (noted : r.nativeZIndex = s.own k)
      (held : a ≠ .unregister k) :
      Turn s t k a
  | released {r : Registration} (entry : s.allocator.registration? k = some r)
      (free : t.allocator.registration? k = none) (shown : t.shown k = r.nativeZIndex) :
        Turn s t k (.unregister k)
  | assigned {z : Option Int} (free : s.allocator.registration? k = none)
      (still : t.allocator.registration? k = none) : Turn s t k (.assign k z)

section Acts

variable {s t : Stage} {k : Handle} {a : Act}

/-- An overlay that is written as it was leaves the stage as it was. -/
theorem written_same (s : Stage) (k : Handle) : s.written (s.allocator, s.overlay k) = s := by
  rw [written, overlay, Function.update_eq_self]

theorem written_here (s : Stage) (b : Allocator) (k : Handle) (z : Option Int) :
    (s.written (b, ⟨k, z⟩)).shown k = z := Function.update_self _ _ _

theorem written_elsewhere (s : Stage) (b : Allocator) {j : Handle} (hk : k ≠ j) (z : Option Int) :
    (s.written (b, ⟨j, z⟩)).shown k = s.shown k := Function.update_of_ne hk _ _

theorem own_registered {r : Registration} (h : s.allocator.registration? k = some r) :
    s.own k = r.nativeZIndex := by
  rw [own, h]

theorem own_free (h : s.allocator.registration? k = none) : s.own k = s.shown k := by
  rw [own, h]

theorem isRegistered_iff (b : Allocator) (k : Handle) :
    b.isRegistered k = true ↔ ∃ r, b.registration? k = some r := by
  rw [isRegistered, Catalog.contains, Option.isSome_iff_exists]
  rfl

theorem isRegistered_eq_false_iff (b : Allocator) (k : Handle) :
    b.isRegistered k = false ↔ b.registration? k = none := by
  rw [isRegistered, Catalog.contains, Option.isSome_eq_false_iff, Option.isNone_iff_eq_none]
  rfl

theorem turn_register (s : Stage) (now : Instant) (j : Handle) (layer : Layer) (priority : UInt32)
    (options : RegisterOptions) (k : Handle) :
    s.Turn (s.step (.register now j layer priority options)) k
      (.register now j layer priority options) := by
  by_cases hk : k = j
  · subst hk
    exact .lent (Catalog.get?_insert_self _ _ _) (written_here _ _ _ _) rfl (by simp)
  · exact .spared (Catalog.get?_insert_of_ne _ _ hk) (written_elsewhere _ _ hk _)

/-- A name that is no layer's registers nothing. -/
theorem step_registerNamed_none {name : String} (unknown : Layer.ofName? name = none) (s : Stage)
    (now : Instant) (j : Handle) (priority : UInt32) (options : RegisterOptions) :
    s.step (.registerNamed now j name priority options) = s := by
  simp only [step, registerNamed, unknown]
  exact written_same s j

theorem step_registerNamed_some {name : String} {layer : Layer}
    (known : Layer.ofName? name = some layer) (s : Stage) (now : Instant) (j : Handle)
    (priority : UInt32) (options : RegisterOptions) :
    s.step (.registerNamed now j name priority options) =
      s.step (.register now j layer priority options) := by
  simp only [step, registerNamed, known]

theorem turn_bringToFront (s : Stage) (j k : Handle) :
    s.Turn (s.step (.bringToFront j)) k (.bringToFront j) := by
  cases hr : s.allocator.registration? j with
  | none =>
      have hsame : s.step (.bringToFront j) = s := by
        simp only [step, bringToFront, overlay, hr]
        exact written_same s j
      rw [hsame]
      exact .spared rfl rfl
  | some r =>
      simp only [step, bringToFront, overlay, hr]
      by_cases hk : k = j
      · subst hk
        exact .lent (Catalog.get?_insert_self _ _ _) (written_here _ _ _ _)
          (own_registered hr).symm (by simp)
      · exact .spared (Catalog.get?_insert_of_ne _ _ hk) (written_elsewhere _ _ hk _)

theorem turn_unregister (s : Stage) (j k : Handle) :
    s.Turn (s.step (.unregister j)) k (.unregister j) := by
  cases hr : s.allocator.registration? j with
  | none =>
      have hsame : s.step (.unregister j) = s := by
        simp only [step, unregister, overlay, hr]
        exact written_same s j
      rw [hsame]
      exact .spared rfl rfl
  | some r =>
      simp only [step, unregister, overlay, hr]
      by_cases hk : k = j
      · subst hk
        exact .released hr ((Catalog.get?_erase _ _ _).trans (if_pos rfl)) (written_here _ _ _ _)
      · exact .spared ((Catalog.get?_erase _ _ _).trans (if_neg hk)) (written_elsewhere _ _ hk _)

/-- Each act spares an overlay, lends it a value, releases it, or is its host's. -/
theorem turn (s : Stage) (a : Act) (k : Handle) : s.Turn (s.step a) k a := by
  cases a with
  | registerNamed now j name priority options =>
      cases hname : Layer.ofName? name with
      | none =>
          rw [step_registerNamed_none hname]
          exact .spared rfl rfl
      | some layer =>
          rw [step_registerNamed_some hname]
          cases s.turn_register now j layer priority options k with
          | spared entry shown => exact .spared entry shown
          | lent entry shown noted held => exact .lent entry shown noted (by simp)
  | register now j layer priority options => exact s.turn_register now j layer priority options k
  | bringToFront j => exact s.turn_bringToFront j k
  | unregister j => exact s.turn_unregister j k
  | setFrontGap gap => exact .spared rfl rfl
  | newHandle => exact .spared rfl rfl
  | assign j z =>
      rw [step]
      split
      · exact .spared rfl rfl
      · rename_i hfree
        rw [Bool.not_eq_true, isRegistered_eq_false_iff] at hfree
        by_cases hk : k = j
        · subst hk
          exact .assigned hfree hfree
        · exact .spared rfl (Function.update_of_ne hk _ _)

/-- The own value of a registered overlay stays, whatever is done. -/
theorem Turn.own_eq (h : s.Turn t k a)
    (registered : s.allocator.isRegistered k = true ∨ t.allocator.isRegistered k = true) :
    t.own k = s.own k := by
  cases h with
  | spared entry shown => rw [own, own, entry, shown]
  | lent entry shown noted held => rw [own_registered entry, noted]
  | released entry free shown => rw [own_free free, own_registered entry, shown]
  | assigned free still =>
      rw [← isRegistered_eq_false_iff] at free still
      rw [free, still] at registered
      exact absurd registered (by simp)

/-- An overlay stays registered until it is released. -/
theorem Turn.registered (h : s.Turn t k a) (held : a ≠ .unregister k)
    (registered : s.allocator.isRegistered k = true) : t.allocator.isRegistered k = true := by
  rw [isRegistered_iff] at registered ⊢
  obtain ⟨r, hr⟩ := registered
  cases h with
  | spared entry shown => exact ⟨r, entry.trans hr⟩
  | @lent r' _ entry shown noted held => exact ⟨_, entry⟩
  | released entry free shown => exact absurd rfl held
  | assigned free still => exact absurd (hr.symm.trans free) (by simp)

theorem step_unregister (s : Stage) (k : Handle) :
    (s.step (.unregister k)).allocator.isRegistered k = false := by
  rw [isRegistered_eq_false_iff]
  cases s.turn (.unregister k) k with
  | spared entry shown =>
      cases hr : s.allocator.registration? k with
      | none => exact entry.trans hr
      | some r =>
          -- a registered overlay is not spared
          simp only [step, unregister, overlay, hr]
          exact (Catalog.get?_erase _ _ _).trans (if_pos rfl)
  | lent entry shown noted held => exact absurd rfl held
  | released entry free shown => exact free

/-! ## A run -/

/-- Each registered overlay shows the value that it is registered with. -/
def Worn (s : Stage) : Prop :=
  ∀ k r, s.allocator.registration? k = some r → s.shown k = some r.zIndex

theorem worn_opening (warn : Bool) (natives : Handle → Option Int) : (opening warn natives).Worn :=
  fun _ _ hr => nomatch hr

theorem Worn.step (h : s.Worn) (a : Act) : (s.step a).Worn := by
  intro k r hr
  cases s.turn a k with
  | spared entry shown =>
      rw [shown]
      exact h k r (entry.symm.trans hr)
  | lent entry shown noted held =>
      rw [shown, Option.some.inj (entry.symm.trans hr)]
  | released entry free shown => exact absurd (hr.symm.trans free) (by simp)
  | assigned free still => exact absurd (hr.symm.trans still) (by simp)

theorem Worn.run (h : s.Worn) (acts : List Act) : (s.run acts).Worn := by
  induction acts generalizing s with
  | nil => exact h
  | cons a rest ih => exact ih (h.step a)

/-- As long as an overlay is not released it stays registered, and keeps its own value. -/
theorem run_held {during : List Act} (registered : s.allocator.isRegistered k = true)
    (held : ∀ a ∈ during, a ≠ .unregister k) :
    (s.run during).allocator.isRegistered k = true ∧ (s.run during).own k = s.own k := by
  induction during generalizing s with
  | nil => exact ⟨registered, rfl⟩
  | cons a rest ih =>
      rw [List.forall_mem_cons] at held
      have hturn := s.turn a k
      have hnext := hturn.registered held.1 registered
      obtain ⟨hlast, hown⟩ := ih hnext held.2
      exact ⟨hlast, hown.trans (hturn.own_eq (Or.inl registered))⟩

theorem run_append (s : Stage) (before after : List Act) :
    s.run (before ++ after) = (s.run before).run after :=
  List.foldl_append

theorem run_concat (s : Stage) (acts : List Act) (a : Act) :
    s.run (acts ++ [a]) = (s.run acts).step a :=
  s.run_append acts [a]

end Acts

/-- The overlay is registered by this act, and has not been released since. -/
structure Period (s : Stage) (k : Handle) (before : List Act) (begins : Act)
    (during : List Act) : Prop where
  free : (s.run before).allocator.isRegistered k = false
  begun : ((s.run before).step begins).allocator.isRegistered k = true
  held : ∀ a ∈ during, a ≠ .unregister k

/-- An overlay is registered in a period that has begun once. -/
theorem exists_period {s : Stage} {k : Handle} (free : s.allocator.isRegistered k = false)
    {acts : List Act} (registered : (s.run acts).allocator.isRegistered k = true) :
    ∃ before begins during, acts = before ++ begins :: during ∧
      s.Period k before begins during := by
  induction acts using List.reverseRecOn with
  | nil => exact absurd (free.symm.trans registered) Bool.false_ne_true
  | append_singleton acts a ih =>
      rw [run_concat] at registered
      cases hbefore : (s.run acts).allocator.isRegistered k with
      | false => exact ⟨acts, a, [], rfl, hbefore, registered, List.forall_mem_nil _⟩
      | true =>
          obtain ⟨before, begins, during, rfl, hperiod⟩ := ih hbefore
          have hheld : a ≠ .unregister k := by
            rintro rfl
            exact absurd (registered.symm.trans (step_unregister _ k)) (by simp)
          refine ⟨before, begins, during ++ [a], by simp, hperiod.free, hperiod.begun, ?_⟩
          rw [List.forall_mem_append, List.forall_mem_singleton]
          exact ⟨hperiod.held, hheld⟩

/-- What an overlay shows when its period ends is what it showed before the period. -/
theorem Period.returned {s : Stage} {k : Handle} {before during : List Act} {begins : Act}
    (h : s.Period k before begins during) :
    ((s.run (before ++ begins :: during)).step (.unregister k)).shown k =
      (s.run before).shown k := by
  have hbegin := ((s.run before).turn begins k).own_eq (Or.inr h.begun)
  obtain ⟨hlast, hduring⟩ := run_held h.begun h.held
  have hend :=
    (((s.run before).step begins).run during |>.turn (.unregister k) k).own_eq (Or.inl hlast)
  have hfree := (isRegistered_eq_false_iff _ _).mp h.free
  have hout :=
    (isRegistered_eq_false_iff _ _).mp (step_unregister (((s.run before).step begins).run during) k)
  rw [run_append]
  calc ((((s.run before).step begins).run during).step (.unregister k)).shown k
    _ = ((((s.run before).step begins).run during).step (.unregister k)).own k :=
      (own_free hout).symm
    _ = (((s.run before).step begins).run during).own k := hend
    _ = ((s.run before).step begins).own k := hduring
    _ = (s.run before).own k := hbegin
    _ = (s.run before).shown k := own_free hfree

/-- **Own values come back.** Whatever is done with an allocator and its overlays, an overlay shows
the value of its registration as long as it is registered. It is registered in a period that has
begun once; and when it is released it is registered no more, and shows what it showed just before
the period began, however often it was registered and raised in between and whatever happened to
others. To register in a layer that has no such name changes nothing. -/
theorem own_value_returns (warn : Bool) (natives : Handle → Option Int) (acts : List Act) :
    let start := opening warn natives
    let s := start.run acts
    (∀ k r, s.allocator.registration? k = some r → s.shown k = some r.zIndex) ∧
    (∀ k, s.allocator.isRegistered k = true →
      (∃ before begins during, acts = before ++ begins :: during ∧
        start.Period k before begins during) ∧
      (s.step (.unregister k)).allocator.isRegistered k = false ∧
      ∀ before begins during, acts = before ++ begins :: during →
        start.Period k before begins during →
          (s.step (.unregister k)).shown k = (start.run before).shown k) ∧
    ∀ now k name (priority : UInt32) options,
      (∀ layer : Layer, Text.sameLetters layer.name.toList (Text.trim name.toList) = false) →
      (s.allocator.registerNamed (α := Int) now (s.overlay k) name priority.toNat options).result =
        none ∧
      s.step (.registerNamed now k name priority options) = s := by
  intro start s
  have hfree : ∀ k, start.allocator.isRegistered k = false := fun _ => rfl
  refine ⟨(worn_opening warn natives).run acts,
    fun k hk => ⟨exists_period (hfree k) hk, step_unregister _ k, ?_⟩, ?_⟩
  · rintro before begins during rfl hperiod
    exact hperiod.returned
  · intro now k name priority options unknown
    have hname : Layer.ofName? name = none :=
      List.find?_eq_none.mpr (fun layer _ => by simp [unknown layer])
    refine ⟨?_, step_registerNamed_none hname s now k priority options⟩
    rw [registerNamed, hname]

open SmallRun in
/-- An overlay is registered, released, and given another value by its host. -/
def rehearsal : List Act :=
  [.register clock.now ⟨1⟩ .ui 1 {}, .unregister ⟨1⟩, .assign ⟨1⟩ (some 42)]

open SmallRun in
/-- It is registered again in two layers, and raised in both; another overlay comes between, and its
host would change its value. -/
def performance : List Act :=
  [.bringToFront ⟨1⟩, .register clock.now ⟨2⟩ .popup 5 {},
    .registerNamed clock.now ⟨1⟩ " popup" 3 {},
    .assign ⟨1⟩ (some 7), .bringToFront ⟨1⟩, .unregister ⟨2⟩]

open SmallRun in
/-- Released, the overlay has the value that it was given between its two periods; before that it
shows a lent one. -/
theorem second_own_value_returns :
    let start := opening true (fun _ => none)
    let begins : Act := .register clock.now ⟨1⟩ .ui 2 {}
    let s := start.run (rehearsal ++ begins :: performance)
    s.allocator.isRegistered ⟨1⟩ = true ∧ start.Period ⟨1⟩ rehearsal begins performance ∧
    s.shown ⟨1⟩ = some 1015 ∧ (s.step (.unregister ⟨1⟩)).shown ⟨1⟩ = some 42 ∧
    (∀ layer : Layer, Text.sameLetters layer.name.toList (Text.trim "modal".toList) = false) ∧
    s.step (.registerNamed clock.now ⟨1⟩ "modal" 0 {}) = s := by
  intro start begins s
  obtain ⟨_, hreturn, hunknown⟩ :=
    own_value_returns true (fun _ => none) (rehearsal ++ begins :: performance)
  have hregistered : s.allocator.isRegistered ⟨1⟩ = true := by decide
  have hperiod : start.Period ⟨1⟩ rehearsal begins performance :=
    ⟨by decide, by decide, by simp [performance]⟩
  have hmodal :
      ∀ layer : Layer, Text.sameLetters layer.name.toList (Text.trim "modal".toList) = false := by
    intro layer
    cases layer <;> decide
  have hback := (hreturn ⟨1⟩ hregistered).2.2 rehearsal begins performance rfl hperiod
  have hwas : (start.run rehearsal).shown ⟨1⟩ = some 42 := by decide
  have hlent : s.shown ⟨1⟩ = some 1015 := by decide +kernel
  subst s start
  exact ⟨hregistered, hperiod, hlent, hback.trans hwas, hmodal,
    (hunknown clock.now ⟨1⟩ "modal" 0 {} hmodal).2⟩

end Stage

end PanelDock.Allocator
