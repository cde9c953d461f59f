import PanelDock.Proofs.Steps
/-!
# Histories of the allocator

A value depends on every value given before it, also on those of overlays that were released since
or that have moved to another layer: the counter of a layer is the greatest of all of them. So the
invariant speaks of the allocator together with the list of what it gave. Each registration holds a
value that is in that list, and the rest follows from where the counter stands.

The values are kept in words of 32 bits and computed in words of 32 and 64. The layers are so small
that no such computation can leave its word, whatever priority or step is asked for.
-/

namespace PanelDock.Allocator

/-- A call of the allocator. Priorities and steps are numbers of 32 bits. -/
inductive Call where
  | registerNamed (now : Instant) (overlay : Overlay) (layer : String) (priority : UInt32)
      (options : RegisterOptions)
  | register (now : Instant) (overlay : Overlay) (layer : Layer) (priority : UInt32)
      (options : RegisterOptions)
  | bringToFront (overlay : Overlay)
  | unregister (overlay : Overlay)
  | setFrontGap (gap : UInt32)

/-- The allocator after a call, and the value that the call gave, with the layer it was given in. -/
def Call.perform (a : Allocator) : Call → Allocator × Option (Layer × Int)
  | .registerNamed now overlay name priority options =>
    let o : Outcome Int _ _ := a.registerNamed now overlay name priority.toNat options
    (o.state.1, (Layer.ofName? name).bind (fun layer => o.result.map (layer, ·)))
  | .register now overlay layer priority options =>
    let o : Outcome Int _ _ := a.register now overlay layer priority.toNat options
    (o.state.1, some (layer, o.result))
  | .bringToFront overlay =>
    let o : Outcome Int _ _ := a.bringToFront overlay
    (o.state.1, (a.registration? overlay.handle).bind (fun r => o.result.map (r.layer, ·)))
  | .unregister overlay =>
    let o : Outcome Int _ _ := a.unregister overlay
    (o.state.1, none)
  | .setFrontGap gap =>
    let o : Outcome Int _ _ := a.setFrontGap gap.toNat
    (o.state, none)

/-- An allocator, and every value that it gave so far. -/
structure History where
  allocator : Allocator
  given : List (Layer × Int) := []

namespace History

/-- The values that were ever given in a layer. -/
def assigned (h : History) (layer : Layer) : List Int :=
  (h.given.filter (fun g => g.1 = layer)).map (·.2)

/-- The history with one more call. -/
def step (h : History) (call : Call) : History :=
  ⟨(call.perform h.allocator).1, h.given ++ (call.perform h.allocator).2.toList⟩

/-- The history that these calls make, from an allocator that gives warnings or does not. -/
def after (warn : Bool) (calls : List Call) : History :=
  calls.foldl step ⟨{ fresh with warnOnClamp := warn }, []⟩

/-- Counters and registrations follow from the values given. -/
structure Tallied (h : History) : Prop where
  /-- The counter of a layer is the greatest of its bottom and of all values given in it. -/
  counter : ∀ layer, (layer.least :: h.assigned layer).max? = some (h.allocator.counter layer)
  within : ∀ layer z, z ∈ h.assigned layer → layer.least ≤ z ∧ z ≤ layer.greatest
  registered : ∀ k r, h.allocator.registration? k = some r →
    r.handle = k ∧ r.zIndex = r.layer.least + r.priority ∧ r.zIndex ∈ h.assigned r.layer
  gap : leastFrontGap ≤ h.allocator.frontGap ∧ h.allocator.frontGap < 4294967296

/-! ## What a call leaves behind -/

@[simp] theorem assigned_quiet (h : History) (a : Allocator) (layer : Layer) :
    (History.mk a (h.given ++ (none : Option (Layer × Int)).toList)).assigned layer =
      h.assigned layer := by
  simp [assigned]

@[simp] theorem assigned_given (h : History) (a : Allocator) (l : Layer) (z : Int) (layer : Layer) :
    (History.mk a (h.given ++ (some (l, z)).toList)).assigned layer =
      h.assigned layer ++ (if l = layer then [z] else []) := by
  by_cases hl : l = layer <;> simp [assigned, hl]

namespace Tallied

variable {h : History} {after : Allocator} {layer : Layer} {z : Int} {k : Handle} {r : Registration}

theorem le_counter (t : Tallied h) (hz : z ∈ h.assigned layer) : z ≤ h.allocator.counter layer :=
  (List.max?_eq_some_iff.mp (t.counter layer)).2 z (List.mem_cons_of_mem _ hz)

/-- The counter stays in its layer. -/
theorem counter_within (t : Tallied h) (layer : Layer) :
    layer.least ≤ h.allocator.counter layer ∧ h.allocator.counter layer ≤ layer.greatest := by
  obtain ⟨hmem, habove⟩ := List.max?_eq_some_iff.mp (t.counter layer)
  refine ⟨habove layer.least (by simp), ?_⟩
  rcases List.mem_cons.mp hmem with hleast | hgiven
  · rw [hleast]
    cases layer <;> decide
  · exact (t.within layer _ hgiven).2

/-- The counters stand where they should when a value was given and they were raised to it. -/
theorem counter_given (t : Tallied h) (hleast : layer.least ≤ z)
    (counter : after.counter = (h.allocator.raiseCounter layer z).counter) (l : Layer) :
    (l.least :: (h.assigned l ++ (if layer = l then [z] else []))).max? =
      some (after.counter l) := by
  obtain ⟨hmem, habove⟩ := List.max?_eq_some_iff.mp (t.counter l)
  rw [counter, List.max?_eq_some_iff]
  by_cases hl : l = layer
  · subst hl
    have hraised : (h.allocator.raiseCounter l z).counter l = max (h.allocator.counter l) z :=
      if_pos rfl
    rw [hraised, if_pos rfl]
    constructor
    · rcases Int.le_total z (h.allocator.counter l) with hle | hle
      · rw [Int.max_eq_left hle]
        exact List.mem_append_left [z] hmem
      · rw [Int.max_eq_right hle]
        simp
    · intro y hy
      rw [← List.cons_append, List.mem_append, List.mem_singleton] at hy
      rcases hy with hold | rfl
      · have := habove y hold
        omega
      · omega
  · have hraised : (h.allocator.raiseCounter layer z).counter l = h.allocator.counter l := if_neg hl
    rw [hraised, if_neg (Ne.symm hl), List.append_nil]
    exact ⟨hmem, habove⟩

/-- A value may be given to an overlay that is registered with it. -/
theorem given (t : Tallied h)
    (registrations : after.registrations = h.allocator.registrations.insert k r)
    (counter : after.counter = (h.allocator.raiseCounter layer z).counter)
    (gap : after.frontGap = h.allocator.frontGap)
    (least : layer.least ≤ z) (greatest : z ≤ layer.greatest)
    (entry : r.handle = k ∧ r.layer = layer ∧ r.zIndex = z ∧ r.priority = (z - layer.least).toNat) :
    Tallied ⟨after, h.given ++ (some (layer, z)).toList⟩ := by
  obtain ⟨hhandle, hlayer, hz, hpriority⟩ := entry
  refine ⟨?_, ?_, ?_, by rw [gap]; exact t.gap⟩
  · intro l
    rw [assigned_given]
    exact t.counter_given least counter l
  · intro l y hy
    rw [assigned_given, List.mem_append] at hy
    rcases hy with hold | hnew
    · exact t.within l y hold
    · by_cases hl : layer = l
      · subst hl
        rw [if_pos rfl, List.mem_singleton] at hnew
        omega
      · rw [if_neg hl] at hnew
        exact absurd hnew (by simp)
  · intro j s hs
    rw [assigned_given, List.mem_append]
    have hs' : (h.allocator.registrations.insert k r).get? j = some s := by
      rw [← registrations]; exact hs
    rcases Catalog.get?_insert_eq_some hs' with ⟨rfl, rfl⟩ | ⟨_, hold⟩
    · refine ⟨hhandle, ?_, Or.inr (by simp [hlayer, hz])⟩
      rw [hz, hlayer, hpriority]
      omega
    · obtain ⟨hown, hvalue, hmem⟩ := t.registered j s hold
      exact ⟨hown, hvalue, Or.inl hmem⟩

/-- Registrations may be given up and the step changed. -/
theorem quiet (t : Tallied h)
    (registrations : ∀ k r, after.registration? k = some r → h.allocator.registration? k = some r)
    (counter : after.counter = h.allocator.counter)
    (gap : leastFrontGap ≤ after.frontGap ∧ after.frontGap < 4294967296) :
    Tallied ⟨after, h.given ++ (none : Option (Layer × Int)).toList⟩ := by
  refine ⟨?_, ?_, ?_, gap⟩
  · intro l
    rw [assigned_quiet, counter]
    exact t.counter l
  · intro l y hy
    rw [assigned_quiet] at hy
    exact t.within l y hy
  · intro k r hr
    rw [assigned_quiet]
    exact t.registered k r (registrations k r hr)

theorem register (t : Tallied h) (now : Instant) (overlay : Overlay) (layer : Layer)
    (priority : UInt32) (options : RegisterOptions) :
    Tallied (h.step (.register now overlay layer priority options)) := by
  have hz : (h.allocator.register (α := Int) now overlay layer priority.toNat options).result =
      min layer.greatest (layer.least + priority.toNat) := clamp_eq_min _ _
  have hlayer : layer.least ≤ layer.greatest := by cases layer <;> decide
  exact t.given rfl rfl rfl (by omega) (by omega) ⟨rfl, rfl, rfl, rfl⟩

theorem bringToFront (t : Tallied h) (overlay : Overlay) :
    Tallied (h.step (.bringToFront overlay)) := by
  cases hr : h.allocator.registration? overlay.handle with
  | none =>
      have hperform : (Call.bringToFront overlay).perform h.allocator = (h.allocator, none) := by
        simp only [Call.perform, Allocator.bringToFront, hr, Option.bind_none]
      rw [step, hperform]
      exact t.quiet (fun _ _ hs => hs) rfl t.gap
  | some r =>
      obtain ⟨s, hresult, hstate, hz, hhandle, hlayer, _, hpriority⟩ :=
        Allocator.bringToFront_registered (α := Int) hr
      obtain ⟨hown, _, hmem⟩ := t.registered _ r hr
      have hcounter := t.counter_within r.layer
      have hbelow := t.le_counter hmem
      have hperform : (Call.bringToFront overlay).perform h.allocator =
          ({ h.allocator.raiseCounter r.layer s.zIndex with
              registrations := h.allocator.registrations.insert overlay.handle s },
            some (r.layer, s.zIndex)) := by
        simp only [Call.perform, hresult, hstate, hr, Option.bind_some, Option.map_some]
      rw [clamp_eq_min] at hz
      rw [step, hperform]
      exact t.given rfl rfl rfl (by omega) (by omega) ⟨hhandle.trans hown, hlayer, rfl, hpriority⟩

/-- Every call keeps counters and registrations in step with what was given. -/
theorem step (t : Tallied h) (call : Call) : Tallied (h.step call) := by
  cases call with
  | registerNamed now overlay name priority options =>
      cases hname : Layer.ofName? name with
      | none =>
          have hperform :
              (Call.registerNamed now overlay name priority options).perform h.allocator =
              (h.allocator, none) := by
            simp only [Call.perform, registerNamed, hname, Option.bind_none]
          rw [History.step, hperform]
          exact t.quiet (fun _ _ hs => hs) rfl t.gap
      | some layer =>
          have hperform :
              (Call.registerNamed now overlay name priority options).perform h.allocator =
              (Call.register now overlay layer priority options).perform h.allocator := by
            simp only [Call.perform, registerNamed, hname, Option.bind_some, Option.map_some]
          rw [History.step, hperform]
          exact t.register now overlay layer priority options
  | register now overlay layer priority options =>
      exact t.register now overlay layer priority options
  | bringToFront overlay => exact t.bringToFront overlay
  | unregister overlay =>
      refine t.quiet ?_ ?_ ?_
      all_goals
        simp only [Call.perform, unregister]
        split
      · exact fun _ _ hs => hs
      · exact fun _ _ hs => (Catalog.get?_erase_eq_some hs).2
      · rfl
      · rfl
      · exact t.gap
      · exact t.gap
  | setFrontGap gap =>
      have hword := gap.toNat_lt
      refine t.quiet (fun _ _ hs => hs) rfl ⟨Nat.le_max_right _ _, ?_⟩
      exact Nat.max_lt.mpr ⟨hword, by decide⟩

theorem start (warn : Bool) : Tallied ⟨{ fresh with warnOnClamp := warn }, []⟩ where
  counter layer := rfl
  within layer z hz := absurd hz (by simp [assigned])
  registered k r hr := absurd hr (by simp [registration?, fresh])
  gap := (by decide : leastFrontGap ≤ leastFrontGap ∧ leastFrontGap < 4294967296)

/-- The counters and the registrations follow from the values given, whatever is called. -/
theorem run (warn : Bool) (calls : List Call) : Tallied (History.after warn calls) := by
  have hrun : ∀ h, Tallied h → Tallied (calls.foldl History.step h) := by
    induction calls with
    | nil => exact fun _ t => t
    | cons call rest ih => exact fun h t => ih (h.step call) (t.step call)
  exact hrun _ (start warn)

end Tallied

/-! ## What follows from the values given -/

namespace Tallied

variable {h : History}

/-- A call gives one value at most, and forgets none that was given before. -/
theorem mem_assigned_step {layer : Layer} {z : Int} (hz : z ∈ h.assigned layer) (call : Call) :
    z ∈ (h.step call).assigned layer := by
  simp only [assigned, History.step, List.filter_append, List.map_append]
  exact List.mem_append_left _ hz

/-- No counter ever goes down. -/
theorem counter_le_step (t : Tallied h) (call : Call) (layer : Layer) :
    h.allocator.counter layer ≤ (h.step call).allocator.counter layer := by
  have hmem := (List.max?_eq_some_iff.mp (t.counter layer)).1
  refine (List.max?_eq_some_iff.mp ((t.step call).counter layer)).2 _ ?_
  rcases List.mem_cons.mp hmem with hleast | hgiven
  · rw [hleast]
    exact List.mem_cons_self
  · exact List.mem_cons_of_mem _ (mem_assigned_step hgiven call)

/-- A counter stays where it is when no value is given in its layer. -/
theorem counter_step_eq (t : Tallied h) (call : Call) (layer : Layer)
    (apart : ∀ z, (call.perform h.allocator).2 ≠ some (layer, z)) :
    (h.step call).allocator.counter layer = h.allocator.counter layer := by
  have hsame : (h.step call).assigned layer = h.assigned layer := by
    rw [History.step]
    cases hgiven : (call.perform h.allocator).2 with
    | none => exact assigned_quiet h _ layer
    | some g =>
        have hother : g.1 ≠ layer := fun he => apart g.2 (he ▸ hgiven)
        rw [assigned_given, if_neg hother, List.append_nil]
  have hafter := (t.step call).counter layer
  rw [hsame] at hafter
  exact Option.some.inj (hafter.symm.trans (t.counter layer))

/-- A registered overlay is found between the bottom of its layer and the counter. -/
theorem registered_within (t : Tallied h) {k : Handle} {r : Registration}
    (hr : h.allocator.registration? k = some r) :
    r.layer.least ≤ r.zIndex ∧ r.zIndex ≤ h.allocator.counter r.layer := by
  obtain ⟨_, _, hmem⟩ := t.registered k r hr
  exact ⟨(t.within _ _ hmem).1, t.le_counter hmem⟩

/-- The layers lie apart, and so do the overlays in them. -/
theorem layered (t : Tallied h) {j k : Handle} {r s : Registration}
    (hr : h.allocator.registration? j = some r) (hs : h.allocator.registration? k = some s)
    (below : r.layer.least < s.layer.least) : r.zIndex < s.zIndex := by
  have hlow := (t.registered_within hr).2
  have htop := (t.counter_within r.layer).2
  have hhigh := (t.registered_within hs).1
  have hgap : r.layer.greatest < s.layer.least := by
    revert below
    cases r.layer <;> cases s.layer <;> decide
  omega

/-- An overlay is raised to the top of its layer, or by a step above everything ever given there. -/
theorem raised (t : Tallied h) {overlay : Overlay} {r : Registration}
    (hr : h.allocator.registration? overlay.handle = some r) :
    ((Call.bringToFront overlay).perform h.allocator).2 =
      some (r.layer, min r.layer.greatest
        (h.allocator.counter r.layer + h.allocator.frontGap)) := by
  obtain ⟨s, hresult, _, hz, _⟩ := Allocator.bringToFront_registered (α := Int) hr
  have hbelow := (t.registered_within hr).2
  rw [clamp_eq_min, Int.max_eq_left hbelow] at hz
  simp only [Call.perform, hresult, hr, Option.bind_some, Option.map_some, hz]

/-- The priority that is offered lies at the counter, and one above it if the layer is in use. -/
theorem nextPriority_eq (t : Tallied h) (layer : Layer) :
    (h.allocator.nextPriority layer : Int) =
      h.allocator.counter layer - layer.least + (if h.allocator.occupied layer then 1 else 0) := by
  have hcounter := (t.counter_within layer).1
  rw [nextPriority]
  split <;> omega

theorem occupied_of_registered {k : Handle} {r : Registration}
    (hr : h.allocator.registration? k = some r) : h.allocator.occupied r.layer = true := by
  rw [occupied, List.any_eq_true]
  exact ⟨r, (Catalog.mem_values_iff _ _).mpr ⟨k, hr⟩, beq_self_eq_true _⟩

/-- What is registered at the priority that is offered lies above all others of the layer, if there
is room. -/
theorem next_above (t : Tallied h) {layer : Layer}
    (room : h.allocator.counter layer < layer.greatest) {k : Handle} {r : Registration}
    (hr : h.allocator.registration? k = some r) (here : r.layer = layer) :
    r.zIndex < clamp layer (layer.least + h.allocator.nextPriority layer) := by
  subst here
  have hnext := t.nextPriority_eq r.layer
  have hbelow := (t.registered_within hr).2
  rw [occupied_of_registered hr, if_pos rfl] at hnext
  rw [clamp_eq_min]
  omega

end Tallied

end History

/-! ## In machine words -/

namespace Word

/-- The bottom of a layer. -/
def least (layer : Layer) : Int32 := .ofInt layer.least

/-- The top of a layer. -/
def greatest (layer : Layer) : Int32 := .ofInt layer.greatest

/-- The value asked for at a registration. -/
def asked (layer : Layer) (priority : UInt32) : Int64 :=
  (least layer).toInt64 + .ofNat priority.toNat

/-- The value asked for when an overlay is raised. -/
def raised (counter current : Int32) (gap : UInt32) : Int64 :=
  (max counter current).toInt64 + .ofNat gap.toNat

/-- The value that is given when this one is asked for. -/
def given (layer : Layer) (requested : Int64) : Int32 :=
  if (greatest layer).toInt64 < requested then greatest layer else requested.toInt32

/-- How far a value lies above the bottom of its layer. -/
def offset (layer : Layer) (z : Int32) : Int32 := z - least layer

/-- The priority that is offered next. -/
def next (layer : Layer) (counter : Int32) (occupied : Bool) : UInt32 :=
  (max (offset layer counter) 0).toUInt32 + (if occupied then 1 else 0)

theorem toInt_least (layer : Layer) : (least layer).toInt = layer.least := by
  cases layer <;> rfl

theorem toInt_greatest (layer : Layer) : (greatest layer).toInt = layer.greatest := by
  cases layer <;> rfl

theorem toInt_max (a b : Int32) : (max a b).toInt = max a.toInt b.toInt := by
  have hmax : max a b = if a ≤ b then b else a := rfl
  rw [hmax]
  split
  · next hle => rw [Int32.le_iff_toInt_le] at hle; omega
  · next hle => rw [Int32.le_iff_toInt_le] at hle; omega

/-- A sum of a word of 32 bits and a number of 32 bits stays in a word of 64. -/
theorem toInt_sum (a : Int32) (b : UInt32) :
    (a.toInt64 + .ofNat b.toNat).toInt = a.toInt + b.toNat := by
  have hb := b.toNat_lt
  have hlow := a.le_toInt
  have hhigh := a.toInt_lt
  rw [Int64.toInt_add, Int32.toInt_toInt64, Int64.toInt_ofNat_of_lt (by omega)]
  exact Int.bmod_eq_of_le (by omega) (by omega)

/-- In words, a value that is asked for in a layer is given, and its priority found, without a wrap.
-/
structure Exact (layer : Layer) (word : Int64) (requested : Int) : Prop where
  asked : word.toInt = requested
  given : (Word.given layer word).toInt = clamp layer requested
  offset : (Word.offset layer (Word.given layer word)).toInt = clamp layer requested - layer.least
  priority : (Word.offset layer (Word.given layer word)).toUInt32.toNat =
    (clamp layer requested - layer.least).toNat

theorem toInt_given {layer : Layer} {word : Int64} (hleast : layer.least ≤ word.toInt) :
    (given layer word).toInt = clamp layer word.toInt := by
  have hsmall : 0 ≤ layer.least ∧ layer.greatest < 100000 := by cases layer <;> decide
  rw [given, clamp]
  simp only [Int64.lt_iff_toInt_lt, Int32.toInt_toInt64, toInt_greatest]
  split
  · exact toInt_greatest layer
  · rw [Int64.toInt_toInt32]
    exact Int.bmod_eq_of_le (by omega) (by omega)

/-- A difference of two values of one layer stays in its word, and so does its size. -/
theorem toInt_offset (layer : Layer) {z : Int32} (hz : layer.least ≤ z.toInt) :
    (offset layer z).toInt = z.toInt - layer.least ∧
      (offset layer z).toUInt32.toNat = (z.toInt - layer.least).toNat := by
  have hsmall : 0 ≤ layer.least := by cases layer <;> decide
  have hhigh := z.toInt_lt
  have hexact : (offset layer z).toInt = z.toInt - layer.least := by
    rw [offset, Int32.toInt_sub, toInt_least]
    exact Int.bmod_eq_of_le (by omega) (by omega)
  refine ⟨hexact, ?_⟩
  have hpositive : 0 ≤ offset layer z := by
    rw [Int32.le_iff_toInt_le, hexact, Int32.toInt_zero]
    omega
  rw [Int32.toNat_toUInt32_of_le hpositive, ← Int32.toNat_toInt, hexact]

theorem exact_of_least {layer : Layer} {word : Int64} (hleast : layer.least ≤ word.toInt) :
    Exact layer word word.toInt := by
  have hgiven := toInt_given hleast
  have hlayer : layer.least ≤ layer.greatest := by cases layer <;> decide
  have hz : layer.least ≤ (given layer word).toInt := by
    rw [hgiven, clamp_eq_min]
    omega
  obtain ⟨hoffset, hpriority⟩ := toInt_offset layer hz
  rw [hgiven] at hoffset hpriority
  exact ⟨rfl, hgiven, hoffset, hpriority⟩

/-- The values that an allocator keeps fit their words, and what is computed of them in words is
exact: the value of any registration and of any overlay that is raised, and the priority that is
offered. -/
structure Fits (a : Allocator) : Prop where
  counter : ∀ layer, (Int32.ofInt (a.counter layer)).toInt = a.counter layer
  gap : (UInt32.ofNat a.frontGap).toNat = a.frontGap
  registered : ∀ k r, a.registration? k = some r →
    (Int32.ofInt r.zIndex).toInt = r.zIndex ∧ (UInt32.ofNat r.priority).toNat = r.priority
  registering : ∀ layer (priority : UInt32),
    Exact layer (asked layer priority) (layer.least + priority.toNat)
  raising : ∀ k r, a.registration? k = some r →
    Exact r.layer (raised (.ofInt (a.counter r.layer)) (.ofInt r.zIndex) (.ofNat a.frontGap))
      (max (a.counter r.layer) r.zIndex + a.frontGap)
  next : ∀ layer, (offset layer (.ofInt (a.counter layer))).toInt = a.counter layer - layer.least ∧
    (next layer (.ofInt (a.counter layer)) (a.occupied layer)).toNat = a.nextPriority layer

theorem toInt_ofInt {layer : Layer} {z : Int} (hz : layer.least ≤ z ∧ z ≤ layer.greatest) :
    (Int32.ofInt z).toInt = z := by
  have hsmall : 0 ≤ layer.least ∧ layer.greatest < 100000 := by cases layer <;> decide
  exact Int32.toInt_ofInt_of_le (by omega) (by omega)

theorem fits {h : History} (t : h.Tallied) : Fits h.allocator := by
  have hcounter : ∀ layer, (Int32.ofInt (h.allocator.counter layer)).toInt =
      h.allocator.counter layer :=
    fun layer => toInt_ofInt (t.counter_within layer)
  have hgap : (UInt32.ofNat h.allocator.frontGap).toNat = h.allocator.frontGap :=
    UInt32.toNat_ofNat_of_lt' t.gap.2
  have hz : ∀ k r, h.allocator.registration? k = some r → (Int32.ofInt r.zIndex).toInt = r.zIndex :=
    fun k r hr => toInt_ofInt (t.within _ _ (t.registered k r hr).2.2)
  refine ⟨hcounter, hgap, ?_, ?_, ?_, ?_⟩
  · intro k r hr
    obtain ⟨_, hvalue, hmem⟩ := t.registered k r hr
    have hwithin := t.within _ _ hmem
    have hsmall : 0 ≤ r.layer.least ∧ r.layer.greatest < 100000 := by cases r.layer <;> decide
    refine ⟨hz k r hr, UInt32.toNat_ofNat_of_lt' ?_⟩
    have hword : UInt32.size = 4294967296 := rfl
    omega
  · intro layer priority
    have hsum : (asked layer priority).toInt = layer.least + priority.toNat := by
      rw [asked, toInt_sum, toInt_least]
    rw [← hsum]
    exact exact_of_least (by omega)
  · intro k r hr
    have hsum : (raised (.ofInt (h.allocator.counter r.layer)) (.ofInt r.zIndex)
        (.ofNat h.allocator.frontGap)).toInt =
          max (h.allocator.counter r.layer) r.zIndex + h.allocator.frontGap := by
      rw [raised, toInt_sum, toInt_max, hcounter, hz k r hr, hgap]
    have hleast := (t.counter_within r.layer).1
    rw [← hsum]
    exact exact_of_least (by omega)
  · intro layer
    obtain ⟨hleast, hgreatest⟩ := t.counter_within layer
    have hsmall : 0 ≤ layer.least ∧ layer.greatest < 100000 := by cases layer <;> decide
    obtain ⟨hoffset, hsize⟩ := toInt_offset layer (z := .ofInt (h.allocator.counter layer))
      (by rw [hcounter]; exact hleast)
    rw [hcounter] at hoffset hsize
    refine ⟨hoffset, ?_⟩
    have hmax : max (offset layer (.ofInt (h.allocator.counter layer))) 0 =
        offset layer (.ofInt (h.allocator.counter layer)) := by
      rw [← Int32.toInt_inj, toInt_max, hoffset, Int32.toInt_zero]
      omega
    rw [next, hmax, UInt32.toNat_add, hsize, nextPriority]
    split
    · have hone : (1 : UInt32).toNat = 1 := rfl
      omega
    · have hzero : (0 : UInt32).toNat = 0 := rfl
      omega

end Word

/-! ## The law -/

/-- What every value, counter and registration obeys after a history. -/
structure Law (h : History) : Prop where
  /-- A counter is the greatest of the bottom of its layer and of all values ever given there. -/
  counter : ∀ layer, (layer.least :: h.assigned layer).max? = some (h.allocator.counter layer)
  ceiling : ∀ layer, h.allocator.counter layer ≤ layer.greatest
  rising : ∀ call layer, h.allocator.counter layer ≤ (h.step call).allocator.counter layer
  /-- A call that gives no value in a layer leaves its counter alone. -/
  apart : ∀ call layer, (∀ z, (call.perform h.allocator).2 ≠ some (layer, z)) →
    (h.step call).allocator.counter layer = h.allocator.counter layer
  registered : ∀ k r, h.allocator.registration? k = some r → r.zIndex = r.layer.least + r.priority ∧
    r.layer.least ≤ r.zIndex ∧ r.zIndex ≤ h.allocator.counter r.layer
  /-- An overlay of a lower layer lies below every overlay of a higher one. -/
  layered : ∀ j k r s, h.allocator.registration? j = some r → h.allocator.registration? k = some s →
    r.layer.least < s.layer.least → r.zIndex < s.zIndex
  /-- What is raised comes to lie above everything ever given in its layer, while there is room. -/
  raised : ∀ overlay r, h.allocator.registration? overlay.handle = some r →
    ∃ z, ((Call.bringToFront overlay).perform h.allocator).2 = some (r.layer, z) ∧
      (∀ y ∈ h.assigned r.layer, y ≤ z) ∧
      (h.allocator.counter r.layer < r.layer.greatest → ∀ y ∈ h.assigned r.layer, y < z)
  /-- While there is room, what is registered at the priority that is offered lies above all
  others. -/
  offered : ∀ now overlay layer options, h.allocator.counter layer < layer.greatest → ∃ z,
      ((Call.register now overlay layer (.ofNat (h.allocator.nextPriority layer)) options).perform
        h.allocator).2 = some (layer, z) ∧
      ∀ k r, k ≠ overlay.handle → h.allocator.registration? k = some r →
        r.layer = layer → r.zIndex < z
  /-- No word overflows. -/
  words : Word.Fits h.allocator

/-- **Every history obeys the law**, whatever handles, layers, priorities and steps its calls name:
values depend on the whole history through the counters alone. -/
theorem History.lawful (warn : Bool) (calls : List Call) : Law (History.after warn calls) := by
  have t := History.Tallied.run warn calls
  have fits := Word.fits t
  refine ⟨t.counter, fun layer => (t.counter_within layer).2, t.counter_le_step,
    t.counter_step_eq, ?_,
    fun _ _ _ _ => t.layered, ?_, ?_, fits⟩
  · intro k r hr
    exact ⟨(t.registered k r hr).2.1, t.registered_within hr⟩
  · intro overlay r hr
    have hcounter := (t.counter_within r.layer).2
    have hgap : leastFrontGap ≤ _ := t.gap.1
    rw [leastFrontGap] at hgap
    refine ⟨_, t.raised hr, ?_, ?_⟩
    · intro y hy
      have := t.le_counter hy
      omega
    · intro hroom y hy
      have := t.le_counter hy
      omega
  · intro now overlay layer options hroom
    have hword : (UInt32.ofNat ((after warn calls).allocator.nextPriority layer)).toNat =
        (after warn calls).allocator.nextPriority layer := by
      rw [← (fits.next layer).2, UInt32.ofNat_toNat]
    refine ⟨_, rfl, ?_⟩
    intro k r _ hr here
    rw [hword]
    exact t.next_above hroom hr here

/-- A step as wide as a word goes to the top of the layer, and the next overlay that is raised stays
there. -/
example (now : Instant) : (History.after true [.setFrontGap 4294967295,
      .register now ⟨⟨1⟩, none⟩ .popup 5 {}, .register now ⟨⟨2⟩, none⟩ .popup 4294967295 {},
      .bringToFront ⟨⟨1⟩, none⟩, .bringToFront ⟨⟨2⟩, none⟩]).given =
    [(.popup, 1005), (.popup, 9999), (.popup, 9999), (.popup, 9999)] := by
  rfl

end PanelDock.Allocator
