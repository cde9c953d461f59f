import PanelDock.CommandLine.Run
import PanelDock.Proofs.Appending
import PanelDock.Proofs.Files
import PanelDock.Proofs.Keeping
import PanelDock.Proofs.Refinement
import PanelDock.Proofs.Reports
/-!
# A run keeps the layout of the runs before it

A run finds the panels of an earlier one in its state file, and its script may introduce panels of
the same names. So the panels are introduced first, which saves nothing: `Progress.Waits` is what
holds until then. Only when the saved panels are put over them is the file written for the first
time, and it has them all. `Coordinator.Secured` is what holds from there on between two actions, of
the coordinator and of the file alike.
-/

namespace PanelDock

variable {α : Type}

/-! ## The state file -/

namespace StateFile

/-- The file is this one, it works, and it holds this snapshot. -/
structure Holds (f : StateFile α) (path : String) (number : Json.Codec α)
    (snapshot : Snapshot α) : Prop where
  located : f.path = path
  coded : f.number = number
  works : f.files.Works path
  text : f.files.read path = .ok (document number snapshot)

/-- A file that works holds what was saved last. -/
theorem Holds.save {f : StateFile α} {path : String} {number : Json.Codec α} {snapshot : Snapshot α}
    (h : f.Holds path number snapshot) (next : Snapshot α) :
    (f.save next).state.Holds path number next := by
  obtain ⟨rfl, rfl, works, text⟩ := h
  obtain ⟨hsucceeded, hworks⟩ := works.replace (document f.number next)
  have hread := FileTree.read_replace hsucceeded
  rw [StateFile.save]
  dsimp only
  rw [if_pos hsucceeded]
  exact ⟨rfl, rfl, hworks, hread⟩

/-- A snapshot of the version that is read is restored, if its text can be read back. -/
theorem Holds.restore {f : StateFile α} {path : String} {number : Json.Codec α}
    {snapshot : Snapshot α} (h : f.Holds path number snapshot)
    (readable : ofDocument? number (document number snapshot) = some snapshot)
    (version : snapshot.version = Snapshot.currentVersion) :
    (Backend.restore f).result = .ok (some snapshot) ∧ (Backend.restore f).state = f := by
  obtain ⟨rfl, rfl, _, text⟩ := h
  show f.restore.result = .ok (some snapshot) ∧ f.restore.state = f
  rw [StateFile.restore, text]
  dsimp only
  rw [readable]
  dsimp only
  rw [if_neg (not_not_intro version)]
  exact ⟨rfl, rfl⟩

end StateFile

namespace Coordinator

variable [Coordinate α] {c : Coordinator α (StateFile α)}

/-- None of these panels is lost: each is known, and the file has it. -/
structure Secured (c : Coordinator α (StateFile α)) (path : String) (number : Json.Codec α)
    (safe : Panel α → Prop) : Prop where
  coherent : c.Coherent
  homed : c.store.Homed
  known : ∀ p, safe p → ∃ q, c.store.get? p.id = some q ∧ p.SameOrigin q
  filed : ∃ f last, c.backend = some f ∧ f.Holds path number last ∧ last.Sound ∧
    ∀ p, safe p → ∃ q ∈ last.panels, p.SameOrigin q

section Securing

variable {path : String} {number : Json.Codec α} {safe : Panel α → Prop}

/-- Panels that are known are secured whenever they are saved. -/
theorem secured_filed (coherent : c.Coherent) (homed : c.store.Homed)
    (known : ∀ p, safe p → ∃ q, c.store.get? p.id = some q ∧ p.SameOrigin q) {f : StateFile α}
    {snapshot : Snapshot α} (holds : f.Holds path number snapshot) {now : Instant}
    (saved : c.backend = Coordinator.filed (some f) (c.store.snapshot now)) :
    c.Secured path number safe := by
  have hkeyed : c.store.Keyed := fun _ _ hp => coherent.paired.record_named hp
  refine ⟨coherent, homed, known, _, _, saved, holds.save _, Store.sound_snapshot hkeyed homed now,
    fun p hp => ?_⟩
  obtain ⟨q, hq, hpq⟩ := known p hp
  exact ⟨q, (Catalog.mem_values_iff _ _).mpr ⟨p.id, hq⟩, hpq⟩

theorem Secured.aside (h : c.Secured path number safe) (moment : Moment)
    (journal : List (Effect α)) : Secured { c with moment, journal } path number safe :=
  ⟨h.coherent.aside c.content c.backend moment journal, h.homed, h.known, h.filed⟩

theorem Secured.only {fewer : Panel α → Prop} (h : c.Secured path number safe)
    (among : ∀ p, fewer p → safe p) : c.Secured path number fewer := by
  obtain ⟨coherent, homed, known, f, last, hbackend, holds, sound, hfiled⟩ := h
  exact ⟨coherent, homed, fun p hp => known p (among p hp), f, last, hbackend, holds, sound,
    fun p hp => hfiled p (among p hp)⟩

/-- Panels stay secured through every action that destroys none of them. -/
theorem Secured.execute (h : c.Secured path number safe) {a : Action α}
    (spared : ∀ p, safe p → a ≠ .destroyPanel p.id) : (c.execute a).2.Secured path number safe := by
  obtain ⟨hc, homed, known, f, last, hbackend, hholds, sound, hfiled⟩ := h
  have hcoherent : (c.execute a).2.Coherent := (perform_aftermath hc (.action a)).coherent hc
  have hknown : ∀ p, safe p → ∃ q, (c.execute a).2.store.get? p.id = some q ∧ p.SameOrigin q := by
    intro p hp
    obtain ⟨q, hq, hpq⟩ := known p hp
    obtain ⟨r, hr, hqr⟩ := execute_keeps hc (spared p hp) q hq
    exact ⟨r, hr, hpq.trans hqr⟩
  have hhomed := execute_homed hc homed a
  rcases execute_backend hc a with hsame | hsaved
  · exact ⟨hcoherent, hhomed, hknown, f, last, hsame.trans hbackend, hholds, sound, hfiled⟩
  · rw [hbackend] at hsaved
    exact secured_filed hcoherent hhomed hknown hholds hsaved

/-- When a file is restored, all its panels are secured. -/
theorem restore_secures (hc : c.Coherent) (homed : c.store.Homed) {f : StateFile α}
    (hbackend : c.backend = some f) {saved : Snapshot α} (holds : f.Holds path number saved)
    (readable : StateFile.ofDocument? number (StateFile.document number saved) = some saved)
    (sound : saved.Sound) :
    c.restore.1 = saved.panels.length ∧ c.restore.2.Secured path number (· ∈ saved.panels) := by
  obtain ⟨hresult, hstate⟩ := holds.restore readable sound.version
  have hfound : c.restorable = some saved := by
    rw [restorable, hbackend, Option.bind_some, hresult]
    exact if_pos sound.version
  have hsaved := restore_backend hfound
  rw [hbackend, Option.map_some, hstate] at hsaved
  refine ⟨?_, secured_filed (restore_coherent hc hfound).1 (restore_homed hfound homed)
    (fun p hp => restore_keeps hfound sound hp) holds hsaved⟩
  obtain ⟨lines, d, journal, _, hr⟩ := restore_eq hfound
  rw [hr, List.filter_eq_self.mpr sound.homed]

end Securing

end Coordinator

/-! ## The run -/

namespace CommandLine

open Log (Line)

namespace Progress

/-- The coordinator at the next instant. -/
def started (p : Progress) : Session :=
  p.session.during { p.session.moment with token := p.session.moment.token + 1 }

/-- The coordinator when an action has been carried out, before what it did goes to the log. -/
def acted (p : Progress) (action : Action Float) : Session := (p.started.execute action).2

section Applying

variable {p : Progress}

theorem apply_of_brokenOff (h : p.brokenOff = true) (a : Action Float) : p.apply a = p := by
  rw [apply, if_pos h]

theorem foldl_of_brokenOff (h : p.brokenOff = true) (actions : List (Action Float)) :
    actions.foldl Progress.apply p = p := by
  induction actions with
  | nil => rfl
  | cons a rest ih => rw [List.foldl_cons, apply_of_brokenOff h, ih]

/-- Unless the run has broken off, the action is carried out, and the run breaks off if the action
does. -/
theorem apply_of_not_brokenOff (h : p.brokenOff = false) (a : Action Float) :
    (p.apply a).session = { p.acted a with journal := [] } ∧
      ((p.apply a).brokenOff = true ↔ (p.started.execute a).1 = .brokenOff) := by
  have hanswer : ∀ answer session, p.started.execute a = (answer, session) →
      (p.apply a).session = { session with journal := [] } ∧
        ((p.apply a).brokenOff = true ↔ answer = .brokenOff) := by
    intro answer session hexecute
    rw [started, Coordinator.during] at hexecute
    rw [apply, if_neg (Bool.eq_false_iff.mp h)]
    dsimp only
    rw [hexecute]
    cases answer with
    | brokenOff => exact ⟨rfl, iff_of_true rfl rfl⟩
    | done => exact ⟨rfl, iff_of_false (Bool.eq_false_iff.mp h) (by simp)⟩
    | refused => exact ⟨rfl, iff_of_false (Bool.eq_false_iff.mp h) (by simp)⟩
  exact hanswer _ _ rfl

/-- Only introducing a panel can break the run off. -/
theorem foldl_not_brokenOff (actions : List (Action Float)) (h : p.brokenOff = false)
    (known : ∀ a ∈ actions, a.isRegistration = false) :
    (actions.foldl Progress.apply p).brokenOff = false := by
  induction actions generalizing p with
  | nil => exact h
  | cons a rest ih =>
      refine ih ?_ (fun b hb => known b (List.mem_cons_of_mem _ hb))
      rw [Bool.eq_false_iff, ne_eq, (apply_of_not_brokenOff h a).2]
      intro hbroken
      have hregistration := Coordinator.isRegistration_of_brokenOff hbroken
      rw [known a List.mem_cons_self] at hregistration
      cases hregistration

end Applying

/-! ### Before the saved panels are restored -/

/-- So many panels have been introduced at most. No save has been asked for yet, and nothing is left
in the journal. The orders are given out one after the other, so the run has not broken off unless
there are more panels than words. -/
structure Waits (p : Progress) (f : StateFile Float) (count : Nat) : Prop where
  coherent : p.session.Coherent
  homed : p.session.store.Homed
  backend : p.session.backend = some f
  drained : p.session.journal = []
  orders : p.session.store.OrdersBelow count
  words : p.brokenOff = true → UInt32.size < count

section Introducing

variable {p : Progress} {f : StateFile Float} {count : Nat}

/-- An action that introduces a panel touches no file. -/
theorem Waits.acted (h : p.Waits f count) {r : Action Float} (hr : r.isRegistration = true) :
    (p.acted r).backend = some f ∧
      ∀ snapshot accepted, Effect.write snapshot accepted ∉ (p.acted r).journal := by
  rw [Progress.acted]
  generalize hstarted : p.started = started
  obtain ⟨hbackend, es, hjournal, hes⟩ := Coordinator.execute_registration (c := started) hr
  have hempty : started.journal = [] := hstarted ▸ h.drained
  have hsame : started.backend = some f := hstarted ▸ h.backend
  refine ⟨hbackend.trans hsame, fun snapshot accepted => ?_⟩
  rw [hjournal, hempty]
  exact hes snapshot accepted

/-- It takes one order more, unless there is none. -/
theorem Waits.acted_orders (h : p.Waits f count) {r : Action Float} (hr : r.isRegistration = true) :
    (p.acted r).store.OrdersBelow (count + 1) ∧
      ((p.started.execute r).1 = .brokenOff → UInt32.size ≤ count) := by
  cases r with
  | registerPanel id title dock content =>
      have hkeyed : p.session.store.Keyed := fun _ _ hp => h.coherent.paired.record_named hp
      obtain ⟨filled, es, hexecute, _⟩ := p.started.execute_registerPanel_eq id title dock content
      refine ⟨?_, fun hbroken => ?_⟩
      · rw [Progress.acted, hexecute]
        exact h.orders.create hkeyed _ id dock rfl
      · have hfull := (Coordinator.registerPanel_eq_brokenOff_iff _ id title dock _).mp hbroken
        exact h.orders.size_le hfull.2
  | _ => cases hr

theorem Waits.apply (h : p.Waits f count) {r : Action Float} (hr : r.isRegistration = true) :
    (p.apply r).Waits f (count + 1) := by
  by_cases hbroken : p.brokenOff = true
  · rw [apply_of_brokenOff hbroken]
    exact ⟨h.coherent, h.homed, h.backend, h.drained,
      fun i q hq => Nat.lt_succ_of_lt (h.orders i q hq), fun hb => Nat.lt_succ_of_lt (h.words hb)⟩
  · have hduring : p.started.Coherent := h.coherent.during _
    have hacted : (p.acted r).Coherent :=
      (Coordinator.perform_aftermath hduring (.action r)).coherent hduring
    obtain ⟨horders, hwords⟩ := h.acted_orders hr
    obtain ⟨hsession, hbreaks⟩ := apply_of_not_brokenOff (Bool.eq_false_iff.mpr hbroken) r
    refine ⟨?_, ?_, ?_, ?_, ?_, fun hb => Nat.lt_succ_of_le (hwords (hbreaks.mp hb))⟩
    all_goals rw [hsession]
    · exact hacted.aside _ _ _ _
    · exact Coordinator.execute_homed hduring h.homed r
    · exact (h.acted hr).1
    · exact horders

theorem Waits.foldl (registrations : List (Action Float)) (h : p.Waits f count)
    (hr : ∀ r ∈ registrations, r.isRegistration = true) :
    (registrations.foldl Progress.apply p).Waits f (count + registrations.length) := by
  induction registrations generalizing p count with
  | nil => exact h
  | cons r rest ih =>
      rw [List.length_cons, Nat.add_comm rest.length, ← Nat.add_assoc]
      exact ih (h.apply (hr r List.mem_cons_self)) (fun a ha => hr a (List.mem_cons_of_mem _ ha))

end Introducing

/-! ### After they have been -/

section Securing

variable {p : Progress} {path : String} {safe : Panel Float → Prop}

theorem secured_foldl (actions : List (Action Float))
    (h : p.session.Secured path Json.floatCodec safe)
    (spared : ∀ a ∈ actions, ∀ q, safe q → a ≠ .destroyPanel q.id) :
    (actions.foldl Progress.apply p).session.Secured path Json.floatCodec safe := by
  induction actions generalizing p with
  | nil => exact h
  | cons a rest ih =>
      refine ih ?_ (fun b hb => spared b (List.mem_cons_of_mem _ hb))
      by_cases hbroken : p.brokenOff = true
      · rw [apply_of_brokenOff hbroken]
        exact h
      · -- another instant before the action, and an empty journal after it
        rw [(apply_of_not_brokenOff (Bool.eq_false_iff.mpr hbroken) a).1]
        exact ((h.aside _ p.session.journal).execute (spared a List.mem_cons_self)).aside _ []

theorem ending_of_not_brokenOff (h : p.brokenOff = false) (files : FileTree) (restored : Nat) :
    let report := Report.of p.session restored p.executed p.rejected
    let ending := p.ending files restored
    ending.exitCode = 0 ∧
      ending.output = Json.printed Json.indented (report.encode Json.floatCodec) ++ "\n" ∧
      ending.files = p.filesLeft files := by
  intro report ending
  have hending : ending = _ := if_neg (Bool.eq_false_iff.mp h)
  rw [hending]
  exact ⟨rfl, rfl, rfl⟩

/-- What is secured is listed in the report, and is in the file that is left behind. -/
theorem secured_kept (h : p.session.Secured path Json.floatCodec safe) (files : FileTree)
    (restored : Nat) : ∃ last, (p.filesLeft files).Works path ∧
      (p.filesLeft files).read path = .ok (StateFile.document Json.floatCodec last) ∧ last.Sound ∧
      ∀ q, safe q →
        ((Report.of p.session restored p.executed p.rejected).encode Json.floatCodec).Lists q ∧
          ∃ r ∈ last.panels, q.SameOrigin r := by
  obtain ⟨_, _, known, f, last, hbackend, holds, sound, hfiled⟩ := h
  have hfiles : p.filesLeft files = f.files := by rw [filesLeft, hbackend]
  rw [hfiles]
  refine ⟨last, holds.works, holds.text, sound, fun q hq => ⟨?_, hfiled q hq⟩⟩
  obtain ⟨r, hr, hqr⟩ := known q hq
  exact (Report.lists (Store.mem_list_all hr)).of_sameOrigin hqr

end Securing

end Progress

/-- A state file as an earlier run leaves it: it works, it holds a sound snapshot, and its text
reads back as it was written. -/
structure Inherited (files : FileTree) (path : String) (saved : Snapshot Float) : Prop where
  works : files.Works path
  text : files.read path = .ok (StateFile.document Json.floatCodec saved)
  readable :
      StateFile.ofDocument? Json.floatCodec (StateFile.document Json.floatCodec saved) = some saved
  sound : saved.Sound

section Run

variable {world : World} {files : FileTree} {a : Arguments} {s : Settings Float}

/-- Panels are introduced, then the saved ones are restored, and then all else is done. -/
theorem replay_eq {registrations actions : List (Action Float)}
    (h : readScript world files a = .ok (registrations, actions)) :
    let introduced := registrations.foldl Progress.apply (opening world files a s)
    replay world files a s =
      (actions.foldl Progress.apply introduced.restore.2).ending files introduced.restore.1 := by
  rw [replay]
  dsimp only
  rw [h]

theorem opening_waits {path : String} (enabled : s.saving.enabled = true)
    (persists : a.noPersist = false) (located : statePath? world a s = some path) :
    (opening world files a s).Waits { path, files, number := Json.floatCodec } 0 := by
  rw [opening, enabled, persists]
  dsimp only
  rw [Bool.not_false, Bool.and_self, if_pos rfl, located]
  exact ⟨(Coordinator.coherent_ofSettings _ _ _).aside _ _ _ _, Store.homed_empty, rfl, rfl,
    Store.ordersBelow_empty, fun h => Bool.noConfusion h⟩

/-- **A run keeps the layout of the runs before it.** Panels are saved, and an earlier run has left
a state file. Of a script that can be read, all actions that introduce panels come first: none of
them touches the file or asks for anything to be written, and the file is restored when they are
done. In the end the report on what is there then is printed, and whoever reads the text gets the
report back. Every saved panel that the script does not destroy is listed in it and is in the file,
with the title, the dock, the order and the time of creation that the file had; and as far as its
text reads back, the next run inherits the file.

Only a script that introduces more panels than there are words does not come to its end: the program
breaks off when it has no order left, and the file is as it was. -/
theorem replay_keeps_saved_panels {path : String} {saved : Snapshot Float}
    {script : List (Action Float)} (enabled : s.saving.enabled = true)
    (persists : a.noPersist = false) (located : statePath? world a s = some path)
    (inherited : Inherited files path saved)
    (parsed : readScript world files a = .ok (Script.split script)) :
    let registrations := script.filter Action.isRegistration
    let introduced := registrations.foldl Progress.apply (opening world files a s)
    let restored := introduced.restore.1
    let done := (script.filter (!·.isRegistration)).foldl Progress.apply introduced.restore.2
    let report :=
      (Report.of done.session restored done.executed done.rejected).encode Json.floatCodec
    let ending := replay world files a s
    ending = done.ending files restored ∧
    (∀ before r after, registrations = before ++ r :: after →
      let c := (before.foldl Progress.apply (opening world files a s)).acted r
      c.backend = some { path, files, number := Json.floatCodec } ∧
        ∀ snapshot accepted, Effect.write snapshot accepted ∉ c.journal) ∧
    (introduced.brokenOff = true → UInt32.size < registrations.length ∧
      ending.exitCode = brokenOffCode ∧ ending.files = files) ∧
    (introduced.brokenOff = false →
      ending.exitCode = 0 ∧ ending.output = Json.printed Json.indented report ++ "\n" ∧
      Json.read? ending.output = some report ∧ restored = saved.panels.length ∧
      ∃ last : Snapshot Float,
        ending.files.read path = .ok (StateFile.document Json.floatCodec last) ∧
        (StateFile.ofDocument? Json.floatCodec (StateFile.document Json.floatCodec last) =
          some last → Inherited ending.files path last) ∧
        ∀ p ∈ saved.panels, Action.destroyPanel p.id ∉ script →
          report.Lists p ∧ ∃ q ∈ last.panels, p.SameOrigin q) := by
  intro registrations introduced restored done report ending
  have hsplit : Script.split script = (registrations, script.filter (!·.isRegistration)) :=
    List.partition_eq_filter_filter ..
  have hopening : (opening world files a s).Waits { path, files, number := Json.floatCodec } 0 :=
    opening_waits enabled persists located
  have hregistrations : ∀ r ∈ registrations, r.isRegistration = true :=
    fun r hr => (List.mem_filter.mp hr).2
  have hending : ending = done.ending files restored := replay_eq (parsed.trans (congrArg _ hsplit))
  have hintroduced := hopening.foldl registrations hregistrations
  rw [Nat.zero_add] at hintroduced
  refine ⟨hending, fun before r after hat => ?_, fun hbroken => ?_, fun hwhole => ?_⟩
  · rw [hat] at hregistrations
    have hbefore := hopening.foldl before (fun b hb => hregistrations b (List.mem_append_left _ hb))
    exact hbefore.acted (hregistrations r (List.mem_append_right _ List.mem_cons_self))
  · have hrestore : introduced.restore = (0, introduced) := by rw [Progress.restore, if_pos hbroken]
    have hdone : done = introduced := by
      show (script.filter _).foldl Progress.apply introduced.restore.2 = introduced
      rw [hrestore, Progress.foldl_of_brokenOff hbroken]
    rw [hending, hdone, Progress.ending, if_pos hbroken, Progress.filesLeft, hintroduced.backend]
    exact ⟨hintroduced.words hbroken, rfl, rfl⟩
  · -- the saved panels are secured from when they are restored
    have hholds :
        StateFile.Holds { path, files, number := Json.floatCodec } path Json.floatCodec saved :=
      ⟨rfl, rfl, inherited.works, inherited.text⟩
    obtain ⟨hcount, hsecured⟩ := Coordinator.restore_secures hintroduced.coherent hintroduced.homed
      hintroduced.backend hholds inherited.readable inherited.sound
    have hrestore : introduced.restore =
        (introduced.session.restore.1, introduced.collect introduced.session.restore.2) := by
      rw [Progress.restore, if_neg (Bool.eq_false_iff.mp hwhole)]
    have hrestored : introduced.restore.2.session.Secured path Json.floatCodec
        (fun p => p ∈ saved.panels ∧ Action.destroyPanel p.id ∉ script) := by
      rw [hrestore]
      exact (hsecured.aside introduced.session.restore.2.moment []).only (fun p hp => hp.1)
    have hdone : done.session.Secured path Json.floatCodec
        (fun p => p ∈ saved.panels ∧ Action.destroyPanel p.id ∉ script) := by
      refine Progress.secured_foldl _ hrestored (fun b hb q hq => ?_)
      rintro rfl
      exact hq.2 (List.mem_filter.mp hb).1
    have hcomplete : done.brokenOff = false := by
      refine Progress.foldl_not_brokenOff _ ?_
        (fun b hb => by simpa using (List.mem_filter.mp hb).2)
      rw [hrestore]
      exact hwhole
    obtain ⟨hexit, houtput, hfiles⟩ := Progress.ending_of_not_brokenOff hcomplete files restored
    obtain ⟨last, works, text, sound, hkept⟩ := Progress.secured_kept hdone files restored
    rw [hending, hexit, houtput, hfiles]
    exact ⟨rfl, rfl, Report.read?_printed _, (congrArg Prod.fst hrestore).trans hcount, last, text,
      fun readable => ⟨works, text, readable, sound⟩, fun p hp hspared => hkept p ⟨hp, hspared⟩⟩

end Run

/-! ## A second run -/

namespace SecondRun

/-- A folder with nothing in it but a state file. -/
def folder (text : String) : FileTree :=
  (FileTree.bare []).set ["panels.json"] (some (.file (some text)))

/-- Whatever is put into the file, nothing else is left behind. -/
theorem folder_replace (text next : String) :
    (folder text).replace "panels.json" next = (folder next, .renamed) := by
  have hparent : Path.parent? "panels.json" = some "" := by decide +kernel
  have htemporary : Path.temporary "panels.json" = "panels.json.tmp" := by decide +kernel
  have hsteps : ∀ path ∈ ["panels.json", "panels.json.tmp"], path.isEmpty = false ∧
      path.toList.any (· = '\x00') = false ∧ Path.isAbsolute path = false ∧
      FileTree.steps path = [path] := by
    decide +kernel
  obtain ⟨hfile, hbeside, _⟩ := List.forall_mem_cons.mp hsteps |>.imp_right List.forall_mem_cons.mp
  have hrenamed : (folder text).replace "panels.json" next =
      ((((folder text).set ["panels.json.tmp"] (some (.file (some next)))).set
        ["panels.json.tmp"] none).set
        ["panels.json"] (some (.file (some next))), .renamed) := by
    simp [FileTree.replace, hparent, htemporary, FileTree.createFolders?, FileTree.write?,
      FileTree.rename?,
      FileTree.place?, FileTree.walk, FileTree.admitsFile, folder, FileTree.bare, FileTree.set,
      hfile, hbeside]
  have hnode : ∀ p, ((((folder text).set ["panels.json.tmp"] (some (.file (some next)))).set
      ["panels.json.tmp"] none).set ["panels.json"] (some (.file (some next)))).node p =
        (folder next).node p := by
    intro p
    simp only [FileTree.node_set, folder, FileTree.bare]
    split
    · rfl
    · split <;> simp_all
  rw [hrenamed]
  exact congrArg (fun node => (FileTree.mk node [] (fun _ => false), FileTree.Replacement.renamed))
    (funext hnode)

theorem folder_works (text : String) : (folder text).Works "panels.json" := by
  intro texts
  induction texts generalizing text with
  | nil => exact fun next => by rw [List.foldl_nil, folder_replace]; rfl
  | cons first rest ih => rw [List.foldl_cons, folder_replace]; exact ih first

/-- A panel in a window. -/
def tools : Panel Float where
  id := ⟨"tools"⟩
  title := "Tools"
  placement := .floating
  dock := "left"
  position := some { x := 320.5, y := 90 }
  size := some { width := 400, height := 300 }
  zIndex := some 1000
  visible := true
  mounted := false
  order := 3
  createdAt := SmallRun.clock.now
  lastUpdated := SmallRun.clock.now

/-- What the first run has left. -/
def left : Snapshot Float := { version := 1, savedAt := SmallRun.clock.now, panels := [tools] }

/-- The panel is introduced by another title and in another dock, and docked. -/
def script : List (Action Float) :=
  [.dock tools.id, .registerPanel tools.id "Instruments" "right" none]

def world : World where
  files := folder (StateFile.document Json.floatCodec left)
  environment := { home := none, configHome := none, dataHome := none }
  input := some
    "\x7b\"Dock\":\"tools\"\x7d\n\x7b\"RegisterPanel\":[\"tools\",\"Instruments\",\"right\"]\x7d"
  moment := SmallRun.clock

def arguments : Arguments := { state := some "panels.json" }

/-- To read a document is to read its characters. -/
theorem read?_ofList (cs : List Char) : Json.read? (String.ofList cs) =
    (Json.value? (2 * cs.length + 2) cs).bind (fun (value, rest) =>
      if Json.skipSpace rest = [] then some value else none) := by
  rw [Json.read?, String.toList_ofList]
  dsimp only
  cases Json.value? (2 * cs.length + 2) cs with
  | none => rfl
  | some found => rfl

theorem inherited_left : Inherited world.files "panels.json" left where
  works := folder_works _
  text := by
    refine FileTree.read_eq_ok_iff.mpr ⟨["panels.json"], ?_, rfl⟩
    rfl
  readable := by
    rw [StateFile.ofDocument?, StateFile.document, Json.printed, read?_ofList]
    decide +kernel
  sound := ⟨rfl, by decide, by decide⟩

end SecondRun

open SecondRun in
/-- The panel is in its dock again, under the title that the first run gave it. -/
theorem tools_are_kept : readScript world world.files arguments = .ok (Script.split script) ∧
    Inherited world.files "panels.json" left ∧
    ∃ (report : Json) (last : Snapshot Float),
      Json.read? (replay world world.files arguments .standard).output = some report ∧
      (replay world world.files arguments .standard).files.read "panels.json" =
        .ok (StateFile.document Json.floatCodec last) ∧
      report.Lists tools ∧ ∃ q ∈ last.panels, tools.SameOrigin q := by
  have hread : (readScript world world.files arguments).toOption = some (Script.split script) := by
    decide +kernel
  have hparsed : readScript world world.files arguments = .ok (Script.split script) := by
    cases hr : readScript world world.files arguments with
    | error fault =>
        rw [hr] at hread
        cases hread
    | ok read =>
        rw [hr] at hread
        exact congrArg _ (Option.some.inj hread)
  obtain ⟨_, _, hbroken, hwhole⟩ :=
    replay_keeps_saved_panels (a := arguments) (s := .standard) rfl rfl rfl inherited_left hparsed
  have hsurvives : ((script.filter Action.isRegistration).foldl Progress.apply
      (opening world world.files arguments .standard)).brokenOff = false := by
    -- one panel is introduced, and there are more words than that
    refine Bool.eq_false_iff.mpr (fun hb => absurd (hbroken hb).1 ?_)
    decide
  obtain ⟨_, _, hreport, _, last, hlast, _, hkept⟩ := hwhole hsurvives
  exact ⟨hparsed, inherited_left, _, last, hreport, hlast,
    hkept tools List.mem_cons_self (by decide)⟩

end CommandLine

end PanelDock
