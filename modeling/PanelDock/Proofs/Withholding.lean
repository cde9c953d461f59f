import PanelDock.Proofs.Confinement
import PanelDock.Proofs.Retelling
import PanelDock.Proofs.Saving
/-!
# What is saved while panels are saved on request only

A coordinator can be told not to save after changes of place, but on request only. One occasion
escapes that: a restore that finds a snapshot saves at its end, whatever the settings say. It is the
only one. A run has saved once for each request that found a backend, and once for each restore that
found a snapshot, and in between the backend is left alone, but for being asked what it has.
-/

namespace PanelDock.Coordinator

variable {α β : Type} [Coordinate α] [Backend β α] {c : Coordinator α β}

/-! ## One command -/

/-- The command is a request to save, and there is a backend for it. -/
def savesNow (c : Coordinator α β) (command : Command α β) : Bool :=
  command.savesAll && c.backend.isSome

/-- The command is to restore, and there is a snapshot for it. -/
def restoresNow (c : Coordinator α β) (command : Command α β) : Bool :=
  command.restores && c.restorable.isSome

/-- The backend when a command has asked it for what it has, if it does. -/
def consulted (c : Coordinator α β) (command : Command α β) : Option β :=
  if command.restores then c.backend.map (fun backend => (Backend.restore backend).state)
    else c.backend

/-- A command writes the panels if `writing` says so, as they are when it is done, and is else
nothing to the backend but maybe a question. -/
structure Writes (writing : Bool) (c : Coordinator α β) (command : Command α β)
    (d : Coordinator α β) : Prop where
  written : written d.journal =
    written c.journal ++ if writing then [d.store.snapshot c.moment.now] else []
  backend : (∀ other, command ≠ .request (.attach other)) →
    d.backend = if writing then filed (c.consulted command) (d.store.snapshot c.moment.now)
      else c.consulted command

omit [Coordinate α] in
/-- What is saved is written once. -/
theorem written_save {backend : β} (hb : c.backend = some backend) (occasion : Occasion) :
    written (c.save occasion).2.journal = written c.journal ++ [c.store.snapshot c.moment.now] := by
  have hwritten : ∀ n : Notice α,
      written ((c.journal ++ ((Backend.save backend (c.store.snapshot c.moment.now)).notices ++
        [.write (c.store.snapshot c.moment.now)
          (Backend.save backend (c.store.snapshot c.moment.now)).result.isOk])) ++ [.notice n]) =
        written c.journal ++ [c.store.snapshot c.moment.now] := by
    intro n
    rw [written_append, written_append, written_append, written_quiet (notices_quiet _),
      written_quiet (quiet_notice n), List.append_nil]
    rfl
  rw [save, hb]
  dsimp only
  split
  · exact hwritten _
  · exact hwritten _

omit [Backend β α] in
/-- Rebuilding windows takes no time, and writes nothing. -/
theorem rebuild_withholds (keyed : c.store.Keyed) :
    c.rebuild.2.moment = c.moment ∧ written c.rebuild.2.journal = written c.journal := by
  constructor
  · refine rebuild_keeps (P := fun e => e.moment = c.moment) ?_ ?_ rfl
    · intro e id he
      obtain ⟨content, journal, hd⟩ := discard_eq e id
      rw [hd]
      exact he
    · intro e p he
      obtain ⟨slot, content, journal, hd⟩ := reopen_eq e p
      rw [hd]
      exact he
  · obtain ⟨told, hretold⟩ := rebuild_tells keyed
    obtain ⟨es, hjournal, _, hunsaved⟩ := hretold.grows
    rw [hjournal, written_append, hunsaved, List.append_nil]

/-- A restore that finds a snapshot writes what has come of it. -/
theorem restore_writes (hc : c.Coherent) {snapshot : Snapshot α}
    (found : c.restorable = some snapshot) : Writes true c (.request .restore) c.restore.2 := by
  obtain ⟨backend, hb, _, _⟩ := restorable_eq_some found
  obtain ⟨es, n, _, hunsaved, hrestore⟩ := restore_steps found
  obtain ⟨hmoment, hquiet⟩ := rebuild_withholds (imported_keyed hc found (c.journal ++ es))
  have hasked := (rebuild_backend (c.imported snapshot (c.journal ++ es))).1
  generalize (c.imported snapshot (c.journal ++ es)).rebuild.2 = e at hrestore hmoment hquiet hasked
  have hbackend : (e.note n).backend = some (Backend.restore backend).state := by
    show e.backend = _
    rw [hasked]
    show c.backend.map _ = _
    rw [hb, Option.map_some]
  have hnow : (e.note n).moment.now = c.moment.now := congrArg Moment.now hmoment
  -- it is saved at the very end, so it is the panels as they are then that are written
  have hwritten := written_save hbackend .restore
  have hfiled := save_backend (e.note n) .restore
  obtain ⟨saved, journal, hsave⟩ := save_eq (e.note n) .restore
  rw [← hrestore] at hwritten hfiled hsave
  have hstore : c.restore.2.store = (e.note n).store := by rw [hsave]
  rw [hnow, ← hstore] at hwritten hfiled
  refine ⟨?_, fun _ => ?_⟩
  · rw [hwritten]
    have hbefore : written (e.note n).journal = written c.journal := by
      show written (e.journal ++ [.notice n]) = _
      rw [written_append, written_quiet (quiet_notice n), List.append_nil, hquiet]
      show written (c.journal ++ es) = _
      rw [written_append, hunsaved, List.append_nil]
    rw [hbefore]
    rfl
  · rw [hfiled, hbackend, consulted, hb]
    rfl

omit [Coordinate α] in
/-- A request to save writes the panels, if there is a backend. -/
theorem written_saveAll (c : Coordinator α β) : written c.saveAll.2.journal =
    written c.journal ++ if c.backend.isSome then [c.store.snapshot c.moment.now] else [] := by
  rw [saveAll]
  cases hb : c.backend with
  | none =>
      show written (c.journal ++ [.notice .nowhereToSave]) = _
      rw [written_append, written_quiet (quiet_notice _)]
      rfl
  | some backend => exact written_save hb .saveAll

/-- An action to save only adds a line before. -/
theorem saveAll_writes {command : Command α β} (asks : command.savesAll = true) :
    Writes (c.savesNow command) c command (c.perform command).2 := by
  have hkept := Command.restores_of_savesAll asks
  have hnamed : ∃ es, (∀ x ∈ es, x.isNotice = true) ∧
      (c.perform command).2 = (c.record es).saveAll.2 := by
    cases command with
    | request k =>
        cases k with
        | saveAll => exact ⟨[], quiet_nil, by rw [record_nil]; rfl⟩
        | _ => cases asks
    | action a =>
        cases a with
        | saveAll => exact ⟨[.notice (.executing Action.saveAll.label)], quiet_notice _, rfl⟩
        | _ => cases asks
  obtain ⟨es, quiet, hperform⟩ := hnamed
  have hwritten := written_saveAll (c.record es)
  obtain ⟨journal, hsave⟩ := saveAll_eq (c.record es)
  have hstore : (c.record es).saveAll.2.store = c.store := by rw [hsave]; rfl
  rw [savesNow, asks, Bool.true_and, hperform]
  refine ⟨?_, fun _ => ?_⟩
  · rw [hwritten, hstore]
    show written (c.journal ++ es) ++ _ = _
    rw [written_append, written_quiet quiet, List.append_nil]
    rfl
  · have hasked : c.consulted command = c.backend := by
      rw [consulted, hkept]
      rfl
    rw [hasked, hstore, hsave]
    show filed c.backend _ = _
    cases hb : c.backend <;> rfl

/-- Any other command leaves the backend alone. -/
theorem other_withholds (hc : c.Coherent) (off : c.saveOnTransition = false) {command : Command α β}
    (unasked : command.savesAll = false) (other : command.restores = false) :
    Writes false c command (c.perform command).2 := by
  -- what is written is known of each operation, what becomes of the backend of each change
  have hunsaved := (Confined.perform hc.paired other unasked).unsaved off
  refine ⟨by rw [hunsaved]; exact (List.append_nil _).symm, fun own => ?_⟩
  have hasked : c.consulted command = c.backend := by
    rw [consulted, other]
    rfl
  show _ = c.consulted command
  rw [hasked]
  have hafter := perform_aftermath hc command
  generalize (c.perform command).2 = d at hafter
  cases hafter with
  | aside stuck spent subscribers nextSubscriber journal =>
      show c.backendBy command = c.backend
      cases command with
      | request k =>
          cases k with
          | attach backend => exact absurd rfl (own backend)
          | restore => cases other
          | saveAll => cases unasked
          | _ => rfl
      | action a => cases a with | saveAll => cases unasked | _ => rfl
  | changed asks es h booked =>
      rw [booked, off, Bool.and_false]
      rfl
  | restored asks h =>
      rw [asks] at other
      cases other

/-- While panels are saved on request only, a command writes them if it asks for that or restores a
snapshot. -/
theorem perform_writes (hc : c.Coherent) (off : c.saveOnTransition = false)
    (command : Command α β) :
    Writes (c.savesNow command || c.restoresNow command) c command (c.perform command).2 := by
  cases hasks : command.savesAll with
  | true =>
      rw [restoresNow, Command.restores_of_savesAll hasks, Bool.false_and, Bool.or_false]
      exact saveAll_writes hasks
  | false =>
      rw [savesNow, hasks, Bool.false_and, Bool.false_or, restoresNow]
      cases hrestores : command.restores with
      | false => exact other_withholds hc off hasks hrestores
      | true =>
          obtain rfl := Command.eq_of_restores hrestores
          rw [Bool.true_and]
          cases hfound : c.restorable with
          | some snapshot => exact restore_writes hc hfound
          | none =>
              obtain ⟨es, quiet, hrestore⟩ := restore_refused hfound
              show Writes false c _ c.restore.2
              rw [hrestore]
              refine ⟨?_, fun _ => rfl⟩
              show written (c.journal ++ es) = _
              rw [written_append, written_quiet quiet]
              rfl

/-- Whether panels are saved after changes of place is settled from the start. -/
theorem perform_saving (hc : c.Coherent) (command : Command α β) :
    (c.perform command).2.saveOnTransition = c.saveOnTransition := by
  have hafter := perform_aftermath hc command
  generalize (c.perform command).2 = d at hafter
  cases hafter with
  | aside stuck spent subscribers nextSubscriber journal => rfl
  | changed asks es h booked => exact h.saveOnTransition_eq
  | restored asks h =>
      obtain ⟨lines, e, journal, he, hrestore⟩ := restore_eq h
      rw [hrestore, he]
      exact (rebuild_backend (c.imported _ lines)).2

/-! ## A run -/

/-- How many commands of a run are of some kind, each in the state that it finds. -/
def tally (kind : Coordinator α β → Command α β → Bool) (c : Coordinator α β) :
    List (Moment × Command α β) → Nat
  | [] => 0
  | (moment, command) :: rest =>
    (kind (c.during moment) command).toNat + tally kind ((c.during moment).perform command).2 rest

omit [Coordinate α] in
/-- No command both asks to save and restores. -/
theorem savesNow_restoresNow (c : Coordinator α β) (command : Command α β) :
    (c.savesNow command && c.restoresNow command) = false := by
  cases hasks : command.savesAll with
  | false => rw [savesNow, hasks, Bool.false_and, Bool.false_and]
  | true => rw [restoresNow, Command.restores_of_savesAll hasks, Bool.false_and, Bool.and_false]

omit [Coordinate α] in
theorem Writes.length {command : Command α β} {d : Coordinator α β}
    (h : Writes (c.savesNow command || c.restoresNow command) c command d) :
    (PanelDock.written d.journal).length = (PanelDock.written c.journal).length +
      ((c.savesNow command).toNat + (c.restoresNow command).toNat) := by
  have hone := savesNow_restoresNow c command
  rw [h.written, List.length_append]
  cases hasks : c.savesNow command with
  | false => cases c.restoresNow command <;> rfl
  | true =>
      rw [hasks, Bool.true_and] at hone
      rw [hone]
      rfl

theorem run_writes (hc : c.Coherent) (off : c.saveOnTransition = false)
    (steps : List (Moment × Command α β)) :
    (c.run steps).saveOnTransition = false ∧ (written (c.run steps).journal).length =
      (written c.journal).length + (c.tally savesNow steps + c.tally restoresNow steps) := by
  induction steps generalizing c with
  | nil => exact ⟨off, rfl⟩
  | cons step rest ih =>
      obtain ⟨moment, command⟩ := step
      have hduring := hc.during moment
      have hoff := (perform_saving hduring command).trans off
      obtain ⟨hsaving, hlength⟩ := ih ((perform_aftermath hduring command).coherent hduring) hoff
      refine ⟨hsaving, hlength.trans ?_⟩
      have hstep := (perform_writes hduring off command).length
      rw [hstep, tally, tally]
      have hjournal : (c.during moment).journal = c.journal := rfl
      rw [hjournal]
      omega

/-- **Besides requests, only restores save.** A coordinator that saves on request only has saved,
whatever was done, once for each request to save that found a backend, and once for each restore
that found a snapshot. Each of these writes the panels as they are when it is done. Every other
command leaves the backend that it finds alone; a restore that finds no snapshot has asked it. -/
theorem saved_on_request_or_restore (settings : Settings α)
    (off : settings.saving.saveOnTransition = false) (backend : Option β) (moment : Moment)
    (steps : List (Moment × Command α β)) :
    let start : Coordinator α β := ofSettings settings backend moment
    (written (start.run steps).journal).length =
      start.tally savesNow steps + start.tally restoresNow steps ∧
    ∀ now (command : Command α β),
      let e := (start.run steps).during now
      Writes (e.savesNow command || e.restoresNow command) e command (e.perform command).2 := by
  intro start
  have hstart : start.Coherent := coherent_ofSettings settings backend moment
  obtain ⟨hoff, hlength⟩ := run_writes hstart off steps
  have hnothing : written start.journal = [] :=
    written_quiet (Allocator.setFrontGap_quiet Allocator.fresh settings.stack.frontGap.toNat)
  refine ⟨?_, fun now command => ?_⟩
  · rw [hlength, hnothing]
    exact Nat.zero_add _
  · have hcoherent := ((Reachable.start settings backend moment).run steps).coherent
    exact perform_writes (hcoherent.during now) hoff command

open SmallRun in
/-- A panel flies out, the panels are saved on request, and then restored: they have been saved
twice. -/
theorem request_and_restore_save :
    let settings : Settings Int :=
      { Settings.standard with saving := { saveOnTransition := false } }
    let start := ofSettings settings (some ({} : Memory Int)) clock
    let steps :=
      [(clock, registerLog), (clock, flyOutLog), (clock, .request .saveAll),
        (clock, .request .restore)]
    settings.saving.saveOnTransition = false ∧ (written (start.run steps).journal).length = 2 ∧
      start.tally savesNow steps = 1 ∧ start.tally restoresNow steps = 1 := by
  intro settings start steps
  have hlength := (saved_on_request_or_restore settings rfl (some ({} : Memory Int)) clock steps).1
  have hasks : start.tally savesNow steps = 1 := by decide
  have hrestores : start.tally restoresNow steps = 1 := by decide
  refine ⟨rfl, ?_, hasks, hrestores⟩
  rw [hlength, hasks, hrestores]

open SmallRun in
/-- Nobody asks to save. Yet the snapshot that is restored is replaced by a later one. -/
theorem restore_saves_unasked :
    let settings : Settings Int :=
      { Settings.standard with saving := { saveOnTransition := false } }
    let saved := docked.store.snapshot ⟨⟨2020, 5, 1⟩, ⟨10, 20, 30, 0⟩, by decide, by decide⟩
    let start := ofSettings settings (some { snapshot := some saved : Memory Int }) clock
    let steps := [(clock, .request .restore)]
    settings.saving.saveOnTransition = false ∧ start.tally savesNow steps = 0 ∧
      (written (start.run steps).journal).length = 1 ∧
      start.backend.map (fun m => (m.saves, m.snapshot.map (·.savedAt))) =
        some (0, some saved.savedAt) ∧
      (start.run steps).backend.map (fun m => (m.saves, m.snapshot.map (·.savedAt))) =
        some (1, some clock.now) ∧
      saved.savedAt ≠ clock.now := by
  intro settings saved start steps
  exact ⟨rfl, by decide, by decide +kernel, by decide, by decide +kernel, by decide⟩

end PanelDock.Coordinator
