import PanelDock.Proofs.Files
/-!
# A file is replaced whole or not at all

Putting a text into a file takes up to five calls, and each of them may fail. `Course` lists what
can come of them. Until the temporary file takes the place of the file, or the text is written into
the file itself, nothing that was there before has changed: folders have been added, and the
temporary file. So a replacement that fails has kept the file as it was.

What it does not always do is clear up. The temporary file is taken away when it could not be moved
and the text was written into the file itself. When that fails too, the replacement ends at once and
the temporary file stays: `leaves_temporary_beside_folder` is the plainest case, a folder where the
file should be.
-/

namespace PanelDock.FileTree

variable {t t' : FileTree} {path text : String} {place : Place} {steps : List String}

/-! ## The place that a path names -/

/-- The place that a path names, whatever stands on the way. -/
def goal (t : FileTree) (path : String) : Place :=
  (FileTree.steps path).foldl beyond (if Path.isAbsolute path then [] else t.workingFolder)

theorem walk_foldl {r : Place} (h : t.walk place steps = .ok r) : r = steps.foldl beyond place := by
  induction steps generalizing place with
  | nil => exact (Except.ok.inj h).symm
  | cons step rest ih => exact ih (walk_cons_eq_ok.mp h).2

/-- A path leads nowhere but to the place that it names. -/
theorem goal_of_place? (h : t.place? path = .ok place) : place = t.goal path :=
  walk_foldl (place?_eq_ok h).2

/-! ## Trees with more in them -/

/-- One tree has all that another has, and nothing besides but folders. -/
structure Extends (t t' : FileTree) : Prop where
  kept : ∀ {p : Place} {n : Node}, t.node p = some n → t'.node p = some n
  added : ∀ {p : Place} {found : Option String}, t'.node p = some (.file found) →
      t.node p = some (.file found)
  workingFolder : t'.workingFolder = t.workingFolder
  refuses : t'.refuses = t.refuses

theorem Extends.refl (t : FileTree) : t.Extends t := ⟨id, id, rfl, rfl⟩

theorem Extends.trans {t'' : FileTree} (h : t.Extends t') (h' : t'.Extends t'') : t.Extends t'' :=
  ⟨fun hp => h'.kept (h.kept hp), fun hp => h.added (h'.added hp),
    h'.workingFolder.trans h.workingFolder, h'.refuses.trans h.refuses⟩

/-- What stands at a place is kept if something is put where nothing was. -/
theorem kept_set {other : Place} (empty : t.node other = none) (node : Option Node) {p : Place}
    {n : Node} (h : t.node p = some n) : (t.set other node).node p = some n := by
  have hne : p ≠ other := by
    rintro rfl
    rw [empty] at h
    cases h
  rw [node_set, if_neg hne, h]

theorem extends_set (empty : t.node place = none) : t.Extends (t.set place (some .folder)) := by
  refine ⟨kept_set empty _, fun {p found} h => ?_, rfl, rfl⟩
  rw [node_set] at h
  split at h
  · cases h
  · exact h

/-- To make folders adds folders. -/
theorem extends_addFolders (h : t.addFolders place steps = some t') : t.Extends t' := by
  induction steps generalizing t place with
  | nil =>
      rw [addFolders] at h
      split at h
      · exact Option.some.inj h ▸ Extends.refl t
      · cases h
      · rename_i hempty
        exact Option.some.inj h ▸ extends_set hempty
  | cons step rest ih =>
      rw [addFolders] at h
      split at h
      · cases h
      · have hmade :
            t.Extends (if (t.node place).isNone then t.set place (some .folder) else t) := by
          split
          · rename_i hempty
            exact extends_set (Option.isNone_iff_eq_none.mp hempty)
          · exact Extends.refl t
        dsimp only at h
        split at h
        · exact hmade.trans (ih h)
        · split at h
          · exact hmade.trans (ih h)
          · exact hmade.trans (ih h)

theorem extends_createFolders? (h : t.createFolders? path = some t') : t.Extends t' := by
  rw [createFolders?] at h
  split at h
  · exact Option.some.inj h ▸ Extends.refl t
  · split at h
    · cases h
    · exact extends_addFolders h

/-- A path leads where it led, if nothing was taken away. -/
theorem walk_kept (kept : ∀ p n, t.node p = some n → t'.node p = some n) {r : Place}
    (h : t.walk place steps = .ok r) : t'.walk place steps = .ok r := by
  induction steps generalizing place with
  | nil => exact h
  | cons step rest ih =>
      obtain ⟨hfolder, hrest⟩ := walk_cons_eq_ok.mp h
      exact walk_cons_eq_ok.mpr ⟨kept _ _ hfolder, ih hrest⟩

theorem find?_kept (kept : ∀ p n, t.node p = some n → t'.node p = some n)
    (same : t'.workingFolder = t.workingFolder) {n : Node} (h : t.find? path = some n) :
    t'.find? path = some n := by
  rw [find?] at h
  cases hplace : t.place? path with
  | error fault =>
      rw [hplace] at h
      cases h
  | ok place =>
      rw [hplace] at h
      have hplace' : t'.place? path = .ok place := by
        rw [place?] at hplace ⊢
        split at hplace
        · cases hplace
        · rename_i hne
          rw [if_neg hne]
          split at hplace
          · cases hplace
          · rename_i hclean
            rw [if_neg hclean, same]
            exact walk_kept kept hplace
      rw [find?, hplace']
      exact kept _ _ h

/-! ## Calls that work -/

/-- A file may be put where the path leads. -/
def Admits (t : FileTree) (path : String) : Prop :=
  ∃ place, t.place? path = .ok place ∧ t.admitsFile place = true

theorem write?_of_place? (h : t.place? path = .ok place) (text : String) : t.write? path text =
    if t.refuses (.write path) || !t.admitsFile place then none
    else some (t.set place (some (.file (some text)))) := by
  rw [write?, h]

theorem rename?_of_place? {source : Place} {target : String} {found : Option String}
    (hsource : t.place? path = .ok source) (htarget : t.place? target = .ok place)
    (hfile : t.node source = some (.file found)) : t.rename? path target =
      if t.refuses (.rename path target) || !t.admitsFile place then none
      else some ((t.set source none).set place (some (.file found))) := by
  rw [rename?, hsource, htarget]
  dsimp only
  rw [hfile]

/-- Where a file was put, another may be put. -/
theorem admits_set (hplace : t.place? path = .ok place) (admits : t.admitsFile place = true)
    (found : Option String) : (t.set place (some (.file found))).Admits path := by
  refine ⟨place, place?_set (not_folder_of_admitsFile admits) _ hplace, ?_⟩
  simp only [admitsFile, Bool.and_eq_true, decide_eq_true_eq, beq_iff_eq] at admits ⊢
  obtain ⟨⟨hroot, habove⟩, _⟩ := admits
  have hne : place.dropLast ≠ place := fun he => by
    have hlength := congrArg List.length he
    rw [List.length_dropLast] at hlength
    have := List.length_pos_iff.mpr hroot
    omega
  refine ⟨⟨hroot, ?_⟩, ?_⟩
  · rw [node_set, if_neg hne, habove]
  · rw [node_set, if_pos rfl]
    simp

/-- Taking away a file does not close a place to another. -/
theorem admitsFile_set_none {source : Place} (hsource : t.node source ≠ some .folder)
    (admits : t.admitsFile place = true) : (t.set source none).admitsFile place = true := by
  simp only [admitsFile, Bool.and_eq_true, decide_eq_true_eq, beq_iff_eq] at admits ⊢
  obtain ⟨⟨hroot, habove⟩, hfree⟩ := admits
  have hne : place.dropLast ≠ source := by
    rintro rfl
    exact hsource habove
  refine ⟨⟨hroot, by rw [node_set, if_neg hne, habove]⟩, ?_⟩
  rw [node_set]
  split
  · simp
  · exact hfree

/-! ## What can come of the calls -/

/-- The tree with the temporary file, which stands at a place of its own. -/
structure Beside (t : FileTree) (path text : String) (source : Place)
    (beside : FileTree) : Prop where
  leads : beside.place? (Path.temporary path) = .ok source
  written : beside.node source = some (.file (some text))
  refuses : beside.refuses = t.refuses
  workingFolder : beside.workingFolder = t.workingFolder
  kept : ∀ p n, p ≠ source → t.node p = some n → beside.node p = some n
  apart : ∀ place, beside.place? path = .ok place → beside.node place ≠ some .folder →
      source ≠ place

/-- The ways in which a replacement can end. -/
inductive Course (t : FileTree) (path text : String) : FileTree × Replacement → Prop where
  | prevented {folders : FileTree} (h : t.Extends folders) :
      Course t path text (folders, .prevented)
  | renamed {beside : FileTree} {source place : Place} (h : Beside t path text source beside)
      (leads : beside.place? path = .ok place) (admits : beside.admitsFile place = true)
      (allowed : t.refuses (.rename (Path.temporary path) path) = false) :
      Course t path text ((beside.set source none).set place (some (.file (some text))), .renamed)
  | inPlace {beside : FileTree} {source place : Place} (h : Beside t path text source beside)
      (leads : beside.place? path = .ok place) (admits : beside.admitsFile place = true)
      (allowed : t.refuses (.write path) = false) :
      Course t path text
        (((beside.set place (some (.file (some text)))).remove? (Path.temporary path)).getD
        (beside.set place (some (.file (some text)))), .inPlace)
  | refused {beside : FileTree} {source : Place} (h : Beside t path text source beside)
      (stuck : ¬ beside.Admits path ∨ (t.refuses (.rename (Path.temporary path) path) = true ∧
        t.refuses (.write path) = true)) : Course t path text (beside, .refused)

theorem beside_write? {folders beside : FileTree} (h : t.Extends folders)
    (hw : folders.write? (Path.temporary path) text = some beside) :
    ∃ source, Beside t path text source beside := by
  obtain ⟨source, hsource, hfree, rfl⟩ := write?_eq_some hw
  have hleads := place?_set hfree (some (.file (some text))) hsource
  refine ⟨source, hleads, if_pos rfl, h.refuses, h.workingFolder, fun p n hp hn => ?_,
    fun place hplace hnode => ?_⟩
  · rw [node_set, if_neg hp]
    exact h.kept hn
  · exact place?_temporary_ne hplace hnode hleads

/-- A temporary file that does not move has no place to go, or is not let. -/
theorem Beside.rename?_eq_none {beside : FileTree} {source : Place}
    (h : Beside t path text source beside) (hr : beside.rename? (Path.temporary path) path = none) :
    ¬ beside.Admits path ∨ t.refuses (.rename (Path.temporary path) path) = true := by
  by_cases hadmits : beside.Admits path
  · obtain ⟨place, hplace, admits⟩ := hadmits
    rw [rename?_of_place? h.leads hplace h.written, admits, h.refuses] at hr
    simp only [Bool.not_true, Bool.or_false] at hr
    split at hr
    · rename_i hrefuses
      exact Or.inr hrefuses
    · cases hr
  · exact Or.inl hadmits

theorem write?_eq_none (hw : t.write? path text = none) :
    ¬ t.Admits path ∨ t.refuses (.write path) = true := by
  by_cases hadmits : t.Admits path
  · obtain ⟨place, hplace, admits⟩ := hadmits
    rw [write?_of_place? hplace, admits] at hw
    simp only [Bool.not_true, Bool.or_false] at hw
    split at hw
    · rename_i hrefuses
      exact Or.inr hrefuses
    · cases hw
  · exact Or.inl hadmits

theorem admits_of_write? (hw : t.write? path text = some t') :
    ∃ place, t.place? path = .ok place ∧ t.admitsFile place = true ∧
      t.refuses (.write path) = false ∧
      t' = t.set place (some (.file (some text))) := by
  obtain ⟨place, hplace, _, rfl⟩ := write?_eq_some hw
  rw [write?_of_place? hplace] at hw
  split at hw
  · cases hw
  · rename_i hfree
    simp only [Bool.or_eq_true, Bool.not_eq_true', not_or, Bool.not_eq_true,
      Bool.not_eq_false] at hfree
    exact ⟨place, hplace, hfree.2, hfree.1, rfl⟩

theorem Beside.admits_of_rename? {beside : FileTree} {source : Place}
    (h : Beside t path text source beside)
    (hr : beside.rename? (Path.temporary path) path = some t') :
    ∃ place, beside.place? path = .ok place ∧ beside.admitsFile place = true ∧
      t.refuses (.rename (Path.temporary path) path) = false ∧
      t' = (beside.set source none).set place (some (.file (some text))) := by
  obtain ⟨_, place, _, _, hplace, _, _, _⟩ := rename?_eq_some hr
  rw [rename?_of_place? h.leads hplace h.written, h.refuses] at hr
  split at hr
  · cases hr
  · rename_i hfree
    simp only [Bool.or_eq_true, Bool.not_eq_true', not_or, Bool.not_eq_true,
      Bool.not_eq_false] at hfree
    exact ⟨place, hplace, hfree.2, hfree.1, (Option.some.inj hr).symm⟩

/-- A replacement takes one of the four courses. -/
theorem replace_course (t : FileTree) (path text : String) :
    Course t path text (t.replace path text) := by
  rw [replace]
  split
  · exact .prevented (Extends.refl t)
  · rename_i folders hfolders
    have hextends : t.Extends folders := by
      split at hfolders
      · exact Option.some.inj hfolders ▸ Extends.refl t
      · exact extends_createFolders? hfolders
    dsimp only
    cases hwritten : folders.write? (Path.temporary path) text with
    | none => exact .prevented hextends
    | some beside =>
        obtain ⟨source, hbeside⟩ := beside_write? hextends hwritten
        dsimp only
        cases hrenamed : beside.rename? (Path.temporary path) path with
        | some renamed =>
            obtain ⟨place, hplace, admits, allowed, rfl⟩ := hbeside.admits_of_rename? hrenamed
            exact .renamed hbeside hplace admits allowed
        | none =>
            dsimp only
            cases hfile : beside.write? path text with
            | some written =>
                obtain ⟨place, hplace, admits, allowed, rfl⟩ := admits_of_write? hfile
                exact .inPlace hbeside hplace admits (by rw [← hbeside.refuses]; exact allowed)
            | none =>
                -- both calls have failed; had the path a place for a file, the system refused each
                -- of them
                refine .refused hbeside ?_
                rcases hbeside.rename?_eq_none hrenamed with hstuck | hrename
                · exact Or.inl hstuck
                · exact (write?_eq_none hfile).imp_right
                    (fun hwrite => ⟨hrename, hbeside.refuses ▸ hwrite⟩)

/-! ## Whole or not at all -/

variable {source : Place} {beside : FileTree}

theorem Beside.source_eq (h : Beside t path text source beside) :
    source = t.goal (Path.temporary path) := by
  rw [goal_of_place? h.leads, goal, goal, h.workingFolder]

/-- Where nothing was at the place of the temporary file, nothing is lost while it is written. -/
theorem Beside.kept_all (h : Beside t path text source beside)
    (alone : t.node (t.goal (Path.temporary path)) = none) (p : Place) (n : Node)
    (hn : t.node p = some n) : beside.node p = some n := by
  refine h.kept p n ?_ hn
  rintro rfl
  rw [h.source_eq, alone] at hn
  cases hn

/-- The temporary file is taken away once the text stands in the file itself. -/
theorem Beside.cleared (h : Beside t path text source beside)
    (removable : ∀ p, t.refuses (.remove p) = false) (leads : beside.place? path = .ok place)
    (admits : beside.admitsFile place = true) :
    (beside.set place (some (.file (some text)))).remove? (Path.temporary path) =
      some ((beside.set place (some (.file (some text)))).set source none) := by
  have hfree := not_folder_of_admitsFile admits
  have hapart := h.apart place leads hfree
  rw [remove?, place?_set hfree _ h.leads]
  dsimp only
  rw [node_set, if_neg hapart, h.written]
  dsimp only
  rw [if_neg]
  show ¬ beside.refuses (.remove (Path.temporary path)) = true
  rw [h.refuses, removable]
  exact Bool.false_ne_true

/-- A replacement that succeeds clears the place beside the file, and it found a way to the file. -/
theorem Course.cleared {r : FileTree × Replacement} (h : Course t path text r)
    (removable : ∀ p, t.refuses (.remove p) = false) (done : r.2.succeeded = true) :
    r.1.node (t.goal (Path.temporary path)) = none ∧ r.1.Admits path ∧
      (t.refuses (.rename (Path.temporary path) path) = false ∨
        t.refuses (.write path) = false) := by
  cases h with
  | prevented h => cases done
  | refused h stuck => cases done
  | @renamed beside source place h leads admits allowed =>
      have hsource : beside.node source ≠ some .folder := by rw [h.written]; simp
      refine ⟨?_, admits_set (place?_set hsource none leads)
        (admitsFile_set_none hsource admits) (some text), Or.inl allowed⟩
      rw [← h.source_eq, node_set, if_neg (h.apart place leads (not_folder_of_admitsFile admits)),
        node_set, if_pos rfl]
  | @inPlace beside source place h leads admits allowed =>
      dsimp only
      rw [h.cleared removable leads admits, Option.getD_some]
      obtain ⟨_, hleads, hplace⟩ := admits_set leads admits (some text)
      have hsource : (beside.set place (some (.file (some text)))).node source ≠ some .folder := by
        rw [node_set, if_neg (h.apart place leads (not_folder_of_admitsFile admits)), h.written]
        simp
      refine ⟨?_, ⟨_, place?_set hsource none hleads, admitsFile_set_none hsource hplace⟩,
        Or.inr allowed⟩
      rw [← h.source_eq, node_set, if_pos rfl]

/-- One that fails has kept what was there. -/
theorem Course.kept {r : FileTree × Replacement} (h : Course t path text r)
    (alone : t.node (t.goal (Path.temporary path)) = none) (failed : r.2.succeeded = false) :
    (∀ p n, t.node p = some n → r.1.node p = some n) ∧ r.1.workingFolder = t.workingFolder := by
  cases h with
  | prevented h => exact ⟨fun _ _ => h.kept, h.workingFolder⟩
  | refused h stuck => exact ⟨h.kept_all alone, h.workingFolder⟩
  | renamed h leads admits allowed => cases failed
  | inPlace h leads admits allowed => cases failed

/-- One that is refused leaves the temporary file. -/
theorem Course.left {after : FileTree} (h : Course t path text (after, .refused)) :
    after.node (t.goal (Path.temporary path)) = some (.file (some text)) ∧
      after.read (Path.temporary path) = .ok text ∧ (¬ after.Admits path ∨
        (t.refuses (.rename (Path.temporary path) path) = true ∧
          t.refuses (.write path) = true)) := by
  cases h with
  | @refused beside source h stuck =>
      exact ⟨by rw [← h.source_eq, h.written],
        read_eq_ok_iff.mpr ⟨source, h.leads, h.written⟩, stuck⟩

/-- **A file is replaced whole or not at all.** Nothing stands at the place of the temporary file,
and a file that is there can be removed. Then a replacement that succeeds has put exactly the text
into the file and left no temporary file. One that fails has kept all that was there, what the path
leads to among it. A temporary file is left exactly if it could be written, but the path takes no
file, or the system refuses both to move it and to write into the file itself; then it holds the
text. -/
theorem replaced_whole_or_kept (removable : ∀ p, t.refuses (.remove p) = false)
    (alone : t.node (t.goal (Path.temporary path)) = none) (text : String) :
    let after := (t.replace path text).1
    let outcome := (t.replace path text).2
    (outcome.succeeded = true →
      after.read path = .ok text ∧ after.node (t.goal (Path.temporary path)) = none) ∧
    (outcome.succeeded = false →
      (∀ n, t.find? path = some n → after.find? path = some n) ∧
      ∀ p n, t.node p = some n → after.node p = some n) ∧
    ((∃ found, after.node (t.goal (Path.temporary path)) = some (.file found)) ↔
      outcome = .refused) ∧
    (outcome = .refused → after.read (Path.temporary path) = .ok text) ∧
    (outcome = .refused ↔ outcome ≠ .prevented ∧ (¬ after.Admits path ∨
      (t.refuses (.rename (Path.temporary path) path) = true ∧
        t.refuses (.write path) = true))) := by
  have hread : (t.replace path text).2.succeeded = true →
      (t.replace path text).1.read path = .ok text :=
    read_replace
  have hcourse := replace_course t path text
  generalize t.replace path text = r at hread hcourse
  obtain ⟨after, outcome⟩ := r
  dsimp only at hread ⊢
  -- the course that succeeded is one of the two ways that have to be closed
  have hstuck : outcome.succeeded = true → ¬ (¬ after.Admits path ∨
      (t.refuses (.rename (Path.temporary path) path) = true ∧
        t.refuses (.write path) = true)) := by
    intro done
    obtain ⟨_, hadmits, hallowed⟩ := hcourse.cleared removable done
    rintro (h | ⟨hrename, hwrite⟩)
    · exact h hadmits
    · rw [hrename, hwrite] at hallowed
      simp at hallowed
  refine ⟨fun done => ⟨hread done, (hcourse.cleared removable done).1⟩, fun failed => ?_,
    ⟨?_, ?_⟩, ?_, ⟨?_, ?_⟩⟩
  · obtain ⟨hkept, hfolder⟩ := hcourse.kept alone failed
    exact ⟨fun n => find?_kept hkept hfolder, hkept⟩
  · rintro ⟨found, hfound⟩
    cases outcome with
    | refused => rfl
    | prevented =>
        cases hcourse with
        | prevented h => exact absurd (alone.symm.trans (h.added hfound)) nofun
    | renamed => exact absurd ((hcourse.cleared removable rfl).1.symm.trans hfound) nofun
    | inPlace => exact absurd ((hcourse.cleared removable rfl).1.symm.trans hfound) nofun
  · rintro rfl
    exact ⟨_, hcourse.left.1⟩
  · rintro rfl
    exact hcourse.left.2.1
  · rintro rfl
    exact ⟨nofun, hcourse.left.2.2⟩
  · rintro ⟨hwritten, hways⟩
    cases outcome with
    | refused => rfl
    | prevented => exact absurd rfl hwritten
    | renamed => exact absurd hways (hstuck rfl)
    | inPlace => exact absurd hways (hstuck rfl)

namespace Spare

/-- A tree with a settings file. The system does not let it be moved over. -/
def immovable : FileTree where
  node place := if place = [] then some .folder else if place =
  ["dock.toml"] then some (.file (some "old")) else none
  refuses call := match call with
    | .rename _ _ => true
    | _ => false

/-- Nor does it let it be written. -/
def sealed : FileTree where
  node := immovable.node
  refuses call := match call with
    | .rename _ _ | .write "dock.toml" => true
    | _ => false

/-- A folder stands where the settings file should be. -/
def occupied : FileTree := (bare []).set ["dock.toml"] (some .folder)

end Spare

open Spare in
/-- Where the file cannot be moved over it is written into, and nothing is left beside it. Where it
can be neither, it keeps its text, and the other text is left beside it. -/
theorem settings_file_is_spared :
    (∀ p, immovable.refuses (.remove p) = false) ∧ (∀ p, sealed.refuses (.remove p) = false) ∧
      immovable.node (immovable.goal (Path.temporary "dock.toml")) = none ∧
      sealed.node (sealed.goal (Path.temporary "dock.toml")) = none ∧
      (immovable.replace "dock.toml" "new").1.read "dock.toml" = .ok "new" ∧
      (immovable.replace "dock.toml" "new").1.node ["dock.toml.tmp"] = none ∧
      (sealed.replace "dock.toml" "new").1.find? "dock.toml" = some (.file (some "old")) ∧
      (sealed.replace "dock.toml" "new").1.read "dock.toml.tmp" = .ok "new" := by
  have hgoal : immovable.goal (Path.temporary "dock.toml") = ["dock.toml.tmp"] := by decide +kernel
  have hname : Path.temporary "dock.toml" = "dock.toml.tmp" := by decide +kernel
  have halone : immovable.node (immovable.goal (Path.temporary "dock.toml")) = none := by
    decide +kernel
  have halone' : sealed.node (sealed.goal (Path.temporary "dock.toml")) = none := by decide +kernel
  obtain ⟨hdone, _⟩ := replaced_whole_or_kept (t := immovable) (fun _ => rfl) halone "new"
  obtain ⟨_, hkept, _, hleft, _⟩ :=
    replaced_whole_or_kept (t := sealed) (fun _ => rfl) halone' "new"
  obtain ⟨hread, hgone⟩ := hdone (by decide +kernel)
  rw [hgoal] at hgone
  rw [hname] at hleft
  exact ⟨fun _ => rfl, fun _ => rfl, halone, halone', hread, hgone,
    (hkept (by decide +kernel)).1 _ (by decide +kernel), hleft (by decide +kernel)⟩

open Spare in
/-- Nothing stands beside the path, and all that is there could be removed. But the path takes no
file, so that the replacement fails and leaves the temporary file. -/
theorem leaves_temporary_beside_folder :
    Path.fileName? "dock.toml" = some "dock.toml" ∧ (∀ p, occupied.refuses (.remove p) = false) ∧
      occupied.find? (Path.temporary "dock.toml") = none ∧
      (occupied.replace "dock.toml" "new").2.succeeded = false ∧
      (occupied.replace "dock.toml" "new").1.find? (Path.temporary "dock.toml") =
        some (.file (some "new")) := by
  exact ⟨by decide +kernel, fun _ => rfl, by decide +kernel, by decide +kernel, by decide +kernel⟩

end PanelDock.FileTree
