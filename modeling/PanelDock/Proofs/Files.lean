import PanelDock.Files.Tree
/-!
# A file that is replaced holds the text

A text is put into a file by way of a temporary file beside it, and the calls for that may fail one
by one. Two things have to be seen. Calls on files leave the folders where they are, so that a path
leads where it led before. And the temporary file stands beside the file, never in its place:
otherwise taking it away at the end would take away what was just written.
-/

namespace PanelDock

namespace Path

/-! ## Paths and their parts -/

theorem split_ne_nil (cs : List Char) : split cs ≠ [] := by
  cases cs with
  | nil => simp [split]
  | cons c cs =>
      rw [split]
      split
      · simp
      · split <;> simp

theorem split_append_slash (cs ds : List Char) :
    split (cs ++ '/' :: ds) = split cs ++ split ds := by
  induction cs with
  | nil => simp [split]
  | cons c cs ih =>
      rw [List.cons_append, split, split, ih]
      by_cases hc : c = '/'
      · simp [hc]
      · cases hparts : split cs with
        | nil => exact absurd hparts (split_ne_nil cs)
        | cons part parts => simp [hc]

theorem split_of_no_slash {cs : List Char} (h : '/' ∉ cs) : split cs = [cs] := by
  induction cs with
  | nil => rfl
  | cons c cs ih =>
      rw [List.mem_cons, not_or] at h
      rw [split, if_neg (Ne.symm h.1), ih h.2]

theorem no_slash_of_mem_split {cs part : List Char} (h : part ∈ split cs) : '/' ∉ part := by
  induction cs generalizing part with
  | nil => simp_all [split]
  | cons c cs ih =>
      rw [split] at h
      split at h
      · rcases List.mem_cons.mp h with rfl | h
        · exact List.not_mem_nil
        · exact ih h
      · rename_i hc
        split at h
        · obtain rfl := List.mem_singleton.mp h
          simp [Ne.symm hc]
        · rename_i first parts hparts
          rw [hparts] at ih
          rcases List.mem_cons.mp h with rfl | h
          · rw [List.mem_cons, not_or]
            exact ⟨Ne.symm hc, ih List.mem_cons_self⟩
          · exact ih (List.mem_cons_of_mem _ h)

/-- The name at the end of a path is a part of the path, and only parts that count for nothing
follow it. -/
theorem fileName?_eq_some {path name : String} (h : fileName? path = some name) :
    ∃ above part hollow, split path.toList = above ++ part :: hollow ∧ name = String.ofList part ∧
      isHollow part = false ∧ part ≠ ['.', '.'] ∧ ∀ p ∈ hollow, isHollow p = true := by
  rw [fileName?, trimmedParts] at h
  generalize hparts : (split path.toList).reverse = parts at h
  have hsplit : parts.takeWhile isHollow ++ parts.dropWhile isHollow = parts :=
    List.takeWhile_append_dropWhile
  have hhollow : ∀ p ∈ parts.takeWhile isHollow, isHollow p = true :=
    List.all_eq_true.mp List.all_takeWhile
  cases parts with
  | nil => cases h
  | cons first rest =>
      dsimp only at h
      cases hcounted : (first :: rest).dropWhile isHollow with
      | nil =>
          -- all parts count for nothing, so the one that is left is no name
          rw [hcounted, List.append_nil] at hsplit
          rw [hsplit] at hhollow
          rw [hcounted] at h
          dsimp only at h
          split at h
          · rename_i last others hlast
            have hmem : last ∈ first :: rest := List.mem_of_mem_drop (hlast ▸ List.mem_cons_self)
            rw [hhollow last hmem] at h
            cases h
          · cases h
      | cons part above =>
          rw [hcounted] at h hsplit
          dsimp only at h
          split at h
          · cases h
          · rename_i hname
            simp only [Bool.or_eq_true, not_or, Bool.not_eq_true, beq_eq_false_iff_ne] at hname
            refine ⟨above.reverse, part, ((first :: rest).takeWhile isHollow).reverse, ?_,
              (Option.some.inj h).symm, hname.1, hname.2, fun p hp =>
                hhollow p (List.mem_reverse.mp hp)⟩
            rw [← hsplit, List.reverse_eq_iff] at hparts
            rw [hparts]
            simp

theorem toList_push (folder name : String) : (push folder name).toList =
    if folder.isEmpty || folder.toList.getLast? == some '/' then folder.toList ++ name.toList
    else folder.toList ++ '/' :: name.toList := by
  rw [push]
  split
  · rw [String.toList_append]
  · rw [String.toList_append, String.toList_append, List.append_assoc]
    rfl

theorem isAbsolute_push {folder : String} (h : folder ≠ "") (name : String) :
    isAbsolute (push folder name) = isAbsolute folder := by
  have hne : folder.toList ≠ [] := by simpa using h
  obtain ⟨c, cs, hfolder⟩ := List.exists_cons_of_ne_nil hne
  rw [isAbsolute, isAbsolute, toList_push, hfolder]
  split <;> rfl

end Path

namespace FileTree

/-! ## The steps of a path -/

/-- The parts of a path that are not empty. -/
def named (path : String) : List String :=
  ((Path.split path.toList).filter (· ≠ [])).map String.ofList

/-- A path is walked along its parts, with a dot after them if it ends with a slash. -/
theorem steps_cases (path : String) :
    steps path = named path ∨ steps path = named path ++ ["."] := by
  rw [steps, named]
  split
  · exact Or.inr (List.map_append ..)
  · exact Or.inl rfl

open PanelDock.Path in
/-- The last step to a path with a name is that name, unless dots follow it. -/
theorem steps_of_fileName? {path name : String} (h : fileName? path = some name) :
    ∃ above dots, steps path = above ++ name :: dots ∧ (∀ d ∈ dots, d = ".") ∧
      '/' ∉ name.toList ∧ name ≠ "." ∧ name ≠ ".." := by
  obtain ⟨above, part, hollow, hsplit, rfl, hpart, hup, hhollow⟩ := fileName?_eq_some h
  simp only [isHollow, Bool.or_eq_false_iff, beq_eq_false_iff_ne] at hpart
  have hnamed : named path = (above.filter (· ≠ [])).map String.ofList ++
      String.ofList part :: (hollow.filter (· ≠ [])).map String.ofList := by
    rw [named, hsplit, List.filter_append, List.filter_cons_of_pos (by simpa using hpart.1),
      List.map_append, List.map_cons]
  have hdots : ∀ d ∈ (hollow.filter (· ≠ [])).map String.ofList, d = "." := by
    intro d hd
    obtain ⟨p, hp, rfl⟩ := List.mem_map.mp hd
    obtain ⟨hmem, hne⟩ := List.mem_filter.mp hp
    have hdot := hhollow p hmem
    simp only [isHollow, Bool.or_eq_true, beq_iff_eq] at hdot
    rw [hdot.resolve_left (of_decide_eq_true hne)]
  have hname : '/' ∉ (String.ofList part).toList ∧ String.ofList part ≠ "." ∧
      String.ofList part ≠ ".." := by
    refine ⟨?_, fun he => hpart.2 ?_, fun he => hup ?_⟩
    · rw [String.toList_ofList]
      exact no_slash_of_mem_split (hsplit ▸ List.mem_append_right _ List.mem_cons_self)
    · exact String.ofList_injective he
    · exact String.ofList_injective he
  generalize (hollow.filter (· ≠ [])).map String.ofList = dots at hnamed hdots
  rcases steps_cases path with hs | hs
  · exact ⟨_, dots, hs.trans hnamed, hdots, hname⟩
  · rw [hnamed, List.append_assoc, List.cons_append] at hs
    refine ⟨_, dots ++ ["."], hs, ?_, hname⟩
    intro d hd
    rcases List.mem_append.mp hd with hd | hd
    · exact hdots d hd
    · exact List.mem_singleton.mp hd

open PanelDock.Path in
theorem steps_push {name : String} (folder : String) (hname : name ≠ "")
    (slash : '/' ∉ name.toList) : steps (push folder name) = named folder ++ [name] := by
  have hne : name.toList ≠ [] := by simpa using hname
  have hadded : ∀ {path : String} (cs : List Char), path.toList = cs ++ '/' :: name.toList →
      steps path = ((split cs).filter (· ≠ [])).map String.ofList ++ [name] := by
    intro path cs h
    rw [steps, h, split_append_slash, split_of_no_slash slash]
    simp [hne]
  have htext := toList_push folder name
  by_cases hempty : folder = ""
  · subst hempty
    have hpush : push "" name = name := by
      rw [← String.toList_inj, htext]
      simp
    rw [hpush, steps, split_of_no_slash slash]
    simp [hne, named, split]
  · by_cases hslash : folder.toList.getLast? = some '/'
    · obtain ⟨cs, hfolder⟩ := List.getLast?_eq_some_iff.mp hslash
      rw [hadded cs, named, hfolder, split_append_slash]
      · simp [split]
      · rw [htext, hfolder]
        simp
    · rw [hadded folder.toList, named]
      rw [htext, if_neg]
      simpa using ⟨hempty, hslash⟩

/-! ## Where paths lead -/

/-- The place that a step leads to from a folder. -/
def beyond (place : Place) (step : String) : Place :=
  if step = "." then place else if step = ".." then place.dropLast else place ++ [step]

theorem walk_cons_eq_ok {t : FileTree} {place r : Place} {step : String} {rest : List String} :
    t.walk place (step :: rest) = .ok r ↔
      t.node place = some .folder ∧ t.walk (beyond place step) rest = .ok r := by
  rw [walk, beyond]
  split
  · simp_all
  · simp_all
  · rename_i hfolder
    simp only [hfolder, true_and]
    split
    · rfl
    · split <;> rfl

theorem walk_concat {t : FileTree} {steps : List String} {step : String} {place r : Place}
    (h : t.walk place (steps ++ [step]) = .ok r) :
    ∃ m, t.walk place steps = .ok m ∧ t.node m = some .folder ∧ r = beyond m step := by
  induction steps generalizing place with
  | nil =>
      obtain ⟨hfolder, hr⟩ := walk_cons_eq_ok.mp h
      exact ⟨place, rfl, hfolder, (Except.ok.inj hr).symm⟩
  | cons first rest ih =>
      obtain ⟨hfolder, hrest⟩ := walk_cons_eq_ok.mp h
      obtain ⟨m, hm, hlast⟩ := ih hrest
      exact ⟨m, walk_cons_eq_ok.mpr ⟨hfolder, hm⟩, hlast⟩

theorem place?_eq_ok {t : FileTree} {path : String} {place : Place}
    (h : t.place? path = .ok place) :
    path ≠ "" ∧ t.walk (if Path.isAbsolute path then [] else t.workingFolder) (steps path) =
      .ok place := by
  rw [place?] at h
  split at h
  · cases h
  · rename_i hne
    split at h
    · cases h
    · exact ⟨by simpa using hne, h⟩

/-- **The temporary file stands beside the file.** Both paths cannot lead to one place, unless that
place is a folder. -/
theorem place?_temporary_ne {t : FileTree} {path : String} {place other : Place}
    (hpath : t.place? path = .ok place) (hnode : t.node place ≠ some .folder)
    (hother : t.place? (Path.temporary path) = .ok other) : other ≠ place := by
  obtain ⟨hne, hwalk⟩ := place?_eq_ok hpath
  obtain ⟨_, hbeside⟩ := place?_eq_ok hother
  rw [Path.temporary, Path.withFileName] at hbeside
  cases hname : Path.fileName? path with
  | none =>
      -- a path without a name is taken for a folder, but it leads to none
      exfalso
      simp only [hname, Option.getD_none] at hbeside
      rw [steps_push path (by decide) (by decide), Path.isAbsolute_push hne] at hbeside
      obtain ⟨m, hm, hfolder, _⟩ := walk_concat hbeside
      rcases steps_cases path with hs | hs
      · rw [hs, hm] at hwalk
        exact hnode (Except.ok.inj hwalk ▸ hfolder)
      · rw [hs] at hwalk
        obtain ⟨m', hm', hfolder', rfl⟩ := walk_concat hwalk
        exact hnode hfolder'
  | some name =>
      obtain ⟨above, dots, hs, hdots, hslash, hdot, hup⟩ := steps_of_fileName? hname
      rw [hs] at hwalk
      rcases List.eq_nil_or_concat dots with rfl | ⟨dots, last, rfl⟩
      · -- the last names differ
        simp only [hname, Option.getD_some] at hbeside
        rw [steps_push _ (by simp) (by simpa using hslash)] at hbeside
        obtain ⟨m, _, _, rfl⟩ := walk_concat hwalk
        obtain ⟨m', _, _, rfl⟩ := walk_concat hbeside
        have hlonger : ∀ short : String, short.length ≤ 2 → name ++ ".tmp" ≠ short := by
          rintro short hshort rfl
          have hending : (".tmp" : String).length = 4 := by decide
          rw [String.length_append] at hshort
          omega
        rw [beyond, beyond, if_neg hdot, if_neg hup, if_neg (hlonger _ (by decide)),
          if_neg (hlonger _ (by decide))]
        intro he
        have hlast := List.append_inj_right' he rfl
        have hlength := congrArg String.length (List.singleton_inj.mp hlast)
        simp at hlength
      · -- a path that ends with a dot leads to a folder
        obtain rfl : last = "." := hdots last (by simp)
        rw [List.concat_eq_append, ← List.cons_append, ← List.append_assoc] at hwalk
        obtain ⟨m, _, hfolder, rfl⟩ := walk_concat hwalk
        exact absurd hfolder hnode

/-! ## Calls -/

theorem node_set (t : FileTree) (place : Place) (node : Option Node) (p : Place) :
    (t.set place node).node p = if p = place then node else t.node p := rfl

/-- Paths lead where they led, whatever is put where no folder was. -/
theorem walk_set {t : FileTree} {other : Place} (hother : t.node other ≠ some .folder)
    (node : Option Node) {steps : List String} {place r : Place} (h : t.walk place steps = .ok r) :
    (t.set other node).walk place steps = .ok r := by
  induction steps generalizing place with
  | nil => exact h
  | cons step rest ih =>
      obtain ⟨hfolder, hrest⟩ := walk_cons_eq_ok.mp h
      refine walk_cons_eq_ok.mpr ⟨?_, ih hrest⟩
      have hne : place ≠ other := by
        rintro rfl
        exact hother hfolder
      rw [node_set, if_neg hne, hfolder]

theorem place?_set {t : FileTree} {other : Place} (hother : t.node other ≠ some .folder)
    (node : Option Node) {path : String} {place : Place} (h : t.place? path = .ok place) :
    (t.set other node).place? path = .ok place := by
  rw [place?] at h ⊢
  split
  · rename_i hempty
    rw [if_pos hempty] at h
    cases h
  · rename_i hempty
    rw [if_neg hempty] at h
    split
    · rename_i hnul
      rw [if_pos hnul] at h
      cases h
    · rename_i hnul
      rw [if_neg hnul] at h
      exact walk_set hother node h

theorem not_folder_of_admitsFile {t : FileTree} {place : Place} (h : t.admitsFile place = true) :
    t.node place ≠ some .folder := by
  rw [admitsFile, Bool.and_eq_true] at h
  simpa using h.2

theorem write?_eq_some {t t' : FileTree} {path text : String} (h : t.write? path text = some t') :
    ∃ place, t.place? path = .ok place ∧ t.node place ≠ some .folder ∧
      t' = t.set place (some (.file (some text))) := by
  rw [write?] at h
  split at h
  · cases h
  · rename_i place hplace
    split at h
    · cases h
    · rename_i hfree
      simp only [Bool.or_eq_true, Bool.not_eq_true', not_or, Bool.not_eq_true,
        Bool.not_eq_false] at hfree
      exact ⟨place, hplace, not_folder_of_admitsFile hfree.2, (Option.some.inj h).symm⟩

/-- A file that is moved leaves nothing behind. -/
theorem rename?_eq_some {t t' : FileTree} {path target : String}
    (h : t.rename? path target = some t') :
    ∃ source place found, t.place? path = .ok source ∧ t.place? target = .ok place ∧
      t.node source = some (.file found) ∧ t.node place ≠ some .folder ∧
      t' = (t.set source none).set place (some (.file found)) := by
  rw [rename?] at h
  split at h
  · rename_i source place hsource hplace
    split at h
    · rename_i found hfile
      split at h
      · cases h
      · rename_i hfree
        simp only [Bool.or_eq_true, Bool.not_eq_true', not_or, Bool.not_eq_true,
          Bool.not_eq_false] at hfree
        exact ⟨source, place, found, hsource, hplace, hfile, not_folder_of_admitsFile hfree.2,
          (Option.some.inj h).symm⟩
    · cases h
  · cases h

theorem remove?_eq_some {t t' : FileTree} {path : String} (h : t.remove? path = some t') :
    ∃ place found, t.place? path = .ok place ∧ t.node place = some (.file found) ∧
      t' = t.set place none := by
  rw [remove?] at h
  split at h
  · cases h
  · rename_i place hplace
    split at h
    · rename_i found hfile
      split at h
      · cases h
      · exact ⟨place, found, hplace, hfile, (Option.some.inj h).symm⟩
    · cases h

theorem read_eq_ok_iff {t : FileTree} {path text : String} : t.read path = .ok text ↔
    ∃ place, t.place? path = .ok place ∧ t.node place = some (.file (some text)) := by
  rw [read]
  cases hplace : t.place? path with
  | error fault => simp
  | ok place =>
      dsimp only
      split <;> simp_all

theorem isPresent_of_read {t : FileTree} {path text : String} (h : t.read path = .ok text) :
    t.isPresent path = true := by
  obtain ⟨place, hplace, hnode⟩ := read_eq_ok_iff.mp h
  rw [isPresent, find?, hplace]
  dsimp only
  rw [hnode]
  rfl

theorem read_write? {t t' : FileTree} {path text : String} (h : t.write? path text = some t') :
    t'.read path = .ok text := by
  obtain ⟨place, hplace, hnode, rfl⟩ := write?_eq_some h
  exact read_eq_ok_iff.mpr ⟨place, place?_set hnode _ hplace, if_pos rfl⟩

theorem read_rename? {t t' : FileTree} {path target text : String}
    (h : t.rename? path target = some t') (hread : t.read path = .ok text) :
    t'.read target = .ok text := by
  obtain ⟨source, place, found, hsource, hplace, hfile, hnode, rfl⟩ := rename?_eq_some h
  obtain ⟨_, hsame, hfound⟩ := read_eq_ok_iff.mp hread
  obtain rfl := Except.ok.inj (hsource.symm.trans hsame)
  obtain rfl : found = some text := Node.file.inj (Option.some.inj (hfile.symm.trans hfound))
  have hsource' : t.node source ≠ some .folder := by rw [hfile]; simp
  have hnode' : (t.set source none).node place ≠ some .folder := by
    rw [node_set]
    split
    · simp
    · exact hnode
  exact read_eq_ok_iff.mpr ⟨place, place?_set hnode' _ (place?_set hsource' _ hplace), if_pos rfl⟩

/-- When a temporary file is removed, the file beside it stays. -/
theorem read_remove?_temporary {t t' : FileTree} {path text : String}
    (h : t.remove? (Path.temporary path) = some t') (hread : t.read path = .ok text) :
    t'.read path = .ok text := by
  obtain ⟨other, found, hother, hfile, rfl⟩ := remove?_eq_some h
  obtain ⟨place, hplace, hnode⟩ := read_eq_ok_iff.mp hread
  have hapart : other ≠ place := place?_temporary_ne hplace (by rw [hnode]; simp) hother
  have hother' : t.node other ≠ some .folder := by rw [hfile]; simp
  refine read_eq_ok_iff.mpr ⟨place, place?_set hother' _ hplace, ?_⟩
  rw [node_set, if_neg hapart.symm, hnode]

/-! ## Replacing a file -/

/-- **A file that is replaced holds the text**, whether the temporary file has taken its place or
the text had to be written into the file itself. -/
theorem read_replace {t : FileTree} {path text : String}
    (h : (t.replace path text).2.succeeded = true) :
    (t.replace path text).1.read path = .ok text := by
  rw [replace] at h ⊢
  split at h
  · cases h
  · rename_i folders hfolders
    dsimp only at h ⊢
    cases hwritten : folders.write? (Path.temporary path) text with
    | none =>
        rw [hwritten] at h
        cases h
    | some beside =>
        rw [hwritten] at h
        dsimp only at h ⊢
        cases hrenamed : beside.rename? (Path.temporary path) path with
        | some renamed => exact read_rename? hrenamed (read_write? hwritten)
        | none =>
            rw [hrenamed] at h
            dsimp only at h ⊢
            cases hfile : beside.write? path text with
            | none =>
                rw [hfile] at h
                cases h
            | some written =>
                dsimp only
                cases hremoved : written.remove? (Path.temporary path) with
                | none => exact read_write? hfile
                | some removed => exact read_remove?_temporary hremoved (read_write? hfile)

/-- A file works: however often a text has been put into it, another can be. -/
def Works (t : FileTree) (path : String) : Prop := ∀ (texts : List String) (text : String),
  ((texts.foldl (fun t text => (t.replace path text).1) t).replace path text).2.succeeded = true

theorem Works.replace {t : FileTree} {path : String} (h : t.Works path) (text : String) :
    (t.replace path text).2.succeeded = true ∧ (t.replace path text).1.Works path :=
  ⟨h [] text, fun texts => h (text :: texts)⟩

end FileTree

end PanelDock
