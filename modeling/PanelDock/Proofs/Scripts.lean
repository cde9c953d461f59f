import Mathlib.Data.List.Forall2
import Mathlib.Data.List.TakeWhile
import PanelDock.Script
import PanelDock.Proofs.ActionTexts
/-!
# Scripts are read as they are laid out

A script holds an action on each line, and may be laid out with blanks around them, with blank lines
and comments in between, and with line ends of two kinds. What is read of it is the actions in their
order. That a text in an action may hold a number sign or a line break does no harm: an action
begins with a brace or a quote, and a line break in a text is escaped.

To count lines it is enough to cut the text at its line feeds. What the reader takes for a line is
such a piece but for a carriage return at its end, which is trimmed in any case; and what stands
behind the last line feed, if it is nothing, is read as nothing.
-/

namespace PanelDock

namespace Text

/-! ## Trimming -/

variable {before rest behind middle : List Char} {c first last : Char}

theorem trimLeft_blank_append (blank : ∀ c ∈ before, isBlank c = true) :
    trimLeft (before ++ rest) = trimLeft rest :=
  List.dropWhile_append_of_pos blank

theorem trim_blank (blank : ∀ c ∈ before, isBlank c = true) : trim before = [] := by
  have hleft : trimLeft before = [] := List.dropWhile_eq_nil_iff.mpr blank
  rw [trim, hleft]
  rfl

/-- Blanks around a text that neither begins nor ends with one are trimmed. -/
theorem trim_padded (blank : ∀ c ∈ before, isBlank c = true)
    (blank' : ∀ c ∈ behind, isBlank c = true) (hfirst : isBlank first = false)
    (hlast : isBlank last = false) :
    trim (before ++ (first :: (middle ++ [last]) ++ behind)) = first :: (middle ++ [last]) := by
  have hreverse : (first :: (middle ++ [last]) ++ behind).reverse =
      behind.reverse ++ last :: (middle.reverse ++ [first]) := by simp
  rw [trim, trimLeft_blank_append blank, List.cons_append, trimLeft_cons hfirst,
    ← List.cons_append, hreverse,
    trimLeft_blank_append (fun c hc => blank' c (List.mem_reverse.mp hc)), trimLeft_cons hlast]
  simp

/-- What a line begins with behind its blanks is not trimmed. -/
theorem head?_trim (blank : ∀ c ∈ before, isBlank c = true) (hfirst : isBlank first = false) :
    (trim (before ++ first :: rest)).head? = some first := by
  rw [trim, trimLeft_blank_append blank, trimLeft_cons hfirst, List.reverse_cons, trimLeft,
    List.dropWhile_append, List.head?_reverse]
  split
  · rw [List.dropWhile_cons_of_neg (by simp [hfirst])]
    rfl
  · exact List.getLast?_concat

/-- A blank at the end is trimmed. -/
theorem trim_concat (line : List Char) (h : isBlank c = true) : trim (line ++ [c]) = trim line := by
  rw [trim, trim]
  cases hleft : trimLeft line with
  | nil =>
      have hblank := List.dropWhile_eq_nil_iff.mp hleft
      have hcut : trimLeft [c] = [] := List.dropWhile_cons_of_pos h
      rw [trimLeft_blank_append hblank, hcut]
  | cons d rest =>
      have hlast : trimLeft (line ++ [c]) = d :: rest ++ [c] := by
        rw [← hleft, trimLeft, List.dropWhile_append, trimLeft, if_neg]
        rw [← trimLeft, hleft]
        exact Bool.false_ne_true
      rw [hlast, List.reverse_append]
      exact congrArg List.reverse (List.dropWhile_cons_of_pos h)

/-! ## Lines and pieces -/

/-- A piece of a text cut at its line feeds is a line, or one with a carriage return behind it. -/
def Encloses (line piece : List Char) : Prop := piece = line ∨ piece = line ++ ['\r']

theorem Encloses.cons {line piece : List Char} (h : Encloses line piece) (c : Char) :
    Encloses (c :: line) (c :: piece) :=
  h.imp (congrArg (c :: ·)) (congrArg (c :: ·))

theorem Encloses.trim_eq {line piece : List Char} (h : Encloses line piece) :
    trim piece = trim line := by
  rcases h with rfl | rfl
  · rfl
  · exact trim_concat line rfl

theorem splitOn_newline (cs : List Char) : ('\n' :: cs).splitOn '\n' = [] :: cs.splitOn '\n' := by
  simp [List.splitOn, List.splitOnP_cons_eq_if_modifyHead]

theorem splitOn_other (hc : c ≠ '\n') (cs : List Char) :
    (c :: cs).splitOn '\n' = (cs.splitOn '\n').modifyHead (c :: ·) := by
  simp [List.splitOn, List.splitOnP_cons_eq_if_modifyHead, hc]

/-- The pieces of a text are its lines, and maybe an empty one behind the last line feed. -/
theorem lines_enclosed (cs : List Char) : ∃ tail, (tail = [] ∨ tail = [[]]) ∧
    List.Forall₂ Encloses (lines cs ++ tail) (cs.splitOn '\n') := by
  induction cs with
  | nil => exact ⟨[[]], Or.inr rfl, .cons (Or.inl rfl) .nil⟩
  | cons c cs ih =>
      obtain ⟨tail, htail, henclosed⟩ := ih
      by_cases hc : c = '\n'
      · subst hc
        rw [lines, if_pos rfl, splitOn_newline]
        exact ⟨tail, htail, .cons (Or.inl rfl) henclosed⟩
      · rw [lines.eq_def, splitOn_other hc]
        dsimp only
        rw [if_neg hc]
        split
        · -- the carriage return goes with the line feed behind it
          rename_i hreturn
          obtain ⟨rfl, hnext⟩ := hreturn
          obtain ⟨cs, rfl⟩ := List.head?_eq_some_iff.mp hnext
          rw [lines, if_pos rfl, splitOn_newline] at henclosed
          rw [lines, if_pos rfl, splitOn_newline]
          exact ⟨tail, htail, .cons (Or.inr rfl) (List.forall₂_cons.mp henclosed).2⟩
        · cases hlines : lines cs with
          | nil =>
              rw [hlines, List.nil_append] at henclosed
              rcases htail with rfl | rfl
              · exact absurd (List.forall₂_nil_left_iff.mp henclosed) (List.splitOn_ne_nil _ _)
              · generalize cs.splitOn '\n' = pieces at henclosed
                cases henclosed with
                | cons hpiece hrest =>
                    rw [List.forall₂_nil_left_iff.mp hrest]
                    exact ⟨[], Or.inl rfl, .cons (hpiece.cons c) .nil⟩
          | cons line others =>
              rw [hlines] at henclosed
              generalize cs.splitOn '\n' = pieces at henclosed
              cases henclosed with
              | cons hpiece hrest => exact ⟨tail, htail, .cons (hpiece.cons c) hrest⟩

end Text

namespace Script

open Json (Codec)

variable {α : Type} {number : Codec α}

/-! ## Reading lines -/

/-- The action of a line, if it says one. -/
def Reading.action? : Reading α → Option (Action α)
  | .action a => some a
  | _ => none

/-- A line is at fault if it is neither blank nor a comment, but no action either. -/
structure Faulty (number : Codec α) (line : List Char) : Prop where
  said : Text.trim line ≠ []
  meant : (Text.trim line).head? ≠ some '#'
  unread : (Json.read? (String.ofList (Text.trim line)) >>= (Action.codec number).decode?) = none

theorem readLine_blank {line : List Char} (h : Text.trim line = []) :
    readLine number line = .nothing := by
  rw [readLine, h]

theorem readLine_comment {line : List Char} (h : (Text.trim line).head? = some '#') :
    readLine number line = .nothing := by
  obtain ⟨rest, hrest⟩ := List.head?_eq_some_iff.mp h
  rw [readLine, hrest]
  rfl

theorem readLine_said {line : List Char} (said : Text.trim line ≠ [])
    (meant : (Text.trim line).head? ≠ some '#') :
    readLine number line =
      match Json.read? (String.ofList (Text.trim line)) >>= (Action.codec number).decode? with
      | some action => .action action
      | none => .malformed := by
  rw [readLine]
  split
  · rename_i htrim
    exact absurd htrim said
  · rename_i htrim
    exact absurd (by rw [htrim]; rfl) meant
  · rfl

theorem readLine_malformed_iff (line : List Char) :
    readLine number line = .malformed ↔ Faulty number line := by
  by_cases said : Text.trim line = []
  · rw [readLine_blank said]
    exact iff_of_false nofun (fun h => h.said said)
  · by_cases meant : (Text.trim line).head? = some '#'
    · rw [readLine_comment meant]
      exact iff_of_false nofun (fun h => h.meant meant)
    · rw [readLine_said said meant]
      split
      · rename_i hread
        exact iff_of_false nofun (fun h => absurd (hread.symm.trans h.unread) nofun)
      · rename_i hread
        exact iff_of_true rfl ⟨said, meant, hread⟩

/-- Lines without a fault are read as the actions that they say, in their order. -/
theorem readLines_sound {lines : List (List Char)} (sound : ∀ line ∈ lines, ¬ Faulty number line)
    (count : Nat) :
    readLines number count lines =
      .ok (lines.filterMap (fun line => (readLine number line).action?)) := by
  induction lines generalizing count with
  | nil => rfl
  | cons line rest ih =>
      rw [List.forall_mem_cons, ← readLine_malformed_iff] at sound
      rw [readLines, List.filterMap_cons]
      cases hline : readLine number line with
      | nothing => exact ih sound.2 _
      | action a =>
          dsimp only [Reading.action?]
          rw [ih sound.2]
          rfl
      | malformed => exact absurd hline sound.1

/-- The first line with a fault is the one that is told. -/
theorem readLines_fault {before behind : List (List Char)} {line : List Char}
    (sound : ∀ line ∈ before, ¬ Faulty number line) (fault : Faulty number line) (count : Nat) :
    readLines number count (before ++ line :: behind) = .error (count + before.length) := by
  induction before generalizing count with
  | nil =>
      rw [List.nil_append, readLines, (readLine_malformed_iff line).mpr fault]
      rfl
  | cons first rest ih =>
      rw [List.forall_mem_cons, ← readLine_malformed_iff] at sound
      have hrest := ih sound.2 (count + 1)
      rw [Nat.add_right_comm] at hrest
      rw [List.cons_append, readLines]
      cases hline : readLine number first with
      | nothing => exact hrest
      | action a =>
          dsimp only
          rw [hrest]
          rfl
      | malformed => exact absurd hline sound.1

/-- What is read of lines depends on what they are when they are trimmed. -/
theorem readLines_enclosed {lines pieces : List (List Char)}
    (h : List.Forall₂ Text.Encloses lines pieces) (count : Nat) :
    readLines number count pieces = readLines number count lines := by
  induction h generalizing count with
  | nil => rfl
  | @cons line piece lines pieces hpiece _ ih =>
      have hsame : readLine number piece = readLine number line := by
        rw [readLine, readLine, hpiece.trim_eq]
      rw [readLines, readLines, hsame, ih]

/-- An empty piece at the end says nothing. -/
theorem readLines_concat_empty (lines : List (List Char)) (count : Nat) :
    readLines number count (lines ++ [[]]) = readLines number count lines := by
  induction lines generalizing count with
  | nil => rfl
  | cons line rest ih => rw [List.cons_append, readLines, readLines, ih]

/-- A script is read by the pieces between its line feeds. -/
theorem read_eq (number : Codec α) (source : String) :
    read number source = readLines number 1 (source.toList.splitOn '\n') := by
  obtain ⟨tail, htail, henclosed⟩ := Text.lines_enclosed source.toList
  rw [read, readLines_enclosed henclosed]
  rcases htail with rfl | rfl
  · rw [List.append_nil]
  · rw [readLines_concat_empty]

/-! ## Laying out a script -/

/-- Blanks on a line. -/
structure Pad where
  text : List Char
  blank : text.all Text.isBlank = true
  unbroken : '\n' ∉ text

/-- What a comment says behind its number sign. -/
structure Remark where
  text : List Char
  unbroken : '\n' ∉ text

/-- A line as it may be laid out. -/
inductive Line (α : Type) where
  | action (before : Pad) (a : Action α) (behind : Pad)
  | blank (pad : Pad)
  | comment (before : Pad) (remark : Remark)

/-- How a line ends. -/
inductive Ending where
  | lineFeed
  | returnLineFeed

/-- What stands at the end of a line before its line feed. -/
def Ending.text : Ending → List Char
  | lineFeed => []
  | returnLineFeed => ['\r']

namespace Line

/-- The action on a line, if there is one. -/
def action? : Line α → Option (Action α)
  | action _ a _ => some a
  | _ => none

def text (number : Codec α) : Line α → List Char
  | action before a behind => before.text ++ (a.line number ++ behind.text)
  | blank pad => pad.text
  | comment before remark => before.text ++ '#' :: remark.text

end Line

/-- A layout of a script: lines with their ends, and maybe a last one without an end. -/
structure Page (α : Type) where
  lines : List (Line α × Ending)
  last : Option (Line α)

namespace Page

/-- The actions of a script, in their order. -/
def actions (page : Page α) : List (Action α) :=
  (page.lines.map Prod.fst ++ page.last.toList).filterMap Line.action?

/-- The pieces between line feeds. -/
def pieces (number : Codec α) (page : Page α) : List (List Char) :=
  page.lines.map (fun l => l.1.text number ++ l.2.text)

/-- What stands behind the last line feed. -/
def tail (number : Codec α) (page : Page α) : List Char := page.last.elim [] (Line.text number)

/-- The text of a script. -/
def source (number : Codec α) (page : Page α) : String :=
  String.ofList ((page.pieces number).flatMap (· ++ ['\n']) ++ page.tail number)

end Page

/-! ## What is read of a layout -/

theorem Pad.isBlank (pad : Pad) :
    ∀ c ∈ pad.text, Text.isBlank c = true := List.all_eq_true.mp pad.blank

theorem Ending.isBlank (e : Ending) : ∀ c ∈ e.text, Text.isBlank c = true := by
  cases e with
  | lineFeed => exact List.forall_mem_nil _
  | returnLineFeed => exact List.forall_mem_singleton.mpr rfl

theorem Ending.unbroken (e : Ending) : '\n' ∉ e.text := by
  cases e <;> decide

namespace Line

/-- A line says what it was laid out to say, whatever blanks stand at its end. -/
theorem readLine_text (l : Line α) (keeps : ∀ a ∈ l.action?, (Action.codec number).Keeps a)
    {behind : List Char} (blank : ∀ c ∈ behind, Text.isBlank c = true) :
    readLine number (l.text number ++ behind) = l.action?.elim .nothing .action := by
  cases l with
  | blank pad =>
      exact readLine_blank (Text.trim_blank (List.forall_mem_append.mpr ⟨pad.isBlank, blank⟩))
  | comment before remark =>
      rw [text, List.append_assoc, List.cons_append]
      exact readLine_comment (Text.head?_trim before.isBlank (by decide))
  | action before a after =>
      obtain ⟨first, middle, last, hline, hends⟩ := a.line_bracketed number
      have hfirst : Text.isBlank first = false ∧ first ≠ '#' := by
        rcases hends with ⟨rfl, _⟩ | ⟨rfl, _⟩ <;> decide
      have hlast : Text.isBlank last = false := by
        rcases hends with ⟨_, rfl⟩ | ⟨_, rfl⟩ <;> decide
      have htrim : Text.trim (text number (.action before a after) ++ behind) = a.line number := by
        rw [text, List.append_assoc, List.append_assoc, hline]
        exact Text.trim_padded before.isBlank
          (List.forall_mem_append.mpr ⟨after.isBlank, blank⟩) hfirst.1 hlast
      have said : a.line number ≠ [] := by
        rw [hline]
        exact List.cons_ne_nil _ _
      have meant : (a.line number).head? ≠ some '#' := by
        rw [hline]
        exact fun h => hfirst.2 (Option.some.inj h)
      rw [readLine_said (htrim ▸ said) (htrim ▸ meant), htrim, Action.read?_line (keeps a rfl)]
      rfl

theorem unbroken (l : Line α) (keeps : ∀ a ∈ l.action?, (Action.codec number).Keeps a) :
    '\n' ∉ l.text number := by
  cases l with
  | blank pad => exact pad.unbroken
  | comment before remark => simp [text, before.unbroken, remark.unbroken]
  | action before a behind =>
      simp [text, before.unbroken, behind.unbroken, Action.newline_not_mem_line (keeps a rfl)]

end Line

/-- Pieces that are put together with line feeds behind them are had back by cutting. -/
theorem splitOn_laid {pieces : List (List Char)} {tail : List Char}
    (unbroken : ∀ p ∈ pieces, '\n' ∉ p) (unbroken' : '\n' ∉ tail) :
    (pieces.flatMap (· ++ ['\n']) ++ tail).splitOn '\n' = pieces ++ [tail] := by
  have hother : ∀ {p : List Char}, '\n' ∉ p → ∀ c ∈ p, (c == '\n') = false := fun hp c hc =>
    beq_eq_false_iff_ne.mpr (fun heq => hp (heq ▸ hc))
  induction pieces with
  | nil => exact List.splitOnP_eq_singleton (hother unbroken')
  | cons p pieces ih =>
      rw [List.forall_mem_cons] at unbroken
      rw [List.flatMap_cons, List.append_assoc, List.append_assoc, List.singleton_append]
      refine (List.splitOnP_append_cons_of_forall_mem (hother unbroken.1) '\n' rfl _).trans ?_
      exact congrArg (p :: ·) (ih unbroken.2)

/-- A line that says an action or nothing is not at fault. -/
theorem not_faulty {line : List Char} {said : Option (Action α)}
    (h : readLine number line = said.elim .nothing .action) : ¬ Faulty number line := by
  rw [← readLine_malformed_iff, h]
  cases said <;> exact nofun

theorem action?_readLine {line : List Char} {said : Option (Action α)}
    (h : readLine number line = said.elim .nothing .action) :
    (readLine number line).action? = said := by
  rw [h]
  cases said <;> rfl

namespace Page

section Reading

variable {page : Page α} (keeps : ∀ a ∈ page.actions, (Action.codec number).Keeps a)
include keeps

theorem keeps_line {l : Line α} (h : l ∈ page.lines.map Prod.fst ++ page.last.toList) :
    ∀ a ∈ l.action?, (Action.codec number).Keeps a :=
  fun a ha => keeps a (List.mem_filterMap.mpr ⟨l, h, ha⟩)

theorem keeps_ended {l : Line α × Ending} (h : l ∈ page.lines) :
    ∀ a ∈ l.1.action?, (Action.codec number).Keeps a :=
  keeps_line keeps (List.mem_append_left _ (List.mem_map_of_mem h))

theorem readLine_piece {l : Line α × Ending} (h : l ∈ page.lines) :
    readLine number (l.1.text number ++ l.2.text) = l.1.action?.elim .nothing .action :=
  l.1.readLine_text (keeps_ended keeps h) l.2.isBlank

theorem readLine_tail :
    readLine number (page.tail number) = (page.last.bind Line.action?).elim .nothing .action := by
  cases hlast : page.last with
  | none => rw [tail, hlast]; rfl
  | some l =>
      have hread := l.readLine_text (keeps_line keeps (by simp [hlast])) (List.forall_mem_nil _)
      rw [tail, hlast]
      rwa [List.append_nil] at hread

theorem unbroken_pieces : ∀ p ∈ page.pieces number, '\n' ∉ p := by
  intro p hp
  obtain ⟨l, hl, rfl⟩ := List.mem_map.mp hp
  rw [List.mem_append, not_or]
  exact ⟨l.1.unbroken (keeps_ended keeps hl), l.2.unbroken⟩

theorem unbroken_tail : '\n' ∉ page.tail number := by
  cases hlast : page.last with
  | none => rw [tail, hlast]; exact List.not_mem_nil
  | some l =>
      rw [tail, hlast]
      exact l.unbroken (keeps_line keeps (by simp [hlast]))

/-- What is read of a layout are its actions. -/
theorem read_source : read number (page.source number) = .ok page.actions := by
  have hsound : ∀ p ∈ page.pieces number ++ [page.tail number], ¬ Faulty number p := by
    rw [List.forall_mem_append, List.forall_mem_singleton]
    refine ⟨fun p hp => ?_, not_faulty (readLine_tail keeps)⟩
    obtain ⟨l, hl, rfl⟩ := List.mem_map.mp hp
    exact not_faulty (readLine_piece keeps hl)
  have hpieces : (page.pieces number).filterMap (fun p => (readLine number p).action?) =
      (page.lines.map Prod.fst).filterMap Line.action? := by
    rw [pieces, List.filterMap_map, List.filterMap_map]
    exact List.filterMap_congr fun l hl => action?_readLine (readLine_piece keeps hl)
  have htail : [page.tail number].filterMap (fun p => (readLine number p).action?) =
      page.last.toList.filterMap Line.action? := by
    rw [List.filterMap_cons, action?_readLine (readLine_tail keeps)]
    cases page.last with
    | none => rfl
    | some l => cases hl : l.action? <;> simp [hl]
  rw [read_eq, source, String.toList_ofList,
    splitOn_laid (unbroken_pieces keeps) (unbroken_tail keeps),
    readLines_sound hsound, List.filterMap_append, hpieces, htail, ← List.filterMap_append]
  rfl

end Reading

end Page

/-- **Scripts are read as they are laid out.** However actions are laid out, one on a line, with
blanks around them, blank lines and comments in between and line ends of either kind, what is read
are these actions in their order, if their coordinates are finite floats whose decimals read back.
Actions are split into those that introduce panels and the others, each in the order that they had,
and none is lost or comes twice. And of any text in which a line is at fault, the number of the
first such line is told. -/
theorem reads_what_was_laid_out :
    (∀ page : Page Float, (∀ a ∈ page.actions, ∀ x ∈ a.coordinates, x.isFinite = true) →
      (∀ a ∈ page.actions, ∀ x ∈ a.coordinates, (Decimal.Numeral.ofFloat x).scaled? = some x) →
      read Json.floatCodec (page.source Json.floatCodec) = .ok page.actions) ∧
    (∀ actions : List (Action Float),
      (split actions).1 = actions.filter Action.isRegistration ∧
      (split actions).2 = actions.filter (fun a => !a.isRegistration) ∧
      ((split actions).1 ++ (split actions).2).Perm actions) ∧
    ∀ (source : String) before line behind, source.toList.splitOn '\n' = before ++ line :: behind →
      (∀ l ∈ before, ¬ Faulty Json.floatCodec l) → Faulty Json.floatCodec line →
      read Json.floatCodec source = .error (before.length + 1) := by
  refine ⟨fun page finite exact => ?_, fun actions => ?_,
    fun source before line behind hsource sound fault => ?_⟩
  · exact Page.read_source fun a ha => Action.codec_keeps a fun x hx =>
      Json.floatCodec_keeps (finite a ha x hx) (exact a ha x hx)
  · have hsplit : split actions =
        (actions.filter Action.isRegistration, actions.filter (fun a => !a.isRegistration)) :=
      List.partition_eq_filter_filter
    rw [hsplit]
    exact ⟨rfl, rfl, List.filter_append_perm _ _⟩
  · rw [read_eq, hsource, readLines_fault sound fault, Nat.add_comm]

/-- A script with a comment, a blank line, a break inside a text, and ends of both kinds. -/
def notes : Page Float where
  lines :=
    [(.comment ⟨[], by decide, by decide⟩ ⟨[' ', 'x', '\r'], by decide⟩, .lineFeed),
      (.action ⟨['\t'], by decide, by decide⟩ (.registerPanel ⟨"#1"⟩ "a\n\"#" "left" (some "# b"))
        ⟨[' '], by decide, by decide⟩, .returnLineFeed),
      (.blank ⟨[' ', '\t'], by decide, by decide⟩, .returnLineFeed),
      (.action ⟨[], by decide, by decide⟩ (.flyOut ⟨"#1"⟩ (some { x := 300, y := -0.5 }) none)
        ⟨[], by decide, by decide⟩, .lineFeed)]
  last := some (.action ⟨[' '], by decide, by decide⟩ .saveAll ⟨[], by decide, by decide⟩)

/-- Three actions are read of five lines; and of the faults in another script the first is told. -/
theorem notes_are_read :
    read Json.floatCodec (notes.source Json.floatCodec) =
      .ok [.registerPanel ⟨"#1"⟩ "a\n\"#" "left" (some "# b"),
        .flyOut ⟨"#1"⟩ (some { x := 300, y := -0.5 }) none, .saveAll] ∧
    read Json.floatCodec "\"SaveAll\"\r\n\n #\n\x7b\"Nope\":1\x7d\n?" = .error 4 := by
  obtain ⟨hread, _, hfault⟩ := reads_what_was_laid_out
  have finite : ∀ a ∈ notes.actions, ∀ x ∈ a.coordinates, x.isFinite = true := by decide +kernel
  have exact : ∀ a ∈ notes.actions, ∀ x ∈ a.coordinates,
      (Decimal.Numeral.ofFloat x).scaled? = some x := by
    decide +kernel
  refine ⟨hread notes finite exact, ?_⟩
  have hunread : Faulty Json.floatCodec "\x7b\"Nope\":1\x7d".toList :=
    ⟨by decide +kernel, by decide +kernel, by decide +kernel⟩
  refine hfault _ ["\"SaveAll\"\r".toList, [], " #".toList] "\x7b\"Nope\":1\x7d".toList [['?']]
    (by decide +kernel) ?_ hunread
  simp only [List.forall_mem_cons, List.not_mem_nil, false_implies, implies_true, and_true]
  refine ⟨fun h => ?_, fun h => h.said rfl, fun h => h.meant (by decide +kernel)⟩
  exact absurd h.unread (by decide +kernel)

end Script

end PanelDock
