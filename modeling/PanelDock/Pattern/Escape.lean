import PanelDock.Pattern.Basic
import PanelDock.Text.Blank
/-!
# Blanks and escapes in patterns

The two things that are read alike everywhere in an expression: blanks and comments, which count for
nothing where the expression is written with spaces, and what a backslash introduces.

Each reader gives what is left to read, and a lemma beside it says that this is no longer than what
it began with.
-/

namespace PanelDock.Pattern

/-- What is left behind blanks and comments. A comment runs from a number sign to the end of the
line. -/
def behindBlanks (inComment : Bool) : List Char → List Char
  | [] => []
  | c :: rest =>
    if inComment then behindBlanks (c ≠ '\n') rest
    else if Text.isBlank c then behindBlanks false rest
    else if c = '#' then behindBlanks true rest
    else c :: rest

/-- What is left behind what counts for nothing. -/
def skip (spaced : Bool) (s : List Char) : List Char := if spaced then behindBlanks false s else s

theorem length_behindBlanks (inComment : Bool) (s : List Char) :
    (behindBlanks inComment s).length ≤ s.length := by
  induction s generalizing inComment with
  | nil => simp [behindBlanks]
  | cons c rest ih =>
    unfold behindBlanks
    split
    · exact Nat.le_succ_of_le (ih _)
    · split
      · exact Nat.le_succ_of_le (ih _)
      · split
        · exact Nat.le_succ_of_le (ih _)
        · exact Nat.le_refl _

theorem length_skip (spaced : Bool) (s : List Char) : (skip spaced s).length ≤ s.length := by
  unfold skip
  split
  · exact length_behindBlanks false s
  · exact Nat.le_refl _

/-- What one backslash, or one character without, stands for. -/
inductive Atom where
  | literal (l : Literal)
  | shorthand (kind : Shorthand) (negated : Bool)
  | anyChar
  | edge
  | wordEdge
deriving DecidableEq, Repr

/-- The value of a digit in base sixteen. -/
def hexDigit? (c : Char) : Option Nat :=
  if c.isDigit then some (c.toNat - '0'.toNat)
  else if 'a' ≤ c && c ≤ 'f' then some (c.toNat - 'a'.toNat + 10)
  else if 'A' ≤ c && c ≤ 'F' then some (c.toNat - 'A'.toNat + 10)
  else none

/-- Reads so many digits in base sixteen, with blanks between and behind them; `n` is read before.
-/
def hexNumber? (spaced : Bool) : Nat → Nat → List Char → Option (Nat × List Char)
  | 0, n, s => some (n, s)
  | _ + 1, _, [] => none
  | width + 1, n, c :: rest =>
    (hexDigit? c).bind (fun d => hexNumber? spaced width (16 * n + d) (skip spaced rest))

theorem length_of_hexNumber? {spaced : Bool} {width n m : Nat} {s rest : List Char}
    (h : hexNumber? spaced width n s = some (m, rest)) : rest.length ≤ s.length := by
  induction width generalizing n s with
  | zero =>
    simp only [hexNumber?, Option.some.injEq, Prod.mk.injEq] at h
    exact Nat.le_of_eq (congrArg List.length h.2.symm)
  | succ width ih =>
    cases s with
    | nil => simp [hexNumber?] at h
    | cons c others =>
      simp only [hexNumber?, Option.bind_eq_some_iff] at h
      obtain ⟨_, _, h⟩ := h
      have below := ih h
      have skipped := length_skip spaced others
      simp only [List.length_cons]
      omega

/-- How many digits give a code point behind this letter. -/
def codePointWidth? : Char → Option Nat
  | 'x' => some 2
  | 'u' => some 4
  | 'U' => some 8
  | _ => none

/-- The control characters that have a letter. -/
def controlLetters : List (Char × Char) :=
  [('a', '\x07'), ('t', '\t'), ('n', '\n'), ('v', '\x0b'), ('f', '\x0c'), ('r', '\r')]

/-- Whether the character stands for itself behind a backslash: any of ASCII that is no letter, no
digit and no angle bracket. -/
def isEscapable (c : Char) : Bool := c.toNat < 0x80 && !c.isAlphanum && c ≠ '<' && c ≠ '>'

/-- What a character stands for behind a backslash, if it stands there alone. -/
def escapedAtom? (c : Char) : Option Atom :=
  match c with
  | 'd' => some (.shorthand .digit false)
  | 'D' => some (.shorthand .digit true)
  | 's' => some (.shorthand .blank false)
  | 'S' => some (.shorthand .blank true)
  | 'w' => some (.shorthand .word false)
  | 'W' => some (.shorthand .word true)
  | 'A' => some .edge
  | 'z' => some .edge
  | 'b' => some .wordEdge
  | 'B' => some .wordEdge
  | '<' => some .wordEdge
  | '>' => some .wordEdge
  | _ =>
    if isEscapable c then some (.literal ⟨c, false⟩)
    else (controlLetters.lookup c).map (fun control => .literal ⟨control, false⟩)

/-- Reads an escape from behind its backslash. -/
def escape? (spaced : Bool) : List Char → Option (Atom × List Char)
  | [] => none
  | c :: rest =>
    match codePointWidth? c with
    | some width =>
      (hexNumber? spaced width 0 (skip spaced rest)).bind (fun r =>
        if r.1.isValidChar then some (.literal ⟨Char.ofNat r.1, width = 2⟩, r.2) else none)
    | none => (escapedAtom? c).map (fun atom => (atom, rest))

theorem length_of_escape? {spaced : Bool} {s rest : List Char} {atom : Atom}
    (h : escape? spaced s = some (atom, rest)) : rest.length < s.length := by
  cases s with
  | nil => simp [escape?] at h
  | cons c others =>
    simp only [escape?] at h
    split at h
    · simp only [Option.bind_eq_some_iff] at h
      obtain ⟨r, hr, h⟩ := h
      have below : r.2.length ≤ _ := length_of_hexNumber? hr
      have skipped := length_skip spaced others
      split at h
      · simp only [Option.some.injEq, Prod.mk.injEq] at h
        rw [← h.2]
        simp only [List.length_cons]
        omega
      · simp at h
    · simp only [Option.map_eq_some_iff, Prod.mk.injEq] at h
      obtain ⟨_, _, _, rfl⟩ := h
      simp

end PanelDock.Pattern
