import PanelDock.Pattern.Set
import PanelDock.Text.Word
/-!
# Reading patterns

A regular expression is read from left to right, with the groups that are open on a stack.
`Expr.ofText?` gives the expression that a text writes, if it writes one. A repetition needs
something to repeat, brackets have to close, a group may be named once, and what a backslash
introduces has to be known. Counted repetitions are not among what is read.
-/

namespace PanelDock.Pattern

/-- The flag of a letter. -/
def Flag.ofLetter? : Char → Option Flag
  | 'i' => some .ignoreCase
  | 'm' => some .multiLine
  | 's' => some .dotAll
  | 'U' => some .lazy
  | 'u' => some .unicode
  | 'R' => some .returns
  | 'x' => some .spaced
  | _ => none

/-- Reads switches up to a colon or a closing bracket. Behind a minus sign, flags are switched off;
there is one at most, and a flag behind it. Gives the character that ends the switches too. -/
def switches? (seen : Switches) (off pending : Bool) :
    List Char → Option (Switches × Char × List Char)
  | [] => none
  | c :: rest =>
    if c = ':' ∨ c = ')' then if pending then none else some (seen, c, rest)
    else if c = '-' then if off then none else switches? seen true true rest
    else (Flag.ofLetter? c).bind (fun flag =>
      if seen.any (fun s => s.1 = flag) then none
      else switches? (seen ++ [(flag, !off)]) off false rest)

theorem length_of_switches? {seen found : Switches} {off pending : Bool} {c : Char}
    {s rest : List Char} (h : switches? seen off pending s = some (found, c, rest)) :
    rest.length < s.length := by
  induction s generalizing seen off pending with
  | nil => simp [switches?] at h
  | cons d others ih =>
    simp only [switches?] at h
    split at h
    · split at h <;> simp_all
    · split at h
      · split at h
        · simp at h
        · exact Nat.lt_succ_of_lt (ih h)
      · simp only [Option.bind_eq_some_iff] at h
        obtain ⟨_, _, h⟩ := h
        split at h
        · simp at h
        · exact Nat.lt_succ_of_lt (ih h)

/-- Whether a group may have this name. -/
def isGroupName : List Char → Bool
  | [] => false
  | c :: rest =>
    (c = '_' || Text.isAlphabetic c) &&
      rest.all (fun d => d = '_' || d = '.' || d = '[' || d = ']' || Text.isWord d)

/-- What follows an opening bracket. -/
inductive Head where
  /-- Switches alone, with the bracket closed again. -/
  | switches (s : Switches)
  /-- The start of a group. -/
  | group (s : Switches)
  /-- The start of a group with a name. -/
  | named (name : String)

/-- Reads the name of a group, and the angle bracket that closes it. -/
def groupName? (s : List Char) : Option (Head × List Char) :=
  let name := s.takeWhile (· ≠ '>')
  match s.dropWhile (· ≠ '>') with
  | [] => none
  | _ :: rest => if isGroupName name then some (.named (String.ofList name), rest) else none

theorem length_of_groupName? {s rest : List Char} {head : Head}
    (h : groupName? s = some (head, rest)) : rest.length ≤ s.length := by
  have dropped := (List.dropWhile_sublist (l := s) (fun c => decide (c ≠ '>'))).length_le
  unfold groupName? at h
  dsimp only at h
  split at h
  · simp at h
  · rename_i hd
    rw [hd] at dropped
    split at h
    · simp only [Option.some.injEq, Prod.mk.injEq] at h
      rw [← h.2]
      simp only [List.length_cons] at dropped
      omega
    · simp at h

/-- Reads switches, and whether they stand alone; then there has to be one. -/
def switchesHead? (s : List Char) : Option (Head × List Char) :=
  (switches? [] false false s).bind (fun r =>
    if r.2.1 = ':' then some (.group r.1, r.2.2)
    else if r.1.isEmpty then none
    else some (.switches r.1, r.2.2))

theorem length_of_switchesHead? {s rest : List Char} {head : Head}
    (h : switchesHead? s = some (head, rest)) : rest.length ≤ s.length := by
  simp only [switchesHead?, Option.bind_eq_some_iff] at h
  obtain ⟨r, hr, h⟩ := h
  have below : r.2.2.length < _ := length_of_switches? hr
  split at h
  · simp only [Option.some.injEq, Prod.mk.injEq] at h
    rw [← h.2]
    omega
  · split at h
    · simp at h
    · simp only [Option.some.injEq, Prod.mk.injEq] at h
      rw [← h.2]
      omega

/-- Reads what follows an opening bracket. -/
def head? : List Char → Option (Head × List Char)
  | '?' :: 'P' :: '<' :: rest => groupName? rest
  | '?' :: '<' :: rest => groupName? rest
  | '?' :: rest => switchesHead? rest
  | s => some (.group [], s)

theorem length_of_head? {s rest : List Char} {head : Head}
    (h : head? s = some (head, rest)) : rest.length ≤ s.length := by
  unfold head? at h
  split at h
  · have := length_of_groupName? h
    simp only [List.length_cons]
    omega
  · have := length_of_groupName? h
    simp only [List.length_cons]
    omega
  · have := length_of_switchesHead? h
    simp only [List.length_cons]
    omega
  · simp only [Option.some.injEq, Prod.mk.injEq] at h
    exact Nat.le_of_eq (congrArg List.length h.2.symm)

/-- What has been read of the expression or of a group: the alternatives before the last vertical
bar, and the parts behind it, the last first in both. -/
structure Level where
  alternatives : List Expr := []
  parts : List Expr := []

namespace Level

/-- The expression that has been read. -/
def expr (l : Level) : Expr :=
  match l.alternatives with
  | [] => .ofParts l.parts
  | alternatives => .alternatives (alternatives.reverse ++ [.ofParts l.parts])

/-- Adds a part. -/
def push (l : Level) (e : Expr) : Level := { l with parts := e :: l.parts }

/-- Begins the next alternative. -/
def alternate (l : Level) : Level := { alternatives := .ofParts l.parts :: l.alternatives }

/-- Repeats the last part, if it can be repeated. -/
def repeat? (l : Level) : Option Level :=
  match l.parts with
  | [] => none
  | last :: before =>
      if last.isRepeatable then some { l with parts := .repeated last :: before } else none

end Level

/-- A group that is open, with what stands before it. -/
structure OpenGroup where
  outer : Level
  switches : Switches
  /-- Whether blanks count for nothing behind the group. -/
  spaced : Bool

/-- An atom as an expression. -/
def Atom.expr : Atom → Expr
  | .literal l => .literal l
  | .shorthand kind negated => .shorthand kind negated
  | .anyChar => .anyChar
  | .edge => .edge
  | .wordEdge => .wordEdge

/-- Reads an atom: an escape, one of three signs, or a character for itself. -/
def atom? (spaced : Bool) (c : Char) (rest : List Char) : Option (Atom × List Char) :=
  if c = '\\' then escape? spaced rest
  else if c = '.' then some (.anyChar, rest)
  else if c = '^' ∨ c = '$' then some (.edge, rest)
  else some (.literal ⟨c, false⟩, rest)

theorem length_of_atom? {spaced : Bool} {c : Char} {s rest : List Char} {atom : Atom}
    (h : atom? spaced c s = some (atom, rest)) : rest.length ≤ s.length := by
  unfold atom? at h
  split at h
  · exact Nat.le_of_lt (length_of_escape? h)
  · split at h
    · simp_all
    · split at h <;> simp_all

/-- What is left behind the question mark that may follow a sign of repetition. -/
def behindLazyMark : List Char → List Char
  | [] => []
  | c :: rest => if c = '?' then rest else c :: rest

theorem length_behindLazyMark (s : List Char) : (behindLazyMark s).length ≤ s.length := by
  cases s with
  | nil => exact Nat.le_refl _
  | cons c rest =>
    simp only [behindLazyMark]
    split
    · exact Nat.le_succ _
    · exact Nat.le_refl _

/-- Reads the rest of an expression: `names` are the names of groups so far, `groups` the open
groups, the innermost first. -/
def read? (names : List String) (groups : List OpenGroup) (spaced : Bool) (level : Level)
    (s : List Char) : Option Expr :=
  have _skipped := length_skip spaced s
  match _hs : skip spaced s with
  | [] => if groups.isEmpty then some level.expr else none
  | c :: rest =>
    if c = '(' then
      have _blanks := length_skip spaced rest
      match _h : head? (skip spaced rest) with
      | none => none
      | some (.switches s, left) =>
        have := length_of_head? _h
        read? names groups ((s.lookup .spaced).getD spaced) (level.push (.switches s)) left
      | some (.group s, left) =>
        have := length_of_head? _h
        read? names (⟨level, s, spaced⟩ :: groups) ((s.lookup .spaced).getD spaced) {} left
      | some (.named name, left) =>
        have := length_of_head? _h
        if names.contains name then none
        else read? (name :: names) (⟨level, [], spaced⟩ :: groups) spaced {} left
    else if c = ')' then
      match groups with
      | [] => none
      | g :: others =>
        read? names others g.spaced (g.outer.push (.group g.switches level.expr)) rest
    else if c = '|' then read? names groups spaced level.alternate rest
    else if c = '[' then
      have _opened := length_openSet spaced rest
      match _h : readSet? spaced [] (openSet spaced rest).1 (openSet spaced rest).2 with
      | none => none
      | some (negated, members, left) =>
        have := length_of_readSet? _h
        read? names groups spaced (level.push (.set negated members)) left
    else if c = '*' ∨ c = '+' ∨ c = '?' then
      have _mark := length_behindLazyMark rest
      match level.repeat? with
      | none => none
      | some repeated => read? names groups spaced repeated (behindLazyMark rest)
    else if c = '\x7b' then none
    else
      match _h : atom? spaced c rest with
      | none => none
      | some (atom, left) =>
        have := length_of_atom? _h
        read? names groups spaced (level.push atom.expr) left
termination_by s.length
decreasing_by all_goals (simp only [_hs, List.length_cons] at *; omega)

/-- The expression that a text writes. -/
def Expr.ofText? (s : List Char) : Option Expr := read? [] [] false {} s

end PanelDock.Pattern
