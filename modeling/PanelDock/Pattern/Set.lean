import PanelDock.Pattern.Escape
/-!
# Reading sets of characters

A set stands in square brackets. It lists characters, ranges, named classes and sets, and two
doubled signs in a row make an operation of what stands on their sides; operations are taken from
left to right.

`readSet?` reads a set from behind its bracket. The lemmas say that every step leaves less to read.
-/

namespace PanelDock.Pattern

/-- A set that is being read. -/
structure SetLevel where
  negated : Bool
  /-- What stands to the left of the last operation. -/
  left : Option (Members × SetOperation) := none
  /-- What has been read since, the last first. -/
  parts : List Members := []

namespace SetLevel

/-- What has been read so far. -/
def members (l : SetLevel) : Members :=
  match l.left with
  | none => .ofParts l.parts
  | some (left, operation) => .combined operation left (.ofParts l.parts)

/-- Adds what is listed next. -/
def push (l : SetLevel) (m : Members) : SetLevel := { l with parts := m :: l.parts }

/-- Begins the right side of an operation. -/
def operate (l : SetLevel) (operation : SetOperation) : SetLevel :=
  { l with left := some (l.members, operation), parts := [] }

end SetLevel

/-- The minus signs at the start of a set, and what is left behind them. -/
def leadingDashes (spaced : Bool) (s : List Char) : Nat × List Char :=
  match s with
  | '-' :: rest =>
    have := length_skip spaced rest
    let (count, left) := leadingDashes spaced (skip spaced rest)
    (count + 1, left)
  | _ => (0, s)
termination_by s.length
decreasing_by simp only [List.length_cons]; omega

theorem length_leadingDashes (spaced : Bool) (s : List Char) :
    (leadingDashes spaced s).2.length ≤ s.length := by
  fun_induction leadingDashes spaced s with
  | case1 rest _ count left h ih =>
    rw [h] at ih
    simp only [List.length_cons]
    have := length_skip spaced rest
    simp only at ih
    omega
  | case2 => exact Nat.le_refl _

/-- Whether a caret comes first, and what is left behind it. -/
def negation (spaced : Bool) : List Char → Bool × List Char
  | [] => (false, [])
  | c :: rest => if c = '^' then (true, skip spaced rest) else (false, c :: rest)

theorem length_negation (spaced : Bool) (s : List Char) :
    (negation spaced s).2.length ≤ s.length := by
  cases s with
  | nil => exact Nat.le_refl _
  | cons c rest =>
    simp only [negation]
    split
    · exact Nat.le_succ_of_le (length_skip spaced rest)
    · exact Nat.le_refl _

/-- Begins a set from behind its bracket: a caret negates it, minus signs at the start are listed,
and so is a closing bracket that comes first. -/
def openSet (spaced : Bool) (s : List Char) : SetLevel × List Char :=
  let caret := negation spaced (skip spaced s)
  let dashes := leadingDashes spaced caret.2
  if dashes.1 = 0 ∧ dashes.2.head? = some ']' then
    ({ negated := caret.1, parts := [.literal ⟨']', false⟩] }, skip spaced (dashes.2.drop 1))
  else ({ negated := caret.1, parts := List.replicate dashes.1 (.literal ⟨'-', false⟩) }, dashes.2)

theorem length_openSet (spaced : Bool) (s : List Char) :
    (openSet spaced s).2.length ≤ s.length := by
  have start := length_skip spaced s
  have caret := length_negation spaced (skip spaced s)
  have dashes := length_leadingDashes spaced (negation spaced (skip spaced s)).2
  have behind :=
    length_skip spaced ((leadingDashes spaced (negation spaced (skip spaced s)).2).2.drop 1)
  simp only [List.length_drop] at behind
  unfold openSet
  dsimp only
  split
  · dsimp only
    omega
  · dsimp only
    omega

/-- The names of the classes of ASCII characters. -/
def classNames : List String :=
  ["alnum", "alpha", "ascii", "blank", "cntrl", "digit", "graph", "lower", "print",
    "punct", "space",
   "upper", "word", "xdigit"]

/-- Reads a named class from behind its bracket. -/
def namedClass? : List Char → Option (Members × List Char)
  | ':' :: start =>
    let inside := negation false start
    let name := String.ofList (inside.2.takeWhile (· ≠ ':'))
    match inside.2.dropWhile (· ≠ ':') with
    | ':' :: ']' :: rest =>
        if classNames.contains name then some (.named name inside.1, rest) else none
    | _ => none
  | _ => none

theorem length_of_namedClass? {s rest : List Char} {m : Members}
    (h : namedClass? s = some (m, rest)) : rest.length < s.length := by
  unfold namedClass? at h
  split at h
  · rename_i start
    dsimp only at h
    split at h
    · rename_i others hd
      split at h
      · simp only [Option.some.injEq, Prod.mk.injEq] at h
        have inside := length_negation false start
        have dropped := (List.dropWhile_sublist (l := (negation false start).2)
          (fun c => decide (c ≠ ':'))).length_le
        rw [hd] at dropped
        rw [← h.2]
        simp only [List.length_cons] at dropped ⊢
        omega
      · simp at h
    · simp at h
  · simp at h

/-- The operation at the start of a text. -/
def setOperation? : List Char → Option (SetOperation × List Char)
  | '&' :: '&' :: rest => some (.intersection, rest)
  | '-' :: '-' :: rest => some (.difference, rest)
  | '~' :: '~' :: rest => some (.symmetricDifference, rest)
  | _ => none

theorem length_of_setOperation? {s rest : List Char} {o : SetOperation}
    (h : setOperation? s = some (o, rest)) : rest.length < s.length := by
  unfold setOperation? at h
  split at h <;> simp only [Option.some.injEq, Prod.mk.injEq, reduceCtorEq] at h
  all_goals
    rw [← h.2]
    exact Nat.lt_succ_of_lt (Nat.lt_succ_self _)

/-- Reads a character or an escape. -/
def member? (spaced : Bool) : List Char → Option (Atom × List Char)
  | [] => none
  | c :: rest => if c = '\\' then escape? spaced rest else some (.literal ⟨c, false⟩, rest)

theorem length_of_member? {spaced : Bool} {s rest : List Char} {atom : Atom}
    (h : member? spaced s = some (atom, rest)) : rest.length < s.length := by
  cases s with
  | nil => simp [member?] at h
  | cons c others =>
    simp only [member?] at h
    split at h
    · have := length_of_escape? h
      simp only [List.length_cons]
      omega
    · simp only [Option.some.injEq, Prod.mk.injEq] at h
      simp [h.2]

/-- The character behind a minus sign that decides whether the sign makes a range. Among blanks and
a comment it is the first character of the comment; if there are blanks only, the first of them. -/
def behindDash? (spaced : Bool) (s : List Char) : Option Char :=
  if spaced then
    let start := s.dropWhile Text.isBlank
    let shown := if start.head? = some '#' then (start.drop 1).dropWhile Text.isBlank else start
    shown.head?.or s.head?
  else s.head?

/-- What an atom is in a set: an edge has no place in one. -/
def Atom.member? : Atom → Option Members
  | .literal l => some (.literal l)
  | .shorthand kind negated => some (.shorthand kind negated)
  | _ => none

/-- The range between two atoms. -/
def range? : Atom → Atom → Option Members
  | .literal low, .literal high => if low.char ≤ high.char then some (.range low high) else none
  | _, _ => none

/-- Reads what is listed next: a range if a minus sign stands behind the first character and neither
a closing bracket nor a minus sign behind that. -/
def listed? (spaced : Bool) (s : List Char) : Option (Members × List Char) :=
  (member? spaced s).bind (fun first =>
    let rest := skip spaced first.2
    if rest.head? = some '-' ∧ behindDash? spaced (rest.drop 1) ≠ some ']' ∧
        behindDash? spaced (rest.drop 1) ≠ some '-' then
      (member? spaced (skip spaced (rest.drop 1))).bind (fun last =>
        (range? first.1 last.1).map (fun m => (m, last.2)))
    else first.1.member?.map (fun m => (m, rest)))

theorem length_of_listed? {spaced : Bool} {s rest : List Char} {m : Members}
    (h : listed? spaced s = some (m, rest)) : rest.length < s.length := by
  simp only [listed?, Option.bind_eq_some_iff] at h
  obtain ⟨first, hfirst, h⟩ := h
  have below : first.2.length < _ := length_of_member? hfirst
  have skipped := length_skip spaced first.2
  split at h
  · simp only [Option.bind_eq_some_iff, Option.map_eq_some_iff, Prod.mk.injEq] at h
    obtain ⟨last, hlast, _, _, _, rfl⟩ := h
    have further : last.2.length < _ := length_of_member? hlast
    have between := length_skip spaced ((skip spaced first.2).drop 1)
    simp only [List.length_drop] at between
    omega
  · simp only [Option.map_eq_some_iff, Prod.mk.injEq] at h
    obtain ⟨_, _, _, rfl⟩ := h
    omega

/-- Reads a set to its end, with these sets around it, the innermost first. Gives whether it is
negated, what it lists, and what is left to read. -/
def readSet? (spaced : Bool) (outer : List SetLevel) (level : SetLevel) (s : List Char) :
    Option (Bool × Members × List Char) :=
  have _skipped := length_skip spaced s
  match _hs : skip spaced s with
  | [] => none
  | c :: rest =>
    if c = ']' then
      match outer with
      | [] => some (level.negated, level.members, rest)
      | l :: others => readSet? spaced others (l.push (.set level.negated level.members)) rest
    else if c = '[' then
      match h : namedClass? rest with
      | some (m, left) =>
        have := length_of_namedClass? h
        readSet? spaced outer (level.push m) left
      | none =>
        have := length_openSet spaced rest
        readSet? spaced (level :: outer) (openSet spaced rest).1 (openSet spaced rest).2
    else
      match h : setOperation? (c :: rest) with
      | some (operation, left) =>
        have := length_of_setOperation? h
        readSet? spaced outer (level.operate operation) left
      | none =>
        match h' : listed? spaced (c :: rest) with
        | some (m, left) =>
          have := length_of_listed? h'
          readSet? spaced outer (level.push m) left
        | none => none
termination_by s.length
decreasing_by all_goals (simp only [_hs, List.length_cons] at *; omega)

theorem length_of_readSet? {spaced : Bool} {outer : List SetLevel} {level : SetLevel}
    {s rest : List Char} {negated : Bool} {m : Members}
    (h : readSet? spaced outer level s = some (negated, m, rest)) : rest.length < s.length := by
  fun_induction readSet? spaced outer level s <;> simp_all <;> omega

end PanelDock.Pattern
