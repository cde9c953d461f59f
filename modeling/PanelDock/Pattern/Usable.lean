import PanelDock.Pattern.Basic
/-!
# Which patterns can be used

An expression is matched against text without tables of Unicode: letters beyond ASCII have no case,
there are no classes of Unicode digits, blanks and words, and the edges of words are known among
bytes only. An expression that switches to bytes may still match nothing but whole characters, so
that in it everything that could match a part of a character is refused.

`Expr.isUsable` says whether all parts of an expression can be matched in the mode in which they
stand, and whether they are not nested too deeply.
-/

namespace PanelDock.Pattern

/-- The switches that decide what can be matched. -/
structure Mode where
  ignoreCase : Bool := false
  unicode : Bool := true
deriving DecidableEq, Repr

/-- What switches say about a flag, if anything. -/
def Switches.state? (s : Switches) (flag : Flag) : Option Bool := s.lookup flag

/-- The mode behind switches. -/
def Mode.after (m : Mode) (s : Switches) : Mode :=
  { ignoreCase := (Switches.state? s .ignoreCase).getD m.ignoreCase
    unicode := (Switches.state? s .unicode).getD m.unicode }

/-- Whether the character is one byte. -/
def Literal.isByte (l : Literal) : Bool := l.char.toNat < 0x80

namespace Members

mutual

/-- Whether what stands in a set can be matched. As characters of Unicode, nothing may be listed
whose case is ignored. As bytes, only ASCII may be listed, and nothing may be left out of all bytes.
-/
def isUsable (m : Mode) : Members → Bool
  | nothing => true
  | literal l => if m.unicode then !m.ignoreCase else l.isByte
  | range low high => if m.unicode then !m.ignoreCase else low.isByte && high.isByte
  | named _ negated => if m.unicode then !m.ignoreCase else !negated
  | shorthand _ negated => !m.unicode && !negated
  | set negated members => (m.unicode || !negated) && members.isUsable m
  | union parts => areUsable m parts
  | combined _ left right => left.isUsable m && right.isUsable m

/-- Whether all the parts can be matched. -/
def areUsable (m : Mode) : List Members → Bool
  | [] => true
  | part :: parts => part.isUsable m && areUsable m parts

end

end Members

namespace Expr

mutual

/-- The mode behind an expression, if it can be matched in the mode before it. Switches hold up to
the end of the group, also in the alternatives that follow. -/
def modeAfter? (m : Mode) : Expr → Option Mode
  | empty => some m
  | switches s => some (m.after s)
  | literal l =>
    if m.unicode then if m.ignoreCase then none else some m
    else if l.asByte && !l.isByte then none else some m
  | anyChar => if m.unicode then some m else none
  | edge => some m
  | wordEdge => if m.unicode then none else some m
  | shorthand _ negated => if m.unicode || negated then none else some m
  | set negated members =>
    if (m.unicode || !negated) && members.isUsable m then some m else none
  | repeated e => e.modeAfter? m
  | group s e => (e.modeAfter? (m.after s)).map (fun _ => m)
  | alternatives parts => modeAfterParts? m parts
  | sequence parts => modeAfterParts? m parts

/-- The mode behind parts that stand in a row. -/
def modeAfterParts? (m : Mode) : List Expr → Option Mode
  | [] => some m
  | part :: parts => (part.modeAfter? m).bind (fun m' => modeAfterParts? m' parts)

end

/-- How deeply an expression may be nested. -/
def maxDepth : Nat := 250

/-- Whether the expression can be used. -/
def isUsable (e : Expr) : Bool := e.depth ≤ maxDepth && (e.modeAfter? {}).isSome

end Expr

end PanelDock.Pattern
