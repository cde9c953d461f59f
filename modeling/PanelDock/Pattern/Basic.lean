/-!
# Patterns

The structure of a regular expression: what it is built from, and how deeply its parts are nested.
Nothing here says how an expression is written (`Pattern.Reader`) or when it can be used
(`Pattern.Usable`).
-/

namespace PanelDock.Pattern

/-- What can be switched on and off inside an expression. -/
inductive Flag where
  /-- Small and large letters are the same. -/
  | ignoreCase
  /-- The edges of lines are edges too. -/
  | multiLine
  /-- A line feed is a character like others. -/
  | dotAll
  /-- Repetitions take as little as they can. -/
  | lazy
  /-- Characters are those of Unicode, and not single bytes. -/
  | unicode
  /-- A carriage return belongs to the end of a line. -/
  | returns
  /-- Blanks and comments may stand in the expression. -/
  | spaced
deriving DecidableEq, Repr

/-- Flags that are switched, in order, and whether each is on. -/
abbrev Switches := List (Flag × Bool)

/-- A character that stands for itself. -/
structure Literal where
  char : Char
  /-- Whether it is given by the two digits of a byte. -/
  asByte : Bool := false
deriving DecidableEq, Repr

/-- A class of characters that has a letter of its own. -/
inductive Shorthand where
  | digit
  | blank
  | word
deriving DecidableEq, Repr

/-- What a set does with two sets. -/
inductive SetOperation where
  | intersection
  | difference
  | symmetricDifference
deriving DecidableEq, Repr

/-- What stands between the brackets of a set of characters. -/
inductive Members where
  | nothing
  | literal (l : Literal)
  | range (low high : Literal)
  /-- A class of ASCII characters with a name. -/
  | named (name : String) (negated : Bool)
  | shorthand (kind : Shorthand) (negated : Bool)
  | set (negated : Bool) (members : Members)
  | union (parts : List Members)
  | combined (operation : SetOperation) (left right : Members)

/-- A regular expression. -/
inductive Expr where
  | empty
  /-- Switches that hold up to the end of the group. -/
  | switches (s : Switches)
  | literal (l : Literal)
  | anyChar
  /-- An edge of the text or of a line. -/
  | edge
  /-- An edge of a word, or a place that is none. -/
  | wordEdge
  | shorthand (kind : Shorthand) (negated : Bool)
  | set (negated : Bool) (members : Members)
  | repeated (e : Expr)
  /-- A group; the switches hold in it only. -/
  | group (s : Switches) (e : Expr)
  | alternatives (parts : List Expr)
  | sequence (parts : List Expr)

namespace Members

mutual

/-- How deeply sets, unions and operations are nested. -/
def depth : Members → Nat
  | set _ members => members.depth + 1
  | union parts => depthOfParts parts + 1
  | combined _ left right => max left.depth right.depth + 1
  | _ => 0

/-- The depth of the deepest part. -/
def depthOfParts : List Members → Nat
  | [] => 0
  | part :: parts => max part.depth (depthOfParts parts)

end

/-- Parts that stand side by side, the last first. -/
def ofParts : List Members → Members
  | [] => nothing
  | [part] => part
  | parts => union parts.reverse

end Members

namespace Expr

mutual

/-- How deeply groups, sets, repetitions, sequences and alternatives are nested. -/
def depth : Expr → Nat
  | set _ members => members.depth + 1
  | repeated e => e.depth + 1
  | group _ e => e.depth + 1
  | alternatives parts => depthOfParts parts + 1
  | sequence parts => depthOfParts parts + 1
  | _ => 0

/-- The depth of the deepest part. -/
def depthOfParts : List Expr → Nat
  | [] => 0
  | part :: parts => max part.depth (depthOfParts parts)

end

/-- Parts that follow each other, the last first. -/
def ofParts : List Expr → Expr
  | [] => empty
  | [part] => part
  | parts => sequence parts.reverse

/-- Whether the part can be repeated: switches and nothing at all cannot. -/
def isRepeatable : Expr → Bool
  | empty => false
  | switches _ => false
  | _ => true

end Expr

end PanelDock.Pattern
