import PanelDock.Toml.Basic
/-!
# Printing TOML

Documents of sections, each a header with entries below it. A text is written in the first of these
forms that can hold it: double quotes without escapes, single quotes, three double quotes without
escapes, three single quotes, and at last double quotes with escapes, three of them if it has
several lines.
-/

namespace PanelDock.Toml

/-- The longest run of a character. -/
def longestRun (c : Char) : (current : Nat) → List Char → Nat
  | current, [] => current
  | current, d :: s => if d = c then longestRun c (current + 1) s
      else max current (longestRun c 0 s)

/-- A character that only an escape can write: a control character other than a tab and a line feed.
-/
def needsEscape (c : Char) : Bool := (c.toNat < 0x20 && c ≠ '\t' && c ≠ '\n') || c.toNat = 0x7F

/-- Four digits in base sixteen, large letters. -/
def hexDigits (n : Nat) : List Char :=
  let digits := (Nat.toDigits 16 n).map Char.toUpper
  List.replicate (4 - digits.length) '0' ++ digits

/-- How a character other than a double quote stands between double quotes. A line feed stands for
itself where there may be several lines. -/
def escape (long : Bool) (c : Char) : List Char :=
  if c = '\x08' then ['\\', 'b']
  else if c = '\t' then ['\\', 't']
  else if c = '\n' then if long then ['\n'] else ['\\', 'n']
  else if c = '\x0c' then ['\\', 'f']
  else if c = '\r' then ['\\', 'r']
  else if c = '\\' then ['\\', '\\']
  else if c.toNat < 0x20 || c.toNat = 0x7F then ['\\', 'u'] ++ hexDigits c.toNat
  else [c]

/-- The text between double quotes. Of the double quotes in a row, as many as `allowed` stand for
themselves, and the next is escaped. -/
def basicBody (long : Bool) (allowed : Nat) : (run : Nat) → List Char → List Char
  | _, [] => []
  | run, c :: s =>
    if c = '"' then
      if run < allowed then '"' :: basicBody long allowed (run + 1) s
      else '\\' :: '"' :: basicBody long allowed 0 s
    else escape long c ++ basicBody long allowed 0 s

/-- A form of a text. -/
inductive Form where
  | basic
  | literal
  | longBasic
  | longLiteral
deriving DecidableEq, Repr

/-- The form in which a text is written. -/
def formOf (s : List Char) : Form :=
  let controls := s.any needsEscape
  let lines := s.contains '\n'
  let backslash := s.contains '\\'
  let double := longestRun '"' 0 s
  let single := longestRun '\'' 0 s
  if !controls && !backslash && double = 0 && !lines then .basic
  else if !controls && single = 0 && !lines then .literal
  else if !controls && !backslash && double ≤ 2 then .longBasic
  else if !controls && single ≤ 2 then .longLiteral
  else if lines then .longBasic
  else .basic

/-- The text of a string. A line feed behind three opening quotes does not belong to it. -/
def stringText (s : List Char) : List Char :=
  let opening := if s.contains '\n' then ['\n'] else []
  match formOf s with
  | .basic => '"' :: basicBody false 0 0 s ++ ['"']
  | .literal => '\'' :: s ++ ['\'']
  | .longBasic => ['"', '"', '"'] ++ opening ++ basicBody true 2 0 s ++ ['"', '"', '"']
  | .longLiteral => ['\'', '\'', '\''] ++ opening ++ s ++ ['\'', '\'', '\'']

/-- A decimal digit. -/
def digitChar (d : Nat) : Char := Char.ofNat ('0'.toNat + d)

/-- The text of a number with a point. -/
def numberText : Number → List Char
  | .finite n =>
    let exponent := match n.exponent with
      | none => []
      | some e => 'e' :: (toString e).toList
    (if n.negative then ['-'] else []) ++ n.whole.map digitChar ++
      (match n.fraction with | none => [] | some digits => '.' :: digits.map digitChar) ++ exponent
  | .infinite negative => (if negative then ['-'] else []) ++ ['i', 'n', 'f']
  | .nan => ['n', 'a', 'n']

/-- The text of a value that stands in a section. Other values have no text here. -/
def valueText : Toml → List Char
  | .string s => stringText s.toList
  | .integer n => (toString n).toList
  | .float x => numberText x
  | .boolean true => ['t', 'r', 'u', 'e']
  | .boolean false => ['f', 'a', 'l', 's', 'e']
  | _ => []

/-- A line with an entry. -/
def entryText (entry : String × Toml) : List Char :=
  entry.1.toList ++ [' ', '=', ' '] ++ valueText entry.2 ++ ['\n']

/-- A section: its header and its entries. -/
def sectionText (s : String × Entries) : List Char :=
  '[' :: s.1.toList ++ [']', '\n'] ++ s.2.flatMap entryText

/-- A document of sections, with an empty line between two. -/
def documentText (sections : List (String × Entries)) : List Char :=
  List.intercalate ['\n'] (sections.map sectionText)

/-- The text of a document of sections. -/
def printed (sections : List (String × Entries)) : String := String.ofList (documentText sections)

end PanelDock.Toml
