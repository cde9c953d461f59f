import PanelDock.Json.Basic
/-!
# Printing JSON

`Json.printed` writes a document in one of two styles: on one line without blanks, or with every
member and every element on a line of its own, two blanks deeper than what holds it. In strings only
the quote, the backslash and the control characters are escaped.
-/

namespace PanelDock.Json

/-- What stands between the parts of a document. -/
structure Style where
  /-- Between the brackets and the parts inside, at this depth. -/
  gap : (depth : Nat) → List Char
  /-- Behind the name of a member. -/
  colon : List Char

/-- Everything on one line, no blanks. -/
def compact : Style where
  gap _ := []
  colon := [':']

/-- A line for each part, two blanks for each level. -/
def indented : Style where
  gap depth := '\n' :: List.replicate (2 * depth) ' '
  colon := [':', ' ']

/-- A decimal digit. -/
def digitChar (d : Nat) : Char := Char.ofNat ('0'.toNat + d)

/-- The text of a numeral. -/
def numeralText (n : Decimal.Numeral) : List Char :=
  let fraction := match n.fraction with
    | none => []
    | some digits => '.' :: digits.map digitChar
  let exponent := match n.exponent with
    | none => []
    | some e => 'e' :: (if e < 0 then ['-'] else []) ++ Nat.toDigits 10 e.natAbs
  (if n.negative then ['-'] else []) ++ n.whole.map digitChar ++ fraction ++ exponent

/-- How one character stands in a string. -/
def escape (c : Char) : List Char :=
  if c = '"' then ['\\', '"']
  else if c = '\\' then ['\\', '\\']
  else if c = '\x08' then ['\\', 'b']
  else if c = '\x0c' then ['\\', 'f']
  else if c = '\n' then ['\\', 'n']
  else if c = '\r' then ['\\', 'r']
  else if c = '\t' then ['\\', 't']
  else if c.toNat < 0x20 then
    ['\\', 'u', '0', '0', Nat.digitChar (c.toNat / 16), Nat.digitChar (c.toNat % 16)]
  else [c]

/-- The text of a string, with its quotes. -/
def stringText (s : String) : List Char := '"' :: s.toList.flatMap escape ++ ['"']

mutual

/-- The text of a value that stands at `depth`. A string that stands for no text has no form of its
own and is written as null. -/
def text (style : Style) (depth : Nat) : Json → List Char
  | .null => ['n', 'u', 'l', 'l']
  | .bool true => ['t', 'r', 'u', 'e']
  | .bool false => ['f', 'a', 'l', 's', 'e']
  | .number n => numeralText n
  | .string s => stringText s
  | .array [] => ['[', ']']
  | .array (e :: es) =>
    '[' :: style.gap (depth + 1) ++ text style (depth + 1) e ++
      (elementsText style (depth + 1) es ++ (style.gap depth ++ [']']))
  | .object [] => ['\x7b', '\x7d']
  | .object (m :: ms) =>
    '\x7b' :: style.gap (depth + 1) ++ stringText m.1 ++ style.colon ++
      text style (depth + 1) m.2 ++
      (membersText style (depth + 1) ms ++ (style.gap depth ++ ['\x7d']))
  | .unpaired => ['n', 'u', 'l', 'l']

/-- The text of the further elements of an array. -/
def elementsText (style : Style) (depth : Nat) : List Json → List Char
  | [] => []
  | e :: es => ',' :: style.gap depth ++ (text style depth e ++ elementsText style depth es)

/-- The text of the further members of an object. -/
def membersText (style : Style) (depth : Nat) : List (String × Json) → List Char
  | [] => []
  | (name, value) :: ms =>
    ',' :: style.gap depth ++ stringText name ++ style.colon ++
      (text style depth value ++ membersText style depth ms)

end

/-- The text of a document. -/
def printed (style : Style) (j : Json) : String := String.ofList (text style 0 j)

end PanelDock.Json
