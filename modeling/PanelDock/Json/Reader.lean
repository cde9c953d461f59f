import PanelDock.Json.Basic
/-!
# Reading JSON

A recursive reader over the characters of a document. Each part takes the characters it needs from
the front and gives back the rest. Values nest to any depth, so the reader of a value carries a
bound on the number of its steps; `read?` sets it from the length of the document, which no run can
exhaust.
-/

namespace PanelDock.Json

/-- JSON knows four blank characters. -/
def isSpace (c : Char) : Bool := c = ' ' || c = '\n' || c = '\t' || c = '\r'

/-- Drops the blank characters in front. -/
def skipSpace (s : List Char) : List Char := s.dropWhile isSpace

/-- The value of a decimal digit. -/
def digit? (c : Char) : Option Nat :=
  if '0' ≤ c ∧ c ≤ '9' then some (c.toNat - '0'.toNat) else none

/-- Takes the digits in front. -/
def takeDigits : List Char → List Nat × List Char
  | [] => ([], [])
  | c :: s => match digit? c with
    | some d => let (digits, rest) := takeDigits s; (d :: digits, rest)
    | none => ([], c :: s)

/-- The fraction of a number, if there is a point: at least one digit. -/
def fraction? : List Char → Option (Option (List Nat) × List Char)
  | '.' :: s => match takeDigits s with
    | ([], _) => none
    | (digits, rest) => some (some digits, rest)
  | s => some (none, s)

/-- The digits of an exponent, behind its sign. -/
def exponentDigits? (negative : Bool) (s : List Char) : Option (Option Int × List Char) :=
  match takeDigits s with
  | ([], _) => none
  | (digits, rest) =>
    let n : Int := Decimal.ofDigits digits
    some (some (if negative then -n else n), rest)

/-- The exponent of a number, if there is one. -/
def exponent? : List Char → Option (Option Int × List Char)
  | c :: s =>
    if c = 'e' ∨ c = 'E' then
      match s with
      | '+' :: rest => exponentDigits? false rest
      | '-' :: rest => exponentDigits? true rest
      | _ => exponentDigits? false s
    else some (none, c :: s)
  | [] => some (none, [])

/-- A number. A leading zero stands alone. -/
def number? (negative : Bool) (s : List Char) : Option (Json × List Char) :=
  match takeDigits s with
  | ([], _) => none
  | (0 :: _ :: _, _) => none
  | (whole, rest) => do
    let (fraction, rest) ← fraction? rest
    let (exponent, rest) ← exponent? rest
    return (.number { negative, whole, fraction, exponent }, rest)

/-- The value of a digit in base sixteen. -/
def hexDigit? (c : Char) : Option Nat :=
  if '0' ≤ c ∧ c ≤ '9' then some (c.toNat - '0'.toNat)
  else if 'a' ≤ c ∧ c ≤ 'f' then some (c.toNat - 'a'.toNat + 10)
  else if 'A' ≤ c ∧ c ≤ 'F' then some (c.toNat - 'A'.toNat + 10)
  else none

/-- A unit of sixteen bits in four digits. -/
def unit? : List Char → Option (Nat × List Char)
  | a :: b :: c :: d :: rest => do
    let a ← hexDigit? a
    let b ← hexDigit? b
    let c ← hexDigit? c
    let d ← hexDigit? d
    return (((a * 16 + b) * 16 + c) * 16 + d, rest)
  | _ => none

/-- The character that a letter behind a backslash stands for. -/
def escaped? : Char → Option Char
  | '"' => some '"'
  | '\\' => some '\\'
  | '/' => some '/'
  | 'b' => some '\x08'
  | 'f' => some '\x0c'
  | 'n' => some '\n'
  | 'r' => some '\r'
  | 't' => some '\t'
  | _ => none

/-- The unit is the first half of a surrogate pair. -/
def isHighSurrogate (unit : Nat) : Bool := 0xD800 ≤ unit && unit < 0xDC00

/-- The unit is the second half of a surrogate pair. -/
def isLowSurrogate (unit : Nat) : Bool := 0xDC00 ≤ unit && unit < 0xE000

/-- The character of a surrogate pair. -/
def pairedChar (high low : Nat) : Char :=
  Char.ofNat (0x10000 + (high - 0xD800) * 0x400 + (low - 0xDC00))

/-- The second half of a pair, if the text goes on with one. -/
def lowSurrogate? : List Char → Option (Nat × List Char)
  | '\\' :: 'u' :: s => match unit? s with
    | some (unit, rest) => if isLowSurrogate unit then some (unit, rest) else none
    | none => none
  | _ => none

/-- Reads a string up to its closing quote. Gives its characters, or nothing for them if a surrogate
stands alone, and the rest. -/
def stringTail? : (fuel : Nat) → List Char → Option (Option (List Char) × List Char)
  | 0, _ => none
  | _ + 1, [] => none
  | fuel + 1, c :: s =>
    if c = '"' then some (some [], s)
    else if c.toNat < 0x20 then none
    else if c = '\\' then
      match s with
      | 'u' :: s => do
        let (unit, s) ← unit? s
        if isHighSurrogate unit then
          match lowSurrogate? s with
          | some (low, s) => do
            let (text, rest) ← stringTail? fuel s
            return (text.map (pairedChar unit low :: ·), rest)
          | none => do
            let (_, rest) ← stringTail? fuel s
            return (none, rest)
        else if isLowSurrogate unit then do
          let (_, rest) ← stringTail? fuel s
          return (none, rest)
        else do
          let (text, rest) ← stringTail? fuel s
          return (text.map (Char.ofNat unit :: ·), rest)
      | e :: s => do
        let c ← escaped? e
        let (text, rest) ← stringTail? fuel s
        return (text.map (c :: ·), rest)
      | [] => none
    else do
      let (text, rest) ← stringTail? fuel s
      return (text.map (c :: ·), rest)

/-- Takes a word from the front. -/
def word? (word : List Char) (value : Json) (s : List Char) : Option (Json × List Char) :=
  if word.isPrefixOf s then some (value, s.drop word.length) else none

/-- An object's members with the text of their names, or nothing if a name stands for no text. -/
def members? : List (Option String × Json) → Option (List (String × Json))
  | [] => some []
  | (name, value) :: rest => do
    let name ← name
    let rest ← members? rest
    return (name, value) :: rest

mutual

/-- Reads a value from the front. -/
def value? : (fuel : Nat) → List Char → Option (Json × List Char)
  | 0, _ => none
  | fuel + 1, s =>
    match skipSpace s with
    | 'n' :: s => word? ['u', 'l', 'l'] .null s
    | 't' :: s => word? ['r', 'u', 'e'] (.bool true) s
    | 'f' :: s => word? ['a', 'l', 's', 'e'] (.bool false) s
    | '"' :: s => do
      let (text, rest) ← stringTail? (s.length + 1) s
      return (match text with | some t => .string (String.ofList t) | none => .unpaired, rest)
    | '[' :: s =>
      match skipSpace s with
      | ']' :: rest => some (.array [], rest)
      | s => do
        let (elements, rest) ← elements? fuel s
        return (.array elements, rest)
    | '\x7b' :: s =>
      match skipSpace s with
      | '\x7d' :: rest => some (.object [], rest)
      | s => do
        let (members, rest) ← namedValues? fuel s
        return (match members? members with | some ms => .object ms | none => .unpaired, rest)
    | '-' :: s => number? true s
    | s => number? false s

/-- Reads the elements of an array, up to its closing bracket. -/
def elements? : (fuel : Nat) → List Char → Option (List Json × List Char)
  | 0, _ => none
  | fuel + 1, s => do
    let (element, s) ← value? fuel s
    match skipSpace s with
    | ',' :: s => do
      let (others, rest) ← elements? fuel s
      return (element :: others, rest)
    | ']' :: rest => return ([element], rest)
    | _ => none

/-- Reads the members of an object, up to its closing brace. -/
def namedValues? : (fuel : Nat) → List Char → Option (List (Option String × Json) × List Char)
  | 0, _ => none
  | fuel + 1, s =>
    match skipSpace s with
    | '"' :: s => do
      let (name, s) ← stringTail? (s.length + 1) s
      match skipSpace s with
      | ':' :: s => do
        let (value, s) ← value? fuel s
        let member := (name.map String.ofList, value)
        match skipSpace s with
        | ',' :: s => do
          let (others, rest) ← namedValues? fuel s
          return (member :: others, rest)
        | '\x7d' :: rest => return ([member], rest)
        | _ => none
      | _ => none
    | _ => none

end

/-- Reads a document: one value with blanks around it. -/
def read? (text : String) : Option Json :=
  let s := text.toList
  match value? (2 * s.length + 2) s with
  | some (value, rest) => if skipSpace rest = [] then some value else none
  | none => none

end PanelDock.Json
