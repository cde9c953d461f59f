import PanelDock.Instant.Basic
import PanelDock.Toml.Basic
/-!
# Reading TOML

A reader over the characters of a document, by the grammar of TOML 1.0. Values nest at most 79 deep,
and a dotted key has at most 79 parts. Each part of the reader takes what it needs from the front
and gives back the rest; parts that repeat carry a bound on their steps, which is never less than
the number of characters.
-/

namespace PanelDock.Toml

/-- Values may nest less deeply than this. -/
def depthLimit : Nat := 80

/-- A blank within a line. -/
def isSpace (c : Char) : Bool := c = ' ' || c = '\t'

/-- Drops the blanks in front. -/
def skipSpace (s : List Char) : List Char := s.dropWhile isSpace

/-- A character that may stand for itself in comments and strings: a tab, or anything that is no
control character. -/
def isPlain (c : Char) : Bool := c = '\t' || (0x20 ≤ c.toNat && c.toNat ≠ 0x7F)

/-- The end of a line: what follows it. -/
def newline? : List Char → Option (List Char)
  | '\n' :: rest => some rest
  | '\r' :: '\n' :: rest => some rest
  | _ => none

/-- A comment, if there is one, up to the end of the line. -/
def skipComment : List Char → List Char
  | '#' :: rest => rest.dropWhile isPlain
  | s => s

/-- What may follow a value or a header on its line. -/
def lineEnd? (s : List Char) : Option (List Char) :=
  match skipComment (skipSpace s) with
  | [] => some []
  | s => newline? s

/-- Drops blanks, comments and line ends, as many as there are. -/
def skipLines : (fuel : Nat) → List Char → List Char
  | 0, s => s
  | fuel + 1, s =>
    match skipComment (skipSpace s) with
    | [] => []
    | s => match newline? s with
      | some rest => skipLines fuel rest
      | none => s

/-! ## Numbers -/

/-- The value of a digit in a base up to sixteen. -/
def digit? (base : Nat) (c : Char) : Option Nat :=
  let value :=
    if '0' ≤ c ∧ c ≤ '9' then some (c.toNat - '0'.toNat)
    else if 'a' ≤ c ∧ c ≤ 'f' then some (c.toNat - 'a'.toNat + 10)
    else if 'A' ≤ c ∧ c ≤ 'F' then some (c.toNat - 'A'.toNat + 10)
    else none
  value.filter (· < base)

/-- Takes the digits in front; an underscore may stand between two of them. -/
def takeDigits? (base : Nat) : List Char → Option (List Nat × List Char)
  | [] => some ([], [])
  | c :: s => match digit? base c with
    | some d => (takeDigits? base s).map (fun (digits, rest) => (d :: digits, rest))
    | none =>
      if c = '_' ∧ (s.head?.bind (digit? base)).isNone then none
      else if c = '_' then takeDigits? base s
      else some ([], c :: s)

/-- At least one digit, the first without an underscore before it. -/
def digits? (base : Nat) (s : List Char) : Option (List Nat × List Char) :=
  match s.head?.bind (digit? base) with
  | none => none
  | some _ => takeDigits? base s

/-- A whole number with the digits of a base. It must fit 64 bits with a sign. -/
def based? (base : Nat) (s : List Char) : Option (Toml × List Char) := do
  let (digits, rest) ← digits? base s
  let n := digits.foldl (fun n d => base * n + d) 0
  if n < Nat.pow 2 63 then some (.integer n, rest) else none

/-- The fraction of a number, if there is a point. -/
def fraction? : List Char → Option (Option (List Nat) × List Char)
  | '.' :: s => (digits? 10 s).map (fun (digits, rest) => (some digits, rest))
  | s => some (none, s)

/-- The exponent of a number, if there is one. -/
def exponent? : List Char → Option (Option Int × List Char)
  | c :: s =>
    if c = 'e' ∨ c = 'E' then
      let (negative, s) := match s with
        | '+' :: s => (false, s)
        | '-' :: s => (true, s)
        | s => (false, s)
      (digits? 10 s).map (fun (digits, rest) =>
        let n : Int := Decimal.ofDigits digits
        (some (if negative then -n else n), rest))
    else some (none, c :: s)
  | [] => some (none, [])

/-- The digits before a point: a zero alone, or digits that start with another. -/
def wholeDigits? : List Char → Option (List Nat × List Char)
  | '0' :: rest => some ([0], rest)
  | s => digits? 10 s

/-- A decimal number behind its sign. A float beyond the range of floats is refused above, not
below. -/
def decimal? (negative : Bool) (s : List Char) : Option (Toml × List Char) := do
  let (whole, rest) ← wholeDigits? s
  let (fraction, rest) ← fraction? rest
  let (exponent, rest) ← exponent? rest
  if fraction.isNone ∧ exponent.isNone then
    let n : Int := Decimal.ofDigits whole
    let n := if negative then -n else n
    if -Int.pow 2 63 ≤ n ∧ n < Int.pow 2 63 then some (.integer n, rest) else none
  else
    let numeral : Decimal.Numeral := { negative, whole, fraction, exponent }
    if numeral.nearest.isFinite then some (.float (.finite numeral), rest)
    else if negative then some (.float (.infinite true), rest)
    else none

/-- A number behind its sign, or one of the special values. -/
def signed? (negative : Bool) : List Char → Option (Toml × List Char)
  | 'i' :: 'n' :: 'f' :: rest => some (.float (.infinite negative), rest)
  | 'n' :: 'a' :: 'n' :: rest => some (.float .nan, rest)
  | s => decimal? negative s

/-! ## Dates and times -/

/-- Exactly `width` digits. -/
def fixed? : (width : Nat) → List Char → Option (Nat × List Char)
  | 0, s => some (0, s)
  | _ + 1, [] => none
  | width + 1, c :: s => do
    let d ← digit? 10 c
    let (n, rest) ← fixed? width s
    return (d * Nat.pow 10 width + n, rest)

/-- A character. -/
def char? (c : Char) : List Char → Option (List Char)
  | d :: rest => if d = c then some rest else none
  | [] => none

/-- A day of the calendar. -/
def date? (s : List Char) : Option (List Char) := do
  let (year, s) ← fixed? 4 s
  let (month, s) ← fixed? 2 (← char? '-' s)
  let (day, s) ← fixed? 2 (← char? '-' s)
  if (Day.mk year month day).Valid then some s else none

/-- A time of the day, perhaps with a fraction of a second. -/
def time? (s : List Char) : Option (List Char) := do
  let (hour, s) ← fixed? 2 s
  let (minute, s) ← fixed? 2 (← char? ':' s)
  let (second, s) ← fixed? 2 (← char? ':' s)
  if (TimeOfDay.mk hour minute second 0).Valid then
    match s with
    | '.' :: s =>
      if (s.head?.bind (digit? 10)).isNone then none
      else some (s.dropWhile (fun c => (digit? 10 c).isSome))
    | s => some s
  else none

/-- An offset from UTC, if there is one. -/
def offset? : List Char → Option (List Char)
  | c :: s =>
    if c = 'Z' ∨ c = 'z' then some s
    else if c = '+' ∨ c = '-' then do
      let (hour, s) ← fixed? 2 s
      let (minute, s) ← fixed? 2 (← char? ':' s)
      if hour < 24 ∧ minute < 60 then some s else none
    else some (c :: s)
  | [] => some []

/-- A time behind a date, if there is one. -/
def timeOfDate? : List Char → Option (List Char)
  | c :: s =>
    if (c = 'T' ∨ c = 't' ∨ c = ' ') ∧ (fixed? 2 s).isSome then time? s >>= offset?
    else some (c :: s)
  | [] => some []

/-- Whether a date stands in front: four digits and a dash. -/
def startsDate (s : List Char) : Bool := ((fixed? 4 s).bind (fun (_, s) => char? '-' s)).isSome

/-- Whether a time stands in front: two digits and a colon. -/
def startsTime (s : List Char) : Bool := ((fixed? 2 s).bind (fun (_, s) => char? ':' s)).isSome

/-- A number, a date or a time. -/
def number? (s : List Char) : Option (Toml × List Char) :=
  if startsDate s then (date? s >>= timeOfDate?).map (fun rest => (.moment, rest))
  else if startsTime s then (time? s).map (fun rest => (.moment, rest))
  else match s with
    | '+' :: s => signed? false s
    | '-' :: s => signed? true s
    | '0' :: 'x' :: s => based? 16 s
    | '0' :: 'o' :: s => based? 8 s
    | '0' :: 'b' :: s => based? 2 s
    | s => signed? false s

/-! ## Strings -/

/-- The character with this code point. -/
def scalar? (n : Nat) : Option Char :=
  if n < 0xD800 ∨ (0xDFFF < n ∧ n < 0x110000) then some (Char.ofNat n) else none

/-- A code point of `width` digits. -/
def codePoint? : (width : Nat) → (value : Nat) → List Char → Option (Char × List Char)
  | 0, value, s => (scalar? value).map (·, s)
  | _ + 1, _, [] => none
  | width + 1, value, c :: s => do
    let d ← digit? 16 c
    codePoint? width (16 * value + d) s

/-- The character that an escape stands for, behind its backslash. -/
def escaped? : List Char → Option (Char × List Char)
  | 'b' :: s => some ('\x08', s)
  | 't' :: s => some ('\t', s)
  | 'n' :: s => some ('\n', s)
  | 'f' :: s => some ('\x0c', s)
  | 'r' :: s => some ('\r', s)
  | '"' :: s => some ('"', s)
  | '\\' :: s => some ('\\', s)
  | 'u' :: s => codePoint? 4 0 s
  | 'U' :: s => codePoint? 8 0 s
  | _ => none

/-- The rest of a string in double quotes. -/
def basicTail? : (fuel : Nat) → List Char → Option (List Char × List Char)
  | 0, _ => none
  | _ + 1, [] => none
  | fuel + 1, c :: s =>
    if c = '"' then some ([], s)
    else if c = '\\' then do
      let (c, s) ← escaped? s
      let (text, rest) ← basicTail? fuel s
      return (c :: text, rest)
    else if isPlain c then do
      let (text, rest) ← basicTail? fuel s
      return (c :: text, rest)
    else none

/-- The rest of a string in single quotes. -/
def literalTail? : List Char → Option (List Char × List Char)
  | [] => none
  | c :: s =>
    if c = '\'' then some ([], s)
    else if isPlain c then (literalTail? s).map (fun (text, rest) => (c :: text, rest))
    else none

/-- The end of a string of several lines, if it stands in front: three quotes. Up to two more before
them belong to the text. -/
def closing? (quote : Char) (s : List Char) : Option (List Char × List Char) :=
  let count := (s.takeWhile (· = quote)).length
  if 3 ≤ count ∧ count ≤ 5 then some (List.replicate (count - 3) quote, s.drop count) else none

/-- A backslash at the end of a line: what follows the blanks and line ends behind it. -/
def continued? (s : List Char) : Option (List Char) :=
  (newline? (skipSpace s)).map (fun rest =>
    rest.dropWhile (fun c => isSpace c || c = '\n' || c = '\r'))

/-- Whether every carriage return that is passed over belongs to a line end. -/
def wellBroken : List Char → Bool
  | [] => true
  | '\r' :: '\n' :: s => wellBroken s
  | c :: s => c ≠ '\r' && wellBroken s

/-- The rest of a string of several lines in double quotes. -/
def longBasicTail? : (fuel : Nat) → List Char → Option (List Char × List Char)
  | 0, _ => none
  | fuel + 1, s =>
    match closing? '"' s with
    | some found => some found
    | none => match s with
      | [] => none
      | c :: rest =>
        if c = '\\' then
          match continued? rest with
          | some after =>
            if wellBroken (rest.take (rest.length - after.length)) then longBasicTail? fuel after
            else none
          | none => do
            let (c, s) ← escaped? rest
            let (text, rest) ← longBasicTail? fuel s
            return (c :: text, rest)
        else match newline? s with
          | some rest => do
            let (text, rest) ← longBasicTail? fuel rest
            return ('\n' :: text, rest)
          | none =>
            if c = '"' ∧ 3 ≤ (s.takeWhile (· = '"')).length then none
            else if isPlain c then do
              let (text, rest) ← longBasicTail? fuel rest
              return (c :: text, rest)
            else none

/-- The rest of a string of several lines in single quotes. -/
def longLiteralTail? : (fuel : Nat) → List Char → Option (List Char × List Char)
  | 0, _ => none
  | fuel + 1, s =>
    match closing? '\'' s with
    | some found => some found
    | none => match newline? s with
      | some rest => do
        let (text, rest) ← longLiteralTail? fuel rest
        return ('\n' :: text, rest)
      | none => match s with
        | [] => none
        | c :: rest =>
          if c = '\'' ∧ 3 ≤ (s.takeWhile (· = '\'')).length then none
          else if isPlain c then do
            let (text, rest) ← longLiteralTail? fuel rest
            return (c :: text, rest)
          else none

/-- The text without the line end in front. -/
def dropNewline (s : List Char) : List Char := (newline? s).getD s

/-- A string of any form. -/
def string? : List Char → Option (List Char × List Char)
  | '"' :: '"' :: '"' :: s => longBasicTail? (s.length + 1) (dropNewline s)
  | '\'' :: '\'' :: '\'' :: s => longLiteralTail? (s.length + 1) (dropNewline s)
  | '"' :: s => basicTail? (s.length + 1) s
  | '\'' :: s => literalTail? s
  | _ => none

/-! ## Keys -/

/-- A character of a key without quotes. -/
def isKeyChar (c : Char) : Bool :=
  ('a' ≤ c && c ≤ 'z') || ('A' ≤ c && c ≤ 'Z') || ('0' ≤ c && c ≤ '9') || c = '_' || c = '-'

/-- A part of a key. -/
def simpleKey? : List Char → Option (String × List Char)
  | '"' :: s => (basicTail? (s.length + 1) s).map (fun (text, rest) => (String.ofList text, rest))
  | '\'' :: s => (literalTail? s).map (fun (text, rest) => (String.ofList text, rest))
  | s =>
    let name := s.takeWhile isKeyChar
    if name = [] then none else some (String.ofList name, s.drop name.length)

/-- The parts of a dotted key, with blanks around each. -/
def keyParts? : (fuel : Nat) → List Char → Option (List String × List Char)
  | 0, _ => none
  | fuel + 1, s => do
    let (part, s) ← simpleKey? (skipSpace s)
    match skipSpace s with
    | '.' :: s => do
      let (parts, rest) ← keyParts? fuel s
      return (part :: parts, rest)
    | s => return ([part], s)

/-- A key: the path to its table, and its last part. -/
def key? (s : List Char) : Option (List String × String × List Char) := do
  let (parts, rest) ← keyParts? (s.length + 1) s
  let last ← parts.getLast?
  if parts.length < depthLimit then some (parts.dropLast, last, rest) else none

/-! ## Values -/

mutual

/-- A value inside `depth` others. -/
def value? : (fuel depth : Nat) → List Char → Option (Toml × List Char)
  | 0, _, _ => none
  | fuel + 1, depth, s =>
    match s with
    | [] => none
    | c :: rest =>
      if c = '"' ∨ c = '\'' then (string? s).map
        (fun (text, rest) => (.string (String.ofList text), rest))
      else if c = '[' then
        if depth + 1 < depthLimit then
          (elements? fuel (depth + 1) (skipLines rest.length rest)).map
            (fun (elements, rest) => (.array elements, rest))
        else none
      else if c = '\x7b' then
        if depth + 1 < depthLimit then do
          let (pairs, rest) ← match skipSpace rest with
            | '\x7d' :: rest => some ([], rest)
            | rest => pairs? fuel (depth + 1) rest
          let entries ← inlineTable [] pairs
          return (.table .inline entries, rest)
        else none
      else match s with
        | 't' :: 'r' :: 'u' :: 'e' :: rest => some (.boolean true, rest)
        | 'f' :: 'a' :: 'l' :: 's' :: 'e' :: rest => some (.boolean false, rest)
        | s => number? s

/-- The elements of an array, up to its closing bracket. -/
def elements? : (fuel depth : Nat) → List Char → Option (List Toml × List Char)
  | 0, _, _ => none
  | fuel + 1, depth, s =>
    match s with
    | ']' :: rest => some ([], rest)
    | s => do
      let (element, s) ← value? fuel depth s
      match skipLines s.length s with
      | ',' :: s => do
        let (others, rest) ← elements? fuel depth (skipLines s.length s)
        return (element :: others, rest)
      | ']' :: rest => return ([element], rest)
      | _ => none

/-- The entries of a table in braces, up to its closing brace. -/
def pairs? : (fuel depth : Nat) → List Char →
    Option (List (List String × String × Toml) × List Char)
  | 0, _, _ => none
  | fuel + 1, depth, s => do
    let (path, key, s) ← key? s
    match s with
    | '=' :: s => do
      let (value, s) ← value? fuel depth (skipSpace s)
      match skipSpace s with
      | ',' :: s => do
        let (others, rest) ← pairs? fuel depth s
        return ((path, key, value) :: others, rest)
      | '\x7d' :: rest => return ([(path, key, value)], rest)
      | _ => none
    | _ => none

end

/-! ## Documents -/

/-- A line with a header or an entry. -/
def line? (s : List Char) : Option (Line × List Char) :=
  match s with
  | '[' :: '[' :: s => do
    let (path, key, s) ← key? s
    match s with
    | ']' :: ']' :: s => return (.arrayHeader path key, ← lineEnd? s)
    | _ => none
  | '[' :: s => do
    let (path, key, s) ← key? s
    match s with
    | ']' :: s => return (.header path key, ← lineEnd? s)
    | _ => none
  | s => do
    let (path, key, s) ← key? s
    match s with
    | '=' :: s => do
      let s := skipSpace s
      let (value, s) ← value? (2 * s.length + 2) 0 s
      return (.entry path key value, ← lineEnd? s)
    | _ => none

/-- The lines of a document. -/
def lines? : (fuel : Nat) → List Char → Option (List Line)
  | 0, _ => none
  | fuel + 1, s =>
    match skipLines s.length s with
    | [] => some []
    | s => do
      let (line, s) ← line? s
      let rest ← lines? fuel s
      return line :: rest

/-- The characters of a document without the mark that may stand in front of them. -/
def dropMark : List Char → List Char
  | '\uFEFF' :: s => s
  | s => s

/-- Reads a document: the entries of its outermost table. -/
def read? (text : String) : Option Entries :=
  let s := dropMark text.toList
  lines? (s.length + 1) s >>= build [] []

end PanelDock.Toml
