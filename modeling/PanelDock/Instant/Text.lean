import PanelDock.Instant.Basic
import PanelDock.Text.Blank
/-!
# The text of an instant

Instants are written by RFC 3339 in UTC, with 0, 3, 6 or 9 digits of a second as needed. Reading is
more generous: numbers may lack their leading zeros, blanks may stand around the separators, a space
may stand for the T, and the offset may be Z, UTC or a difference in hours and minutes.
-/

namespace PanelDock.Instant

open Text (trimLeft)

/-- A number with at least `width` digits. -/
def padded (width : Nat) (n : Nat) : List Char :=
  let digits := Nat.toDigits 10 n
  List.replicate (width - digits.length) '0' ++ digits

/-- Years outside 0 to 9999 carry their sign. -/
def yearText (year : Int) : List Char :=
  if 0 ≤ year ∧ year ≤ 9999 then padded 4 year.toNat
  else (if year < 0 then '-' else '+') :: padded 4 year.natAbs

/-- The digits of a second, in groups of three. -/
def fractionText (nanosecond : Nat) : List Char :=
  if nanosecond = 0 then []
  else if nanosecond % 1000000 = 0 then '.' :: padded 3 (nanosecond / 1000000)
  else if nanosecond % 1000 = 0 then '.' :: padded 6 (nanosecond / 1000)
  else '.' :: padded 9 nanosecond

/-- The text of an instant, character by character. -/
def toChars (t : Instant) : List Char :=
  yearText t.date.year ++ '-' :: padded 2 t.date.month ++ '-' :: padded 2 t.date.day ++
    'T' :: padded 2 t.time.hour ++ ':' :: padded 2 t.time.minute ++ ':' :: padded 2 t.time.second ++
    fractionText t.time.nanosecond ++ ['Z']

/-- The text of an instant. -/
def text (t : Instant) : String := String.ofList t.toChars

instance : ToString Instant := ⟨text⟩

/-- The value of a decimal digit. -/
def digit? (c : Char) : Option Nat :=
  if '0' ≤ c ∧ c ≤ '9' then some (c.toNat - '0'.toNat) else none

/-- Takes up to `width` digits from the front. Gives their value, their number and the rest. -/
def takeDigits : (width : Nat) → List Char → Nat × Nat × List Char
  | 0, s => (0, 0, s)
  | _ + 1, [] => (0, 0, [])
  | width + 1, c :: s =>
    match digit? c with
    | none => (0, 0, c :: s)
    | some d =>
      let (n, count, rest) := takeDigits width s
      (d * Nat.pow 10 count + n, count + 1, rest)

/-- A number of one to `width` digits, behind blanks. -/
def number? (width : Nat) (s : List Char) : Option (Nat × List Char) :=
  match takeDigits width (trimLeft s) with
  | (_, 0, _) => none
  | (n, _, rest) => some (n, rest)

/-- The character `c`, behind blanks. -/
def separator? (c : Char) (s : List Char) : Option (List Char) :=
  match trimLeft s with
  | d :: rest => if d = c then some rest else none
  | [] => none

/-- A year: four digits at most, or any number of digits behind a sign. -/
def year? (s : List Char) : Option (Int × List Char) :=
  match trimLeft s with
  | '-' :: rest => match takeDigits rest.length rest with
    | (_, 0, _) => none
    | (n, _, rest) => some (-n, rest)
  | '+' :: rest => match takeDigits rest.length rest with
    | (_, 0, _) => none
    | (n, _, rest) => some (n, rest)
  | s => (number? 4 s).map (fun (n, rest) => ((n : Int), rest))

/-- A fraction of a second, if there is a point; what goes beyond nanoseconds is dropped. -/
def nanosecond? : List Char → Option (Nat × List Char)
  | '.' :: s => match takeDigits 9 s with
    | (_, 0, _) => none
    | (n, count, rest) =>
        some (n * Nat.pow 10 (9 - count), rest.dropWhile (fun c => (digit? c).isSome))
  | s => some (0, s)

/-- Hours and minutes behind the sign of an offset, in minutes. -/
def offsetMinutes? (s : List Char) : Option (Int × List Char) :=
  match takeDigits 2 s with
  | (hours, 2, rest) =>
    match takeDigits 2 (rest.dropWhile (fun c => c = ':' || Text.isBlank c)) with
    | (minutes, 2, rest) => if minutes < 60 then some (hours * 60 + minutes, rest) else none
    | _ => none
  | _ => none

/-- The offset from UTC in minutes. -/
def offset? (s : List Char) : Option (Int × List Char) :=
  if Text.sameLetters (s.take 3) ['u', 't', 'c'] then some (0, s.drop 3)
  else match s with
    | 'Z' :: rest => some (0, rest)
    | 'z' :: rest => some (0, rest)
    | '+' :: rest => offsetMinutes? rest
    | '-' :: rest => (offsetMinutes? rest).map (fun (m, rest) => (-m, rest))
    | '\u2212' :: rest => (offsetMinutes? rest).map (fun (m, rest) => (-m, rest))
    | _ => none

/-- Reads a text as an instant. -/
def ofChars? (s : List Char) : Option Instant := do
  let (year, s) ← year? s
  let s ← separator? '-' s
  let (month, s) ← number? 2 s
  let s ← separator? '-' s
  let (day, s) ← number? 2 s
  let c ← s.head?
  if c ≠ 'T' ∧ c ≠ 't' ∧ c ≠ ' ' then none
  let (hour, s) ← number? 2 s.tail
  let s ← separator? ':' s
  let (minute, s) ← number? 2 s
  let s ← separator? ':' s
  let (second, s) ← number? 2 s
  let (nanosecond, s) ← nanosecond? s
  let (offset, s) ← offset? (trimLeft s)
  if trimLeft s ≠ [] then none
  ofLocal? { year, month, day } { hour, minute, second, nanosecond } offset

/-- Reads a text as an instant. -/
def ofText? (s : String) : Option Instant := ofChars? s.toList

example : (ofText? "2020-05-01T10:20:30+02:00").map text = some "2020-05-01T08:20:30Z" := by
  decide +kernel

end PanelDock.Instant
