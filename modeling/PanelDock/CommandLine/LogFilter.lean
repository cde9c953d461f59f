import PanelDock.CommandLine.ValuePattern
import PanelDock.Log
/-!
# Which lines are logged

The user can set the least level that is logged with a directive: for all lines, for the channels
whose names start with some text, for the lines that have some fields, or for both together. A
directive is written `channel[scope{field,field}]=level`; each part may be missing, and a level may
stand alone. All other lines are logged if they are errors.

`Directive.ofText?` reads a directive and `Directive.admits` says which lines pass.
-/

namespace PanelDock.Log

/-- The least level that is logged, or nothing if none is. -/
abbrev Threshold := Option Level

/-- Whether a line of this level passes. -/
def passes (threshold : Threshold) (level : Level) : Bool :=
  threshold.any (fun least => level.rank ≤ least.rank)

/-- A field that a directive asks for. -/
structure FieldFilter where
  name : String
  /-- Whether the value of the field matters too. -/
  valued : Bool
deriving DecidableEq, Repr

/-- What the user sets. -/
structure Directive where
  threshold : Threshold
  /-- How the names of the channels start. -/
  channel : Option String := none
  /-- The activity in which a line is written. -/
  scope : Option String := none
  fields : List FieldFilter := []
deriving DecidableEq, Repr

/-- The number of a level, leading zeros or not. -/
def levelNumber? (s : List Char) : Option Nat :=
  let digits := match s with
    | '+' :: rest => rest
    | s => s
  if digits.isEmpty || digits.any (fun c => !c.isDigit) then none
  else some (digits.foldl (fun n c => 10 * n + (c.toNat - '0'.toNat)) 0)

/-- The threshold of this name or number. -/
def threshold? (text : String) : Option Threshold :=
  let s := text.toList
  let named (name : String) : Bool := Text.sameLetters s name.toList
  match levelNumber? s with
  | some 0 => some none
  | some 1 => some (some .error)
  | some 2 => some (some .warn)
  | some 3 => some (some .info)
  | some 4 => some (some .debug)
  | some 5 => some (some .trace)
  | some _ => none
  | none =>
    if named "off" then some none
    else if named "error" then some (some .error)
    else if named "warn" then some (some .warn)
    else if named "info" then some (some .info)
    else if named "debug" then some (some .debug)
    else if named "trace" then some (some .trace)
    else none

/-- Whether a directive may start so. -/
def mayStart (c : Char) : Bool := Text.isWord c || c = '-' || c = ':' || c = '_'

/-- Why a text is no directive. -/
inductive Fault where
  /-- It has not the form of one. -/
  | malformed
  /-- A part of it would begin or end inside a character. -/
  | torn
deriving DecidableEq, Repr

/-- What comes of reading a text. -/
abbrev Reading := Except Fault

/-- A text that is read, without the blanks at its ends, and the text as it is given. The parts of a
directive are found in the one and cut from the other at the same bytes: blanks in front move every
part. -/
structure Source where
  given : List Char
  trimmed : List Char

namespace Source

/-- The source of a text. -/
def ofText (text : String) : Source := ⟨text.toList, Text.trim text.toList⟩

/-- The bytes that the characters take. -/
def size (s : List Char) : Nat := s.foldr (fun c n => c.utf8Size + n) 0

/-- The characters behind so many bytes, unless that is inside a character or behind the end. -/
def dropBytes? : List Char → Nat → Option (List Char)
  | s, 0 => some s
  | [], _ + 1 => none
  | c :: rest, n => if c.utf8Size ≤ n then dropBytes? rest (n - c.utf8Size) else none

/-- The byte at which what is left of the trimmed text starts. -/
def position (s : Source) (rest : List Char) : Nat := size s.trimmed - size rest

/-- The given text from where `start` is left to read. -/
def behind (s : Source) (start : List Char) : Reading (List Char) :=
  match dropBytes? s.given (s.position start) with
  | some left => .ok left
  | none => .error .torn

/-- The given text from where `start` is left to read to where `stop` is left. -/
def between (s : Source) (start stop : List Char) : Reading (List Char) := do
  let first ← s.behind start
  let last ← s.behind stop
  pure (first.take (first.length - last.length))

/-- The text in front of some rest is cut off whole if no blanks stand in front. -/
example : ((ofText "ab=c ").between "ab=c".toList "=c".toList).toOption = some "ab".toList := by
  decide +kernel

/-- A blank of three bytes in front tears the character that stands at the second byte. -/
example : ((ofText "\u3000ab=c").between "ab=c".toList "=c".toList).toOption = none := by
  decide +kernel

end Source

/-- The threshold that a text names. Without a text everything passes. -/
def thresholdOf (text : List Char) : Reading Threshold :=
  if text.isEmpty then .ok (some .trace)
  else match threshold? (String.ofList text) with
    | some threshold => .ok threshold
    | none => .error .malformed

/-- The threshold at the end of a directive; a comma may close it. -/
def thresholdAt (source : Source) (start : List Char) : Reading Threshold := do
  match start.dropWhile (· ≠ ',') with
  | [] => (source.behind start) >>= thresholdOf
  | stop =>
    let threshold ← (source.between start stop) >>= thresholdOf
    if stop.length = 1 then pure threshold else .error .malformed

/-- The threshold behind the closing bracket of a directive. -/
def thresholdBehindBracket (source : Source) : List Char → Reading Threshold
  | [] => .ok (some .trace)
  | '=' :: start => thresholdAt source start
  | _ => .error .malformed

/-- Reads a field, and the pattern for its value behind the first equals sign. -/
def fieldFilter (text : List Char) : Reading FieldFilter :=
  if text.isEmpty then .error .malformed
  else
    let name := String.ofList (text.takeWhile (· ≠ '='))
    match text.dropWhile (· ≠ '=') with
    | [] => .ok ⟨name, false⟩
    | _ :: value =>
      if ValuePattern.isPattern (value.takeWhile (· ≠ '=')) then .ok ⟨name, true⟩
      else .error .malformed

/-- Reads fields up to the brace that closes them; `start` is left to read where the field starts
that is being read. Gives what follows the brace too. -/
def fieldFilters (source : Source) (start : List Char) :
    List Char → Reading (List FieldFilter × List Char)
  | [] => .error .malformed
  | c :: rest => do
    if c = '\x7d' then
      let field ← (source.between start (c :: rest)) >>= fieldFilter
      pure ([field], rest)
    else if c = ',' then
      let field ← (source.between start (c :: rest)) >>= fieldFilter
      let (others, left) ← fieldFilters source rest rest
      pure (field :: others, left)
    else fieldFilters source start rest

/-- Reads what stands in brackets, from behind the opening one, and the level. -/
def bracketed (source : Source) (channel : Option String)
    (start : List Char) : Reading Directive := do
  match start.dropWhile (fun c => c ≠ ']' && c ≠ '\x7b') with
  | [] => .error .malformed
  | c :: inside =>
    let scope ← source.between start (c :: inside)
    if c = ']' then
      let threshold ← thresholdBehindBracket source inside
      pure { threshold, channel, scope := some (String.ofList scope) }
    else
      let (fields, left) ← fieldFilters source inside inside
      match left with
      | ']' :: rest =>
        let threshold ← thresholdBehindBracket source rest
        pure { threshold, channel, fields,
               scope := if scope.isEmpty then none else some (String.ofList scope) }
      | _ => .error .malformed

/-- Reads a directive. A bare level holds everywhere; a name alone lets everything of its channels
pass. -/
def directive (text : String) : Reading Directive := do
  let source := Source.ofText text
  match source.trimmed with
  | [] => .error .malformed
  | c :: rest =>
    if c = '[' then bracketed source none rest
    else if !mayStart c then .error .malformed
    else
      let stop := source.trimmed.dropWhile (fun c => c ≠ '=' && c ≠ '[' && c ≠ ',')
      match stop with
      | '=' :: level =>
        let channel ← source.between source.trimmed stop
        let threshold ← thresholdAt source level
        pure { threshold, channel := some (String.ofList channel) }
      | '[' :: inside =>
        let channel ← source.between source.trimmed stop
        bracketed source (some (String.ofList channel)) inside
      | ',' :: _ :: _ => .error .malformed
      | _ => match threshold? text with
        | some threshold => pure { threshold }
        | none => pure { threshold := some .trace, channel := some text }

/-- Whether the directive is about lines like this one. Every line has its message as a field. The
lines of this program belong to no activity, and no value is looked at once the line is there. -/
def Directive.concerns (d : Directive) (line : Line) : Bool :=
  d.scope.isNone &&
    d.channel.all (fun start => start.toList.isPrefixOf line.channel.toList) &&
    d.fields.all
      (fun f => !f.valued && (f.name = "message" || line.fields.any (fun g => g.1 = f.name)))

/-- Whether a line is logged. -/
def Directive.admits (d : Directive) (line : Line) : Bool :=
  passes (if d.concerns line then d.threshold else some .error) line.level

/-- The directive that stands in for a text that is none. -/
def Directive.standard : Directive := { threshold := some .info, channel := some Channel.program }

/-- The directive that the user asks for, or the standard one for a text that is none. There is no
directive for a text whose parts would begin or end inside a character. -/
def Directive.ofText? (text : String) : Option Directive :=
  match directive text with
  | .ok d => some d
  | .error .malformed => some .standard
  | .error .torn => none

end PanelDock.Log
