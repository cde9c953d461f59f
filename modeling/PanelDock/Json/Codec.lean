import PanelDock.Json.Basic
/-!
# Values in JSON

A `Codec τ` says how the values of a type stand in a document and reads them back. The rules are the
same for all records: a record is an object with its fields by name, or an array with its fields in
order; fields it does not know are skipped, and a field given twice is refused. A choice between
variants is the name of the variant, or an object with that name as its only member.
-/

namespace PanelDock.Json

/-- How the values of a type are written and read. -/
structure Codec (τ : Type) where
  encode : τ → Json
  decode? : Json → Option τ

/-- A text. -/
def textCodec : Codec String where
  encode := .string
  decode?
    | .string s => some s
    | _ => none

/-- A truth value. -/
def boolCodec : Codec Bool where
  encode := .bool
  decode?
    | .bool b => some b
    | _ => none

/-- A whole number from `least` to `greatest`. -/
def wholeCodec (least greatest : Int) : Codec Int where
  encode := ofInt
  decode?
    | .number n => do
      let value ← n.toInt?
      if least ≤ value ∧ value ≤ greatest then some value else none
    | _ => none

/-- A whole number that fits 32 bits with a sign. -/
def int32Codec : Codec Int := wholeCodec (-2147483648) 2147483647

/-- A natural number that fits 32 bits. -/
def word32Codec : Codec UInt32 where
  encode n := ofNat n.toNat
  decode? j := ((wholeCodec 0 4294967295).decode? j).map (fun n => UInt32.ofNat n.toNat)

/-- A float. Whole numbers are taken for floats. -/
def floatCodec : Codec Float where
  encode := ofFloat
  decode?
    | .number n => n.scaled?
    | _ => none

/-- The fields of a record, each with its value if it is given. -/
def fields? (names : List String) : Json → Option (List (Option Json))
  | .object members =>
    if names.all (fun name => (members.filter (fun m => m.1 == name)).length ≤ 1) then
      some (names.map (fun name => (members.find? (fun m => m.1 == name)).map (·.2)))
    else none
  | .array elements =>
    if elements.length ≤ names.length then
      some (elements.map some ++ List.replicate (names.length - elements.length) none)
    else none
  | _ => none

/-- Reads a field that may be absent or null. -/
def optional? {τ : Type} (decode? : Json → Option τ) : Option Json → Option (Option τ)
  | none => some none
  | some .null => some none
  | some j => (decode? j).map some

/-- Reads a field that has a value of its own when it is absent. -/
def orElse? {τ : Type} (absent : τ) (decode? : Json → Option τ) : Option Json → Option τ
  | none => some absent
  | some j => decode? j

/-- The name of a variant and what it carries, if anything. -/
def variant? : Json → Option (String × Option Json)
  | .string name => some (name, none)
  | .object [(name, value)] => some (name, some value)
  | _ => none

/-- Reads a variant that carries nothing; a null may stand for the nothing. -/
def bare? {τ : Type} (value : τ) : Option Json → Option τ
  | none => some value
  | some .null => some value
  | some _ => none

end PanelDock.Json
