import PanelDock.Decimal.Numeral
/-!
# JSON values

A JSON document as a value. Numbers stay as written, members keep their order, and a name may occur
twice: it is for the reader of a record to refuse that.

An escape in a string may name half of a surrogate pair. Such a string is well formed but stands for
no text. It is kept as `unpaired`, and so is an object with such a name: a place that is skipped may
hold it, a place that is read refuses it.
-/

namespace PanelDock

/-- A JSON document. -/
inductive Json where
  | null
  | bool (value : Bool)
  | number (numeral : Decimal.Numeral)
  | string (text : String)
  | array (elements : List Json)
  | object (members : List (String × Json))
  | unpaired
deriving Repr, Inhabited

namespace Json

/-- A whole number. -/
def ofInt (n : Int) : Json := .number (.ofInt n)

/-- A natural number. -/
def ofNat (n : Nat) : Json := ofInt n

/-- A float. JSON has no numeral for infinities and for what is not a number; they become null. -/
def ofFloat (x : Float) : Json := if x.isFinite then .number (.ofFloat x) else .null

/-- The value, or null. -/
def ofOption {α : Type} (f : α → Json) : Option α → Json
  | none => .null
  | some a => f a

/-- Whether the value is null. -/
def isNull : Json → Bool
  | null => true
  | _ => false

end Json

end PanelDock
