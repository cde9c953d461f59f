import PanelDock.Text.Blank
/-!
# Layers

Stacking values come from four ranges, one for each kind of overlay. The ranges lie apart, so an
overlay of a lower layer never covers one of a higher layer.
-/

namespace PanelDock

/-- A range of stacking values. -/
inductive Layer where
  | base
  | ui
  | popup
  | system
deriving DecidableEq, Repr

namespace Layer

/-- The layers, lowest first. -/
def all : List Layer := [base, ui, popup, system]

/-- The lowest value of a layer. -/
def least : Layer → Int
  | base => 0
  | ui => 100
  | popup => 1000
  | system => 10000

/-- The highest value of a layer. -/
def greatest : Layer → Int
  | base => 99
  | ui => 999
  | popup => 9999
  | system => 99999

/-- The name of a layer. -/
def name : Layer → String
  | base => "BASE"
  | ui => "UI"
  | popup => "POPUP"
  | system => "SYSTEM"

instance : ToString Layer := ⟨name⟩

/-- The layer of this name; blanks around it and the case of its letters do not matter. -/
def ofName? (name : String) : Option Layer :=
  all.find? (fun layer => Text.sameLetters layer.name.toList (Text.trim name.toList))

/-- Whether the value belongs to the layer. -/
def contains (layer : Layer) (z : Int) : Bool := layer.least ≤ z && z ≤ layer.greatest

end Layer

/-- The number by which an overlay is known. -/
structure Handle where
  number : Nat
deriving DecidableEq, Repr

namespace Handle

instance : Ord Handle := ⟨fun a b => compare a.number b.number⟩

instance : ToString Handle := ⟨fun h => s!"overlay-{h.number}"⟩

instance : Std.TransOrd Handle where
  eq_swap {a b} := Std.OrientedOrd.eq_swap (a := a.number) (b := b.number)
  isLE_trans {a b c} := Std.TransOrd.isLE_trans (a := a.number) (b := b.number) (c := c.number)

instance : Std.LawfulEqOrd Handle where
  compare_self {a} := Std.ReflOrd.compare_self (a := a.number)
  eq_of_compare {a b} h := by
    have : a.number = b.number := Std.LawfulEqOrd.eq_of_compare (a := a.number) (b := b.number) h
    cases a; cases b; simp_all

end Handle

/-- Something that is stacked above and below others. Before it is registered, its value is its own.
-/
structure Overlay where
  handle : Handle
  zIndex : Option Int
deriving DecidableEq, Repr

end PanelDock
