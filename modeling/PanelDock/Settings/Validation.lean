import PanelDock.Settings.Basic
import PanelDock.Text.Blank
/-!
# Settings that make sense

`Settings.violations` lists what is wrong with settings that could be read: numbers out of their
range, a standard size below the least size, a state file without a name.
-/

namespace PanelDock

/-- Something that is wrong with settings. -/
inductive Violation (α : Type) where
  | gapOutOfRange (value least greatest : Nat)
  | outOfRange (name : String) (value least greatest : α)
  | belowLeast (name : String) (value : α) (leastName : String) (least : α)
  | blankStateFile
deriving DecidableEq, Repr

namespace Violation

/-- What the user is told; `number` shows a coordinate. -/
def message {α : Type} (number : α → String) : Violation α → String
  | gapOutOfRange value least greatest =>
    s!"zindex.front_gap = {value} is out of range [{least}, {greatest}]"
  | outOfRange name value least greatest =>
    s!"{name} = {number value} is out of range [{number least}, {number greatest}]"
  | belowLeast name value leastName least =>
    s!"{name} = {number value} is below {leastName} = {number least}"
  | blankStateFile => "persistence.state_file must not be empty when set"

end Violation

namespace Settings

variable {α : Type} [Coordinate α]

/-- A number that must lie between two others. -/
def rangeViolation (name : String) (value : α) (least greatest : Nat) : List (Violation α) :=
  if Coordinate.ofNat least ≤ value ∧ value ≤ Coordinate.ofNat greatest then []
  else [.outOfRange name value (Coordinate.ofNat least) (Coordinate.ofNat greatest)]

/-- Everything that is wrong with the settings. -/
def violations (s : Settings α) : List (Violation α) :=
  let gap := s.stack.frontGap.toNat
  let f := s.flyout
  (if 10 ≤ gap ∧ gap ≤ 1000 then [] else [.gapOutOfRange gap 10 1000]) ++
  rangeViolation "flyout.default_width" f.defaultWidth 100 8000 ++
  rangeViolation "flyout.default_height" f.defaultHeight 100 8000 ++
  rangeViolation "flyout.cascade_offset" f.cascadeOffset 0 200 ++
  rangeViolation "flyout.min_width" f.minWidth 50 2000 ++
  rangeViolation "flyout.min_height" f.minHeight 50 2000 ++
  (if f.defaultWidth < f.minWidth then
    [.belowLeast "flyout.default_width" f.defaultWidth "flyout.min_width" f.minWidth]
  else []) ++
  (if f.defaultHeight < f.minHeight then
    [.belowLeast "flyout.default_height" f.defaultHeight "flyout.min_height" f.minHeight]
  else []) ++
  (if s.saving.stateFile.any Text.isBlankText then [.blankStateFile] else [])

end Settings

end PanelDock
