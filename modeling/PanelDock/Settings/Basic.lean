import PanelDock.Geometry
/-!
# Settings

What the user can set: how overlays are raised, what new windows look like, whether panels are
saved, and what is logged. Everything has a standard value.
-/

namespace PanelDock

/-- How overlays are stacked. -/
structure StackSettings where
  /-- The step by which an overlay is raised above the others. -/
  frontGap : UInt32 := 10
  /-- Whether a value beyond its layer is reported. -/
  warnOnClamp : Bool := true
deriving DecidableEq, Repr

/-- What windows look like and how they behave. -/
structure FlyoutSettings (α : Type) where
  defaultX : α
  defaultY : α
  defaultWidth : α
  defaultHeight : α
  /-- How far each window lies from the one that was opened before it. -/
  cascadeOffset : α
  minWidth : α
  minHeight : α
  resizeHandle : Bool
  /-- Whether a closed window is raised when it is shown again. -/
  focusOnShow : Bool
deriving DecidableEq, BEq, Repr

/-- Whether and where panels are saved. -/
structure SavingSettings where
  enabled : Bool := true
  /-- Whether panels are saved after every change of place, not only when asked for. -/
  saveOnTransition : Bool := true
  /-- The file to save to, instead of the one in the user's data folder. -/
  stateFile : Option String := none
deriving DecidableEq, Repr

/-- The least level that is logged. -/
inductive LogLevel where
  | debug
  | info
  | warning
  | error
deriving DecidableEq, Repr

namespace LogLevel

/-- The name of a level in a settings file. -/
def name : LogLevel → String
  | debug => "DEBUG"
  | info => "INFO"
  | warning => "WARNING"
  | error => "ERROR"

/-- The name of a level in a log filter. -/
def directive : LogLevel → String
  | debug => "debug"
  | info => "info"
  | warning => "warn"
  | error => "error"

end LogLevel

/-- All settings. -/
structure Settings (α : Type) where
  stack : StackSettings := {}
  flyout : FlyoutSettings α
  saving : SavingSettings := {}
  logLevel : LogLevel := .info
deriving DecidableEq, BEq, Repr

variable {α : Type} [Coordinate α]

/-- What windows look like if nothing is set. -/
def FlyoutSettings.standard : FlyoutSettings α where
  defaultX := Coordinate.ofNat 120
  defaultY := Coordinate.ofNat 80
  defaultWidth := Coordinate.ofNat 480
  defaultHeight := Coordinate.ofNat 360
  cascadeOffset := Coordinate.ofNat 24
  minWidth := Coordinate.ofNat 200
  minHeight := Coordinate.ofNat 150
  resizeHandle := true
  focusOnShow := true

/-- The settings if nothing is set. -/
def Settings.standard : Settings α := { flyout := .standard }

/-- The size that no window is made smaller than. -/
def FlyoutSettings.minSize {α : Type} (s : FlyoutSettings α) : Size α :=
  { width := s.minWidth, height := s.minHeight }

/-- The size of a new window. -/
def FlyoutSettings.defaultSize {α : Type} (s : FlyoutSettings α) : Size α :=
  { width := s.defaultWidth, height := s.defaultHeight }

end PanelDock
