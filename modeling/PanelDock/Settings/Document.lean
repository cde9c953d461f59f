import PanelDock.Json.Basic
import PanelDock.Settings.Basic
import PanelDock.Toml.Basic
/-!
# Settings as documents

How settings stand in a TOML file. Every section and every entry may be missing; then the standard
value holds. A section may also be an array with its values in order. Entries that are not known are
passed over.
-/

namespace PanelDock

open Toml (Entries)

/-- How coordinates stand in a settings file. -/
structure Toml.NumberCodec (α : Type) where
  encode : α → Toml.Number
  decode? : Toml → Option α

/-- Floats in a settings file. Whole numbers are taken for floats. -/
def Toml.floats : Toml.NumberCodec Float where
  encode x :=
    if x.isNaN then .nan
    else if x.isFinite then .finite (.ofFloatPlain x)
    else .infinite (x < 0)
  decode?
    | .integer n => some (Decimal.Numeral.ofInt n).nearest
    | .float (.finite n) => some n.nearest
    | .float (.infinite negative) => some (if negative then -1.0 / 0.0 else 1.0 / 0.0)
    | .float .nan => some (0.0 / 0.0)
    | _ => none

namespace Toml

/-- The values of a record, each if it is given. A date has none of them. -/
def values? (names : List String) : Toml → Option (List (Option Toml))
  | .table _ entries => some (names.map (lookup · entries))
  | .moment => some (names.map (fun _ => none))
  | .array elements =>
    some ((elements.take names.length).map some ++
      List.replicate (names.length - elements.length) none)
  | .tables elements =>
    some ((elements.take names.length).map (fun e => some (.table .header e)) ++
      List.replicate (names.length - elements.length) none)
  | _ => none

/-- Reads a value that may be missing. -/
def orElse? {τ : Type} (absent : τ) (decode? : Toml → Option τ) : Option Toml → Option τ
  | none => some absent
  | some value => decode? value

/-- A truth value. -/
def bool? : Toml → Option Bool
  | .boolean b => some b
  | _ => none

/-- A text. -/
def text? : Toml → Option String
  | .string s => some s
  | _ => none

/-- A natural number that fits 32 bits. -/
def word32? : Toml → Option UInt32
  | .integer n => if 0 ≤ n ∧ n < Int.pow 2 32 then some (UInt32.ofNat n.toNat) else none
  | _ => none

/-- A value without content, as it may stand behind the name of a choice. -/
def isHollow : Toml → Bool
  | .array elements => elements.isEmpty
  | .table _ entries => entries.isEmpty
  | .tables elements => elements.isEmpty
  | _ => false

end Toml

namespace LogLevel

/-- The level of this name. -/
def ofName? (name : String) : Option LogLevel :=
  [debug, info, warning, error].find? (fun level => level.name == name)

/-- Reads a level: its name, or a table with its name and nothing under it. -/
def ofToml? : Toml → Option LogLevel
  | .string s => ofName? s
  | .table _ [(key, value)] => if value.isHollow then ofName? key else none
  | _ => none

end LogLevel

namespace Settings

variable {α : Type}

/-! ## Writing -/

/-- The sections of a settings file. -/
def sections (number : Toml.NumberCodec α) (s : Settings α) : List (String × Entries) :=
  [("zindex", [
      ("front_gap", .integer s.stack.frontGap.toNat),
      ("warn_on_clamp", .boolean s.stack.warnOnClamp)]),
   ("flyout", [
      ("default_x", .float (number.encode s.flyout.defaultX)),
      ("default_y", .float (number.encode s.flyout.defaultY)),
      ("default_width", .float (number.encode s.flyout.defaultWidth)),
      ("default_height", .float (number.encode s.flyout.defaultHeight)),
      ("cascade_offset", .float (number.encode s.flyout.cascadeOffset)),
      ("min_width", .float (number.encode s.flyout.minWidth)),
      ("min_height", .float (number.encode s.flyout.minHeight)),
      ("resize_handle", .boolean s.flyout.resizeHandle),
      ("focus_on_show", .boolean s.flyout.focusOnShow)]),
   ("persistence",
      [("enabled", .boolean s.saving.enabled),
       ("save_on_transition", .boolean s.saving.saveOnTransition)] ++
      (s.saving.stateFile.map (fun path => ("state_file", Toml.string path))).toList),
   ("logging", [("level", .string s.logLevel.name)])]

/-- All settings as JSON. -/
def encode (number : α → Json) (s : Settings α) : Json :=
  .object [
    ("zindex", .object [
      ("front_gap", .ofNat s.stack.frontGap.toNat),
      ("warn_on_clamp", .bool s.stack.warnOnClamp)]),
    ("flyout", .object [
      ("default_x", number s.flyout.defaultX),
      ("default_y", number s.flyout.defaultY),
      ("default_width", number s.flyout.defaultWidth),
      ("default_height", number s.flyout.defaultHeight),
      ("cascade_offset", number s.flyout.cascadeOffset),
      ("min_width", number s.flyout.minWidth),
      ("min_height", number s.flyout.minHeight),
      ("resize_handle", .bool s.flyout.resizeHandle),
      ("focus_on_show", .bool s.flyout.focusOnShow)]),
    ("persistence", .object [
      ("enabled", .bool s.saving.enabled),
      ("save_on_transition", .bool s.saving.saveOnTransition),
      ("state_file", .ofOption .string s.saving.stateFile)]),
    ("logging", .object [("level", .string s.logLevel.name)])]

/-! ## Reading -/

/-- The section on stacking; every entry may be absent. -/
def stackOfToml? (t : Toml) : Option StackSettings := do
  match ← t.values? ["front_gap", "warn_on_clamp"] with
  | [gap, warn] =>
    return {
      frontGap := ← Toml.orElse? 10 Toml.word32? gap
      warnOnClamp := ← Toml.orElse? true Toml.bool? warn }
  | _ => none

/-- The section on windows; every entry may be absent. -/
def flyoutOfToml? [Coordinate α] (number : Toml.NumberCodec α) (t : Toml) :
    Option (FlyoutSettings α) := do
  let standard : FlyoutSettings α := .standard
  match ← t.values? ["default_x", "default_y", "default_width", "default_height", "cascade_offset",
      "min_width", "min_height", "resize_handle", "focus_on_show"] with
  | [x, y, width, height, cascade, minWidth, minHeight, handle, focus] =>
    return {
      defaultX := ← Toml.orElse? standard.defaultX number.decode? x
      defaultY := ← Toml.orElse? standard.defaultY number.decode? y
      defaultWidth := ← Toml.orElse? standard.defaultWidth number.decode? width
      defaultHeight := ← Toml.orElse? standard.defaultHeight number.decode? height
      cascadeOffset := ← Toml.orElse? standard.cascadeOffset number.decode? cascade
      minWidth := ← Toml.orElse? standard.minWidth number.decode? minWidth
      minHeight := ← Toml.orElse? standard.minHeight number.decode? minHeight
      resizeHandle := ← Toml.orElse? true Toml.bool? handle
      focusOnShow := ← Toml.orElse? true Toml.bool? focus }
  | _ => none

/-- The section on saving; every entry may be absent. -/
def savingOfToml? (t : Toml) : Option SavingSettings := do
  match ← t.values? ["enabled", "save_on_transition", "state_file"] with
  | [enabled, onTransition, file] =>
    return {
      enabled := ← Toml.orElse? true Toml.bool? enabled
      saveOnTransition := ← Toml.orElse? true Toml.bool? onTransition
      stateFile := ← Toml.orElse? none (fun v => (Toml.text? v).map some) file }
  | _ => none

/-- The section on logging; its entry may be absent. -/
def logLevelOfToml? (t : Toml) : Option LogLevel := do
  match ← t.values? ["level"] with
  | [level] => Toml.orElse? .info LogLevel.ofToml? level
  | _ => none

/-- Reads the entries of a settings file. -/
def ofEntries? [Coordinate α] (number : Toml.NumberCodec α) (entries : Entries) :
    Option (Settings α) := do
  return {
    stack := ← Toml.orElse? {} stackOfToml? (Toml.lookup "zindex" entries)
    flyout := ← Toml.orElse? .standard (flyoutOfToml? number) (Toml.lookup "flyout" entries)
    saving := ← Toml.orElse? {} savingOfToml? (Toml.lookup "persistence" entries)
    logLevel := ← Toml.orElse? .info logLevelOfToml? (Toml.lookup "logging" entries) }

end Settings

end PanelDock
