import PanelDock.Environment
import PanelDock.Files.Tree
import PanelDock.Log
import PanelDock.Settings.Document
import PanelDock.Settings.Template
import PanelDock.Settings.Validation
import PanelDock.Toml.Printer
import PanelDock.Toml.Reader
/-!
# Settings files

Reading settings from a file and writing them to one. A file that can be read but holds values that
make no sense is reported and read all the same; `check` refuses it. Where the user has no settings
file yet, one is made.
-/

namespace PanelDock

namespace Settings

/-- Why settings cannot be read or written. -/
inductive Fault (α : Type) where
  | missing (path : String)
  | unreadable (path : String)
  | malformed
  /-- There is no folder for settings. -/
  | noFolder
  /-- The folder of the file cannot be made. -/
  | uncreatable (folder : String)
  /-- The first settings file cannot be written. -/
  | unwritableTemplate (path : String)
  | unwritable (path : String)
  | invalid (violations : List (Violation α))
deriving Repr

/-- The kinds of fault. -/
inductive FaultKind where
  | notFound
  | parse
  | validation
deriving DecidableEq, Repr

/-- What the user is told of a fault of this kind. -/
def FaultKind.text (kind : FaultKind) (detail : String) : String :=
  (match kind with
    | .notFound => "config file not found: "
    | .parse => "config parse error: "
    | .validation => "config validation error: ") ++ detail

namespace Fault

variable {α : Type}

/-- The kind of a fault. -/
def kind : Fault α → FaultKind
  | missing _ => .notFound
  | invalid _ => .validation
  | _ => .parse

/-- What a fault is about. -/
def detail (number : α → String) : Fault α → String
  | missing path => path
  | unreadable path => s!"failed to read {path}"
  | malformed => "failed to parse TOML"
  | noFolder => "could not determine config directory"
  | uncreatable folder => s!"failed to create config directory {folder}"
  | unwritableTemplate path => s!"failed to write default config to {path}"
  | unwritable path => s!"failed to write config to {path}"
  | invalid violations => "; ".intercalate (violations.map (Violation.message number))

/-- What the user is told. -/
def message (number : α → String) (f : Fault α) : String := f.kind.text (f.detail number)

end Fault

/-- What reading and writing settings reports. -/
inductive Notice (α : Type) where
  /-- The settings were read, but make no sense. -/
  | doubtful (fault : Fault α)
  | loaded (path : String)
  | absent (path : String)
  | created (path : String)
  | saved (path : String)
  | writtenInPlace (path : String)

namespace Notice

/-- The line of a notice; `number` shows a coordinate. -/
def line {α : Type} (number : α → String) : Notice α → Log.Line
  | doubtful fault =>
    ⟨.warn, Log.Channel.settingsReader,
      "config validation warning: " ++ fault.message number ++
        "; using parsed config with potentially invalid values", []⟩
  | loaded path => ⟨.info, Log.Channel.settingsReader, s!"loaded config from {path}", []⟩
  | absent path =>
    ⟨.info, Log.Channel.settingsReader, s!"no config found at {path}, creating default", []⟩
  | created path =>
    ⟨.info, Log.Channel.settingsPaths, s!"created default config at {path}", []⟩
  | saved path => ⟨.debug, Log.Channel.settingsWriter, "Config saved to disk", [("path", path)]⟩
  | writtenInPlace path =>
    ⟨.warn, Log.Channel.settingsWriter, "atomic rename failed, writing in place", [("path", path)]⟩

end Notice

/-- What comes of reading or writing settings. -/
structure FileOutcome (α ρ : Type) where
  result : Except (Fault α) ρ
  files : FileTree
  notices : List (Notice α) := []

variable {α : Type} [Coordinate α]

/-- Reads the text of a settings file. -/
def ofText? (number : Toml.NumberCodec α) (text : String) : Option (Settings α) :=
  Toml.read? text >>= ofEntries? number

/-- The text of a settings file. -/
def text (number : Toml.NumberCodec α) (s : Settings α) : String := Toml.printed (s.sections number)

/-- The fault of settings that make no sense. -/
def fault? (s : Settings α) : Option (Fault α) :=
  if s.violations.isEmpty then none else some (.invalid s.violations)

/-- Reads settings from a file. -/
def load (number : Toml.NumberCodec α) (files : FileTree) (path : String) :
    FileOutcome α (Settings α) :=
  if !files.isPresent path then ⟨.error (.missing path), files, []⟩
  else match files.read path with
    | .error _ => ⟨.error (.unreadable path), files, []⟩
    | .ok text => match ofText? number text with
      | none => ⟨.error .malformed, files, []⟩
      | some s =>
        ⟨.ok s, files, (s.fault?.map Notice.doubtful).toList ++ [.loaded path]⟩

/-- Refuses settings that make no sense. -/
def FileOutcome.check (o : FileOutcome α (Settings α)) : FileOutcome α (Settings α) :=
  match o.result with
  | .error _ => o
  | .ok s => match s.fault? with
    | none => o
    | some fault => { o with result := .error fault }

/-- Writes the first settings file. -/
def createDefault (files : FileTree) (path : String) : FileOutcome α Unit :=
  let folder := Path.parent? path
  match (match folder with | none => some files | some folder => files.createFolders? folder) with
  | none => ⟨.error (.uncreatable (folder.getD "")), files, []⟩
  | some files => match files.write? path template with
    | none => ⟨.error (.unwritableTemplate path), files, []⟩
    | some files => ⟨.ok (), files, [.created path]⟩

/-- Reads the settings of the user. If there are none, a first settings file is made and the
standard holds. -/
def loadDefault (number : Toml.NumberCodec α) (files : FileTree) (environment : Environment) :
    FileOutcome α (Settings α) :=
  match environment.settingsPath? with
  | none => ⟨.error .noFolder, files, []⟩
  | some path =>
    let loaded := load number files path
    match loaded.result with
    | .error (.missing _) =>
      let created : FileOutcome α Unit := createDefault files path
      ⟨created.result.map (fun _ => .standard), created.files, .absent path :: created.notices⟩
    | _ => loaded

/-- Writes settings to a file. -/
def save (number : Toml.NumberCodec α) (s : Settings α) (files : FileTree) (path : String) :
    FileOutcome α Unit :=
  let (files, replacement) := files.replace path (s.text number)
  let warnings : List (Notice α) := if replacement.renameFailed then [.writtenInPlace path] else []
  if replacement.succeeded then ⟨.ok (), files, warnings ++ [.saved path]⟩
  else ⟨.error (.unwritable path), files, warnings⟩

/-- Writes settings to the settings file of the user. -/
def saveDefault (number : Toml.NumberCodec α) (s : Settings α) (files : FileTree)
    (environment : Environment) : FileOutcome α Unit :=
  match environment.settingsPath? with
  | none => ⟨.error .noFolder, files, []⟩
  | some path => s.save number files path

end Settings

end PanelDock
