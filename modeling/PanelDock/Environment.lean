import PanelDock.Files.Path
/-!
# The user's folders

Where the settings and the saved panels of a user are kept if nothing else is said. The folders may
be named by the environment, as absolute paths; otherwise they lie in the user's home.
-/

namespace PanelDock

/-- What the environment says about folders. -/
structure Environment where
  home : Option String
  /-- The folder for settings. -/
  configHome : Option String
  /-- The folder for data. -/
  dataHome : Option String
deriving DecidableEq, Repr

namespace Environment

/-- The folder that is named, if the path is absolute, or else one in the user's home. -/
def folder (e : Environment) (named : Option String) (inHome : String) : Option String :=
  match named.filter Path.isAbsolute with
  | some path => some path
  | none => (e.home.filter (!·.isEmpty)).map (Path.push · inHome)

/-- A file of this program in a folder. -/
def fileIn (folder name : String) : String := Path.push (Path.push folder "dockhand") name

/-- The settings file of the user. -/
def settingsPath? (e : Environment) : Option String :=
  (e.folder e.configHome ".config").map (fileIn · "config.toml")

/-- The file with the saved panels of the user. -/
def statePath? (e : Environment) : Option String :=
  (e.folder e.dataHome ".local/share").map (fileIn · "panels.json")

end Environment

end PanelDock
