import PanelDock.Backend.Basic
import PanelDock.Files.Tree
import PanelDock.Json.Printer
import PanelDock.Json.Reader
import PanelDock.Panel.Codec
/-!
# The state file

A snapshot as a JSON document in a file, one member on a line. A file that is missing holds no
snapshot; one that cannot be read, or holds something else, is a fault.
-/

namespace PanelDock

/-- A snapshot in a file. -/
structure StateFile (α : Type) where
  path : String
  files : FileTree
  /-- How coordinates are written. -/
  number : Json.Codec α

namespace StateFile

variable {α : Type}

/-- The text of a snapshot. -/
def document (number : Json.Codec α) (s : Snapshot α) : String :=
  Json.printed Json.indented ((Snapshot.codec number).encode s)

/-- Reads the text of a snapshot. -/
def ofDocument? (number : Json.Codec α) (text : String) : Option (Snapshot α) :=
  Json.read? text >>= (Snapshot.codec number).decode?

/-- Writes a snapshot into the file. -/
def save (f : StateFile α) (s : Snapshot α) : Outcome α (StateFile α) (Except BackendFault Unit) :=
  let (files, replacement) := f.files.replace f.path (document f.number s)
  let warnings : List (Effect α) :=
    if replacement.renameFailed then [.notice (.writtenInPlace f.path)] else []
  if replacement.succeeded then
    ⟨.ok (), { f with files }, warnings ++ [.notice (.fileWritten f.path s.panels.length)]⟩
  else ⟨.error (.io f.path), { f with files }, warnings⟩

/-- Reads the snapshot in the file. -/
def restore
    (f : StateFile α) : Outcome α (StateFile α) (Except BackendFault (Option (Snapshot α))) :=
  match f.files.read f.path with
  | .error .missing => ⟨.ok none, f, [.notice (.fileMissing f.path)]⟩
  | .error .unreadable => ⟨.error (.io f.path), f, []⟩
  | .ok text => match ofDocument? f.number text with
    | none => ⟨.error (.malformed f.path), f, []⟩
    | some s =>
      if s.version ≠ Snapshot.currentVersion then ⟨.error (.unsupportedVersion s.version), f, []⟩
      else ⟨.ok (some s), f, []⟩

end StateFile

instance {α : Type} : Backend (StateFile α) α where
  location := StateFile.path
  save := StateFile.save
  restore := StateFile.restore

end PanelDock
