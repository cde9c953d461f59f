import PanelDock.Files.Path
/-!
# A tree of files

The files that a program works with, as a value: what stands at each place, and the calls by which a
program changes it. A call does its job or fails and changes nothing. `FileTree.replace` puts a text
into a file by way of a temporary file beside it.
-/

namespace PanelDock

/-- What stands at a place. -/
inductive Node where
  | folder
  /-- A file with its text, or nothing for it if its bytes are no text. -/
  | file (text : Option String)
deriving DecidableEq, Repr

/-- A place in the tree: the names on the way from the root. -/
abbrev Place := List String

/-- A call that changes the tree. -/
inductive FileCall where
  | createFolders (path : String)
  | write (path : String)
  | rename (path target : String)
  | remove (path : String)
deriving DecidableEq, Repr

/-- Files and folders. -/
structure FileTree where
  node : Place → Option Node
  /-- Where relative paths start. -/
  workingFolder : Place := []
  /-- The calls that the system refuses for reasons of its own. -/
  refuses : FileCall → Bool := fun _ => false

/-- Why a path leads to no text. -/
inductive ReadFault where
  | missing
  | unreadable
deriving DecidableEq, Repr

namespace FileTree

/-- The tree that holds nothing but the folders down to the working folder. -/
def bare (workingFolder : Place) : FileTree where
  node place := if place.isPrefixOf workingFolder then some .folder else none
  workingFolder

/-- The steps of a path. A slash at the end asks for a folder, as a dot does. -/
def steps (path : String) : List String :=
  let parts := Path.split path.toList
  let named := parts.filter (· ≠ [])
  (if parts.length > 1 ∧ parts.getLast? = some [] then named ++ [['.']] else named).map
    String.ofList

/-- Walks along the steps. What is passed on the way must be a folder; the last step may lead to a
place that holds nothing. -/
def walk (t : FileTree) (place : Place) : List String → Except ReadFault Place
  | [] => .ok place
  | step :: rest =>
    match t.node place with
    | none => .error .missing
    | some (.file _) => .error .unreadable
    | some .folder =>
      if step = "." then t.walk place rest
      else if step = ".." then t.walk place.dropLast rest
      else t.walk (place ++ [step]) rest

/-- The place that a path leads to. -/
def place? (t : FileTree) (path : String) : Except ReadFault Place :=
  if path.isEmpty then .error .missing
  else if path.toList.any (· = '\x00') then .error .unreadable
  else t.walk (if Path.isAbsolute path then [] else t.workingFolder) (steps path)

/-- What a path leads to. -/
def find? (t : FileTree) (path : String) : Option Node :=
  match t.place? path with
  | .ok place => t.node place
  | .error _ => none

/-- Whether the path leads to something. -/
def isPresent (t : FileTree) (path : String) : Bool := (t.find? path).isSome

/-- The text of a file. -/
def read (t : FileTree) (path : String) : Except ReadFault String :=
  match t.place? path with
  | .error fault => .error fault
  | .ok place => match t.node place with
    | none => .error .missing
    | some (.file (some text)) => .ok text
    | some _ => .error .unreadable

/-- The tree with something else at a place. -/
def set (t : FileTree) (place : Place) (node : Option Node) : FileTree :=
  { t with node := fun p => if p = place then node else t.node p }

/-- Makes folders of a place and of the places on the way that hold nothing. -/
def addFolders (t : FileTree) (place : Place) : List String → Option FileTree
  | [] => match t.node place with
    | some .folder => some t
    | some (.file _) => none
    | none => some (t.set place (some .folder))
  | step :: rest =>
    match t.node place with
    | some (.file _) => none
    | found =>
      let t := if found.isNone then t.set place (some .folder) else t
      if step = "." then t.addFolders place rest
      else if step = ".." then t.addFolders place.dropLast rest
      else t.addFolders (place ++ [step]) rest

/-- Makes a folder and the folders above it. The empty path asks for nothing. -/
def createFolders? (t : FileTree) (path : String) : Option FileTree :=
  if path.isEmpty then some t
  else if t.refuses (.createFolders path) || path.toList.any (· = '\x00') then none
  else t.addFolders (if Path.isAbsolute path then [] else t.workingFolder) (steps path)

/-- Whether a file may stand at a place: there is a folder above it, and no folder at it. -/
def admitsFile (t : FileTree) (place : Place) : Bool :=
  place ≠ [] && t.node place.dropLast == some .folder && t.node place != some .folder

/-- Writes a text into a file. -/
def write? (t : FileTree) (path text : String) : Option FileTree :=
  match t.place? path with
  | .error _ => none
  | .ok place =>
    if t.refuses (.write path) || !t.admitsFile place then none
    else some (t.set place (some (.file (some text))))

/-- Moves a file to another path, over the file that may stand there. -/
def rename? (t : FileTree) (path target : String) : Option FileTree :=
  match t.place? path, t.place? target with
  | .ok source, .ok place => match t.node source with
    | some (.file text) =>
      if t.refuses (.rename path target) || !t.admitsFile place then none
      else some ((t.set source none).set place (some (.file text)))
    | _ => none
  | _, _ => none

/-- Removes a file. -/
def remove? (t : FileTree) (path : String) : Option FileTree :=
  match t.place? path with
  | .error _ => none
  | .ok place => match t.node place with
    | some (.file _) => if t.refuses (.remove path) then none else some (t.set place none)
    | _ => none

/-- How replacing a file went. -/
inductive Replacement where
  /-- The temporary file could not be written. -/
  | prevented
  /-- The temporary file took the place of the file. -/
  | renamed
  /-- The temporary file could not take the place, so the text was written into the file itself. -/
  | inPlace
  /-- Nor could the text be written into the file itself. -/
  | refused
deriving DecidableEq, Repr

namespace Replacement

/-- Whether the file holds the text now. -/
def succeeded : Replacement → Bool
  | renamed | inPlace => true
  | prevented | refused => false

/-- Whether the temporary file could not take the place of the file. -/
def renameFailed : Replacement → Bool
  | inPlace | refused => true
  | prevented | renamed => false

end Replacement

/-- Puts a text into a file: into a temporary file beside it first, which then takes its place. The
folders above are made if need be. -/
def replace (t : FileTree) (path text : String) : FileTree × Replacement :=
  match (match Path.parent? path with
      | none => some t
      | some folder => t.createFolders? folder) with
  | none => (t, .prevented)
  | some t =>
    let temporary := Path.temporary path
    match t.write? temporary text with
    | none => (t, .prevented)
    | some t => match t.rename? temporary path with
      | some t => (t, .renamed)
      | none => match t.write? path text with
        | none => (t, .refused)
        | some t => ((t.remove? temporary).getD t, .inPlace)

end FileTree

end PanelDock
