import PanelDock.CommandLine.Run
import Std.Time.DateTime
/-!
# The program

The outermost layer: it looks at the files that a run may touch, lets the run work on them as a
value, and writes back what has changed.
-/

namespace PanelDock.Main

open CommandLine

/-- The moment at which the program runs, and a number that no other run is likely to have. -/
def currentMoment : IO Moment := do
  let now := (Std.Time.DateTime.ofTimestamp (← Std.Time.Timestamp.now) .UTC).date.get
  let day : Day :=
    { year := now.date.year.toInt, month := now.date.month.val.toNat,
      day := now.date.day.val.toNat }
  let time : TimeOfDay := {
    hour := now.time.hour.val.toNat
    minute := now.time.minute.val.toNat
    second := now.time.second.val.toNat
    nanosecond := now.time.nanosecond.val.toNat }
  let token ← IO.rand 0 4294967295
  match Instant.of? day time with
  | some now => return { now, token := UInt32.ofNat token }
  | none => throw (IO.userError "the clock shows no time of the calendar")

/-- The text of a place. -/
def textOf (place : Place) : String := "/" ++ "/".intercalate place

/-- What stands at a place: what can be read is a file, and whatever else is there counts as a
folder. -/
def look (place : Place) : IO (Option Node) := do
  try
    let bytes ← IO.FS.readBinFile (textOf place)
    return some (.file (String.fromUTF8? bytes))
  catch _ =>
    try
      let _ ← IO.FS.realPath (textOf place)
      return some .folder
    catch _ => return none

/-- The place that a path names, and the places on the way to it. -/
def placesOf (workingFolder : Place) (path : String) : List Place :=
  let start := if Path.isAbsolute path then [] else workingFolder
  let place := (FileTree.steps path).foldl (fun (place : Place) step =>
    if step = "." then place else if step = ".." then place.dropLast else place ++ [step]) start
  (List.range (place.length + 1)).map place.take

/-- The places that matter for a path: those on the way, its own, and that of the temporary file
beside. -/
def touched (workingFolder : Place) (path : String) : List Place :=
  placesOf workingFolder path ++ placesOf workingFolder (Path.temporary path)

/-- The files at some places, as a value. -/
def observe (workingFolder : Place) (places : List Place) : IO FileTree := do
  let mut files := FileTree.bare workingFolder
  for place in places do
    files := files.set place (← look place)
  return files

/-- Writes what has changed at a place. -/
def writeBack (before after : FileTree) (place : Place) : IO Unit := do
  if before.node place ≠ after.node place then
    match after.node place with
    | none => IO.FS.removeFile (textOf place)
    | some .folder => IO.FS.createDirAll (textOf place)
    | some (.file text) => do
      let temporary := Path.temporary (textOf place)
      IO.FS.writeFile temporary (text.getD "")
      IO.FS.rename temporary (textOf place)

/-- The standard input to its end, if it is text. -/
def readInput : IO (Option String) := do
  let bytes ← (← IO.getStdin).readBinToEnd
  return String.fromUTF8? bytes

/-- Lets a run do its work. -/
def perform (arguments : List String) : IO Ending := do
  let environment : Environment := {
    home := ← IO.getEnv "HOME"
    configHome := ← IO.getEnv "XDG_CONFIG_HOME"
    dataHome := ← IO.getEnv "XDG_DATA_HOME" }
  let workingFolder := FileTree.steps (toString (← IO.currentDir))
  let moment ← currentMoment
  match request arguments with
  | .run a =>
    let input ← if readsInput a then readInput else pure none
    let places := (inputs environment a).flatMap (touched workingFolder)
    let first ← observe workingFolder places
    let world : World := { files := first, environment, input, moment }
    let settings := match (loadSettings world a).result with
      | .ok s => s
      | .error _ => .standard
    let places := places ++ (statePath? world a settings).toList.flatMap (touched workingFolder)
    let files ← observe workingFolder places
    let ending := run { world with files } arguments
    for place in places.eraseDups do
      writeBack files ending.files place
    return ending
  | _ => return run { files := .bare workingFolder, environment, input := none, moment } arguments

end PanelDock.Main

/-- Runs the program on its arguments. -/
def main (arguments : List String) : IO UInt32 := do
  let ending ← PanelDock.Main.perform arguments
  for line in ending.log do
    IO.eprintln s!"{line.channel}: {line.text}"
  if ending.exitCode = PanelDock.CommandLine.misuseCode then IO.eprint PanelDock.CommandLine.usage
  IO.print ending.output
  return UInt32.ofNat ending.exitCode
