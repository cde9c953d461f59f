import PanelDock.Backend.File
import PanelDock.CommandLine.Arguments
import PanelDock.CommandLine.LogFilter
import PanelDock.Coordinator.Execute
import PanelDock.Decimal.Layout
import PanelDock.Notice.Text
import PanelDock.Report
import PanelDock.Script
import PanelDock.Settings.Files
/-!
# A run of the program

The program reads its settings, replays a script against the saved panels, and prints what is left
as a report. Everything it sees of the world is in a `World`, and everything it does is in an
`Ending`.
-/

namespace PanelDock.CommandLine

open Log (Line)

/-- What a run sees of the world. -/
structure World where
  files : FileTree
  environment : Environment
  /-- The standard input, if it is text. -/
  input : Option String
  moment : Moment

/-- What a run leaves behind. -/
structure Ending where
  exitCode : Nat
  output : String := ""
  /-- The lines that pass the filter, in order. -/
  log : List Line := []
  files : FileTree

/-- The version of the program. -/
def version : String := "0.1.0"

/-- How coordinates are shown in messages. -/
def plainNumber (x : Float) : String := Decimal.plain.render x

/-- How coordinates are shown in log lines. -/
def loggedNumber (x : Float) : String := Decimal.inspected.render x

/-- A line of the program itself. -/
def line (level : Log.Level) (message : String) (fields : List (String × String)) : Line :=
  { level, channel := Log.Channel.program, message, fields }

/-- The lines of what an operation did. -/
def linesOf (effects : List (Effect Float)) : List Line :=
  effects.filterMap (fun e => match e with
    | .notice n => some (n.line loggedNumber)
    | _ => none)

/-- The lines of what happened to the settings. -/
def settingsLines (notices : List (Settings.Notice Float)) : List Line :=
  notices.map (Settings.Notice.line plainNumber)

/-- Reads the settings that the user asks for. -/
def loadSettings (world : World) (a : Arguments) : Settings.FileOutcome Float (Settings Float) :=
  match a.config with
  | some path => (Settings.load Toml.floats world.files path).check
  | none => (Settings.loadDefault Toml.floats world.files world.environment).check

/-- Where panels are saved: as the user says, or as the settings say, or in the user's data folder.
-/
def statePath? (world : World) (a : Arguments) (s : Settings Float) : Option String :=
  a.state.or (s.saving.stateFile.or world.environment.statePath?)

/-- The coordinator of the program. -/
abbrev Session := Coordinator Float (StateFile Float)

/-- The exit code of a run that breaks off. -/
def brokenOffCode : Nat := 101

/-- How far a run has come. -/
structure Progress where
  session : Session
  executed : Nat := 0
  rejected : Nat := 0
  log : List Line := []
  /-- Whether the run has broken off. Then nothing happens any more. -/
  brokenOff : Bool := false

namespace Progress

/-- Moves what the coordinator did to the log. -/
def collect (p : Progress) (session : Session) : Progress :=
  let (effects, session) := session.drain
  { p with session, log := p.log ++ linesOf effects }

/-- Adds a line to the log. -/
def note (p : Progress) (l : Line) : Progress := { p with log := p.log ++ [l] }

/-- Carries out an action. Samples of the pointer outside a gesture are nothing unusual. -/
def apply (p : Progress) (action : Action Float) : Progress :=
  if p.brokenOff then p
  else
    let next := { p.session.moment with token := p.session.moment.token + 1 }
    let (answer, session) := { p.session with moment := next }.execute action
    let p := p.collect session
    match answer with
    | .done => { p with executed := p.executed + 1 }
    | .refused =>
      let l := if action.isPointer then line .debug s!"Pointer action ignored: {action.label}" []
        else line .warn s!"Action rejected: {action.label}" []
      { p.note l with rejected := p.rejected + 1 }
    | .brokenOff => { p with brokenOff := true }

/-- Restores the saved panels. Gives how many were taken. -/
def restore (p : Progress) : Nat × Progress :=
  if p.brokenOff then (0, p)
  else
    let (restored, session) := p.session.restore
    (restored, p.collect session)

/-- The files as the run leaves them. -/
def filesLeft (p : Progress) (files : FileTree) : FileTree :=
  match p.session.backend with
  | some b => b.files
  | none => files

/-- The report, if the run has come to its end; a run that breaks off prints nothing. -/
def ending (p : Progress) (files : FileTree) (restored : Nat) : Ending :=
  if p.brokenOff then { exitCode := brokenOffCode, log := p.log, files := p.filesLeft files }
  else
    let p := p.note (line .info "Script finished"
      [("executed", toString p.executed), ("rejected", toString p.rejected),
       ("restored", toString restored)])
    let report := Report.of p.session restored p.executed p.rejected
    { exitCode := 0
      output := Json.printed Json.indented (report.encode Json.floatCodec) ++ "\n"
      log := p.log
      files := p.filesLeft files }

end Progress

/-- A fault that ends a run. -/
inductive Fault where
  /-- The script cannot be read. -/
  | unreadable
  /-- A line of the script is no action. -/
  | script (line : Nat)
deriving DecidableEq, Repr

/-- What the user is told. -/
def Fault.message : Fault → String
  | unreadable => "script cannot be read"
  | script line => Script.faultText line

/-- Reads the script and splits it. -/
def readScript (world : World) (files : FileTree) (a : Arguments) :
    Except Fault (List (Action Float) × List (Action Float)) :=
  let source := match a.script with
    | some path => (files.read path).toOption
    | none => world.input
  match source with
  | none => .error .unreadable
  | some text => match Script.read Json.floatCodec text with
    | .error line => .error (.script line)
    | .ok actions => .ok (Script.split actions)

/-- A run before its script. -/
def opening (world : World) (files : FileTree) (a : Arguments) (s : Settings Float) : Progress :=
  let persists := s.saving.enabled && !a.noPersist
  let path := if persists then statePath? world a s else none
  let backend := path.map (fun path => { path, files, number := Json.floatCodec : StateFile Float })
  let p : Progress := { session := Coordinator.ofSettings s backend world.moment }
  let p := p.collect p.session
  if !persists then p else p.note (match path with
    | some path => line .info s!"Panel state: {path}" []
    | none => line .warn "No state directory available, running without persistence" [])

/-- Replays the script. Panels are introduced, then the saved ones are restored, then all else is
done. -/
def replay (world : World) (files : FileTree) (a : Arguments) (s : Settings Float) : Ending :=
  let p := opening world files a s
  match readScript world files a with
  | .error fault =>
    { exitCode := 1, log := p.log ++ [line .error fault.message []], files }
  | .ok (registrations, actions) =>
    let (restored, p) := (registrations.foldl Progress.apply p).restore
    (actions.foldl Progress.apply p).ending files restored

/-- Writes the settings to their file. -/
def writeSettings (world : World) (files : FileTree) (a : Arguments)
    (s : Settings Float) : Ending :=
  let o := match a.config with
    | some path => s.save Toml.floats files path
    | none => s.saveDefault Toml.floats files world.environment
  let log := settingsLines o.notices
  match o.result with
  | .ok () => { exitCode := 0, log := log ++ [line .info "Config written" []], files := o.files }
  | .error fault =>
    { exitCode := 1
      log := log ++ [line .error s!"Failed to write config: {fault.message plainNumber}" []]
      files := o.files }

/-- Does what the arguments ask for. Settings that cannot be used give way to the standard. What is
reported before the log filter is known is not logged, and a filter that would tear a character
breaks the run off. -/
def perform (world : World) (a : Arguments) : Ending :=
  let loaded := loadSettings world a
  let (settings, failure) : Settings Float × Option (Settings.Fault Float) :=
    match loaded.result with
    | .ok s => (s, none)
    | .error fault => (.standard, some fault)
  match Log.Directive.ofText?
      (a.logLevel.getD s!"{Log.Channel.program}={settings.logLevel.directive}") with
  | none => { exitCode := brokenOffCode, files := loaded.files }
  | some directive =>
    let opening := line .info s!"Dockhand v{version} starting..." [] ::
      (failure.map (fun fault =>
        line .warn s!"Config load failed, using defaults: {fault.message plainNumber}" [])).toList
    let ending : Ending :=
      if a.dumpConfig then
        { exitCode := 0
          output := Json.printed Json.indented (settings.encode Json.ofFloat) ++ "\n"
          files := loaded.files }
      else if a.writeConfig then writeSettings world loaded.files a settings
      else replay world loaded.files a settings
    { ending with log := ((opening ++ ending.log).filter directive.admits).map Line.forTerminal }

/-- The paths of the files that a run may read. The standard input is read only if nothing is said
of a script. -/
def inputs (environment : Environment) (a : Arguments) : List String :=
  (a.config.or environment.settingsPath?).toList ++ a.script.toList

/-- Whether a run reads the standard input. -/
def readsInput (a : Arguments) : Bool := a.script.isNone && !a.dumpConfig && !a.writeConfig

/-- The exit code of a run whose arguments cannot be understood. -/
def misuseCode : Nat := 2

/-- How the program is used. -/
def usage : String :=
  "Usage: dockhand [OPTIONS]\n\nOptions:\n" ++
  "  -s, --script <SCRIPT>        Action script, one JSON action per line\n" ++
  "      --config <CONFIG>        Config file path override\n" ++
  "      --state <STATE>          Panel state file override\n" ++
  "      --no-persist             Do not read or write panel state\n" ++
  "      --log-level <LOG_LEVEL>  Log level override (debug, info, warn, error)\n" ++
  "      --dump-config            Print the effective config as JSON and exit\n" ++
  "      --write-config           Write the effective config as TOML and exit\n" ++
  "  -h, --help                   Print help\n" ++
  "  -V, --version                Print version\n"

/-- Runs the program. -/
def run (world : World) (arguments : List String) : Ending :=
  match request arguments with
  | .misuse => { exitCode := misuseCode, files := world.files }
  | .version => { exitCode := 0, output := s!"dockhand {version}\n", files := world.files }
  | .help => { exitCode := 0, output := usage, files := world.files }
  | .run a => perform world a

end PanelDock.CommandLine
