/-!
# Arguments

What the program is told on its command line. An option takes its value from behind an equals sign,
from what follows its letter, or from the next argument, which may then not look like an option
itself. Nothing may be given twice, and there are no arguments without a name.
-/

namespace PanelDock.CommandLine

/-- What the user asks for. -/
structure Arguments where
  /-- The file with the script; without it, the script comes from the standard input. -/
  script : Option String := none
  /-- The settings file. -/
  config : Option String := none
  /-- The file with the saved panels. -/
  state : Option String := none
  /-- Neither restore nor save panels. -/
  noPersist : Bool := false
  /-- What is logged. -/
  logLevel : Option String := none
  /-- Print the settings instead of running the script. -/
  dumpConfig : Bool := false
  /-- Write the settings to their file instead of running the script. -/
  writeConfig : Bool := false
deriving DecidableEq, Repr

/-- What comes of reading the command line. -/
inductive Request where
  | run (arguments : Arguments)
  | version
  | help
  /-- The command line cannot be understood. -/
  | misuse
deriving DecidableEq, Repr

/-- An option that takes a value. -/
inductive Setting where
  | script
  | config
  | state
  | logLevel
deriving DecidableEq, Repr

/-- Something that is switched on by its name alone. -/
inductive Switch where
  | noPersist
  | dumpConfig
  | writeConfig
  | help
  | version
deriving DecidableEq, Repr

/-- What a name stands for. -/
inductive Named where
  | setting (s : Setting)
  | switch (s : Switch)
deriving DecidableEq, Repr

/-- The long names. -/
def longName? : String → Option Named
  | "script" => some (.setting .script)
  | "config" => some (.setting .config)
  | "state" => some (.setting .state)
  | "log-level" => some (.setting .logLevel)
  | "no-persist" => some (.switch .noPersist)
  | "dump-config" => some (.switch .dumpConfig)
  | "write-config" => some (.switch .writeConfig)
  | "help" => some (.switch .help)
  | "version" => some (.switch .version)
  | _ => none

/-- The names of one letter. -/
def letter? : Char → Option Named
  | 's' => some (.setting .script)
  | 'h' => some (.switch .help)
  | 'V' => some (.switch .version)
  | _ => none

/-- The value that an option has. -/
def Arguments.value (a : Arguments) : Setting → Option String
  | .script => a.script
  | .config => a.config
  | .state => a.state
  | .logLevel => a.logLevel

/-- Gives an option its value, if it has none yet. -/
def Arguments.set? (a : Arguments) (s : Setting) (value : String) : Option Arguments :=
  if (a.value s).isSome then none
  else some (match s with
    | .script => { a with script := some value }
    | .config => { a with config := some value }
    | .state => { a with state := some value }
    | .logLevel => { a with logLevel := some value })

/-- Turns a switch on. The requests for help and for the version end the reading. -/
def Arguments.turnOn (a : Arguments) : Switch → Except Request Arguments
  | .noPersist => if a.noPersist then .error .misuse else .ok { a with noPersist := true }
  | .dumpConfig => if a.dumpConfig then .error .misuse else .ok { a with dumpConfig := true }
  | .writeConfig => if a.writeConfig then .error .misuse else .ok { a with writeConfig := true }
  | .help => .error .help
  | .version => .error .version

/-- What an argument leads to: the arguments so far, and the option that still waits for its value.
-/
abbrev Reading := Except Request (Arguments × Option Setting)

/-- Gives an option its value, or refuses to do it twice. -/
def give (a : Arguments) (s : Setting) (value : String) : Reading :=
  match a.set? s value with
  | some a => .ok (a, none)
  | none => .error .misuse

/-- Reads the letters behind a single dash. -/
def readLetters (a : Arguments) : List Char → Reading
  | [] => .ok (a, none)
  | c :: rest => match letter? c with
    | none => .error .misuse
    | some (.switch s) => match a.turnOn s with
      | .ok a => readLetters a rest
      | .error request => .error request
    | some (.setting s) => match rest with
      | [] => .ok (a, some s)
      | '=' :: value => give a s (String.ofList value)
      | value => give a s (String.ofList value)

/-- Reads what stands behind two dashes. -/
def readLong (a : Arguments) (text : List Char) : Reading :=
  let name := text.takeWhile (· ≠ '=')
  let value := match text.drop name.length with
    | [] => none
    | _ :: value => some (String.ofList value)
  match longName? (String.ofList name), value with
  | none, _ => .error .misuse
  | some (.setting s), some value => give a s value
  | some (.setting s), none => .ok (a, some s)
  | some (.switch _), some _ => .error .misuse
  | some (.switch s), none => (a.turnOn s).map (·, none)

/-- Reads the arguments one by one. An option that waits for a value takes the next argument, unless
that is a name itself. -/
def readAll (a : Arguments) : (waiting : Option Setting) → List String → Except Request Arguments
  | none, [] => .ok a
  | some _, [] => .error .misuse
  | waiting, argument :: rest =>
    match argument.toList, waiting with
    -- two dashes alone: only arguments without a name could follow
    | ['-', '-'], none => if rest.isEmpty then .ok a else .error .misuse
    | '-' :: '-' :: text, none => (readLong a text).bind (fun (a, w) => readAll a w rest)
    | '-' :: c :: text, none => (readLetters a (c :: text)).bind (fun (a, w) => readAll a w rest)
    | _, none => .error .misuse
    | '-' :: _ :: _, some _ => .error .misuse
    | _, some s => (give a s argument).bind (fun (a, w) => readAll a w rest)

/-- Reads the command line. -/
def request (arguments : List String) : Request :=
  match readAll {} none arguments with
  | .error r => r
  | .ok a => if a.dumpConfig && a.writeConfig then .misuse else .run a

end PanelDock.CommandLine
