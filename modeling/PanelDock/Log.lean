import PanelDock.Text.Quoted
/-!
# Log lines

A log line has a level, the channel it is written on, a message, and named fields. Which lines are
shown is decided by a filter on level and channel. A filter names a channel by how its name starts,
so the names fall into groups.
-/

namespace PanelDock.Log

/-- How much a line matters. -/
inductive Level where
  | error
  | warn
  | info
  | debug
  | trace
deriving DecidableEq, Repr

namespace Level

/-- The rank of a level; what matters most has the least. -/
def rank : Level → Nat
  | error => 1
  | warn => 2
  | info => 3
  | debug => 4
  | trace => 5

/-- The name of a level in a line. -/
def name : Level → String
  | error => "ERROR"
  | warn => "WARN"
  | info => "INFO"
  | debug => "DEBUG"
  | trace => "TRACE"

end Level

namespace Channel

def program : String := "dockhand"
def storeOperations : String := "dockhand_core::store::operations"
def storeSnapshots : String := "dockhand_core::store::snapshot"
def stackOperations : String := "dockhand_core::zindex::operations"
def stackSettings : String := "dockhand_core::zindex::types"
def gestures : String := "dockhand_core::interaction::operations"
def transitions : String := "dockhand_core::coordinator::transitions"
def restoring : String := "dockhand_core::coordinator::restore"
def presses : String := "dockhand_core::coordinator::pointer"
def refusals : String := "dockhand_core::coordinator::types"
def actions : String := "dockhand_core::coordinator::execute"
def stateFile : String := "dockhand_core::persistence::json_file"
def settingsReader : String := "dockhand_config::toml_loader::loader"
def settingsPaths : String := "dockhand_config::toml_loader::paths"
def settingsWriter : String := "dockhand_config::toml_writer"

end Channel

/-- A line of the log. The values of the fields are given as they are shown. -/
structure Line where
  level : Level
  channel : String
  message : String
  fields : List (String × String) := []
deriving DecidableEq, Repr

namespace Line

/-- The line as it is written, without time and channel. -/
def text (l : Line) : String :=
  l.fields.foldl (fun s f => s ++ " " ++ f.1 ++ "=" ++ f.2) (l.level.name ++ " " ++ l.message)

/-- A character of a message as a terminal may see it: what could steer the terminal is written by
its code. -/
def harmless (c : Char) : List Char :=
  if c = '\x1b' then "\\x1b".toList
  else if c = '\x07' then "\\x07".toList
  else if c = '\x08' then "\\x08".toList
  else if c = '\x0c' then "\\x0c".toList
  else if c = '\x7f' then "\\x7f".toList
  else if 0x80 ≤ c.toNat && c.toNat ≤ 0x9F then
    ['\\', 'u', '\x7b'] ++ Text.codePointDigits c ++ ['\x7d']
  else [c]

/-- The line with a message that cannot steer a terminal. -/
def forTerminal (l : Line) : Line :=
  { l with message := String.ofList (l.message.toList.flatMap harmless) }

end Line

end PanelDock.Log
